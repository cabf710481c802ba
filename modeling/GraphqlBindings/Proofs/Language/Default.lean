import Mathlib
import GraphqlBindings.Operation.Resolve
import GraphqlBindings.Proofs.Language.Built
import GraphqlBindings.Proofs.Language.Standard

namespace GraphqlBindings.Language

open GraphqlBindings.Text Standard

inductive Value.Floatless : Value → Prop
  | variable (name : String) : Floatless (.variable name)
  | int (n : Int) : Floatless (.int n)
  | string (s : String) : Floatless (.string s)
  | bool (b : Bool) : Floatless (.bool b)
  | null : Floatless .null
  | enumName (name : String) : Floatless (.enumName name)
  | list {items : List Value} : (∀ v ∈ items, Floatless v) → Floatless (.list items)
  | object {fields : List (String × Value)} : (∀ f ∈ fields, Floatless f.2) →
      Floatless (.object fields)

section Tokens

variable {rest : List Char} {us : List Token}

lemma lexes_mark {c : Char} {p : Punctuator} (hp : Punctuator.ofChar? c = some p)
    (hl : Lexes rest us) : Lexes (c :: rest) (.punctuator p :: us) :=
  .token (.mark (.char hp)) hl

lemma lexes_name {name : String} (h : IsName name) (hr : ∀ c ∈ rest.head?, isNameChar c = false)
    (hl : Lexes rest us) : Lexes (name.toList ++ rest) (.name name :: us) := by
  rw [IsName] at h
  cases hn : name.toList with
  | nil => simp [hn, isName] at h
  | cons c cs =>
    rw [hn, isName, Bool.and_eq_true, List.all_eq_true] at h
    obtain ⟨ht, hd⟩ := takeWhile_dropWhile_append h.2 hr
    have hname := @TokenAt.name c (cs ++ rest) h.1
    rw [ht, hd, ← hn, String.ofList_toList] at hname
    exact .token hname hl

section Strings

lemma hexNumber?_control : ∀ n < 0x20,
    hexNumber? ['0', '0', Json.lowerHex (n / 16), Json.lowerHex n] = some n := by
  decide +kernel

lemma stringBody_escapeChar (c : Char) {cs value : List Char} (h : StringBody cs value rest) :
    StringBody (Json.escapeChar c ++ cs) (c :: value) rest := by
  unfold Json.escapeChar
  split
  case h_8 c hq hb h8 hc hn hr ht =>
    split_ifs with hcontrol
    · exact .unicode (.digits (hexNumber?_control _ hcontrol) (by omega)) h
    · refine .plain hq hb ?_ h
      rintro (rfl | rfl)
      · exact hn rfl
      · exact hr rfl
  all_goals exact .escape rfl h

lemma stringBody_escaped (cs rest : List Char) :
    StringBody (cs.flatMap Json.escapeChar ++ '"' :: rest) cs rest := by
  induction cs with
  | nil => exact .close
  | cons c cs ih =>
    rw [List.flatMap_cons, List.append_assoc]
    exact stringBody_escapeChar c ih

lemma lexes_quoted (s : String) (hr : rest.head? ≠ some '"') (hl : Lexes rest us) :
    Lexes ((Json.quoted s).toList ++ rest) (.string s :: us) := by
  have ht := TokenAt.string (.line (stringBody_escaped s.toList rest) fun _ => hr)
  rw [String.ofList_toList] at ht
  have hq : (Json.quoted s).toList ++ rest =
      '"' :: (s.toList.flatMap Json.escapeChar ++ '"' :: rest) := by
    simp [Json.quoted]
  rw [hq]
  exact .token ht hl

end Strings

section Integers

lemma natOfDigits_toDigits (n : Nat) : natOfDigits (Nat.toDigits 10 n) = n := by
  have hf : natOfDigits (Nat.toDigits 10 n) = Nat.ofDigitChars 10 (Nat.toDigits 10 n) 0 := by
    simp only [natOfDigits, Nat.ofDigitChars, digitValue, Nat.mul_comm]
  rw [hf, Nat.ofDigitChars_toDigits (by omega) (by omega)]

lemma head_toDigits {n : Nat} (h : 0 < n) : (Nat.toDigits 10 n).head? ≠ some '0' := by
  induction n using Nat.strongRecOn with
  | ind n ih =>
    by_cases hn : n < 10
    · have hall : ∀ n < 10, 0 < n → some n.digitChar ≠ some '0' := by decide
      rw [Nat.toDigits_of_lt_base hn]
      exact hall n hn h
    · rw [Nat.toDigits_of_base_le (by omega) (by omega),
        List.head?_append_of_ne_nil _ Nat.toDigits_ne_nil]
      exact ih (n / 10) (by omega) (by omega)

lemma isWholePart_toDigits (n : Nat) : isWholePart (Nat.toDigits 10 n) = true := by
  have hd := List.all_eq_true.mpr (digit_of_mem_toDigits n)
  rw [isWholePart, hd]
  rcases Nat.eq_zero_or_pos n with rfl | hn
  · rfl
  · simp [head_toDigits hn, Nat.toDigits_ne_nil]

lemma takeMinus_digits (n : Nat) (rest : List Char) :
    takeMinus (Nat.toDigits 10 n ++ rest) = (false, Nat.toDigits 10 n ++ rest) := by
  obtain ⟨c, cs, hn⟩ := List.exists_cons_of_ne_nil (Nat.toDigits_ne_nil (b := 10) (n := n))
  have hc : c ≠ '-' := by
    rintro rfl
    exact absurd (digit_of_mem_toDigits n '-' (by simp [hn])) (by decide)
  rw [hn, List.cons_append, takeMinus]
  intro more he
  exact hc (List.cons.inj he).1

lemma numberAt_digits {cs : List Char} {negative : Bool} {n : Nat}
    (hm : takeMinus cs = (negative, Nat.toDigits 10 n ++ rest)) (hr : EndsNumeral rest) :
    NumberAt cs (.int (if negative then -n else n)) rest := by
  have hdigit : ∀ c ∈ rest.head?, isAsciiDigit c = false := by
    intro c hc
    have hn := (hr c hc).1
    rw [isNameChar, Bool.or_eq_false_iff] at hn
    exact hn.2
  obtain ⟨ht, hd⟩ := takeWhile_dropWhile_append (digit_of_mem_toDigits n) hdigit
  have hn := NumberAt.int hm (ht.symm ▸ isWholePart_toDigits n) (hd.symm ▸ hr)
  rwa [ht, hd, natOfDigits_toDigits] at hn

lemma lexes_int (n : Int) (hr : EndsNumeral rest) (hl : Lexes rest us) :
    Lexes ((toString n).toList ++ rest) (.int n :: us) := by
  cases n with
  | ofNat m =>
    have ht : (toString (Int.ofNat m)).toList = Nat.toDigits 10 m := by simp [toString, Int.repr]
    have hn := numberAt_digits (takeMinus_digits m rest) hr
    rw [ht]
    exact .token (.number hn) hl
  | negSucc m =>
    have ht : (toString (Int.negSucc m)).toList = '-' :: Nat.toDigits 10 (m + 1) := by
      simp [toString, Int.repr]
    have hm : takeMinus ('-' :: (Nat.toDigits 10 (m + 1) ++ rest)) =
        (true, Nat.toDigits 10 (m + 1) ++ rest) := rfl
    have hn := numberAt_digits hm hr
    rw [ht]
    exact .token (.number hn) hl

end Integers

end Tokens

section Values

namespace Value

mutual

def tokens : Value → List Token
  | .variable name => [.punctuator .dollar, .name name]
  | .int n => [.int n]
  | .float b => [.float b]
  | .string s => [.string s]
  | .bool b => [.name (if b then "true" else "false")]
  | .null => [.name "null"]
  | .enumName name => [.name name]
  | .list items => .punctuator .bracketOpen :: itemTokens items ++ [.punctuator .bracketClose]
  | .object fields => .punctuator .braceOpen :: fieldTokens fields ++ [.punctuator .braceClose]

def itemTokens : List Value → List Token
  | [] => []
  | v :: rest => v.tokens ++ itemTokens rest

def fieldTokens : List (String × Value) → List Token
  | [] => []
  | (name, v) :: rest => .name name :: .punctuator .colon :: v.tokens ++ fieldTokens rest

end

lemma itemTokens_eq (items : List Value) : itemTokens items = items.flatMap tokens := by
  induction items with
  | nil => rfl
  | cons v rest ih => rw [itemTokens, ih, List.flatMap_cons]

lemma fieldTokens_eq (fields : List (String × Value)) : fieldTokens fields =
    fields.flatMap fun f => .name f.1 :: .punctuator .colon :: f.2.tokens := by
  induction fields with
  | nil => rfl
  | cons f rest ih => rw [fieldTokens, ih, List.flatMap_cons]

lemma literalItems_eq (items : List Value) : (literalItems items).toList =
    [',', ' '].intercalate (items.map fun v => v.literal.toList) := by
  induction items with
  | nil => rfl
  | cons v rest ih =>
    cases rest with
    | nil => simp [literalItems]
    | cons w more => simp [literalItems, ih]

lemma literalFields_eq (fields : List (String × Value)) : (literalFields fields).toList =
    [',', ' '].intercalate
      (fields.map fun f => f.1.toList ++ ':' :: ' ' :: f.2.literal.toList) := by
  induction fields with
  | nil => rfl
  | cons v rest ih =>
    cases rest with
    | nil => simp [literalFields]
    | cons w more => simp [literalFields, ih]

end Value

def EndsValue (cs : List Char) : Prop := ∀ c ∈ cs.head?, c = ',' ∨ c = ']' ∨ c = '}'

lemma EndsValue.endsNumeral {cs : List Char} (h : EndsValue cs) : EndsNumeral cs := by
  intro c hc
  rcases h c hc with rfl | rfl | rfl <;> decide

lemma EndsValue.head_ne {cs : List Char} (h : EndsValue cs) : cs.head? ≠ some '"' := by
  intro hq
  rcases h '"' hq with h | h | h <;> exact absurd h (by decide)

def LexesPart (cs : List Char) (ts : List Token) : Prop :=
  ∀ rest us, EndsValue rest → Lexes rest us → Lexes (cs ++ rest) (ts ++ us)

lemma lexesPart_intercalate {α : Type} {text : α → List Char} {tokens : α → List Token}
    {xs : List α} (h : ∀ x ∈ xs, LexesPart (text x) (tokens x)) :
    LexesPart ([',', ' '].intercalate (xs.map text)) (xs.flatMap tokens) := by
  induction xs with
  | nil => exact fun _ _ _ hl => hl
  | cons x more ih =>
    rw [List.forall_mem_cons] at h
    cases more with
    | nil => simpa using h.1
    | cons y more =>
      intro rest us hend hl
      have hmore := ih h.2 rest us hend hl
      have hsep := h.1 _ _ (by simp [EndsValue])
        (Lexes.ignored (.inr (.inl rfl)) (.ignored isIgnored_blank hmore))
      simpa using hsep

lemma lexesPart_brackets (c c' : Char) {p p' : Punctuator} {cs : List Char} {ts : List Token}
    (hp : Punctuator.ofChar? c = some p) (hp' : Punctuator.ofChar? c' = some p')
    (hc : EndsValue [c']) (h : LexesPart cs ts) :
    LexesPart (c :: cs ++ [c']) (.punctuator p :: ts ++ [.punctuator p']) := by
  intro rest us hend hl
  have hi := h (c' :: rest) (.punctuator p' :: us) hc (lexes_mark hp' hl)
  simpa using lexes_mark hp hi

lemma lexesPart_name {name : String} (h : IsName name) : LexesPart name.toList [.name name] :=
  fun _ _ hend hl => lexes_name h (fun c hc => (hend.endsNumeral c hc).1) hl

lemma Value.Built.lexesPart {v : Value} (h : v.Built) (hf : v.Floatless) :
    LexesPart v.literal.toList v.tokens := by
  -- The hypothesis for an item holds before any rest, so also before the items that follow it.
  induction h with
  | int n => exact fun _ _ hend hl => lexes_int n hend.endsNumeral hl
  | float => cases hf
  | string s => exact fun _ _ hend hl => lexes_quoted s hend.head_ne hl
  | bool b => cases b <;> exact lexesPart_name (by decide)
  | null => exact lexesPart_name (by decide)
  | enumName hn => exact lexesPart_name hn
  | @list items _ ih =>
    cases hf with
    | list hf =>
      have hi : LexesPart (literalItems items).toList (itemTokens items) := by
        rw [literalItems_eq, itemTokens_eq]
        exact lexesPart_intercalate fun v hm => ih v hm (hf v hm)
      have hb := lexesPart_brackets '[' ']' rfl rfl (by simp [EndsValue]) hi
      simpa [literal, tokens] using hb
  | @object fields _ hn _ ih =>
    cases hf with
    | object hf =>
      have hi : LexesPart (literalFields fields).toList (fieldTokens fields) := by
        rw [literalFields_eq, fieldTokens_eq]
        refine lexesPart_intercalate fun f hm rest us hend hl => ?_
        have hv := ih f hm (hf f hm) rest us hend hl
        have hcolon := lexes_mark (c := ':') rfl (.ignored isIgnored_blank hv)
        have hfield := lexes_name (hn f hm) (by simp; decide) hcolon
        simpa using hfield
      have hb := lexesPart_brackets '{' '}' rfl rfl (by simp [EndsValue]) hi
      simpa [literal, tokens] using hb

lemma exists_depth {vs : List Value} (h : ∀ v ∈ vs, ∃ d, Constant d v.tokens v) :
    ∃ d, ∀ v ∈ vs, Constant d v.tokens v := by
  induction vs with
  | nil => exact ⟨0, by simp⟩
  | cons v more ih =>
    rw [List.forall_mem_cons] at h
    obtain ⟨d, hd⟩ := h.1
    obtain ⟨e, he⟩ := ih h.2
    refine ⟨max d e, List.forall_mem_cons.mpr ⟨hd.mono (le_max_left d e), fun w hw => ?_⟩⟩
    exact (he w hw).mono (le_max_right d e)

lemma Value.Built.constant {v : Value} (h : v.Built) : ∃ d, Constant d v.tokens v := by
  induction h with
  | int n => exact ⟨0, .int n⟩
  | float b => exact ⟨0, .float b⟩
  | string s => exact ⟨0, .string s⟩
  | bool b => cases b <;> exact ⟨0, .name _⟩
  | null => exact ⟨0, .name "null"⟩
  | @enumName name _ he =>
    have hc := Constant.name (d := 0) name
    rw [he] at hc
    exact ⟨0, hc⟩
  | @list items _ ih =>
    obtain ⟨d, hd⟩ := exists_depth ih
    have hc := @Constant.list d (items.map fun v => (v.tokens, v)) (List.forall_mem_map.mpr hd)
    refine ⟨d + 1, ?_⟩
    simpa [tokens, itemTokens_eq, List.flatMap_map, Function.comp_def] using hc
  | @object fields hs _ _ ih =>
    -- The fields are in order, which is what `hs.ofList_eq` needs to keep them.
    obtain ⟨d, hd⟩ := exists_depth (List.forall_mem_map.mpr ih)
    have hc := @Constant.object d (fields.map fun f => (f.1, f.2.tokens, f.2))
      (List.forall_mem_map.mpr (List.forall_mem_map.mp hd))
    refine ⟨d + 1, ?_⟩
    simpa [tokens, fieldTokens_eq, List.flatMap_map, Function.comp_def, hs.ofList_eq] using hc

lemma Value.Built.denotes {v : Value} (h : v.Built) (hf : v.Floatless) :
    Denotes v.literal v := by
  obtain ⟨d, hc⟩ := h.constant
  have hl := h.lexesPart hf [] [] (by simp [EndsValue]) .nil
  rw [List.append_nil, List.append_nil] at hl
  exact ⟨d, v.tokens, hl, hc⟩

/-- The literal for a constant that was read denotes that constant, and no other value. -/
theorem literal_reads_back {v : Value} (h : v.IsRead) (hf : v.Floatless) (w : Value) :
    Denotes v.literal w ↔ w = v := by
  have hv := h.built.denotes hf
  refine ⟨fun hw => hw.unique hv, ?_⟩
  rintro rfl
  exact hv

def nestedQuery : String :=
  "query Q($x: I = \x7bd: EUROPE, b: \"D\\b\\\"\\n\", a: [[], \x7b\x7d, null, true]\x7d) \x7by\x7d"

def nestedConstant : Value :=
  .object [("a", .list [.list [], .object [], .null, .bool true]), ("b", .string "D\x10\"\n"),
    ("d", .enumName "EUROPE")]

def nestedDefinition : OperationDefinition where
  position := ⟨1, 1⟩
  kind := .query
  name := some "Q"
  vars := [⟨⟨1, 9⟩, "x", .named "I", some nestedConstant⟩]
  directives := []
  selections := [.field ⟨1, 70⟩ none "y" [] [] []]

lemma read_nestedQuery : Document.read nestedQuery = .ok ⟨[.operation nestedDefinition]⟩ := by
  cbv

lemma floatless_nestedConstant : nestedConstant.Floatless := by
  refine .object ?_
  simp only [List.forall_mem_cons]
  refine ⟨.list ?_, .string _, .enumName _, by simp⟩
  simp only [List.forall_mem_cons]
  exact ⟨.list (by simp), .object (by simp), .null, .bool true, by simp⟩

theorem literal_reads_back_nested :
    Document.read nestedQuery = .ok ⟨[.operation nestedDefinition]⟩ ∧ nestedConstant.IsRead ∧
    nestedConstant.Floatless ∧
    nestedConstant.literal =
      "\x7ba: [[], \x7b\x7d, null, true], b: \"D\\u0010\\\"\\n\", d: EUROPE\x7d" ∧
    Denotes nestedConstant.literal nestedConstant := by
  have hr : nestedConstant.IsRead :=
    isRead_of_read read_nestedQuery List.mem_cons_self List.mem_cons_self rfl
  have hd := (literal_reads_back hr floatless_nestedConstant nestedConstant).mpr rfl
  exact ⟨read_nestedQuery, hr, floatless_nestedConstant, by decide +kernel, hd⟩

theorem resolved_default_denotes {source : String} {document : Document}
    (h : Document.read source = .ok document) {o : OperationDefinition}
    (ho : .operation o ∈ document.definitions) {x : VariableDefinition} (hx : x ∈ o.vars)
    {s : Schema} {var : Variable} (hr : Operation.resolveVariable s x = .ok var) {text : String}
    (ht : var.default = some text) :
    ∃ v, x.default = some v ∧ (v.Floatless → Denotes text v) := by
  unfold Operation.resolveVariable at hr
  split_ifs at hr
  cases hr
  obtain ⟨v, hv, rfl⟩ := Option.map_eq_some_iff.mp ht
  exact ⟨v, hv, (isRead_of_read h ho hx hv).built.denotes⟩

end Values

end GraphqlBindings.Language

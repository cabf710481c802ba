import GraphqlBindings.Proofs.Sdl.Tokens
import GraphqlBindings.Proofs.Text

namespace GraphqlBindings

open GraphqlBindings.Language GraphqlBindings.Language.Parser GraphqlBindings.Text

namespace Sdl

def returnsEndLines : List Char → Bool
  | [] => true
  | c :: rest => (c != '\r' || rest.head? == some '\n') && returnsEndLines rest

def ReturnsEndLines (cs : List Char) : Prop := returnsEndLines cs = true

instance : DecidablePred ReturnsEndLines := fun cs =>
  inferInstanceAs (Decidable (returnsEndLines cs = true))

def SingleLine (cs : List Char) : Prop := ∀ c ∈ cs, ¬ EndsLine c

instance : DecidablePred SingleLine := List.decidableBAll fun c => ¬ EndsLine c

section Comments

variable {cs : List Char} {ts : List Token}

lemma ReturnsEndLines.tail {c : Char} (h : ReturnsEndLines (c :: cs)) : ReturnsEndLines cs := by
  simp only [ReturnsEndLines, returnsEndLines, Bool.and_eq_true] at h
  exact h.2

lemma ReturnsEndLines.head {c : Char} (h : ReturnsEndLines (c :: cs))
    (hl : c ≠ '\n') (hr : ∀ rest, c = '\r' → cs ≠ '\n' :: rest) : ¬ EndsLine c := by
  rintro (rfl | rfl)
  · exact hl rfl
  · cases cs with
    | nil => simp [ReturnsEndLines, returnsEndLines] at h
    | cons x rest =>
      simp only [ReturnsEndLines, returnsEndLines, bne_self_eq_false, Bool.false_or, List.head?_cons,
        Bool.and_eq_true, beq_iff_eq, Option.some.injEq] at h
      exact hr rest rfl (by rw [h.1])

lemma singleLine_consLine {c : Char} {ls : List (List Char)} (hc : ¬ EndsLine c)
    (h : ∀ line ∈ ls, SingleLine line) : ∀ line ∈ consLine c ls, SingleLine line := by
  cases ls with
  | nil => simpa [consLine, SingleLine] using hc
  | cons first others =>
    rw [List.forall_mem_cons] at h
    rw [consLine, List.forall_mem_cons]
    exact ⟨List.forall_mem_cons.mpr ⟨hc, h.1⟩, h.2⟩

lemma singleLine_of_mem_lines (h : ReturnsEndLines cs) :
    ∀ line ∈ linesOfChars cs, SingleLine line := by
  fun_induction linesOfChars cs with
  | case1 => simp
  | case2 rest ih => simpa [SingleLine] using ih h.tail
  | case3 rest ih => simpa [SingleLine] using ih h.tail.tail
  | case4 c rest hl hr ih =>
    have hc : ¬ EndsLine c := h.head (fun he => hl he) (fun more he hm => hr more he hm)
    exact singleLine_consLine hc (ih h.tail)

lemma SingleLine.trimEnd {line : String} (h : SingleLine line.toList) :
    SingleLine (Text.trimEnd line).toList := by
  intro c hc
  simp only [Text.trimEnd, trimEndChars, String.toList_ofList, List.mem_reverse] at hc
  exact h c (by simpa using (List.dropWhile_suffix _).subset hc)

lemma spells_comment {indent line : List Char} (hi : ∀ c ∈ indent, IsIgnored c)
    (hl : SingleLine line) (h : Spells cs ts) :
    Spells (indent ++ '#' :: line ++ '\n' :: cs) ts := by
  rw [List.append_assoc]
  exact .blanks hi (.comment hl (.inl rfl) h)

lemma spells_markedLines {indent : String} {ls : List String}
    (hi : ∀ c ∈ indent.toList, IsIgnored c) (hl : ∀ line ∈ ls, SingleLine line.toList)
    (h : Spells cs ts) : Spells ((markedLines indent "#" ls).toList ++ cs) ts := by
  induction ls with
  | nil => simpa [markedLines] using h
  | cons line ls ih =>
    rw [List.forall_mem_cons] at hl
    have hline : SingleLine (' ' :: (Text.trimEnd line).toList) :=
      List.forall_mem_cons.mpr ⟨by simp [EndsLine], SingleLine.trimEnd hl.1⟩
    have hempty := spells_comment hi (List.forall_mem_nil _) (ih hl.2)
    have hfull := spells_comment hi hline (ih hl.2)
    simp only [markedLines, String.toList_join, List.map_cons, List.flatMap_cons] at hempty hfull ⊢
    split_ifs
    · simpa using hempty
    · simpa using hfull

lemma spells_comments {indent : String} {description : Option String}
    (hi : ∀ c ∈ indent.toList, IsIgnored c)
    (hd : ∀ text ∈ description, ReturnsEndLines text.toList) (h : Spells cs ts) :
    Spells ((comments indent description).toList ++ cs) ts := by
  cases description with
  | none => simpa [comments] using h
  | some text =>
    apply spells_markedLines hi _ h
    intro line hm
    obtain ⟨l, hl, rfl⟩ := List.mem_map.mp hm
    rw [String.toList_ofList]
    exact singleLine_of_mem_lines (hd text rfl) l hl

end Comments

section Reference

variable {cs : List Char} {ts : List Token}

lemma spells_typeRef {r : TypeRef} (hr : r.Proper) : Spells r.text.toList r.tokens := by
  induction r with
  | named n => exact hr.spells
  | list inner ih =>
    have ht : (TypeRef.list inner).text.toList = '[' :: (inner.text.toList ++ [']']) := by
      simp [TypeRef.text]
    rw [ht]
    apply Spells.punctuator rfl
    exact (ih hr).append (delimits_cons (by decide) _) (.punctuator rfl .nil)
  | nonNull inner ih =>
    have ht : (TypeRef.nonNull inner).text.toList = inner.text.toList ++ ['!'] := by
      simp [TypeRef.text]
    rw [ht]
    exact (ih hr.2).append (delimits_cons (by decide) _) (.punctuator rfl .nil)

end Reference

section Reason

lemma escapeChar_cases (c : Char) :
    (∃ x, escapeChar c = ['\\', x] ∧ x ≠ '\n' ∧ x ≠ 'u' ∧ simpleEscape? x = some c) ∨
      escapeChar c = [c] ∧ c ≠ '\\' ∧ c ≠ '"' ∧ c ≠ '\n' := by
  by_cases hb : c = '\\'
  · exact .inl ⟨'\\', by simp [hb, escapeChar, simpleEscape?]⟩
  by_cases hq : c = '"'
  · exact .inl ⟨'"', by simp [hq, escapeChar, simpleEscape?]⟩
  by_cases hn : c = '\n'
  · exact .inl ⟨'n', by simp [hn, escapeChar, simpleEscape?]⟩
  · exact .inr ⟨by simp [escapeChar], hb, hq, hn⟩

lemma splitString_escape (cs : List Char) :
    splitString false (cs.flatMap escapeChar ++ ['"']) = some (cs.flatMap escapeChar, []) := by
  induction cs with
  | nil => rfl
  | cons c cs ih =>
    rw [List.flatMap_cons]
    rcases escapeChar_cases c with ⟨x, hc, hx, _, _⟩ | ⟨hc, hb, hq, hn⟩
    · simp [hc, splitString, hx, ih]
    · have hbeq : (c == '\\') = false := beq_false_of_ne hb
      simp [hc, splitString, hbeq, hq, hn, ih]

lemma unescape_escape (cs : List Char) : unescape (cs.flatMap escapeChar) = some cs := by
  induction cs with
  | nil => rfl
  | cons c cs ih =>
    rw [List.flatMap_cons]
    rcases escapeChar_cases c with ⟨x, hc, _, hu, hx⟩ | ⟨hc, hb, _, _⟩
    · rw [hc, List.cons_append, List.cons_append, List.nil_append, unescape, hx, ih]
      · rfl
      · simp [hu]
    · rw [hc, List.singleton_append, unescape, ih]
      · rfl
      all_goals simp [hb]

lemma spells_reason (reason : String) :
    Spells ('"' :: (escape reason).toList ++ ['"']) [.string reason] := by
  have h := Spells.string (splitString_escape reason.toList) (unescape_escape reason.toList)
  rw [String.ofList_toList] at h
  rwa [escape, String.toList_ofList]

end Reason

section InputValue

variable {d : Nat} {v : InputValue}

lemma delimits_default (v : InputValue) : Delimits (default v).toList := by
  rw [default]
  split
  · simpa using delimits_cons (by decide) _
  · simp [Delimits]

lemma spells_default (h : ∀ text ∈ v.default, ∃ value, IsLiteral d text value) :
    Spells (default v).toList (defaultTokens v) := by
  cases hv : v.default with
  | none => simpa [default, defaultTokens, hv] using Spells.nil
  | some text =>
    obtain ⟨value, hl⟩ := h text hv
    have ht : (default v).toList = ' ' :: '=' :: ' ' :: text.toList := by simp [default, hv]
    rw [ht, defaultTokens, hv]
    apply Spells.ignored isIgnored_blank
    apply Spells.punctuator rfl
    exact .ignored isIgnored_blank hl.spells

lemma spells_inputValue (h : v.WellFormed d) :
    Spells (inputValue v).toList (inputValueTokens v) := by
  have ht : (inputValue v).toList =
      v.name.toList ++ ':' :: ' ' :: (v.type.text.toList ++ (default v).toList) := by
    simp [inputValue]
  rw [ht]
  apply h.name.spells.append (delimits_cons (by decide) _)
  apply Spells.punctuator rfl
  apply Spells.ignored isIgnored_blank
  exact (spells_typeRef h.type).append (delimits_default v) (spells_default h.default)

end InputValue

section Separated

variable {α : Type} {text : α → String} {tokens : α → List Token} {sep : String}
  {mark : List Token}

lemma spells_intercalate (hsep : ∀ cs ts, Spells cs ts → Spells (sep.toList ++ cs) (mark ++ ts))
    (hd : ∀ cs, Delimits (sep.toList ++ cs)) (x : α) (xs : List α)
    (h : ∀ y ∈ x :: xs, Spells (text y).toList (tokens y)) :
    Spells (sep.intercalate ((x :: xs).map text)).toList
      (tokens x ++ xs.flatMap fun y => mark ++ tokens y) := by
  rw [String.toList_intercalate]
  induction xs generalizing x with
  | nil => simpa [List.intercalate] using h x List.mem_cons_self
  | cons y ys ih =>
    rw [List.forall_mem_cons] at h
    have hs := h.1.append (hd _) (hsep _ _ (ih y h.2))
    simpa [List.intercalate] using hs

lemma spells_arguments {d : Nat} {args : List InputValue} (h : ∀ a ∈ args, a.WellFormed d) :
    Spells (arguments args).toList (argumentTokens args) := by
  cases args with
  | nil => exact .nil
  | cons a args =>
    have hsep : ∀ cs ts, Spells cs ts → Spells (", ".toList ++ cs) ([] ++ ts) :=
      fun cs ts h => .ignored (.inr (.inl rfl)) (.ignored isIgnored_blank h)
    have hs := spells_intercalate hsep (fun cs => delimits_cons (by decide) _) a args
      fun b hb => spells_inputValue (h b hb)
    have ht : (arguments (a :: args)).toList =
        '(' :: ((", ".intercalate ((a :: args).map inputValue)).toList ++ [')']) := by
      simp [arguments]
    have hts : argumentTokens (a :: args) = .punctuator .parenOpen ::
        ((inputValueTokens a ++ args.flatMap fun b => [] ++ inputValueTokens b) ++
          [.punctuator .parenClose]) := by
      simp [argumentTokens, blockTokens, List.flatMap]
    rw [ht, hts]
    apply Spells.punctuator rfl
    exact hs.append (delimits_cons (by decide) _) (.punctuator rfl .nil)

lemma spells_names {c : Char} {q : Punctuator} {n : String} {ns : List String}
    (hc : Punctuator.ofChar? c = some q) (h : ∀ m ∈ n :: ns, IsName m)
    (hsep : sep.toList = [' ', c, ' ']) :
    Spells (sep.intercalate (n :: ns)).toList (separatedNames q (n :: ns)) := by
  have hmark : ∀ cs ts, Spells cs ts → Spells (sep.toList ++ cs) ([.punctuator q] ++ ts) := by
    intro cs ts hs
    rw [hsep]
    exact .ignored isIgnored_blank (.punctuator hc (.ignored isIgnored_blank hs))
  have hd : ∀ cs, Delimits (sep.toList ++ cs) := by
    intro cs
    rw [hsep]
    exact delimits_cons (by decide) _
  have hs := spells_intercalate hmark hd n ns fun m hm => (h m hm).spells
  rwa [List.map_id'] at hs

end Separated

def SpellsLine (text : String) (tokens : List Token) : Prop :=
  ∀ cs ts, Spells cs ts → Spells (text.toList ++ cs) (tokens ++ ts)

section Lines

variable {d : Nat}

lemma spellsLine_join {α : Type} {text : α → String} {tokens : α → List Token} {xs : List α}
    (h : ∀ x ∈ xs, SpellsLine (text x) (tokens x)) :
    SpellsLine (String.join (xs.map text)) (xs.flatMap tokens) := by
  intro cs ts hs
  rw [String.toList_join]
  induction xs with
  | nil => exact hs
  | cons x xs ih =>
    rw [List.forall_mem_cons] at h
    simpa using h.1 _ _ (ih h.2)

lemma delimits_deprecation (f : SchemaField) : Delimits (deprecation f).toList := by
  simp only [deprecation]
  split_ifs <;> simp [Delimits, endsNumber]

lemma spells_deprecation (f : SchemaField) :
    Spells (deprecation f).toList (deprecationTokens f) := by
  by_cases hd : f.isDeprecated
  · by_cases hr : (f.deprecationReason.getD "").isEmpty
    · have ht : (deprecation f).toList = ' ' :: '@' :: "deprecated".toList := by
        simp [deprecation, hd, hr]
      simp only [ht, deprecationTokens, reasonTokens, hd, hr, if_true]
      apply Spells.ignored isIgnored_blank
      apply Spells.punctuator rfl
      exact IsName.spells (by decide)
    · have ht : (deprecation f).toList = ' ' :: '@' :: ("deprecated".toList ++ '(' ::
          ("reason".toList ++ ':' :: ' ' :: (('"' :: (escape (f.deprecationReason.getD "")).toList ++
            ['"']) ++ [')']))) := by
        simp [deprecation, hd, hr]
      simp only [ht, deprecationTokens, reasonTokens, hd, hr, if_true]
      apply Spells.ignored isIgnored_blank
      apply Spells.punctuator rfl
      apply (IsName.spells (by decide)).append (delimits_cons (by decide) _)
      apply Spells.punctuator rfl
      apply (IsName.spells (by decide)).append (delimits_cons (by decide) _)
      apply Spells.punctuator rfl
      apply Spells.ignored isIgnored_blank
      exact (spells_reason _).append (delimits_cons (by decide) _) (.punctuator rfl .nil)
  · simpa [deprecation, deprecationTokens, hd] using Spells.nil

lemma isIgnored_indent : ∀ c ∈ "  ".toList, IsIgnored c := by
  simp [IsIgnored]

lemma spellsLine_field {f : SchemaField} (h : f.WellFormed d)
    (hq : ∀ text ∈ f.description, ReturnsEndLines text.toList) :
    SpellsLine (field f) (fieldTokens f) := by
  intro cs ts hs
  have ht : (field f).toList ++ cs = (comments "  " f.description).toList ++ ("  ".toList ++
      (f.name.toList ++ ((arguments f.args).toList ++ ':' :: ' ' :: (f.type.text.toList ++
        ((deprecation f).toList ++ '\n' :: cs))))) := by
    simp [field]
  have hts : fieldTokens f ++ ts = [.name f.name] ++ (argumentTokens f.args ++
      .punctuator .colon :: (f.type.tokens ++ (deprecationTokens f ++ ts))) := by
    simp [fieldTokens]
  have hd : Delimits ('\n' :: cs) := delimits_cons (by decide) cs
  have hargs : Delimits (arguments f.args).toList := by
    rw [arguments]
    split_ifs <;> simp [Delimits, endsNumber]
  rw [ht, hts]
  apply spells_comments isIgnored_indent hq
  apply Spells.blanks isIgnored_indent
  apply h.name.spells.append (hargs.append (delimits_cons (by decide) _))
  apply (spells_arguments h.args).append (delimits_cons (by decide) _)
  apply Spells.punctuator rfl
  apply Spells.ignored isIgnored_blank
  apply (spells_typeRef h.type).append ((delimits_deprecation f).append hd)
  exact (spells_deprecation f).append hd (.ignored isIgnored_lineFeed hs)

lemma spellsLine_inputField {v : InputValue} (h : v.WellFormed d)
    (hq : ∀ text ∈ v.description, ReturnsEndLines text.toList) :
    SpellsLine (inputField v) (inputValueTokens v) := by
  intro cs ts hs
  have ht : (inputField v).toList ++ cs = (comments "  " v.description).toList ++ ("  ".toList ++
      ((inputValue v).toList ++ '\n' :: cs)) := by
    simp [inputField]
  rw [ht]
  apply spells_comments isIgnored_indent hq
  apply Spells.blanks isIgnored_indent
  apply (spells_inputValue h).append (delimits_cons (by decide) _)
  exact .ignored isIgnored_lineFeed hs

lemma spellsLine_enumValue {v : EnumValue} (h : IsName v.name)
    (hq : ∀ text ∈ v.description, ReturnsEndLines text.toList)
    (hr : v.isDeprecated = true → SingleLine (v.deprecationReason.getD "").toList) :
    SpellsLine (enumValue v) [.name v.name] := by
  intro cs ts hs
  have hname : Spells ("  ".toList ++ (v.name.toList ++ '\n' :: cs)) ([.name v.name] ++ ts) := by
    apply Spells.blanks isIgnored_indent
    exact h.spells.append (delimits_cons (by decide) _) (.ignored isIgnored_lineFeed hs)
  by_cases hd : v.isDeprecated
  · have ht : (enumValue v).toList ++ cs = (comments "  " v.description).toList ++
        ((markedLines "  " "#" ["deprecated: " ++ v.deprecationReason.getD ""]).toList ++
          ("  ".toList ++ (v.name.toList ++ '\n' :: cs))) := by
      simp [enumValue, hd]
    rw [ht]
    apply spells_comments isIgnored_indent hq
    apply spells_markedLines isIgnored_indent _ hname
    simpa [SingleLine, EndsLine] using hr hd
  · have ht : (enumValue v).toList ++ cs = (comments "  " v.description).toList ++
        ("  ".toList ++ (v.name.toList ++ '\n' :: cs)) := by
      simp [enumValue, hd]
    rw [ht]
    exact spells_comments isIgnored_indent hq hname

lemma spellsLine_block {α : Type} {text : α → String} {tokens : α → List Token} {xs : List α}
    (h : ∀ x ∈ xs, SpellsLine (text x) (tokens x)) :
    SpellsLine (block (xs.map text)) (blockTokens .braceOpen .braceClose (xs.map tokens)) := by
  intro cs ts hs
  by_cases he : xs = []
  · simpa [block, blockTokens, he] using Spells.ignored isIgnored_lineFeed hs
  · have ht : (block (xs.map text)).toList ++ cs = ' ' :: '{' :: '\n' ::
        ((String.join (xs.map text)).toList ++ '}' :: '\n' :: cs) := by
      simp [block, he]
    have hts : blockTokens .braceOpen .braceClose (xs.map tokens) ++ ts = .punctuator .braceOpen ::
        (xs.flatMap tokens ++ .punctuator .braceClose :: ts) := by
      simp [blockTokens, he, List.flatMap]
    rw [ht, hts]
    apply Spells.ignored isIgnored_blank
    apply Spells.punctuator rfl
    apply Spells.ignored isIgnored_lineFeed
    apply spellsLine_join h
    exact .punctuator rfl (.ignored isIgnored_lineFeed hs)

end Lines

end Sdl

/-- Free texts that fit into comments: the lines of descriptions do, and a note about a deprecated
value is one line. -/
structure SchemaType.Quiet (t : SchemaType) : Prop where
  description : ∀ text ∈ t.description, Sdl.ReturnsEndLines text.toList
  fields : ∀ f ∈ t.fields, ∀ text ∈ f.description, Sdl.ReturnsEndLines text.toList
  inputFields : ∀ v ∈ t.inputFields, ∀ text ∈ v.description, Sdl.ReturnsEndLines text.toList
  enumValues : ∀ v ∈ t.enumValues, ∀ text ∈ v.description, Sdl.ReturnsEndLines text.toList
  notes : ∀ v ∈ t.enumValues, v.isDeprecated = true →
    Sdl.SingleLine (v.deprecationReason.getD "").toList

namespace Sdl

section Types

lemma spellsLine_lineFeed : SpellsLine "\n" [] := fun _ _ hs => .ignored isIgnored_lineFeed hs

lemma SpellsLine.after {text rest : String} {ts us : List Token} (hr : SpellsLine rest us)
    (h : Spells text.toList ts) (hd : ∀ cs, Delimits (rest.toList ++ cs)) :
    SpellsLine (text ++ rest) (ts ++ us) := by
  intro cs vs hs
  rw [String.toList_append, List.append_assoc, List.append_assoc]
  exact h.append (hd cs) (hr cs vs hs)

lemma spellsLine_declaration {start w n rest : String} {ts : List Token}
    (hstart : start.toList = w.toList ++ [' ']) (hw : IsName w) (hn : IsName n)
    (hd : ∀ cs, Delimits (rest.toList ++ cs)) (hr : SpellsLine rest ts) :
    SpellsLine (start ++ n ++ rest) (.name w :: .name n :: ts) := by
  intro cs us hs
  have ht : (start ++ n ++ rest).toList ++ cs =
      w.toList ++ ' ' :: (n.toList ++ (rest.toList ++ cs)) := by
    simp [hstart]
  rw [ht]
  apply hw.spells.append (delimits_cons (by decide) _)
  apply Spells.ignored isIgnored_blank
  exact hn.spells.append (hd cs) (hr cs us hs)

lemma delimits_block (items : List String) (cs : List Char) :
    Delimits ((block items).toList ++ cs) := by
  rw [block]
  split_ifs <;> simp [Delimits, endsNumber]

lemma delimits_implements (interfaces : List TypeRef) : Delimits (implements interfaces).toList := by
  rw [implements]
  split_ifs <;> simp [Delimits, endsNumber]

lemma delimits_members (types : List TypeRef) : Delimits (members types).toList := by
  rw [members]
  split_ifs <;> simp [Delimits, endsNumber]

lemma spells_implements {interfaces : List TypeRef} (h : ∀ r ∈ interfaces, IsName r.baseName) :
    Spells (implements interfaces).toList (implementsTokens interfaces) := by
  cases interfaces with
  | nil => exact .nil
  | cons r rs =>
    have ht : (implements (r :: rs)).toList = ' ' :: ("implements".toList ++ ' ' ::
        (" & ".intercalate ((r :: rs).map TypeRef.baseName)).toList) := by
      simp [implements]
    rw [ht]
    apply Spells.ignored isIgnored_blank
    apply (IsName.spells (by decide)).append (delimits_cons (by decide) _)
    apply Spells.ignored isIgnored_blank
    exact spells_names (c := '&') rfl (by simpa using h) rfl

lemma spells_members {types : List TypeRef} (h : ∀ r ∈ types, IsName r.baseName) :
    Spells (members types).toList (memberTokens types) := by
  cases types with
  | nil => exact .nil
  | cons r rs =>
    have ht : (members (r :: rs)).toList = ' ' :: '=' :: ' ' ::
        (" | ".intercalate ((r :: rs).map TypeRef.baseName)).toList := by
      simp [members]
    rw [ht]
    apply Spells.ignored isIgnored_blank
    apply Spells.punctuator rfl
    apply Spells.ignored isIgnored_blank
    exact spells_names (c := '|') rfl (by simpa using h) rfl

lemma spellsLine_composite {start w n : String} {interfaces : List TypeRef}
    {fields : List SchemaField} (hstart : start.toList = w.toList ++ [' ']) (hw : IsName w)
    (hn : IsName n) (hi : ∀ r ∈ interfaces, IsName r.baseName)
    (hf : ∀ f ∈ fields, SpellsLine (field f) (fieldTokens f)) :
    SpellsLine (start ++ n ++ implements interfaces ++ block (fields.map field))
      (.name w :: .name n :: implementsTokens interfaces ++ fieldBlockTokens fields) := by
  rw [String.append_assoc]
  apply spellsLine_declaration hstart hw hn
  · intro cs
    rw [String.toList_append, List.append_assoc]
    exact (delimits_implements interfaces).append (delimits_block _ cs)
  · exact (spellsLine_block hf).after (spells_implements hi) (delimits_block _)

lemma SpellsLine.commented {text : String} {ts : List Token} {description : Option String}
    (h : SpellsLine text ts) (hd : ∀ text ∈ description, ReturnsEndLines text.toList) :
    SpellsLine (comments "" description ++ text) ts := by
  intro cs us hs
  rw [String.toList_append, List.append_assoc]
  exact spells_comments (by simp) hd (h cs us hs)

lemma exists_spellsLine_type {t : SchemaType} (h : t.WellFormed) (hq : t.Quiet) :
    ∃ text, type t = .ok text ∧ SpellsLine text (typeTokens t) := by
  have hfields : ∀ f ∈ t.fields, SpellsLine (field f) (fieldTokens f) :=
    fun f hf => spellsLine_field (h.fields f hf) (hq.fields f hf)
  have hkind := h.kind
  rw [type, typeTokens]
  cases hk : t.kind with
  | scalar =>
    refine ⟨_, rfl, .commented ?_ hq.description⟩
    exact spellsLine_declaration rfl (by decide) h.name (fun cs => delimits_cons (by decide) _)
      spellsLine_lineFeed
  | object =>
    refine ⟨_, rfl, .commented ?_ hq.description⟩
    exact spellsLine_composite rfl (by decide) h.name h.interfaces hfields
  | interface =>
    refine ⟨_, rfl, .commented ?_ hq.description⟩
    exact spellsLine_composite rfl (by decide) h.name h.interfaces hfields
  | inputObject =>
    refine ⟨_, rfl, .commented ?_ hq.description⟩
    apply spellsLine_declaration rfl (by decide) h.name (delimits_block _)
    exact spellsLine_block fun v hv =>
      spellsLine_inputField (h.inputFields v hv) (hq.inputFields v hv)
  | enumeration =>
    refine ⟨_, rfl, .commented ?_ hq.description⟩
    apply spellsLine_declaration rfl (by decide) h.name (delimits_block _)
    exact spellsLine_block fun v hv =>
      spellsLine_enumValue (h.enumValues v hv) (hq.enumValues v hv) (hq.notes v hv)
  | union =>
    refine ⟨_, rfl, .commented ?_ hq.description⟩
    have hn : ∀ cs, Delimits ("\n".toList ++ cs) := fun cs => delimits_cons (by decide) cs
    have hm := spellsLine_lineFeed.after (spells_members h.members) hn
    rw [List.append_nil] at hm
    rw [String.append_assoc]
    apply spellsLine_declaration rfl (by decide) h.name _ hm
    intro cs
    rw [String.toList_append, List.append_assoc]
    exact (delimits_members t.possibleTypes).append (hn cs)
  | list | nonNull | unknown text => simp [hk, TypeKind.isNamed] at hkind

lemma spells_paragraphs {texts : List String} {items : List (List Token)}
    (h : List.Forall₂ SpellsLine texts items) :
    Spells ("\n".intercalate texts).toList items.flatten := by
  rw [String.toList_intercalate]
  induction h with
  | nil => exact .nil
  | @cons text ts texts items ht hs ih =>
    cases hs with
    | nil => simpa [List.intercalate] using ht [] [] .nil
    | cons => simpa [List.intercalate] using ht _ _ (.ignored isIgnored_lineFeed ih)

lemma exists_render {s : Schema} (hw : ∀ t ∈ s.userTypes, t.WellFormed)
    (hq : ∀ t ∈ s.userTypes, t.Quiet) :
    ∃ text, render s = .ok text ∧ Spells text.toList (s.userTypes.flatMap typeTokens) := by
  obtain ⟨texts, ht, hs⟩ := exists_forall₂ fun t h => exists_spellsLine_type (hw t h) (hq t h)
  have he : List.Forall₂ (fun a b => a = b) (s.userTypes.map type) (texts.map .ok) := by
    rw [List.forall₂_map_left_iff, List.forall₂_map_right_iff]
    exact ht
  rw [List.forall₂_eq_eq_eq] at he
  have hm : s.userTypes.mapM type = .ok texts := mapM_eq_ok_iff.mpr he
  refine ⟨"\n".intercalate texts, ?_, ?_⟩
  · rw [render, hm]
    rfl
  · exact spells_paragraphs (List.forall₂_map_right_iff.mpr hs.flip)

end Types

end Sdl

end GraphqlBindings

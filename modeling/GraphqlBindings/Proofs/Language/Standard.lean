import GraphqlBindings.Proofs.Language.Literal
import GraphqlBindings.Proofs.Lists
import GraphqlBindings.Proofs.Text

/-! The standard grammar of constants. It differs from the lexer of documents in what escapes
stand for, in numbers of any size and in line ends. A text has its tokens in one way only, and is
written for one constant at most. -/

namespace GraphqlBindings.Language.Standard

open GraphqlBindings.Text GraphqlBindings.Decimal

section Strings

def escaped? : Char → Option Char
  | '"' => some '"'
  | '\\' => some '\\'
  | '/' => some '/'
  | 'b' => some '\x08'
  | 'f' => some '\x0c'
  | 'n' => some '\n'
  | 'r' => some '\r'
  | 't' => some '\t'
  | _ => none

def hexNumber? (digits : List Char) : Option Nat :=
  (digits.mapM hexValue?).map fun values => values.foldl (fun n v => n * 16 + v) 0

/-- The code point behind `\u`: four digits, two surrogates of four digits each, or any digits in
braces. -/
inductive CodePoint : List Char → Nat → List Char → Prop
  | digits {a b c d : Char} {n : Nat} {rest : List Char} : hexNumber? [a, b, c, d] = some n →
      n < 0xd800 ∨ 0xe000 ≤ n → CodePoint (a :: b :: c :: d :: rest) n rest
  | surrogates {a b c d a' b' c' d' : Char} {high low : Nat} {rest : List Char} :
      hexNumber? [a, b, c, d] = some high → 0xd800 ≤ high → high < 0xdc00 →
      hexNumber? [a', b', c', d'] = some low → 0xdc00 ≤ low → low < 0xe000 →
      CodePoint (a :: b :: c :: d :: '\\' :: 'u' :: a' :: b' :: c' :: d' :: rest)
        (0x10000 + (high - 0xd800) * 0x400 + (low - 0xdc00)) rest
  | braces {digits cs rest : List Char} {n : Nat} : digits ≠ [] → hexNumber? digits = some n →
      cs = digits ++ '}' :: rest → CodePoint ('{' :: cs) n rest

inductive StringBody : List Char → List Char → List Char → Prop
  | close {rest : List Char} : StringBody ('"' :: rest) [] rest
  | plain {c : Char} {cs value rest : List Char} : c ≠ '"' → c ≠ '\\' → ¬ EndsLine c →
      StringBody cs value rest → StringBody (c :: cs) (c :: value) rest
  | escape {c x : Char} {cs value rest : List Char} : escaped? c = some x →
      StringBody cs value rest → StringBody ('\\' :: c :: cs) (x :: value) rest
  | unicode {x : Char} {cs ds value rest : List Char} : CodePoint cs x.toNat ds →
      StringBody ds value rest → StringBody ('\\' :: 'u' :: cs) (x :: value) rest

inductive BlockBody : List Char → List Char → List Char → Prop
  | close {rest : List Char} : BlockBody ('"' :: '"' :: '"' :: rest) [] rest
  | quotes {cs raw rest : List Char} : BlockBody cs raw rest →
      BlockBody ('\\' :: '"' :: '"' :: '"' :: cs) ('"' :: '"' :: '"' :: raw) rest
  | plain {c : Char} {cs raw rest : List Char} : ¬ ['"', '"', '"'] <+: c :: cs →
      ¬ ['\\', '"', '"', '"'] <+: c :: cs → BlockBody cs raw rest →
      BlockBody (c :: cs) (c :: raw) rest

def isSpace (c : Char) : Bool := c == ' ' || c == '\t'

def splitLines : List Char → List (List Char)
  | [] => [[]]
  | '\r' :: '\n' :: rest => [] :: splitLines rest
  | c :: rest => if EndsLine c then [] :: splitLines rest else consLine c (splitLines rest)

def blockValue (raw : List Char) : List Char :=
  match splitLines raw with
  | [] => []
  | first :: others =>
    let indents := (others.filter (!·.all isSpace)).map fun line => (line.takeWhile isSpace).length
    let trimmed := (first :: others.map (·.drop (indents.min?.getD 0))).dropWhile (·.all isSpace)
    ['\n'].intercalate (trimmed.reverse.dropWhile (·.all isSpace)).reverse

end Strings

section Numbers

def EndsNumeral (cs : List Char) : Prop := ∀ c ∈ cs.head?, isNameChar c = false ∧ c ≠ '.'

inductive FractionAt : List Char → List Char → List Char → Prop
  | none {rest : List Char} : rest.head? ≠ some '.' → FractionAt rest [] rest
  | some {cs : List Char} : cs.takeWhile isAsciiDigit ≠ [] →
      FractionAt ('.' :: cs) (cs.takeWhile isAsciiDigit) (cs.dropWhile isAsciiDigit)

def takeSign : List Char → Int × List Char
  | '+' :: rest => (1, rest)
  | '-' :: rest => (-1, rest)
  | cs => (1, cs)

inductive ExponentAt : List Char → Int → List Char → Prop
  | none {rest : List Char} : (∀ c ∈ rest.head?, isExponentMark c = false) → ExponentAt rest 0 rest
  | some {mark : Char} {cs ds : List Char} {sign : Int} : isExponentMark mark = true →
      takeSign cs = (sign, ds) → ds.takeWhile isAsciiDigit ≠ [] →
      ExponentAt (mark :: cs) (sign * natOfDigits (ds.takeWhile isAsciiDigit))
        (ds.dropWhile isAsciiDigit)

inductive NumberAt : List Char → Token → List Char → Prop
  | int {cs ds : List Char} {negative : Bool} : takeMinus cs = (negative, ds) →
      isWholePart (ds.takeWhile isAsciiDigit) = true → EndsNumeral (ds.dropWhile isAsciiDigit) →
      NumberAt cs (.int (if negative then -natOfDigits (ds.takeWhile isAsciiDigit)
        else natOfDigits (ds.takeWhile isAsciiDigit))) (ds.dropWhile isAsciiDigit)
  | float {cs ds fraction more rest : List Char} {negative : Bool} {power : Int} :
      takeMinus cs = (negative, ds) → isWholePart (ds.takeWhile isAsciiDigit) = true →
      FractionAt (ds.dropWhile isAsciiDigit) fraction more → ExponentAt more power rest →
      rest ≠ ds.dropWhile isAsciiDigit → EndsNumeral rest →
      NumberAt cs (.float (Binary64.ofDecimal negative
        (natOfDigits (ds.takeWhile isAsciiDigit ++ fraction))
        (ds.takeWhile isAsciiDigit ++ fraction).length (power - fraction.length))) rest

end Numbers

inductive MarkAt : List Char → Punctuator → List Char → Prop
  | char {c : Char} {p : Punctuator} {rest : List Char} : Punctuator.ofChar? c = some p →
      MarkAt (c :: rest) p rest
  | spread {rest : List Char} : MarkAt ('.' :: '.' :: '.' :: rest) .spread rest

inductive StringAt : List Char → List Char → List Char → Prop
  | line {cs value rest : List Char} : StringBody cs value rest →
      (value = [] → rest.head? ≠ some '"') → StringAt ('"' :: cs) value rest
  | block {cs raw rest : List Char} : BlockBody cs raw rest →
      StringAt ('"' :: '"' :: '"' :: cs) (blockValue raw) rest

inductive TokenAt : List Char → Token → List Char → Prop
  | mark {cs rest : List Char} {p : Punctuator} : MarkAt cs p rest →
      TokenAt cs (.punctuator p) rest
  | name {c : Char} {cs : List Char} : isNameStart c = true →
      TokenAt (c :: cs) (.name (.ofList (c :: cs.takeWhile isNameChar))) (cs.dropWhile isNameChar)
  | number {cs rest : List Char} {t : Token} : NumberAt cs t rest → TokenAt cs t rest
  | string {cs value rest : List Char} : StringAt cs value rest →
      TokenAt cs (.string (.ofList value)) rest

inductive Lexes : List Char → List Token → Prop
  | nil : Lexes [] []
  | ignored {c : Char} {cs : List Char} {ts : List Token} : IsIgnored c → Lexes cs ts →
      Lexes (c :: cs) ts
  | comment {cs : List Char} {ts : List Token} : Lexes (cs.dropWhile (¬ EndsLine ·)) ts →
      Lexes ('#' :: cs) ts
  | token {cs rest : List Char} {t : Token} {ts : List Token} : TokenAt cs t rest →
      Lexes rest ts → Lexes cs (t :: ts)

def Denotes (text : String) (v : Value) : Prop :=
  ∃ d ts, Lexes text.toList ts ∧ Constant d ts v

section Unambiguous

lemma isSome_hexValue?_of_mem {digits : List Char} {n : Nat} (h : hexNumber? digits = some n) :
    ∀ d ∈ digits, (hexValue? d).isSome := by
  obtain ⟨values, hm, -⟩ := Option.map_eq_some_iff.mp h
  intro d hd
  obtain ⟨v, -, hv⟩ := exists_mem_of_forall₂ (mapM_eq_some_iff.mp hm).flip hd
  exact hv ▸ rfl

lemma CodePoint.unique {cs rest rest' : List Char} {n n' : Nat} (h : CodePoint cs n rest)
    (h' : CodePoint cs n' rest') : n = n' ∧ rest = rest' := by
  -- Braces are no digits: neither can four digits begin with one, nor do digits go beyond one.
  have hbrace : ∀ more, hexNumber? ('{' :: more) = none := by
    intro more
    by_contra hn
    obtain ⟨m, hm⟩ := Option.ne_none_iff_exists'.mp hn
    exact absurd (isSome_hexValue?_of_mem hm '{' List.mem_cons_self) (by decide)
  cases h with
  | digits hn hr =>
    cases h' with
    | digits hn' _ => exact ⟨Option.some.inj (hn.symm.trans hn'), rfl⟩
    | surrogates hn' =>
      cases hn.symm.trans hn'
      omega
    | braces => simp [hbrace] at hn
  | surrogates hn _ _ hl =>
    cases h' with
    | digits hn' _ =>
      cases hn.symm.trans hn'
      omega
    | surrogates hn' _ _ hl' =>
      cases hn.symm.trans hn'
      cases hl.symm.trans hl'
      exact ⟨rfl, rfl⟩
    | braces => simp [hbrace] at hn
  | braces _ hn hcs =>
    cases h' with
    | digits hn' _ => simp [hbrace] at hn'
    | surrogates hn' => simp [hbrace] at hn'
    | braces _ hn' hcs' =>
      have hclose : ∀ {digits : List Char} {m : Nat}, hexNumber? digits = some m →
          ∀ d ∈ digits, (d != '}') = true := by
        intro digits m hm d hd
        rw [bne_iff_ne]
        rintro rfl
        exact absurd (isSome_hexValue?_of_mem hm '}' hd) (by decide)
      have hbehind : ∀ more, ∀ x ∈ ('}' :: more).head?, (x != '}') = false := by simp
      have hd := takeWhile_dropWhile_append (hclose hn) (hbehind rest)
      have hd' := takeWhile_dropWhile_append (hclose hn') (hbehind rest')
      rw [← hcs] at hd
      rw [← hcs'] at hd'
      obtain rfl := hd.1.symm.trans hd'.1
      cases hd.2.symm.trans hd'.2
      exact ⟨Option.some.inj (hn.symm.trans hn'), rfl⟩

lemma StringBody.unique {cs value value' rest rest' : List Char} (h : StringBody cs value rest)
    (h' : StringBody cs value' rest') : value = value' ∧ rest = rest' := by
  induction h generalizing value' with
  | close =>
    cases h' with
    | close => exact ⟨rfl, rfl⟩
    | plain hq => exact absurd rfl hq
  | plain hq hb _ _ ih =>
    cases h' with
    | close => exact absurd rfl hq
    | plain _ _ _ h' =>
      obtain ⟨rfl, rfl⟩ := ih h'
      exact ⟨rfl, rfl⟩
    | escape => exact absurd rfl hb
    | unicode => exact absurd rfl hb
  | escape hx _ ih =>
    cases h' with
    | plain _ hb => exact absurd rfl hb
    | escape hx' h' =>
      obtain ⟨rfl, rfl⟩ := ih h'
      exact ⟨by rw [Option.some.inj (hx.symm.trans hx')], rfl⟩
    | unicode => cases hx
  | unicode hx _ ih =>
    cases h' with
    | plain _ hb => exact absurd rfl hb
    | escape hx' => cases hx'
    | unicode hx' h' =>
      obtain ⟨hn, rfl⟩ := hx.unique hx'
      obtain ⟨rfl, rfl⟩ := ih h'
      exact ⟨by rw [Char.toNat_inj.mp hn], rfl⟩

lemma BlockBody.unique {cs raw raw' rest rest' : List Char} (h : BlockBody cs raw rest)
    (h' : BlockBody cs raw' rest') : raw = raw' ∧ rest = rest' := by
  induction h generalizing raw' with
  | @close rest =>
    cases h' with
    | close => exact ⟨rfl, rfl⟩
    | plain hq => exact absurd ⟨rest, rfl⟩ hq
  | @quotes cs _ _ _ ih =>
    cases h' with
    | quotes h' =>
      obtain ⟨rfl, rfl⟩ := ih h'
      exact ⟨rfl, rfl⟩
    | plain _ hb => exact absurd ⟨cs, rfl⟩ hb
  | plain hq hb _ ih =>
    cases h' with
    | close => exact absurd ⟨_, rfl⟩ hq
    | quotes => exact absurd ⟨_, rfl⟩ hb
    | plain _ _ h' =>
      obtain ⟨rfl, rfl⟩ := ih h'
      exact ⟨rfl, rfl⟩

lemma FractionAt.unique {cs ds ds' rest rest' : List Char} (h : FractionAt cs ds rest)
    (h' : FractionAt cs ds' rest') : ds = ds' ∧ rest = rest' := by
  cases h with
  | none hd =>
    cases h' with
    | none => exact ⟨rfl, rfl⟩
    | some => exact absurd rfl hd
  | some =>
    cases h' with
    | none hd => exact absurd rfl hd
    | some => exact ⟨rfl, rfl⟩

lemma ExponentAt.unique {cs rest rest' : List Char} {power power' : Int}
    (h : ExponentAt cs power rest) (h' : ExponentAt cs power' rest') :
    power = power' ∧ rest = rest' := by
  cases h with
  | none hm =>
    cases h' with
    | none => exact ⟨rfl, rfl⟩
    | some hm' => exact absurd (hm _ rfl) (by rw [hm']; exact Bool.noConfusion)
  | some hm hs =>
    cases h' with
    | none hm' => exact absurd (hm' _ rfl) (by rw [hm]; exact Bool.noConfusion)
    | some _ hs' =>
      cases hs.symm.trans hs'
      exact ⟨rfl, rfl⟩

lemma EndsNumeral.rest_eq {cs ds more rest : List Char} {power : Int} (h : EndsNumeral cs)
    (hf : FractionAt cs ds more) (he : ExponentAt more power rest) : rest = cs := by
  cases hf with
  | none =>
    cases he with
    | none => rfl
    | @some mark cs _ _ hm =>
      have hn := (h mark rfl).1
      rw [isExponentMark, Bool.or_eq_true, beq_iff_eq, beq_iff_eq] at hm
      rcases hm with rfl | rfl <;> exact absurd hn (by decide)
  | some => exact absurd rfl (h _ rfl).2

lemma NumberAt.unique {cs rest rest' : List Char} {t t' : Token} (h : NumberAt cs t rest)
    (h' : NumberAt cs t' rest') : t = t' ∧ rest = rest' := by
  cases h with
  | int hm _ hend =>
    cases h' with
    | int hm' =>
      cases hm.symm.trans hm'
      exact ⟨rfl, rfl⟩
    | float hm' _ hf he hne =>
      cases hm.symm.trans hm'
      exact absurd (hend.rest_eq hf he) hne
  | float hm _ hf he hne =>
    cases h' with
    | int hm' _ hend =>
      cases hm.symm.trans hm'
      exact absurd (hend.rest_eq hf he) hne
    | float hm' _ hf' he' =>
      cases hm.symm.trans hm'
      obtain ⟨rfl, rfl⟩ := hf.unique hf'
      obtain ⟨rfl, rfl⟩ := he.unique he'
      exact ⟨rfl, rfl⟩

lemma StringAt.unique {cs value value' rest rest' : List Char} (h : StringAt cs value rest)
    (h' : StringAt cs value' rest') : value = value' ∧ rest = rest' := by
  -- Behind the first of three quotes a line is empty, and the third one follows it.
  have hempty : ∀ {cs value rest}, StringBody ('"' :: '"' :: cs) value rest →
      ¬ (value = [] → rest.head? ≠ some '"') := by
    intro cs value rest hb hn
    cases hb with
    | close => exact hn rfl rfl
    | plain hq => exact hq rfl
  cases h with
  | line hb hn =>
    cases h' with
    | line hb' _ => exact hb.unique hb'
    | block => exact absurd hn (hempty hb)
  | block hb =>
    cases h' with
    | line hb' hn => exact absurd hn (hempty hb')
    | block hb' =>
      obtain ⟨rfl, rfl⟩ := hb.unique hb'
      exact ⟨rfl, rfl⟩

lemma MarkAt.unique {cs rest rest' : List Char} {p p' : Punctuator} (h : MarkAt cs p rest)
    (h' : MarkAt cs p' rest') : p = p' ∧ rest = rest' := by
  cases h with
  | char hp =>
    cases h' with
    | char hp' => exact ⟨Option.some.inj (hp.symm.trans hp'), rfl⟩
    | spread => cases hp
  | spread =>
    cases h' with
    | char hp => cases hp
    | spread => exact ⟨rfl, rfl⟩

inductive Kind where
  | mark | name | number | string

def kind (c : Char) : Kind :=
  if c = '"' then .string
  else if isNameStart c then .name
  else if c = '-' ∨ isAsciiDigit c then .number
  else .mark

lemma MarkAt.kind {c : Char} {cs rest : List Char} {p : Punctuator} (h : MarkAt (c :: cs) p rest) :
    kind c = .mark := by
  cases h with
  | char hp =>
    unfold Punctuator.ofChar? at hp
    split at hp <;> first
      | rfl
      | cases hp
  | spread => rfl

lemma kind_name {c : Char} (h : isNameStart c = true) : kind c = .name := by
  have hq : c ≠ '"' := by
    rintro rfl
    exact absurd h (by decide)
  rw [kind, if_neg hq, if_pos h]

lemma kind_digit {c : Char} (h : isAsciiDigit c = true) : kind c = .number := by
  have hn : isNameStart c = false := by
    rw [isAsciiDigit_iff] at h
    rw [← Bool.not_eq_true, isNameStart, isAsciiLetter, Bool.or_eq_true, Bool.or_eq_true,
      isAsciiUpper_iff, isAsciiLower_iff, beq_iff_eq]
    rintro (rfl | hl)
    · exact absurd h (by decide)
    · omega
  have hq : c ≠ '"' := by
    rintro rfl
    exact absurd h (by decide)
  rw [kind, if_neg hq, hn, if_neg Bool.false_ne_true, if_pos (.inr h)]

lemma kind_of_takeMinus {c : Char} {cs ds : List Char} {negative : Bool}
    (h : takeMinus (c :: cs) = (negative, ds))
    (hd : isWholePart (ds.takeWhile isAsciiDigit) = true) : kind c = .number := by
  unfold takeMinus at h
  split at h
  · next hc =>
    cases hc
    rfl
  · cases h
    cases hdigit : isAsciiDigit c with
    | true => exact kind_digit hdigit
    | false => simp [hdigit, isWholePart] at hd

lemma NumberAt.kind {c : Char} {cs rest : List Char} {t : Token} (h : NumberAt (c :: cs) t rest) :
    kind c = .number := by
  cases h with
  | int hm hw => exact kind_of_takeMinus hm hw
  | float hm hw => exact kind_of_takeMinus hm hw

lemma StringAt.kind {c : Char} {cs value rest : List Char} (h : StringAt (c :: cs) value rest) :
    kind c = .string := by
  cases h <;> rfl

lemma TokenAt.ne_nil {cs rest : List Char} {t : Token} (h : TokenAt cs t rest) : cs ≠ [] := by
  rintro rfl
  cases h with
  | mark h => cases h
  | number h => cases h <;> simp_all [takeMinus, isWholePart]
  | string h => cases h

lemma TokenAt.unique {cs rest rest' : List Char} {t t' : Token} (h : TokenAt cs t rest)
    (h' : TokenAt cs t' rest') : t = t' ∧ rest = rest' := by
  obtain ⟨c, more, rfl⟩ := List.exists_cons_of_ne_nil h.ne_nil
  -- Tokens of two kinds would give their first character both kinds.
  cases h with
  | mark hm =>
    cases h' with
    | mark hm' =>
      obtain ⟨rfl, rfl⟩ := hm.unique hm'
      exact ⟨rfl, rfl⟩
    | name hs => cases hm.kind.symm.trans (kind_name hs)
    | number hn => cases hm.kind.symm.trans hn.kind
    | string hs => cases hm.kind.symm.trans hs.kind
  | name hs =>
    cases h' with
    | mark hm => cases hm.kind.symm.trans (kind_name hs)
    | name => exact ⟨rfl, rfl⟩
    | number hn => cases hn.kind.symm.trans (kind_name hs)
    | string hs' => cases hs'.kind.symm.trans (kind_name hs)
  | number hn =>
    cases h' with
    | mark hm => cases hm.kind.symm.trans hn.kind
    | name hs => cases hn.kind.symm.trans (kind_name hs)
    | number hn' => exact hn.unique hn'
    | string hs => cases hn.kind.symm.trans hs.kind
  | string hs =>
    cases h' with
    | mark hm => cases hm.kind.symm.trans hs.kind
    | name hs' => cases hs.kind.symm.trans (kind_name hs')
    | number hn => cases hn.kind.symm.trans hs.kind
    | string hs' =>
      obtain ⟨rfl, rfl⟩ := hs.unique hs'
      exact ⟨rfl, rfl⟩

lemma TokenAt.begins {c : Char} {cs rest : List Char} {t : Token} (h : TokenAt (c :: cs) t rest) :
    ¬ (IsIgnored c ∨ c = '#') := by
  intro hc
  obtain ⟨hk, hp, hd⟩ : kind c = .mark ∧ Punctuator.ofChar? c = none ∧ c ≠ '.' := by
    rcases hc with (rfl | rfl | rfl | rfl | rfl | rfl) | rfl <;> exact ⟨rfl, rfl, by decide⟩
  cases h with
  | mark hm =>
    cases hm with
    | char hp' => cases hp.symm.trans hp'
    | spread => exact hd rfl
  | name hs => cases hk.symm.trans (kind_name hs)
  | number hn => cases hk.symm.trans hn.kind
  | string hs => cases hk.symm.trans hs.kind

lemma Lexes.unique {cs : List Char} {ts us : List Token} (h : Lexes cs ts) (h' : Lexes cs us) :
    ts = us := by
  induction h generalizing us with
  | nil =>
    cases h' with
    | nil => rfl
    | token ht => exact absurd rfl ht.ne_nil
  | ignored hc _ ih =>
    cases h' with
    | ignored _ h' => exact ih h'
    | comment => exact absurd hc (by simp [IsIgnored])
    | token ht => exact absurd (.inl hc) ht.begins
  | comment _ ih =>
    cases h' with
    | ignored hc => exact absurd hc (by simp [IsIgnored])
    | comment h' => exact ih h'
    | token ht => exact absurd (.inr rfl) ht.begins
  | token ht _ ih =>
    cases h' with
    | nil => exact absurd rfl ht.ne_nil
    | ignored hc => exact absurd (.inl hc) ht.begins
    | comment => exact absurd (.inr rfl) ht.begins
    | token ht' h' =>
      obtain ⟨rfl, rfl⟩ := ht.unique ht'
      rw [ih h']

lemma Denotes.unique {text : String} {v w : Value} (h : Denotes text v) (h' : Denotes text w) :
    v = w := by
  obtain ⟨d, ts, hl, hc⟩ := h
  obtain ⟨e, us, hl', hc'⟩ := h'
  obtain rfl := hl.unique hl'
  exact hc.unique hc'

end Unambiguous

end GraphqlBindings.Language.Standard

import Mathlib.Data.List.Infix
import GraphqlBindings.Proofs.Code.Identifier
import GraphqlBindings.Proofs.Language.Spelling
import GraphqlBindings.Proofs.Naming.Calls
import GraphqlBindings.Proofs.Naming.Identifier
import GraphqlBindings.Proofs.Naming.Words

namespace GraphqlBindings

namespace Text

def IsAlnum (c : Char) : Prop := isAsciiLetter c = true ∨ isAsciiDigit c = true

lemma isAlnum_iff (c : Char) : IsAlnum c ↔
    (65 ≤ c.toNat ∧ c.toNat ≤ 90 ∨ 97 ≤ c.toNat ∧ c.toNat ≤ 122) ∨ 48 ≤ c.toNat ∧ c.toNat ≤ 57 := by
  rw [IsAlnum, isAsciiLetter, Bool.or_eq_true, isAsciiUpper_iff, isAsciiLower_iff, isAsciiDigit_iff]

lemma lt_of_alnum {c : Char} (h : IsAlnum c) : c.toNat < 128 := by
  rw [isAlnum_iff] at h
  omega

lemma toSmall_alnum {c : Char} (h : IsAlnum c) : ∃ d, toSmall c = [d] ∧ IsAlnum d := by
  rw [toSmall, if_pos (lt_of_alnum h)]
  rw [isAlnum_iff] at h
  refine ⟨_, rfl, ?_⟩
  rw [isAlnum_iff]
  split_ifs with hu
  · rw [isAsciiUpper_iff] at hu
    rw [toNat_ofNat_of_lt (by omega)]
    omega
  · exact h

lemma toCapital_alnum {c : Char} (h : IsAlnum c) : ∃ d, toCapital c = [d] ∧ IsAlnum d := by
  rw [toCapital, if_pos (lt_of_alnum h)]
  rw [isAlnum_iff] at h
  refine ⟨_, rfl, ?_⟩
  rw [isAlnum_iff]
  split_ifs with hl
  · rw [isAsciiLower_iff] at hl
    rw [toNat_ofNat_of_lt (by omega)]
    omega
  · exact h

lemma smallFrom_alnum {cs : List Char} (h : ∀ c ∈ cs, IsAlnum c) (before : List Char) :
    (smallFrom before cs).length = cs.length ∧ ∀ c ∈ smallFrom before cs, IsAlnum c := by
  induction cs generalizing before with
  | nil => simp [smallFrom]
  | cons c rest ih =>
    rw [List.forall_mem_cons] at h
    obtain ⟨d, hd, hdn⟩ := toSmall_alnum h.1
    obtain ⟨hl, ha⟩ := ih h.2 (c :: before)
    have hc : c ≠ 'Σ' := by
      rintro rfl
      exact absurd h.1 (by simp [isAlnum_iff])
    rw [smallFrom, if_neg hc, hd]
    exact ⟨by simp [hl], List.forall_mem_cons.mpr ⟨hdn, ha⟩⟩

lemma toSmallWord_alnum {word : List Char} (hn : word ≠ []) (h : ∀ c ∈ word, IsAlnum c) :
    toSmallWord word ≠ [] ∧ ∀ c ∈ toSmallWord word, IsAlnum c := by
  obtain ⟨hl, ha⟩ := smallFrom_alnum h []
  refine ⟨fun he => hn ?_, ha⟩
  rw [toSmallWord] at he
  rw [← List.length_eq_zero_iff, ← hl, he, List.length_nil]

lemma capitalize_alnum {word : List Char} (hn : word ≠ []) (h : ∀ c ∈ word, IsAlnum c) :
    capitalize word ≠ [] ∧ ∀ c ∈ capitalize word, IsAlnum c := by
  obtain ⟨c, rest, rfl⟩ := List.exists_cons_of_ne_nil hn
  rw [List.forall_mem_cons] at h
  obtain ⟨d, hd, hdn⟩ := toCapital_alnum h.1
  rw [capitalize, hd]
  refine ⟨by simp, List.forall_mem_cons.mpr ⟨hdn, ?_⟩⟩
  intro x hx
  obtain ⟨y, hy, hx⟩ := List.mem_flatMap.mp hx
  obtain ⟨z, hz, hzn⟩ := toSmall_alnum (h.2 y hy)
  rw [hz, List.mem_singleton] at hx
  exact hx ▸ hzn

end Text

open Text Code

namespace Naming

section Words

variable (n : Naming) {name : String}

structure Joined (cs : List Char) : Prop where
  head : ∀ c ∈ cs.head?, IsAlnum c
  mem : ∀ c ∈ cs, c = '_' ∨ IsAlnum c

lemma alnum_of_mem_words (h : Language.IsName name) {word : List Char} (hw : word ∈ n.words name) :
    word ≠ [] ∧ ∀ c ∈ word, IsAlnum c := by
  refine ⟨fun he => n.nil_notMem_words name (he ▸ hw), fun c hc => ?_⟩
  obtain ⟨hm, hs⟩ := n.mem_word hw hc
  have hname : Language.isNameChar c = true := by
    rw [Language.IsName] at h
    cases hl : name.toList with
    | nil => simp [hl] at hm
    | cons d rest =>
      simp only [hl, Language.isName, Bool.and_eq_true, List.all_eq_true] at h
      rcases List.mem_cons.mp (hl ▸ hm) with rfl | hr
      · rw [Language.isNameChar, h.1, Bool.true_or]
      · exact h.2 c hr
  simp only [isSeparator, Bool.or_eq_false_iff, beq_eq_false_iff_ne] at hs
  simpa [Language.isNameChar, Language.isNameStart, hs.1, IsAlnum] using hname

lemma joined_of_alnum {cs : List Char} (h : ∀ c ∈ cs, IsAlnum c) : Joined cs :=
  ⟨fun c hc => h c (List.mem_of_mem_head? hc), fun c hc => .inr (h c hc)⟩

lemma joined_intercalate {words : List (List Char)}
    (h : ∀ word ∈ words, word ≠ [] ∧ ∀ c ∈ word, IsAlnum c) : Joined (['_'].intercalate words) := by
  induction words with
  | nil => exact joined_of_alnum (by simp)
  | cons word rest ih =>
    rw [List.forall_mem_cons] at h
    cases rest with
    | nil => simpa [List.intercalate] using joined_of_alnum h.1.2
    | cons next more =>
      obtain ⟨c, cs, rfl⟩ := List.exists_cons_of_ne_nil h.1.1
      have hs : ['_'].intercalate ((c :: cs) :: next :: more) =
          c :: cs ++ '_' :: ['_'].intercalate (next :: more) := by
        simp [List.intercalate]
      rw [hs]
      constructor
      · intro d hd
        obtain rfl : c = d := by simpa using hd
        exact h.1.2 c List.mem_cons_self
      · intro d hd
        rcases List.mem_append.mp hd with hd | hd
        · exact .inr (h.1.2 d hd)
        · rcases List.mem_cons.mp hd with hd | hd
          · exact .inl hd
          · exact (ih h.2).mem d hd

lemma joined_snake (h : Language.IsName name) : Joined (n.snake name) := by
  apply joined_intercalate
  intro word hm
  obtain ⟨original, ho, rfl⟩ := List.mem_map.mp hm
  obtain ⟨hn, ha⟩ := n.alnum_of_mem_words h ho
  exact toSmallWord_alnum hn ha

lemma joined_pascal (h : Language.IsName name) : Joined (n.pascal name) := by
  apply joined_of_alnum
  intro c hc
  obtain ⟨word, hw, hc⟩ := List.mem_flatMap.mp hc
  obtain ⟨hn, ha⟩ := n.alnum_of_mem_words h hw
  exact (capitalize_alnum hn ha).2 c hc

end Words

section Legal

lemma isWordChar_ascii {c : Char} (h : c = '_' ∨ IsAlnum c) :
    Alphabet.ascii.isWordChar c = true := by
  rcases h with rfl | h
  · rfl
  · rw [Alphabet.isWordChar, if_pos (lt_of_alnum h), Bool.or_eq_true, Bool.or_eq_true]
    exact h.imp_left .inr

lemma all_isWordChar {cs : List Char} (h : ∀ c ∈ cs, c = '_' ∨ IsAlnum c) :
    cs.all Alphabet.ascii.isWordChar = true := by
  rw [List.all_eq_true]
  exact fun c hc => isWordChar_ascii (h c hc)

lemma isWord_orDefault {cs : List Char} (h : Joined cs) (default : List Char)
    (hd : Alphabet.ascii.isWord default = true) (hn : default ≠ ['_']) :
    Alphabet.ascii.isWord (orDefault cs default) = true ∧ orDefault cs default ≠ ['_'] := by
  cases cs with
  | nil => exact ⟨hd, hn⟩
  | cons c rest =>
    have hc : IsAlnum c := h.head c rfl
    have hall := all_isWordChar h.mem
    rw [orDefault]
    split_ifs with hdigit
    · refine ⟨?_, by simp⟩
      rw [Alphabet.isWord, hall]
      rfl
    · have hl : isAsciiLetter c = true := hc.resolve_right hdigit
      refine ⟨?_, ?_⟩
      · rw [Alphabet.isWord, Alphabet.isWordStart, if_pos (lt_of_alnum hc), hl, Bool.or_true,
          Bool.true_and]
        rw [List.all_cons, Bool.and_eq_true] at hall
        exact hall.2
      · rintro he
        rw [List.cons.injEq] at he
        exact absurd hl (by rw [he.1]; decide)

def IsLegal (ident : String) : Prop :=
  ∃ w : Word, w.text = ident ∧ w.IsIdentifier .ascii reservedWords ∧ (w.raw = true → w.name ∈ reservedWords)

lemma isLegal_plain {ident : String} (hw : Alphabet.ascii.IsWord ident) (hu : ident ≠ "_")
    (hr : ident ∉ reservedWords) : IsLegal ident :=
  ⟨⟨false, ident⟩, rfl, ⟨hw, hu, hr⟩, by simp⟩

lemma keywords_perm : keywords.Perm reservedWords := by decide +kernel

lemma isLegal_escapeIdent {ident : String} (hw : Alphabet.ascii.IsWord ident) (hu : ident ≠ "_") :
    IsLegal (escapeIdent ident) := by
  rw [escapeIdent]
  split_ifs with hp hk
  · have hall : ∀ word ∈ pathWords, Alphabet.ascii.IsWord (word ++ "_") ∧ word ++ "_" ≠ "_" ∧
        word ++ "_" ∉ reservedWords := by decide +kernel
    obtain ⟨h1, h2, h3⟩ := hall ident (List.contains_iff_mem.mp hp)
    exact isLegal_plain h1 h2 h3
  · rw [List.contains_iff_mem] at hp hk
    exact ⟨⟨true, ident⟩, rfl, ⟨hw, hu, hp⟩, fun _ => keywords_perm.mem_iff.mp hk⟩
  · rw [List.contains_iff_mem, keywords_perm.mem_iff] at hk
    exact isLegal_plain hw hu hk

lemma isWord_ofList {cs : List Char} (h : Alphabet.ascii.isWord cs = true ∧ cs ≠ ['_']) :
    Alphabet.ascii.IsWord (.ofList cs) ∧ String.ofList cs ≠ "_" := by
  refine ⟨by simpa [Alphabet.IsWord] using h.1, fun he => h.2 ?_⟩
  simpa using congrArg String.toList he

lemma isLegal_fieldIdent (n : Naming) {name : String} (h : Language.IsName name) :
    IsLegal (n.fieldIdent name) := by
  obtain ⟨hw, hu⟩ := isWord_ofList <|
    isWord_orDefault (n.joined_snake h) "field".toList (by decide) (by decide)
  exact isLegal_escapeIdent hw hu

def preludeNames : List String :=
  ["Self", "Box", "Option", "Result", "String", "Vec", "Serialize", "Deserialize"]

structure IsTypeName (ident : String) : Prop where
  isIdentifier : Word.IsIdentifier .ascii reservedWords ⟨false, ident⟩
  not_prelude : ident ∉ preludeNames

lemma IsTypeName.isLegal {ident : String} (h : IsTypeName ident) : IsLegal ident :=
  ⟨⟨false, ident⟩, rfl, h.isIdentifier, by simp⟩

lemma isTypeName_of_beginsLarge {ident : String} (hw : Alphabet.ascii.IsWord ident)
    (hu : ident ≠ "_") (hb : BeginsLarge ident) (hp : ident ∉ preludeNames) : IsTypeName ident := by
  have hreserved : ∀ word ∈ reservedWords, BeginsLarge word → word = "Self" := by decide +kernel
  refine ⟨⟨hw, hu, fun hm => hp ?_⟩, hp⟩
  rw [hreserved ident hm hb]
  decide

lemma isTypeName_typeIdent (n : Naming) {name : String} (h : Language.IsName name) :
    IsTypeName (n.typeIdent name) := by
  obtain ⟨hw, hu⟩ := isWord_ofList <|
    isWord_orDefault (n.joined_pascal h) "Value".toList (by decide) (by decide)
  have hmended : ∀ word ∈ usedTypeNames, Alphabet.ascii.IsWord (word ++ "Type") ∧
      word ++ "Type" ≠ "_" ∧ word ++ "Type" ∉ preludeNames := by decide +kernel
  have hident : Alphabet.ascii.IsWord (n.typeIdent name) ∧ n.typeIdent name ≠ "_" ∧
      n.typeIdent name ∉ preludeNames := by
    simp only [typeIdent]
    split_ifs with hused
    · exact hmended _ (List.contains_iff_mem.mp hused)
    · exact ⟨hw, hu, fun hm => hused (List.contains_iff_mem.mpr hm)⟩
  obtain ⟨hword, hunder, hprelude⟩ := hident
  exact isTypeName_of_beginsLarge hword hunder (n.beginsLarge_typeIdent name) hprelude

end Legal

section Numbered

lemma exists_numbered_toList (name : String) (k : Nat) : ∃ front d,
    (NameScope.numbered name k).toList = (NameScope.numberingStem name).toList ++ (front ++ [d]) ∧
      ∀ c ∈ front ++ [d], isAsciiDigit c = true := by
  have hn : Nat.toDigits 10 k ≠ [] := Nat.toDigits_ne_nil
  refine ⟨(Nat.toDigits 10 k).dropLast, (Nat.toDigits 10 k).getLast hn, ?_, ?_⟩
  · rw [List.dropLast_concat_getLast]
    simp [NameScope.numbered, Nat.toString_eq_repr, Nat.toList_repr]
  · rw [List.dropLast_concat_getLast]
    exact digit_of_mem_toDigits k

lemma not_meant_of_digit {ident : String} {front : List Char} {d : Char}
    (h : ident.toList = front ++ [d]) (hd : isAsciiDigit d = true) :
    ident ≠ "_" ∧ ident ∉ reservedWords ∧ ident ∉ preludeNames := by
  have hall : ∀ word ∈ "_" :: (reservedWords ++ preludeNames),
      word.toList.getLast?.any isAsciiDigit = false := by decide +kernel
  have hn : ident ∉ "_" :: (reservedWords ++ preludeNames) := by
    intro hm
    have := hall ident hm
    simp [h, hd] at this
  simpa using hn

lemma isTypeName_numbered {w : Word} (hw : Alphabet.ascii.IsWord w.name) (k : Nat) :
    IsTypeName (NameScope.numbered w.text k) := by
  obtain ⟨front, d, hl, hd⟩ := exists_numbered_toList w.text k
  have hlast := not_meant_of_digit (hl.trans (List.append_assoc _ _ _).symm) (hd d (by simp))
  refine ⟨⟨?_, hlast.1, hlast.2.1⟩, hlast.2.2⟩
  have hstem : ∃ more, (NameScope.numberingStem w.text).toList = w.name.toList ++ more ∧
      ∀ c ∈ more, c = '_' ∨ IsAlnum c := by
    rw [NameScope.numberingStem, stripRawMark_text hw]
    split
    · split_ifs
      · exact ⟨['_'], by simp, by simp⟩
      · exact ⟨[], by simp, by simp⟩
    · exact ⟨[], by simp, by simp⟩
  obtain ⟨more, hs, hm⟩ := hstem
  have hall : (more ++ (front ++ [d])).all Alphabet.ascii.isWordChar = true := by
    apply all_isWordChar
    intro c hc
    rcases List.mem_append.mp hc with hc | hc
    · exact hm c hc
    · exact .inr (.inr (hd c hc))
  rw [Alphabet.IsWord] at hw ⊢
  rw [hl, hs]
  cases hname : w.name.toList with
  | nil => simp [hname, Alphabet.isWord] at hw
  | cons c rest =>
    rw [hname, Alphabet.isWord, Bool.and_eq_true] at hw
    rw [List.append_assoc, List.cons_append, Alphabet.isWord, hw.1, List.all_append, hw.2, hall]
    rfl

lemma IsTypeName.numbered {ident : String} (h : IsTypeName ident) (k : Nat) :
    IsTypeName (NameScope.numbered ident k) :=
  isTypeName_numbered (w := ⟨false, ident⟩) h.isIdentifier.isWord k

end Numbered

section Scope

variable {n : Naming} {names : List String} (h : ∀ name ∈ names, Language.IsName name)
include h

lemma isLegal_fieldIdents {ident : String}
    (hi : ident ∈ (NameScope.empty.uniques (names.map n.fieldIdent)).1) : IsLegal ident := by
  obtain ⟨field, hf, hc⟩ := NameScope.mem_uniques hi
  obtain ⟨name, hm, rfl⟩ := List.mem_map.mp hf
  have hlegal := isLegal_fieldIdent n (h name hm)
  rcases hc with rfl | ⟨k, rfl⟩
  · exact hlegal
  · obtain ⟨w, hw, hident, _⟩ := hlegal
    exact hw ▸ (isTypeName_numbered hident.isWord k).isLegal

lemma isTypeName_typeIdents {ident : String}
    (hi : ident ∈ (NameScope.empty.uniques (names.map n.typeIdent)).1) : IsTypeName ident := by
  obtain ⟨type, hf, hc⟩ := NameScope.mem_uniques hi
  obtain ⟨name, hm, rfl⟩ := List.mem_map.mp hf
  have htype := isTypeName_typeIdent n (h name hm)
  rcases hc with rfl | ⟨k, rfl⟩
  · exact htype
  · exact htype.numbered k

end Scope

lemma IsLegal.ne_mark {a b : String} (ha : IsLegal a) (hb : IsLegal b) : a ≠ "r#" ++ b := by
  obtain ⟨w, rfl, hw, hr⟩ := ha
  obtain ⟨v, rfl, hv, _⟩ := hb
  intro he
  obtain ⟨hwr, hvr, hn⟩ := raw_of_text_eq hw.isWord he
  have hfree := hv.allowed
  simp only [hvr, Bool.false_eq_true, if_false] at hfree
  exact hfree (hn ▸ hr hwr)

/-- Identifiers handed out for a list of names are distinct, also without their marks, and legal:
a field's is a word that is not reserved, or a marked reserved one, and a type's has no mark and
none of the meanings that the generated code relies on. -/
theorem idents_legal (n : Naming) (names : List String)
    (h : ∀ name ∈ names, Language.IsName name) :
    let fields := (NameScope.empty.uniques (names.map n.fieldIdent)).1
    let types := (NameScope.empty.uniques (names.map n.typeIdent)).1
    (fields.length = names.length ∧ fields.Nodup ∧ (∀ ident ∈ fields, IsLegal ident) ∧
      ∀ a ∈ fields, ∀ b ∈ fields, a ≠ "r#" ++ b) ∧
    (types.length = names.length ∧ types.Nodup ∧ (∀ ident ∈ types, IsTypeName ident) ∧
      ∀ a ∈ types, ∀ b ∈ types, a ≠ "r#" ++ b) := by
  intro fields types
  have hf : ∀ ident ∈ fields, IsLegal ident := fun ident => isLegal_fieldIdents h
  have ht : ∀ ident ∈ types, IsTypeName ident := fun ident => isTypeName_typeIdents h
  refine ⟨⟨?_, (NameScope.nodup_uniques _ _).1, hf, ?_⟩,
    ⟨?_, (NameScope.nodup_uniques _ _).1, ht, ?_⟩⟩
  · rw [NameScope.length_uniques, List.length_map]
  · exact fun a ha b hb => (hf a ha).ne_mark (hf b hb)
  · rw [NameScope.length_uniques, List.length_map]
  · exact fun a ha b hb => (ht a ha).isLegal.ne_mark (ht b hb).isLegal

theorem idents_legal_clashes :
    let names := ["type", "_Type", "self", "Self_", "__", "_2", "String", "STRING"]
    (∀ name ∈ names, Language.IsName name) ∧
    (let fields := (NameScope.empty.uniques (names.map (⟨true⟩ : Naming).fieldIdent)).1
    let types := (NameScope.empty.uniques (names.map (⟨true⟩ : Naming).typeIdent)).1
    (fields.length = names.length ∧ fields.Nodup ∧ (∀ ident ∈ fields, IsLegal ident) ∧
      ∀ a ∈ fields, ∀ b ∈ fields, a ≠ "r#" ++ b) ∧
    (types.length = names.length ∧ types.Nodup ∧ (∀ ident ∈ types, IsTypeName ident) ∧
      ∀ a ∈ types, ∀ b ∈ types, a ≠ "r#" ++ b)) := by
  have h : ∀ name ∈ ["type", "_Type", "self", "Self_", "__", "_2", "String", "STRING"],
      Language.IsName name := by decide
  exact ⟨h, idents_legal ⟨true⟩ _ h⟩

end Naming

end GraphqlBindings

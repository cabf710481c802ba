import Mathlib.Tactic.Lemma
import GraphqlBindings.Proofs.Naming.Scope
import GraphqlBindings.Proofs.Text

namespace GraphqlBindings

namespace Text

lemma not_isAsciiLower_ofNat {n : Nat} (h : n < 97 ∨ 122 < n) :
    isAsciiLower (Char.ofNat n) = false := by
  rw [← Bool.not_eq_true, isAsciiLower_iff]
  by_cases hv : n.isValidChar
  · have : (Char.ofNat n).toNat = n := by rw [Char.ofNat, dif_pos hv]; rfl
    omega
  · have : (Char.ofNat n).toNat = 0 := by rw [Char.ofNat, dif_neg hv]; rfl
    omega

lemma toCapitalSequences_head : ∀ entry ∈ toCapitalSequences.toList,
    entry.2.head?.map (fun code => isAsciiLower (Char.ofNat code)) = some false := by
  decide +kernel

lemma toCapitalOffsets_bounds : ∀ entry ∈ toCapitalOffsets.toList,
    (entry.2.1 : Int) + entry.2.2.2 < 97 ∨ 122 < (entry.1 : Int) + entry.2.2.2 := by
  decide +kernel

lemma mapCode_toCapital_head (c : Char) (hc : 128 ≤ c.toNat) :
    (mapCode toCapitalSequences toCapitalOffsets c).head?.map isAsciiLower = some false := by
  unfold mapCode
  split
  · next codes hs =>
    have he := toCapitalSequences_head _ (Array.mem_toList_iff.mpr (Array.mem_of_find?_eq_some hs))
    simpa [List.head?_map, Function.comp_def] using he
  · dsimp only
    split
    · next first last step offset ho =>
      have hb := toCapitalOffsets_bounds _
        (Array.mem_toList_iff.mpr (Array.mem_of_find?_eq_some ho))
      have hin := Array.find?_some ho
      simp only [Stretch.contains, Bool.and_eq_true, decide_eq_true_eq] at hin hb
      simp only [List.head?_cons, Option.map_some, Option.some.injEq]
      apply not_isAsciiLower_ofNat
      omega
    · simp only [List.head?_cons, Option.map_some, Option.some.injEq]
      rw [← Bool.not_eq_true, isAsciiLower_iff]
      omega

lemma toCapital_head (c : Char) : (toCapital c).head?.map isAsciiLower = some false := by
  unfold toCapital
  split
  · simp only [List.head?_cons, Option.map_some, Option.some.injEq]
    split
    · next hl =>
      rw [isAsciiLower_iff] at hl
      exact not_isAsciiLower_ofNat (by omega)
    · next hl => simpa using hl
  · exact mapCode_toCapital_head c (by omega)

end Text

namespace Naming

open Text

def BeginsLarge (name : String) : Prop := name.toList.head?.map isAsciiLower = some false

instance (name : String) : Decidable (BeginsLarge name) :=
  inferInstanceAs (Decidable (_ = some false))

lemma BeginsLarge.append {a : String} (h : BeginsLarge a) (b : String) : BeginsLarge (a ++ b) := by
  unfold BeginsLarge at *
  rw [String.toList_append]
  cases hl : a.toList with
  | nil => simp [hl] at h
  | cons c rest => simpa [hl] using h

lemma capitalize_head (word : List Char) (hw : word ≠ []) :
    (capitalize word).head?.map isAsciiLower = some false := by
  cases word with
  | nil => exact absurd rfl hw
  | cons c rest =>
    have hc := toCapital_head c
    cases hl : toCapital c with
    | nil => simp [hl] at hc
    | cons d others => simpa [capitalize, hl] using hc

lemma pascal_head (words : List (List Char)) :
    words.flatMap capitalize = [] ∨
      (words.flatMap capitalize).head?.map isAsciiLower = some false := by
  induction words with
  | nil => exact Or.inl rfl
  | cons word rest ih =>
    by_cases hw : word = []
    · simpa [hw, capitalize] using ih
    · right
      have hc := capitalize_head word hw
      cases hl : capitalize word with
      | nil => simp [hl] at hc
      | cons c others => simpa [hl] using hc

lemma orDefault_head (ident default : List Char)
    (hi : ident = [] ∨ ident.head?.map isAsciiLower = some false)
    (hd : default.head?.map isAsciiLower = some false) :
    (orDefault ident default).head?.map isAsciiLower = some false := by
  cases ident with
  | nil => exact hd
  | cons c rest =>
    simp only [orDefault]
    split
    · rfl
    · simpa using hi

lemma beginsLarge_typeIdent (n : Naming) (name : String) : BeginsLarge (n.typeIdent name) := by
  have h : BeginsLarge (.ofList (orDefault (n.pascal name) "Value".toList)) := by
    unfold BeginsLarge
    rw [String.toList_ofList]
    exact orDefault_head _ _ (pascal_head _) (by decide)
  unfold typeIdent
  dsimp only
  split
  · exact h.append _
  · exact h

lemma typeIdent_ne_string (n : Naming) (name : String) : n.typeIdent name ≠ "String" := by
  unfold typeIdent
  dsimp only
  split
  · intro h
    have := congrArg (fun s => s.toList.reverse.head?) h
    simp at this
  · next h =>
    rintro he
    rw [he] at h
    exact h (by decide)

lemma stripRawMark_of_beginsLarge {name : String} (h : BeginsLarge name) :
    stripRawMark name = name := by
  unfold stripRawMark
  split
  · next rest hl =>
    simp only [BeginsLarge, hl, List.head?_cons, Option.map_some, Option.some.injEq] at h
    exact absurd h (by decide)
  · rfl

lemma BeginsLarge.free_eq_append {name : String} (h : BeginsLarge name) (s : NameScope) :
    ∃ suffix, s.free name = name ++ suffix := by
  rcases s.free_eq_self_or_numbered name with he | ⟨k, he⟩
  · exact ⟨"", by simpa using he⟩
  · simp only [NameScope.numbered, NameScope.numberingStem, stripRawMark_of_beginsLarge h] at he
    split at he
    · split at he
      · exact ⟨_, he.trans String.append_assoc⟩
      · exact ⟨_, he⟩
    · exact ⟨_, he⟩

lemma BeginsLarge.free {name : String} (h : BeginsLarge name) (s : NameScope) :
    BeginsLarge (s.free name) := by
  obtain ⟨suffix, he⟩ := h.free_eq_append s
  exact he ▸ h.append suffix

lemma free_typeIdent_ne_string (n : Naming) (s : NameScope) (name : String) :
    s.free (n.typeIdent name) ≠ "String" := by
  rcases s.free_eq_self_or_numbered (n.typeIdent name) with he | ⟨k, he⟩
  · rw [he]
    exact n.typeIdent_ne_string name
  · intro h
    obtain ⟨c, hc, hd⟩ := NameScope.exists_digit_numbered (n.typeIdent name) k
    rw [← he, h] at hc
    have : ∀ c ∈ "String".toList, c.isDigit = false := by simp
    simp [this c hc] at hd

end Naming

end GraphqlBindings

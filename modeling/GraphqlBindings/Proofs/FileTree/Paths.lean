import Mathlib.Data.List.Basic
import Mathlib.Tactic.Lemma
import GraphqlBindings.FileTree.Lookup

namespace GraphqlBindings

namespace Path

def IsName (name : String) : Prop :=
  name ≠ "" ∧ '/' ∉ name.toList ∧ name ≠ "." ∧ name ≠ ".."

instance (name : String) : Decidable (IsName name) :=
  inferInstanceAs (Decidable (_ ∧ _ ∧ _ ∧ _))

variable {path base name : String} {here : FileTree.Place}

lemma splitNames_ne_nil (cs : List Char) : splitNames cs ≠ [] := by
  cases cs with
  | nil => simp [splitNames]
  | cons c rest =>
    rw [splitNames]
    split
    · simp
    · split <;> simp

lemma splitNames_append (a b : List Char) :
    splitNames (a ++ '/' :: b) = splitNames a ++ splitNames b := by
  induction a with
  | nil => simp [splitNames]
  | cons c rest ih =>
    rw [List.cons_append, splitNames, splitNames]
    split
    · simp [ih]
    · rw [ih]
      cases h : splitNames rest with
      | nil => exact absurd h (splitNames_ne_nil rest)
      | cons first others => rfl

lemma splitNames_of_not_mem {cs : List Char} (h : '/' ∉ cs) : splitNames cs = [cs] := by
  induction cs with
  | nil => rfl
  | cons c rest ih =>
    simp only [List.mem_cons, not_or] at h
    rw [splitNames, if_neg (Ne.symm h.1), ih h.2]

lemma names_of_isName (h : IsName name) : names name = [name] := by
  simp [names, splitNames_of_not_mem h.2.1, h.1]

lemma eq_slash_of_names (h : names path = []) : ∀ c ∈ path.toList, c = '/' := by
  have key (cs : List Char) : (splitNames cs).filter (!·.isEmpty) = [] → ∀ c ∈ cs, c = '/' := by
    induction cs with
    | nil => simp
    | cons c rest ih =>
      intro h
      rw [splitNames] at h
      split at h
      · next hc =>
        have hr : (splitNames rest).filter (!·.isEmpty) = [] := by simpa using h
        intro d hd
        rcases List.mem_cons.mp hd with rfl | hd
        · exact hc
        · exact ih hr d hd
      · split at h <;> simp at h
  exact key path.toList (by simpa [names] using h)

lemma names_ne_nil (h : path ≠ "") (ha : isAbsolute path = false) : names path ≠ [] := by
  intro hn
  have hs := eq_slash_of_names hn
  cases hp : path.toList with
  | nil => exact h (String.toList_eq_nil_iff.mp hp)
  | cons c rest => simp [isAbsolute, hp, hs c (by simp [hp])] at ha

lemma ancestors_of_ne (h : path ≠ "") : ∃ above, ancestors path = path :: above := by
  have hl : path.length ≠ 0 := by simpa using h
  obtain ⟨n, hn⟩ := Nat.exists_eq_succ_of_ne_zero hl
  exact ⟨upwards n (parent path), by simp [ancestors, hn, upwards, h]⟩

lemma ne_empty_of_mem_ancestors {above : String} (h : above ∈ ancestors path) : above ≠ "" := by
  rw [ancestors] at h
  generalize path.length = count at h
  induction count generalizing path with
  | zero => simp [upwards] at h
  | succ count ih =>
    rw [upwards] at h
    split at h
    · simp at h
    · next hp =>
      rcases List.mem_cons.mp h with rfl | h
      · simpa using hp
      · exact ih h

lemma isAbsolute_of_isName (h : IsName name) : isAbsolute name = false := by
  rw [isAbsolute, beq_eq_false_iff_ne]
  intro hs
  exact h.2.1 (List.mem_of_head? hs)

lemma endsInSlash_of_isName (h : IsName name) : endsInSlash name = false := by
  rw [endsInSlash, beq_eq_false_iff_ne]
  intro hs
  exact h.2.1 (List.mem_of_getLast? hs)

lemma join_of_empty : join "" name = name := by simp [join]

lemma toList_join (hb : base ≠ "") (h : IsName name) :
    ∃ cs, (join base name).toList = cs ++ '/' :: name.toList ∧
      (base.toList = cs ∨ base.toList = cs ++ ['/']) := by
  have ha := isAbsolute_of_isName h
  by_cases he : endsInSlash base
  · have hl : base.toList.getLast? = some '/' := by simpa [endsInSlash] using he
    obtain ⟨cs, hcs⟩ := List.getLast?_eq_some_iff.mp hl
    exact ⟨cs, by simp [join, ha, hb, he, hcs], Or.inr hcs⟩
  · exact ⟨base.toList, by simp [join, ha, hb, he], Or.inl rfl⟩

lemma names_join (hb : base ≠ "") (h : IsName name) :
    names (join base name) = names base ++ [name] := by
  obtain ⟨cs, hj, hc⟩ := toList_join hb h
  have hn := names_of_isName h
  rw [names] at hn
  rw [names, hj, splitNames_append, List.filter_append, List.map_append, hn, names]
  rcases hc with hc | hc <;> simp [hc, splitNames_append, splitNames]

lemma endsInSlash_join (hb : base ≠ "") (h : IsName name) :
    endsInSlash (join base name) = false := by
  obtain ⟨cs, hj, -⟩ := toList_join hb h
  have hl := endsInSlash_of_isName h
  have hne : name.toList ≠ [] := fun hn => h.1 (String.toList_eq_nil_iff.mp hn)
  obtain ⟨init, last, hi⟩ := (List.eq_nil_or_concat' name.toList).resolve_left hne
  simp only [endsInSlash, hj, hi] at hl ⊢
  simpa [List.getLast?_append, List.getLast?_cons] using hl

lemma isAbsolute_join (hb : base ≠ "") (h : IsName name) :
    isAbsolute (join base name) = isAbsolute base := by
  obtain ⟨cs, hj, hc⟩ := toList_join hb h
  have hne : base.toList ≠ [] := fun hn => hb (String.toList_eq_nil_iff.mp hn)
  rw [isAbsolute, isAbsolute, hj]
  rcases hc with hc | hc
  · obtain ⟨c, rest, hcs⟩ := List.exists_cons_of_ne_nil (hc ▸ hne)
    simp [hc, hcs]
  · cases cs <;> simp [hc]

lemma join_ne_empty (h : IsName name) : join base name ≠ "" := by
  by_cases hb : base = ""
  · rw [hb, join_of_empty]
    exact h.1
  · obtain ⟨cs, hj, -⟩ := toList_join hb h
    intro he
    simp [he] at hj

lemma extension?_join (h : IsName name) : extension? (join base name) = extension? name := by
  by_cases hb : base = ""
  · rw [hb, join_of_empty]
  · rw [extension?, extension?, names_join hb h, names_of_isName h, List.getLast?_concat]
    rfl

end Path

namespace FileTree

open GraphqlBindings.Path

variable {path base name : String} {here : Place}

lemma steps_ne_nil (h : path ≠ "") : steps path ≠ [] := by
  intro hs
  obtain ⟨hn, he⟩ := List.append_eq_nil_iff.mp hs
  have hne : path.toList ≠ [] := fun hn => h (String.toList_eq_nil_iff.mp hn)
  have hl : path.toList.getLast? = some '/' := by
    rw [List.getLast?_eq_getLast_of_ne_nil hne, eq_slash_of_names hn _ (List.getLast_mem hne)]
  simp [endsInSlash, hl] at he

lemma steps_of_isName (h : IsName name) : steps name = [name] := by
  simp [steps, names_of_isName h, endsInSlash_of_isName h]

lemma startOf_of_isName (h : IsName name) : startOf here name = here := by
  simp [startOf, isAbsolute_of_isName h]

lemma steps_join (hb : base ≠ "") (h : IsName name) :
    steps (join base name) = names base ++ [name] := by
  simp [steps, names_join hb h, endsInSlash_join hb h]

lemma startOf_join (hb : base ≠ "") (h : IsName name) :
    startOf here (join base name) = startOf here base := by
  simp [startOf, isAbsolute_join hb h]

end FileTree

end GraphqlBindings

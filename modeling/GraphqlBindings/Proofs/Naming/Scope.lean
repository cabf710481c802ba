import Mathlib.Data.List.Nodup
import Mathlib.Data.List.Perm.Subperm
import Mathlib.Tactic.Lemma
import GraphqlBindings.Naming.Identifier

namespace GraphqlBindings.NameScope

@[simp] lemma taken_empty : empty.taken = [] := rfl

@[simp] lemma taken_insert (s : NameScope) (name : String) :
    (s.insert name).taken = name :: s.taken := rfl

@[simp] lemma contains_iff (s : NameScope) (name : String) :
    s.contains name = true ↔ name ∈ s.taken := by
  simp [contains]

@[simp] lemma contains_eq_false_iff (s : NameScope) (name : String) :
    s.contains name = false ↔ name ∉ s.taken := by
  simp [contains]

lemma numbered_injective (name : String) : Function.Injective (numbered name) := by
  intro j k h
  have hs : (toString j).toList = (toString k).toList := by
    have := congrArg String.toList h
    simpa only [numbered, String.toList_append, List.append_cancel_left_eq] using this
  have hd : Nat.toDigits 10 j = Nat.toDigits 10 k := by
    simpa only [Nat.toString_eq_repr, Nat.toList_repr] using hs
  simpa using congrArg (fun digits => Nat.ofDigitChars 10 digits 0) hd

lemma exists_digit_numbered (name : String) (k : Nat) :
    ∃ c ∈ (numbered name k).toList, c.isDigit = true := by
  obtain ⟨c, hc⟩ := List.exists_mem_of_ne_nil (Nat.toDigits 10 k) Nat.toDigits_ne_nil
  refine ⟨c, ?_, Nat.isDigit_of_mem_toDigits (by omega) (by omega) hc⟩
  simpa [numbered, Nat.toString_eq_repr, Nat.toList_repr] using Or.inr hc

lemma exists_numbered_free (s : NameScope) (name : String) :
    ∃ k ∈ List.range (s.taken.length + 1), numbered name (k + 2) ∉ s.taken := by
  by_contra h
  push Not at h
  let candidates := (List.range (s.taken.length + 1)).map fun k => numbered name (k + 2)
  have hd : candidates.Nodup := by
    refine List.Nodup.map ?_ List.nodup_range
    intro j k hjk
    have := numbered_injective name hjk
    omega
  have hs : candidates ⊆ s.taken := by
    intro candidate hc
    obtain ⟨k, hk, rfl⟩ := List.mem_map.mp hc
    exact h k hk
  have hl := (List.subperm_of_subset hd hs).length_le
  simp only [candidates, List.length_map, List.length_range] at hl
  omega

lemma free_eq_numbered {s : NameScope} {name : String} (h : name ∈ s.taken) :
    ∃ k, s.free name = numbered name (k + 2) ∧ numbered name (k + 2) ∉ s.taken ∧
      ∀ j < k, numbered name (j + 2) ∈ s.taken := by
  obtain ⟨k, hk, hf⟩ := s.exists_numbered_free name
  let isFree k := !s.contains (numbered name (k + 2))
  obtain ⟨i, hi⟩ : ∃ i, (List.range (s.taken.length + 1)).find? isFree = some i := by
    rw [← Option.isSome_iff_exists, List.find?_isSome]
    exact ⟨k, hk, by simpa [isFree] using hf⟩
  refine ⟨i, ?_, ?_, ?_⟩
  · have hc : s.contains name = true := (s.contains_iff name).mpr h
    simp only [free, hc, if_true, isFree] at hi ⊢
    rw [hi, Option.getD_some]
  · simpa [isFree] using List.find?_some hi
  · intro j hj
    have := List.find?_range_eq_some.mp hi
    simpa [isFree] using this.2.2 j hj

lemma free_eq_self {s : NameScope} {name : String} (h : name ∉ s.taken) : s.free name = name := by
  simp [free, (s.contains_eq_false_iff name).mpr h]

lemma free_notMem (s : NameScope) (name : String) : s.free name ∉ s.taken := by
  by_cases h : name ∈ s.taken
  · obtain ⟨k, he, hf, _⟩ := free_eq_numbered h
    rwa [he]
  · rwa [free_eq_self h]

lemma free_eq_self_or_numbered (s : NameScope) (name : String) :
    s.free name = name ∨ ∃ k, s.free name = numbered name k := by
  by_cases h : name ∈ s.taken
  · obtain ⟨k, he, _⟩ := free_eq_numbered h
    exact Or.inr ⟨_, he⟩
  · exact Or.inl (free_eq_self h)

@[simp] lemma unique_fst (s : NameScope) (name : String) : (s.unique name).1 = s.free name := rfl

@[simp] lemma unique_snd (s : NameScope) (name : String) :
    (s.unique name).2 = s.insert (s.free name) := rfl

lemma nodup_insert_free {s : NameScope} (h : s.taken.Nodup) (name : String) :
    (s.insert (s.free name)).taken.Nodup :=
  List.nodup_cons.mpr ⟨s.free_notMem name, h⟩

lemma length_uniques (s : NameScope) (names : List String) :
    (s.uniques names).1.length = names.length := by
  induction names generalizing s with
  | nil => rfl
  | cons name rest ih => simp [uniques, ih]

lemma mem_uniques {s : NameScope} {names : List String} {ident : String}
    (h : ident ∈ (s.uniques names).1) :
    ∃ name ∈ names, ident = name ∨ ∃ k, ident = numbered name k := by
  induction names generalizing s with
  | nil => simp [uniques] at h
  | cons name rest ih =>
    rcases List.mem_cons.mp h with rfl | h
    · exact ⟨name, List.mem_cons_self, s.free_eq_self_or_numbered name⟩
    · obtain ⟨other, hm, hc⟩ := ih h
      exact ⟨other, List.mem_cons_of_mem _ hm, hc⟩

end GraphqlBindings.NameScope

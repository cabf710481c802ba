import GraphqlBindings.Generator.Response
import GraphqlBindings.Proofs.Lists

/-! Selections seen from outside: what is selected under a path of response keys, by all fields at
once that stand there. Nothing is merged. -/

namespace GraphqlBindings

def Selection.key? : Selection → Option String
  | .field label name _ _ => some (responseKey label name)
  | _ => none

def responseKeys (selections : List Selection) : List String :=
  (selections.filterMap Selection.key?).eraseDups

def Selection.under (key : String) : Selection → List Selection
  | .field label name _ inner => if responseKey label name = key then inner else []
  | _ => []

def under (key : String) (selections : List Selection) : List Selection :=
  selections.flatMap (Selection.under key)

def selectionsAt (selections : List Selection) : List String → List Selection
  | [] => selections
  | key :: path => selectionsAt (under key selections) path

inductive HasFragment : List Selection → Prop
  | inlineFragment {selections : List Selection} {condition : Option String} :
      .inlineFragment condition ∈ selections → HasFragment selections
  | fragmentSpread {selections : List Selection} {name : String} :
      .fragmentSpread name ∈ selections → HasFragment selections
  | inside {selections inner : List Selection} {label : Option String} {name : String}
      {definition : SchemaField} : .field label name definition inner ∈ selections →
      HasFragment inner → HasFragment selections

def KeyClash (selections : List Selection) : Prop :=
  ∃ label name definition inner label' name' definition' inner',
    .field label name definition inner ∈ selections ∧
    .field label' name' definition' inner' ∈ selections ∧
    responseKey label name = responseKey label' name' ∧ name ≠ name'

def KeyConflict (selections : List Selection) : Prop :=
  ∃ path, KeyClash (selectionsAt selections path)

@[simp] lemma mem_responseKeys {key : String} {selections : List Selection} :
    key ∈ responseKeys selections ↔ ∃ label name definition inner,
      .field label name definition inner ∈ selections ∧ responseKey label name = key := by
  simp only [responseKeys, List.mem_eraseDups, List.mem_filterMap]
  constructor
  · rintro ⟨s, hs, hk⟩
    cases s with
    | field label name definition inner =>
      exact ⟨label, name, definition, inner, hs, by simpa [Selection.key?] using hk⟩
    | inlineFragment condition => simp [Selection.key?] at hk
    | fragmentSpread name => simp [Selection.key?] at hk
  · rintro ⟨label, name, definition, inner, hs, rfl⟩
    exact ⟨_, hs, rfl⟩

lemma nodup_responseKeys (selections : List Selection) : (responseKeys selections).Nodup :=
  nodup_eraseDups _

lemma under_append (key : String) (a b : List Selection) :
    under key (a ++ b) = under key a ++ under key b := List.flatMap_append

lemma mem_under {key : String} {s : Selection} {selections : List Selection} :
    s ∈ under key selections ↔ ∃ label name definition inner,
      .field label name definition inner ∈ selections ∧ responseKey label name = key ∧
        s ∈ inner := by
  simp only [under, List.mem_flatMap]
  constructor
  · rintro ⟨t, ht, hs⟩
    cases t with
    | field label name definition inner =>
      simp only [Selection.under] at hs
      split at hs
      · next hk => exact ⟨label, name, definition, inner, ht, hk, hs⟩
      · simp at hs
    | inlineFragment condition => simp [Selection.under] at hs
    | fragmentSpread name => simp [Selection.under] at hs
  · rintro ⟨label, name, definition, inner, ht, hk, hs⟩
    exact ⟨_, ht, by simpa [Selection.under, hk] using hs⟩

lemma under_eq_nil {key : String} {selections : List Selection}
    (h : key ∉ responseKeys selections) : under key selections = [] := by
  rw [List.eq_nil_iff_forall_not_mem]
  intro s hs
  obtain ⟨label, name, definition, inner, ht, hk, _⟩ := mem_under.mp hs
  exact h (mem_responseKeys.mpr ⟨label, name, definition, inner, ht, hk⟩)

@[simp] lemma selectionsAt_empty (path : List String) : selectionsAt [] path = [] := by
  induction path with
  | nil => rfl
  | cons key path ih => exact ih

lemma not_keyClash_nil : ¬ KeyClash [] := by
  rintro ⟨label, name, definition, inner, _, _, _, _, h, _⟩
  simp at h

lemma keyConflict_iff {selections : List Selection} :
    KeyConflict selections ↔
      KeyClash selections ∨
        ∃ key ∈ responseKeys selections, KeyConflict (under key selections) := by
  constructor
  · rintro ⟨path, h⟩
    cases path with
    | nil => exact Or.inl h
    | cons key path =>
      by_cases hk : key ∈ responseKeys selections
      · exact Or.inr ⟨key, hk, path, h⟩
      · rw [selectionsAt, under_eq_nil hk, selectionsAt_empty] at h
        exact absurd h not_keyClash_nil
  · rintro (h | ⟨key, _, path, h⟩)
    · exact ⟨[], h⟩
    · exact ⟨key :: path, h⟩

lemma KeyClash.keyConflict {selections : List Selection} (h : KeyClash selections) :
    KeyConflict selections := ⟨[], h⟩

lemma HasFragment.mono {a b : List Selection} (h : HasFragment a) (hs : a ⊆ b) :
    HasFragment b := by
  cases h with
  | inlineFragment h => exact .inlineFragment (hs h)
  | fragmentSpread h => exact .fragmentSpread (hs h)
  | inside h hi => exact .inside (hs h) hi

lemma HasFragment.of_under {key : String} {selections : List Selection}
    (h : HasFragment (under key selections)) : HasFragment selections := by
  cases h with
  | inlineFragment h =>
    obtain ⟨_, _, _, _, ht, _, hs⟩ := mem_under.mp h
    exact .inside ht (.inlineFragment hs)
  | fragmentSpread h =>
    obtain ⟨_, _, _, _, ht, _, hs⟩ := mem_under.mp h
    exact .inside ht (.fragmentSpread hs)
  | inside h hi =>
    obtain ⟨_, _, _, _, ht, _, hs⟩ := mem_under.mp h
    exact .inside ht (.inside hs hi)

lemma hasFragment_cons {s : Selection} {rest : List Selection} :
    HasFragment (s :: rest) ↔ HasFragment [s] ∨ HasFragment rest := by
  constructor
  · intro h
    cases h with
    | inlineFragment h =>
      rcases List.mem_cons.mp h with rfl | h
      · exact Or.inl (.inlineFragment (List.mem_singleton_self _))
      · exact Or.inr (.inlineFragment h)
    | fragmentSpread h =>
      rcases List.mem_cons.mp h with rfl | h
      · exact Or.inl (.fragmentSpread (List.mem_singleton_self _))
      · exact Or.inr (.fragmentSpread h)
    | inside h hi =>
      rcases List.mem_cons.mp h with rfl | h
      · exact Or.inl (.inside (List.mem_singleton_self _) hi)
      · exact Or.inr (.inside h hi)
  · rintro (h | h)
    · exact h.mono (by simp)
    · exact h.mono (by simp)

end GraphqlBindings

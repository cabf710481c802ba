import Mathlib.Data.List.Nodup
import Mathlib.Data.List.Perm.Basic
import Mathlib.Tactic.Lemma
import GraphqlBindings.Schema.Basic

namespace GraphqlBindings.Schema

variable {s : Schema} {name : String} {t : SchemaType}

lemma indexed?_mem (h : s.indexed? name = some t) : t ∈ s.types ∧ t.name = name := by
  simp only [indexed?, Option.bind_eq_bind, Option.bind_eq_some_iff] at h
  obtain ⟨i, _, t', ht, he⟩ := h
  split at he
  · next hn =>
    obtain rfl := Option.some.inj he
    exact ⟨List.mem_of_getElem? ht, hn⟩
  · simp at he

lemma get?_mem (h : s.get? name = some t) : t ∈ s.types ∧ t.name = name := by
  rw [get?, Option.or_eq_some_iff] at h
  rcases h with h | ⟨_, h⟩
  · exact indexed?_mem h
  · exact ⟨List.mem_of_find?_eq_some h, by simpa using List.find?_some h⟩

lemma eq_of_name_eq (hd : (s.types.map SchemaType.name).Nodup) {t t' : SchemaType}
    (ht : t ∈ s.types) (ht' : t' ∈ s.types) (h : t.name = t'.name) : t = t' :=
  List.inj_on_of_nodup_map hd ht ht' h

lemma get?_isSome (h : t ∈ s.types) : (s.get? t.name).isSome := by
  rw [get?, Option.isSome_or, Bool.or_eq_true]
  right
  rw [List.find?_isSome]
  exact ⟨t, h, by simp⟩

lemma get?_eq_some_iff (hd : (s.types.map SchemaType.name).Nodup) :
    s.get? name = some t ↔ t ∈ s.types ∧ t.name = name := by
  constructor
  · exact get?_mem
  · rintro ⟨ht, rfl⟩
    obtain ⟨t', ht'⟩ := Option.isSome_iff_exists.mp (get?_isSome ht)
    obtain ⟨hm, hn⟩ := get?_mem ht'
    rw [ht', eq_of_name_eq hd hm ht hn]

lemma userTypes_perm (s : Schema) : s.userTypes.Perm (s.types.filter s.isUserType) :=
  List.mergeSort_perm ..

lemma mem_userTypes : t ∈ s.userTypes ↔ t ∈ s.types ∧ s.isUserType t = true := by
  rw [s.userTypes_perm.mem_iff, List.mem_filter]

lemma pairwise_userTypes (s : Schema) : s.userTypes.Pairwise fun a b => a.name ≤ b.name := by
  have ht : ∀ a b c : SchemaType, decide (a.name ≤ b.name) = true →
      decide (b.name ≤ c.name) = true → decide (a.name ≤ c.name) = true := by
    intro a b c hab hbc
    exact decide_eq_true (String.le_trans (of_decide_eq_true hab) (of_decide_eq_true hbc))
  have hl : ∀ a b : SchemaType, (decide (a.name ≤ b.name) || decide (b.name ≤ a.name)) = true := by
    intro a b
    simpa using String.le_total a.name b.name
  exact (List.pairwise_mergeSort ht hl _).imp of_decide_eq_true

lemma nodup_userTypes (s : Schema) (hd : (s.types.map SchemaType.name).Nodup) :
    (s.userTypes.map SchemaType.name).Nodup := by
  rw [(s.userTypes_perm.map SchemaType.name).nodup_iff]
  exact (List.filter_sublist.map SchemaType.name).nodup hd

end GraphqlBindings.Schema

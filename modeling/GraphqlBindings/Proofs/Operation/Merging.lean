import GraphqlBindings.Proofs.Operation.Paths

/-! Merging of repeated keys, against what is selected under paths of keys: groups hold all that
stands under their keys, and merging fails exactly where a key stands for two fields. -/

namespace GraphqlBindings

structure Merges (groups : List KeyGroup) (selections : List Selection) : Prop where
  keys : groups.map KeyGroup.key = responseKeys selections
  inner : ∀ g ∈ groups, g.selections = under g.key selections
  named : ∀ g ∈ groups, ∀ label name definition inner,
    .field label name definition inner ∈ selections → responseKey label name = g.key →
      name = g.name
  occurs : ∀ g ∈ groups, ∃ label inner,
    .field label g.name g.definition inner ∈ selections ∧ responseKey label g.name = g.key

lemma keys_addField {new : KeyGroup} {groups result : List KeyGroup}
    (h : addField new groups = .ok result) :
    result.map KeyGroup.key =
      if new.key ∈ groups.map KeyGroup.key then groups.map KeyGroup.key
      else groups.map KeyGroup.key ++ [new.key] := by
  induction groups generalizing result with
  | nil =>
    simp only [addField, Except.ok.injEq] at h
    simp [← h]
  | cons g rest ih =>
    simp only [addField] at h
    split at h
    · next hk =>
      split at h
      · simp only [Except.ok.injEq] at h
        simp [← h, hk]
      · simp at h
    · next hk =>
      split at h
      · next r hr =>
        simp only [Except.ok.injEq] at h
        have hn : ¬ new.key = g.key := fun he => hk he.symm
        have := ih hr
        simp only [← h, List.map_cons, this, List.mem_cons, hn, false_or]
        split <;> rfl
      · simp at h

lemma mem_addField {new : KeyGroup} {groups result : List KeyGroup}
    (h : addField new groups = .ok result) (hd : (groups.map KeyGroup.key).Nodup)
    {r : KeyGroup} (hr : r ∈ result) :
    (r ∈ groups ∧ r.key ≠ new.key) ∨ (r = new ∧ new.key ∉ groups.map KeyGroup.key) ∨
      ∃ g ∈ groups, g.key = new.key ∧ g.name = new.name ∧
        r = { g with selections := g.selections ++ new.selections } := by
  induction groups generalizing result with
  | nil =>
    simp only [addField, Except.ok.injEq] at h
    subst h
    simpa using hr
  | cons g rest ih =>
    simp only [List.map_cons, List.nodup_cons] at hd
    simp only [addField] at h
    split at h
    · next hk =>
      split at h
      · next hn =>
        simp only [Except.ok.injEq] at h
        subst h
        rcases List.mem_cons.mp hr with rfl | hr
        · exact Or.inr (Or.inr ⟨g, List.mem_cons_self, hk, hn, rfl⟩)
        · left
          refine ⟨List.mem_cons_of_mem _ hr, fun he => hd.1 ?_⟩
          exact List.mem_map.mpr ⟨r, hr, he.trans hk.symm⟩
      · simp at h
    · next hk =>
      split at h
      · next others ho =>
        simp only [Except.ok.injEq] at h
        subst h
        rcases List.mem_cons.mp hr with rfl | hr
        · exact Or.inl ⟨List.mem_cons_self, hk⟩
        · rcases ih ho hd.2 hr with ⟨hg, hne⟩ | ⟨hr, hm⟩ | ⟨g', hg', hs⟩
          · exact Or.inl ⟨List.mem_cons_of_mem _ hg, hne⟩
          · refine Or.inr (Or.inl ⟨hr, ?_⟩)
            simpa only [List.map_cons, List.mem_cons, not_or] using ⟨fun he => hk he.symm, hm⟩
          · exact Or.inr (Or.inr ⟨g', List.mem_cons_of_mem _ hg', hs⟩)
      · simp at h

lemma addField_error {new : KeyGroup} {groups : List KeyGroup} {construct : Construct}
    (h : addField new groups = .error construct) :
    ∃ g ∈ groups, g.key = new.key ∧ g.name ≠ new.name := by
  induction groups generalizing construct with
  | nil => simp [addField] at h
  | cons g rest ih =>
    simp only [addField] at h
    split at h
    · next hk =>
      split at h
      · simp at h
      · next hn => exact ⟨g, List.mem_cons_self, hk, hn⟩
    · split at h
      · simp at h
      · next c hc =>
        obtain ⟨g', hg', hs⟩ := ih hc
        exact ⟨g', List.mem_cons_of_mem _ hg', hs⟩

lemma responseKeys_append_field (selections : List Selection) (label : Option String)
    (name : String) (definition : SchemaField) (inner : List Selection) :
    responseKeys (selections ++ [.field label name definition inner]) =
      if responseKey label name ∈ responseKeys selections then responseKeys selections
      else responseKeys selections ++ [responseKey label name] := by
  unfold responseKeys
  rw [List.filterMap_append, List.eraseDups_append]
  simp only [List.mem_eraseDups, List.filterMap_cons, Selection.key?, List.filterMap_nil,
    List.removeAll, List.filter_cons, List.filter_nil]
  by_cases h : responseKey label name ∈ selections.filterMap Selection.key?
  · rw [if_pos h, List.elem_eq_true_of_mem h]
    simp
  · rw [if_neg h, Bool.eq_false_iff.mpr (fun he => h (List.mem_of_elem_eq_true he))]
    simp [List.eraseDups_cons]

lemma Merges.nil : Merges [] [] := ⟨rfl, by simp, by simp, by simp⟩

lemma Merges.nodup_keys {groups : List KeyGroup} {selections : List Selection}
    (h : Merges groups selections) : (groups.map KeyGroup.key).Nodup :=
  h.keys ▸ nodup_responseKeys selections

lemma Merges.append_fragment {groups : List KeyGroup} {selections : List Selection}
    (h : Merges groups selections) {s : Selection} (hs : s.key? = none) :
    Merges groups (selections ++ [s]) := by
  have hu : ∀ key, under key [s] = [] := by
    intro key
    cases s with
    | field => simp [Selection.key?] at hs
    | inlineFragment => rfl
    | fragmentSpread => rfl
  have hf : ∀ {label name definition inner}, .field label name definition inner ≠ s := by
    rintro label name definition inner rfl
    simp [Selection.key?] at hs
  refine ⟨?_, ?_, ?_, ?_⟩
  · simpa [responseKeys, hs] using h.keys
  · intro g hg
    rw [under_append, hu, List.append_nil]
    exact h.inner g hg
  · intro g hg label name definition inner hm
    rcases List.mem_append.mp hm with hm | hm
    · exact h.named g hg label name definition inner hm
    · exact absurd (List.mem_singleton.mp hm) hf
  · intro g hg
    obtain ⟨label, inner, hm, hk⟩ := h.occurs g hg
    exact ⟨label, inner, List.mem_append_left _ hm, hk⟩

lemma Merges.append_field {groups result : List KeyGroup} {selections : List Selection}
    {label : Option String} {name : String} {definition : SchemaField} {inner : List Selection}
    (h : Merges groups selections)
    (ha : addField ⟨responseKey label name, name, definition, inner⟩ groups = .ok result) :
    Merges result (selections ++ [.field label name definition inner]) := by
  have hu : ∀ key, under key (selections ++ [.field label name definition inner]) =
      under key selections ++ if responseKey label name = key then inner else [] := by
    intro key
    rw [under_append]
    simp [under, Selection.under]
  have hmem := fun r hr => mem_addField ha h.nodup_keys (r := r) hr
  refine ⟨?_, ?_, ?_, ?_⟩
  · rw [keys_addField ha, responseKeys_append_field, h.keys]
  · intro r hr
    rw [hu]
    rcases hmem r hr with ⟨hg, hne⟩ | ⟨rfl, hn⟩ | ⟨g, hg, hk, _, rfl⟩
    · rw [if_neg (Ne.symm hne), List.append_nil]
      exact h.inner r hg
    · rw [h.keys] at hn
      simp [under_eq_nil hn]
    · simp only at hk ⊢
      rw [if_pos hk.symm, h.inner g hg]
  · intro r hr label' name' definition' inner' hm he
    rcases List.mem_append.mp hm with hm | hm
    · rcases hmem r hr with ⟨hg, _⟩ | ⟨rfl, hn⟩ | ⟨g, hg, _, _, rfl⟩
      · exact h.named r hg label' name' definition' inner' hm he
      · rw [h.keys] at hn
        exact absurd (mem_responseKeys.mpr ⟨_, _, _, _, hm, he⟩) hn
      · exact h.named g hg label' name' definition' inner' hm he
    · obtain ⟨rfl, rfl, rfl, rfl⟩ : label' = label ∧ name' = name ∧ definition' = definition ∧
          inner' = inner := by simpa using hm
      rcases hmem r hr with ⟨_, hne⟩ | ⟨rfl, _⟩ | ⟨g, _, _, hn, rfl⟩
      · exact absurd he.symm hne
      · rfl
      · exact hn.symm
  · intro r hr
    rcases hmem r hr with ⟨hg, _⟩ | ⟨rfl, _⟩ | ⟨g, hg, _, _, rfl⟩
    · obtain ⟨label', inner', hm, hk⟩ := h.occurs r hg
      exact ⟨label', inner', List.mem_append_left _ hm, hk⟩
    · exact ⟨label, inner, by simp, rfl⟩
    · obtain ⟨label', inner', hm, hk⟩ := h.occurs g hg
      exact ⟨label', inner', List.mem_append_left _ hm, hk⟩

lemma Merges.groupFields {groups result : List KeyGroup} {earlier selections : List Selection}
    (h : Merges groups earlier) (hg : groupFields groups selections = .ok result) :
    Merges result (earlier ++ selections) := by
  induction selections generalizing groups earlier with
  | nil =>
    simp only [GraphqlBindings.groupFields, Except.ok.injEq] at hg
    simpa [← hg] using h
  | cons s rest ih =>
    rw [List.append_cons]
    cases s with
    | field label name definition inner =>
      simp only [GraphqlBindings.groupFields] at hg
      split at hg
      · next r hr => exact ih (h.append_field hr) hg
      · simp at hg
    | inlineFragment condition => exact ih (h.append_fragment rfl) hg
    | fragmentSpread name => exact ih (h.append_fragment rfl) hg

lemma merges_of_groupFields {groups : List KeyGroup} {selections : List Selection}
    (h : groupFields [] selections = .ok groups) : Merges groups selections :=
  Merges.nil.groupFields h

lemma Merges.keyClash {groups : List KeyGroup} {earlier selections : List Selection}
    {construct : Construct} (h : Merges groups earlier)
    (hg : GraphqlBindings.groupFields groups selections = .error construct) :
    KeyClash (earlier ++ selections) := by
  induction selections generalizing groups earlier with
  | nil => simp [GraphqlBindings.groupFields] at hg
  | cons s rest ih =>
    rw [List.append_cons]
    cases s with
    | field label name definition inner =>
      simp only [GraphqlBindings.groupFields] at hg
      split at hg
      · next r hr => exact ih (h.append_field hr) hg
      · next c hc =>
        obtain ⟨g, hm, hk, hn⟩ := addField_error hc
        obtain ⟨label', inner', ho, hk'⟩ := h.occurs g hm
        refine ⟨label', g.name, g.definition, inner', label, name, definition, inner, ?_, ?_,
          hk'.trans hk, hn⟩
        · simp [ho]
        · simp
    | inlineFragment condition => exact ih (h.append_fragment rfl) hg
    | fragmentSpread name => exact ih (h.append_fragment rfl) hg

lemma Merges.not_keyClash {groups : List KeyGroup} {selections : List Selection}
    (h : Merges groups selections) : ¬ KeyClash selections := by
  rintro ⟨label, name, definition, inner, label', name', definition', inner', hs, hs', hk, hn⟩
  have hm : responseKey label name ∈ groups.map KeyGroup.key := by
    rw [h.keys]
    exact mem_responseKeys.mpr ⟨label, name, definition, inner, hs, rfl⟩
  obtain ⟨g, hg, hgk⟩ := List.mem_map.mp hm
  have h1 := h.named g hg label name definition inner hs hgk.symm
  have h2 := h.named g hg label' name' definition' inner' hs' (hk.symm.trans hgk.symm)
  exact hn (h1.trans h2.symm)

lemma Merges.below {groups : List KeyGroup} {selections : List Selection}
    (h : Merges groups selections) (hf : ¬ HasFragment selections) (hk : ¬ KeyConflict selections)
    {g : KeyGroup} (hg : g ∈ groups) :
    ¬ HasFragment g.selections ∧ ¬ KeyConflict g.selections := by
  rw [h.inner g hg]
  have hkey : g.key ∈ responseKeys selections := h.keys ▸ List.mem_map_of_mem hg
  exact ⟨fun hu => hf hu.of_under, fun hu => hk (keyConflict_iff.mpr (Or.inr ⟨_, hkey, hu⟩))⟩

lemma groupFields_ok_of_not_keyClash {selections : List Selection} (h : ¬ KeyClash selections) :
    ∃ groups, groupFields [] selections = .ok groups := by
  cases hg : groupFields [] selections with
  | ok groups => exact ⟨groups, rfl⟩
  | error construct => exact absurd (Merges.nil.keyClash hg) h

lemma selectionsSize_lt_groupsSize {g : KeyGroup} {groups : List KeyGroup} (h : g ∈ groups) :
    selectionsSize g.selections < groupsSize groups := by
  induction groups with
  | nil => simp at h
  | cons k rest ih =>
    simp only [groupsSize]
    rcases List.mem_cons.mp h with rfl | h
    · omega
    · have := ih h
      omega

lemma selections_induction {P : List Selection → Prop}
    (step : ∀ selections, (∀ groups, groupFields [] selections = .ok groups →
      ∀ g ∈ groups, P g.selections) → P selections) (selections : List Selection) :
    P selections := by
  induction hn : selectionsSize selections using Nat.strongRecOn generalizing selections with
  | ind n ih =>
    refine step selections fun groups hg g hm => ih _ ?_ g.selections rfl
    have h1 := groupsSize_groupFields hg
    have h2 := selectionsSize_lt_groupsSize hm
    simp only [groupsSize] at h1
    omega

lemma groupsConflict?_eq_none {groups : List KeyGroup} :
    groupsConflict? groups = none ↔ ∀ g ∈ groups, keyConflict? g.selections = none := by
  induction groups with
  | nil => simp [groupsConflict?]
  | cons g rest ih => simp [groupsConflict?, ih]

lemma keyConflict?_eq_none {selections : List Selection} :
    keyConflict? selections = none ↔ ¬ KeyConflict selections := by
  induction selections using selections_induction with
  | step selections ih =>
    rw [keyConflict?, keyConflict_iff]
    split
    · next construct hg =>
      simp only [reduceCtorEq, false_iff, not_not]
      exact Or.inl (Merges.nil.keyClash hg)
    · next groups hg =>
      have hm := merges_of_groupFields hg
      have hk : ∀ key, key ∈ responseKeys selections ↔ ∃ g ∈ groups, g.key = key := by
        intro key
        rw [← hm.keys, List.mem_map]
      rw [groupsConflict?_eq_none]
      constructor
      · rintro h (hc | ⟨key, hkey, hc⟩)
        · exact hm.not_keyClash hc
        · obtain ⟨g, hg', rfl⟩ := (hk key).mp hkey
          exact (ih groups hg g hg').mp (h g hg') (hm.inner g hg' ▸ hc)
      · intro h g hg'
        refine (ih groups hg g hg').mpr fun hc => h (Or.inr ⟨g.key, (hk _).mpr ⟨g, hg', rfl⟩, ?_⟩)
        exact hm.inner g hg' ▸ hc

mutual

lemma Selection.fragment?_eq_none : ∀ s : Selection, s.fragment? = none ↔ ¬ HasFragment [s]
  | .field label name definition inner => by
    rw [Selection.fragment?, firstFragment?_eq_none inner]
    constructor
    · rintro h (hs | hs | ⟨hs, hi⟩)
      · simp at hs
      · simp at hs
      · simp only [List.mem_singleton, Selection.field.injEq] at hs
        exact h (hs.2.2.2 ▸ hi)
    · exact fun h hi => h (.inside (List.mem_singleton_self _) hi)
  | .inlineFragment condition => by
    simpa [Selection.fragment?] using HasFragment.inlineFragment (List.mem_singleton_self _)
  | .fragmentSpread name => by
    simpa [Selection.fragment?] using HasFragment.fragmentSpread (List.mem_singleton_self _)

lemma firstFragment?_eq_none : ∀ selections : List Selection,
    firstFragment? selections = none ↔ ¬ HasFragment selections
  | [] => by
    simp only [firstFragment?, true_iff]
    rintro (hs | hs | ⟨hs, _⟩) <;> simp at hs
  | s :: rest => by
    rw [firstFragment?, hasFragment_cons, Option.or_eq_none_iff, s.fragment?_eq_none,
      firstFragment?_eq_none rest, not_or]

end

lemma unsupported?_eq_none {selections : List Selection} :
    unsupported? selections = none ↔ ¬ HasFragment selections ∧ ¬ KeyConflict selections := by
  rw [unsupported?, Option.or_eq_none_iff, firstFragment?_eq_none, keyConflict?_eq_none]

end GraphqlBindings

import GraphqlBindings.Proofs.Generator.Tree
import GraphqlBindings.Proofs.Operation.Resolved

namespace GraphqlBindings

inductive Precedes : List Selection → List String → List String → Prop
  | above {selections : List Selection} {key : String} {path : List String} :
      Precedes selections [] (key :: path)
  | beside {selections : List Selection} {a b : String} {p q : List String} :
      [a, b].Sublist (responseKeys selections) → Precedes selections (a :: p) (b :: q)
  | inside {selections : List Selection} {key : String} {p q : List String} :
      Precedes (under key selections) p q → Precedes selections (key :: p) (key :: q)

lemma not_precedes_self (selections : List Selection) (path : List String) :
    ¬ Precedes selections path path := by
  induction path generalizing selections with
  | nil => rintro ⟨⟩
  | cons key path ih =>
    intro h
    cases h with
    | beside hs =>
      have hd := hs.nodup (nodup_responseKeys selections)
      simp at hd
    | inside h => exact ih _ h

lemma selectionsAt_append (selections : List Selection) (p q : List String) :
    selectionsAt selections (p ++ q) = selectionsAt (selectionsAt selections p) q := by
  induction p generalizing selections with
  | nil => rfl
  | cons key p ih => exact ih (under key selections)

structure Mergeable (s : Schema) (selections : List Selection) : Prop where
  no_fragment : ¬ HasFragment selections
  no_conflict : ¬ KeyConflict selections
  resolved : ∃ parent, Resolved s parent selections

namespace Mergeable

variable {s : Schema} {selections : List Selection}

lemma groups (h : Mergeable s selections) : ∃ groups, groupFields [] selections = .ok groups :=
  groupFields_ok_of_not_keyClash fun hc => h.no_conflict hc.keyConflict

lemma responseTree_eq_nil (h : Mergeable s selections) :
    responseTree selections = [] ↔ selections = [] :=
  GraphqlBindings.responseTree_eq_nil h.no_fragment h.no_conflict

lemma group (h : Mergeable s selections) {groups : List KeyGroup} (hm : Merges groups selections)
    {k : KeyGroup} (hk : k ∈ groups) : Mergeable s k.selections := by
  obtain ⟨hf, hc⟩ := hm.below h.no_fragment h.no_conflict hk
  obtain ⟨parent, hr⟩ := h.resolved
  refine ⟨hf, hc, ?_⟩
  cases hcomposite : Operation.compositeType? s k.definition.type.baseName with
  | none => exact ⟨parent, hr.leafGroup hm hk hcomposite ▸ .nil parent⟩
  | some target => exact ⟨target, (hr.compositeGroup hm hk hcomposite).2⟩

end Mergeable

section Tree

inductive NodeAt : List ResponseField → List String → List ResponseField → Prop
  | here {tree fields : List ResponseField} {key : String} {definition : SchemaField} :
      .mk key definition fields ∈ tree → NodeAt tree [key] fields
  | inside {tree fields node : List ResponseField} {key : String} {definition : SchemaField}
      {path : List String} : .mk key definition fields ∈ tree → NodeAt fields path node →
      NodeAt tree (key :: path) node

lemma NodeAt.mono {a b node : List ResponseField} {path : List String} (h : NodeAt a path node)
    (hs : a ⊆ b) : NodeAt b path node := by
  cases h with
  | here hm => exact .here (hs hm)
  | inside hm h => exact .inside (hs hm) h

def treePaths : List ResponseField → List (List String)
  | [] => []
  | .mk _ _ [] :: rest => treePaths rest
  | .mk key _ (first :: more) :: rest =>
    [key] :: (treePaths (first :: more)).map (key :: ·) ++ treePaths rest

lemma mem_treePaths {tree : List ResponseField} {path : List String} :
    path ∈ treePaths tree ↔ ∃ node, node ≠ [] ∧ NodeAt tree path node := by
  induction tree using tree_induction generalizing path with
  | nil =>
    simp only [treePaths, List.not_mem_nil, false_iff, not_exists, not_and]
    rintro node _ (h | ⟨h, _⟩) <;> simp at h
  | leaf key definition rest ih =>
    rw [treePaths, ih]
    constructor
    · rintro ⟨node, hn, h⟩
      exact ⟨node, hn, h.mono (List.subset_cons_self _ _)⟩
    · rintro ⟨node, hn, h⟩
      cases h with
      | here hm =>
        rcases List.mem_cons.mp hm with he | hm
        · cases he
          exact absurd rfl hn
        · exact ⟨node, hn, .here hm⟩
      | inside hm h =>
        rcases List.mem_cons.mp hm with he | hm
        · cases he
          cases h with
          | here hm => simp at hm
          | inside hm _ => simp at hm
        · exact ⟨node, hn, .inside hm h⟩
  | node key definition first more rest ihInner ih =>
    rw [treePaths, List.mem_append, List.mem_cons, List.mem_map, ih]
    constructor
    · rintro ((rfl | ⟨p, hp, rfl⟩) | ⟨node, hn, h⟩)
      · exact ⟨_, List.cons_ne_nil _ _, .here List.mem_cons_self⟩
      · obtain ⟨node, hn, h⟩ := ihInner.mp hp
        exact ⟨node, hn, .inside List.mem_cons_self h⟩
      · exact ⟨node, hn, h.mono (List.subset_cons_self _ _)⟩
    · rintro ⟨node, hn, h⟩
      cases h with
      | here hm =>
        rcases List.mem_cons.mp hm with he | hm
        · cases he
          exact Or.inl (Or.inl rfl)
        · exact Or.inr ⟨node, hn, .here hm⟩
      | inside hm h =>
        rcases List.mem_cons.mp hm with he | hm
        · cases he
          exact Or.inl (Or.inr ⟨_, ihInner.mpr ⟨node, hn, h⟩, rfl⟩)
        · exact Or.inr ⟨node, hn, .inside hm h⟩

lemma eq_cons_of_mem_treePaths {tree : List ResponseField} {path : List String}
    (h : path ∈ treePaths tree) :
    ∃ key definition fields p, .mk key definition fields ∈ tree ∧ path = key :: p := by
  obtain ⟨node, _, hn⟩ := mem_treePaths.mp h
  cases hn with
  | here hm => exact ⟨_, _, _, _, hm, rfl⟩
  | inside hm _ => exact ⟨_, _, _, _, hm, rfl⟩

end Tree

section Selections

variable {s : Schema} {selections : List Selection}

lemma mem_responseTree {groups : List KeyGroup} (hg : groupFields [] selections = .ok groups)
    {key : String} {definition : SchemaField} {fields : List ResponseField} :
    .mk key definition fields ∈ responseTree selections ↔ ∃ k ∈ groups, k.key = key ∧
      k.definition = definition ∧ responseTree k.selections = fields := by
  rw [responseTree_eq_map hg, List.mem_map]
  simp only [ResponseField.mk.injEq]

lemma Mergeable.nodeAt (h : Mergeable s selections) {path : List String}
    {node : List ResponseField} (hn : NodeAt (responseTree selections) path node) :
    Mergeable s (selectionsAt selections path) ∧
      node = responseTree (selectionsAt selections path) := by
  induction path generalizing selections with
  | nil => cases hn
  | cons key path ih =>
    obtain ⟨groups, hg⟩ := h.groups
    have hm := merges_of_groupFields hg
    cases hn with
    | here hn =>
      obtain ⟨k, hk, rfl, rfl, rfl⟩ := (mem_responseTree hg).mp hn
      simp only [selectionsAt, ← hm.inner k hk]
      exact ⟨h.group hm hk, trivial⟩
    | inside hn hp =>
      obtain ⟨k, hk, rfl, rfl, rfl⟩ := (mem_responseTree hg).mp hn
      simp only [selectionsAt, ← hm.inner k hk]
      exact ih (h.group hm hk) hp

lemma Mergeable.nodeAt_selectionsAt (h : Mergeable s selections) {path : List String}
    (hp : path ≠ []) (hs : selectionsAt selections path ≠ []) :
    NodeAt (responseTree selections) path (responseTree (selectionsAt selections path)) := by
  induction path generalizing selections with
  | nil => exact absurd rfl hp
  | cons key path ih =>
    obtain ⟨groups, hg⟩ := h.groups
    have hm := merges_of_groupFields hg
    have hkey : key ∈ responseKeys selections := by
      by_contra hkey
      rw [selectionsAt, under_eq_nil hkey, selectionsAt_empty] at hs
      exact hs rfl
    rw [← hm.keys] at hkey
    obtain ⟨k, hk, rfl⟩ := List.mem_map.mp hkey
    have hn := (mem_responseTree hg).mpr ⟨k, hk, rfl, rfl, rfl⟩
    simp only [selectionsAt, ← hm.inner k hk] at hs ⊢
    by_cases hpath : path = []
    · exact hpath ▸ .here hn
    · exact .inside hn (ih (h.group hm hk) hpath hs)

lemma Mergeable.mem_treePaths (h : Mergeable s selections) {path : List String} :
    path ∈ treePaths (responseTree selections) ↔
      path ≠ [] ∧ selectionsAt selections path ≠ [] := by
  rw [GraphqlBindings.mem_treePaths]
  constructor
  · rintro ⟨node, hne, hn⟩
    obtain ⟨hmergeable, rfl⟩ := h.nodeAt hn
    refine ⟨?_, mt hmergeable.responseTree_eq_nil.mpr hne⟩
    rintro rfl
    cases hn
  · rintro ⟨hp, hs⟩
    have hn := h.nodeAt_selectionsAt hp hs
    exact ⟨_, mt (h.nodeAt hn).1.responseTree_eq_nil.mp hs, hn⟩

lemma pairwise_treePaths (groups : List KeyGroup)
    (hk : (groups.map KeyGroup.key).Sublist (responseKeys selections))
    (hi : ∀ k ∈ groups,
      (treePaths (responseTree k.selections)).Pairwise (Precedes (under k.key selections))) :
    (treePaths (groups.map fun k => .mk k.key k.definition (responseTree k.selections))).Pairwise
      (Precedes selections) := by
  induction groups with
  | nil => simp [treePaths]
  | cons k rest ih =>
    rw [List.map_cons] at hk
    have hrest := ih ((List.sublist_cons_self _ _).trans hk)
      fun k hm => hi k (List.mem_cons_of_mem _ hm)
    have hk' := hi k List.mem_cons_self
    rw [List.map_cons]
    cases ht : responseTree k.selections with
    | nil =>
      rw [treePaths]
      exact hrest
    | cons first more =>
      rw [ht] at hk'
      have hlater : ∀ p, ∀ q ∈ treePaths (rest.map fun k =>
          .mk k.key k.definition (responseTree k.selections)),
          Precedes selections (k.key :: p) q := by
        intro p q hq
        obtain ⟨key, definition, fields, q, hm, rfl⟩ := eq_cons_of_mem_treePaths hq
        obtain ⟨k', hk', he⟩ := List.mem_map.mp hm
        obtain ⟨rfl, -, -⟩ := ResponseField.mk.inj he
        have hs := List.singleton_sublist.mpr (List.mem_map_of_mem (f := KeyGroup.key) hk')
        exact .beside ((hs.cons_cons k.key).trans hk)
      rw [treePaths, List.pairwise_append]
      refine ⟨?_, hrest, ?_⟩
      · rw [List.pairwise_cons, List.pairwise_map]
        refine ⟨?_, hk'.imp .inside⟩
        intro q hq
        obtain ⟨p, hp, rfl⟩ := List.mem_map.mp hq
        obtain ⟨key, _, _, p, _, rfl⟩ := eq_cons_of_mem_treePaths hp
        exact .inside .above
      · intro p hp q hq
        rcases List.mem_cons.mp hp with rfl | hp
        · exact hlater [] q hq
        · obtain ⟨p, _, rfl⟩ := List.mem_map.mp hp
          exact hlater p q hq

lemma Mergeable.pairwise_treePaths (h : Mergeable s selections) :
    (treePaths (responseTree selections)).Pairwise (Precedes selections) := by
  induction selections using selections_induction with
  | step selections ih =>
    obtain ⟨groups, hg⟩ := h.groups
    have hm := merges_of_groupFields hg
    rw [responseTree_eq_map hg]
    refine GraphqlBindings.pairwise_treePaths groups (hm.keys ▸ List.Sublist.refl _) ?_
    intro k hk
    rw [← hm.inner k hk]
    exact ih groups hg k hk (h.group hm hk)

end Selections

end GraphqlBindings

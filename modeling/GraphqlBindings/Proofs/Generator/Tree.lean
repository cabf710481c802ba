import GraphqlBindings.Generator.Operation
import GraphqlBindings.Proofs.Naming.Scope
import GraphqlBindings.Proofs.Operation.Merging

/-! The structs of a response in two passes: selections are merged into a tree, then the tree is
declared. The second pass cannot fail, and where the check finds nothing both agree with the
generator. -/

namespace GraphqlBindings

inductive ResponseField where
  | mk (key : String) (definition : SchemaField) (fields : List ResponseField)

lemma tree_induction {P : List ResponseField → Prop} (nil : P [])
    (leaf : ∀ key definition rest, P rest → P (.mk key definition [] :: rest))
    (node : ∀ key definition first more rest, P (first :: more) → P rest →
      P (.mk key definition (first :: more) :: rest)) : ∀ tree, P tree
  | [] => nil
  | .mk key definition [] :: rest => leaf key definition rest (tree_induction nil leaf node rest)
  | .mk key definition (first :: more) :: rest =>
    node key definition first more rest (tree_induction nil leaf node (first :: more))
      (tree_induction nil leaf node rest)

def responseTree (selections : List Selection) : List ResponseField :=
  match _h : groupFields [] selections with
  | .error _ => []
  | .ok groups =>
    groups.attach.map fun g => .mk g.1.key g.1.definition (responseTree g.1.selections)
termination_by selectionsSize selections
decreasing_by
  have h1 := groupsSize_groupFields _h
  have h2 := selectionsSize_lt_groupsSize g.2
  simp only [groupsSize] at h1
  omega

lemma responseTree_eq_map {selections : List Selection} {groups : List KeyGroup}
    (h : groupFields [] selections = .ok groups) :
    responseTree selections =
      groups.map fun g => .mk g.key g.definition (responseTree g.selections) := by
  rw [responseTree]
  split
  · next hg => simp [hg] at h
  · next hg =>
    obtain rfl := Except.ok.inj (hg.symm.trans h)
    exact List.attach_map_val (f := fun g : KeyGroup =>
      ResponseField.mk g.key g.definition (responseTree g.selections))

lemma responseTree_eq_nil {selections : List Selection} (hf : ¬ HasFragment selections)
    (hk : ¬ KeyConflict selections) : responseTree selections = [] ↔ selections = [] := by
  constructor
  · intro h
    obtain ⟨groups, hg⟩ := groupFields_ok_of_not_keyClash fun hc => hk hc.keyConflict
    rw [responseTree_eq_map hg, List.map_eq_nil_iff] at h
    have hr := (merges_of_groupFields hg).keys
    rw [h, List.map_nil] at hr
    rw [List.eq_nil_iff_forall_not_mem]
    intro s hs
    cases s with
    | field label name definition inner =>
      have := mem_responseKeys.mpr ⟨label, name, definition, inner, hs, rfl⟩
      simp [← hr] at this
    | inlineFragment condition => exact hf (.inlineFragment hs)
    | fragmentSpread name => exact hf (.fragmentSpread hs)
  · rintro rfl
    rw [responseTree_eq_map (show groupFields [] [] = .ok [] from rfl), List.map_nil]

namespace Generator

def treeStruct (g : Generator) (owner : String) (idents scope : NameScope) :
    List ResponseField → ResponseStruct × NameScope
  | [] => (⟨[], []⟩, scope)
  | .mk key definition [] :: rest =>
    let ident := idents.free (g.naming.fieldIdent key)
    let others := g.treeStruct owner (idents.insert ident) scope rest
    let base := g.namedType definition.type.baseName
    (others.1.cons (g.responseField idents key definition base) [], others.2)
  | .mk key definition (first :: more) :: rest =>
    let ident := idents.free (g.naming.fieldIdent key)
    let name := scope.free (owner ++ g.naming.typeIdent key)
    let inner := g.treeStruct name .empty (scope.insert name) (first :: more)
    let others := g.treeStruct owner (idents.insert ident) inner.2 rest
    (others.1.cons (g.responseField idents key definition (.named name))
      (⟨name, none, .fields inner.1.fields⟩ :: inner.1.nested), others.2)

variable (g : Generator)

lemma groupStructs_eq_treeStruct (groups : List KeyGroup)
    (hl : ∀ k ∈ groups, responseTree k.selections = [] ↔ k.selections = [])
    (hs : ∀ k ∈ groups, ∀ owner scope, g.responseStruct owner scope k.selections =
      (.ok (g.treeStruct owner .empty scope (responseTree k.selections)).1,
        (g.treeStruct owner .empty scope (responseTree k.selections)).2))
    (owner : String) (idents scope : NameScope) :
    let tree := groups.map fun k => .mk k.key k.definition (responseTree k.selections)
    g.groupStructs owner idents scope groups =
      (.ok (g.treeStruct owner idents scope tree).1, (g.treeStruct owner idents scope tree).2) := by
  dsimp only
  induction groups generalizing idents scope with
  | nil => simp [groupStructs, treeStruct]
  | cons k rest ih =>
    have ih := ih (fun k hk => hl k (List.mem_cons_of_mem _ hk))
      (fun k hk => hs k (List.mem_cons_of_mem _ hk))
    have hlk := hl k List.mem_cons_self
    have hsk := hs k List.mem_cons_self
    rw [groupStructs, List.map_cons]
    cases ht : responseTree k.selections with
    | nil =>
      rw [List.isEmpty_iff.mpr (hlk.mp ht), if_pos rfl, ih]
      simp [treeStruct]
    | cons first more =>
      have he : k.selections.isEmpty = false := by
        rw [← Bool.not_eq_true, List.isEmpty_iff, ← hlk, ht]
        simp
      rw [ht] at hsk
      simp [he, hsk, ih, treeStruct]

lemma responseStruct_eq_treeStruct {selections : List Selection} (hf : ¬ HasFragment selections)
    (hk : ¬ KeyConflict selections) (owner : String) (scope : NameScope) :
    g.responseStruct owner scope selections =
      (.ok (g.treeStruct owner .empty scope (responseTree selections)).1,
        (g.treeStruct owner .empty scope (responseTree selections)).2) := by
  induction selections using selections_induction generalizing owner scope with
  | step selections ih =>
    obtain ⟨groups, hg⟩ := groupFields_ok_of_not_keyClash fun hc => hk hc.keyConflict
    have hm := merges_of_groupFields hg
    have hin : ∀ k ∈ groups, ¬ HasFragment k.selections ∧ ¬ KeyConflict k.selections :=
      fun k hmem => hm.below hf hk hmem
    rw [responseTree_eq_map hg, responseStruct]
    split
    · next construct hc => simp [hg] at hc
    · next groups' hg' =>
      obtain rfl := Except.ok.inj (hg.symm.trans hg')
      exact g.groupStructs_eq_treeStruct groups
        (fun k hmem => responseTree_eq_nil (hin k hmem).1 (hin k hmem).2)
        (fun k hmem => ih groups hg k hmem (hin k hmem).1 (hin k hmem).2) owner .empty scope

end Generator

end GraphqlBindings

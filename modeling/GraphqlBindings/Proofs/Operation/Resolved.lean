import GraphqlBindings.Operation.Resolve
import GraphqlBindings.Proofs.Operation.Merging

namespace GraphqlBindings

open Operation (compositeType? resolveSelection resolveSelections)

inductive Resolved (s : Schema) : SchemaType → List Selection → Prop
  | intro {parent : SchemaType} {selections : List Selection}
      (known : ∀ label name definition inner, .field label name definition inner ∈ selections →
        parent.field? name = some definition)
      (leaf : ∀ label name definition inner, .field label name definition inner ∈ selections →
        compositeType? s definition.type.baseName = none → inner = [])
      (nonempty : ∀ label name definition inner, .field label name definition inner ∈ selections →
        ∀ target, compositeType? s definition.type.baseName = some target → inner ≠ [])
      (inside : ∀ label name definition inner, .field label name definition inner ∈ selections →
        ∀ target, compositeType? s definition.type.baseName = some target →
          Resolved s target inner) :
      Resolved s parent selections

section Resolve

variable {s : Schema}

lemma Resolved.nil (parent : SchemaType) : Resolved s parent [] := by
  constructor <;> simp

lemma Resolved.cons {parent : SchemaType} {first : Selection} {rest : List Selection}
    (hf : Resolved s parent [first]) (hr : Resolved s parent rest) :
    Resolved s parent (first :: rest) := by
  obtain ⟨known, leaf, nonempty, inside⟩ := hf
  obtain ⟨known', leaf', nonempty', inside'⟩ := hr
  constructor
  all_goals
    intro label name definition inner hm
    rcases List.mem_cons.mp hm with hm | hm
  · exact known _ _ _ _ (List.mem_singleton.mpr hm)
  · exact known' _ _ _ _ hm
  · exact leaf _ _ _ _ (List.mem_singleton.mpr hm)
  · exact leaf' _ _ _ _ hm
  · exact nonempty _ _ _ _ (List.mem_singleton.mpr hm)
  · exact nonempty' _ _ _ _ hm
  · exact inside _ _ _ _ (List.mem_singleton.mpr hm)
  · exact inside' _ _ _ _ hm

lemma Resolved.fragment {parent : SchemaType} {selection : Selection} (h : selection.key? = none) :
    Resolved s parent [selection] := by
  constructor
  all_goals
    intro label name definition inner hm
    simp [← List.mem_singleton.mp hm, Selection.key?] at h

lemma Resolved.leafField {parent : SchemaType} {label : Option String} {name : String}
    {definition : SchemaField} (hf : parent.field? name = some definition)
    (hc : compositeType? s definition.type.baseName = none) :
    Resolved s parent [.field label name definition []] := by
  constructor
  all_goals
    intro label' name' definition' inner' hm
    simp only [List.mem_singleton, Selection.field.injEq] at hm
    obtain ⟨rfl, rfl, rfl, rfl⟩ := hm
  · exact hf
  · exact fun _ => rfl
  · simp [hc]
  · simp [hc]

lemma Resolved.compositeField {parent target : SchemaType} {label : Option String} {name : String}
    {definition : SchemaField} {first : Selection} {rest : List Selection}
    (hf : parent.field? name = some definition)
    (hc : compositeType? s definition.type.baseName = some target)
    (hi : Resolved s target (first :: rest)) :
    Resolved s parent [.field label name definition (first :: rest)] := by
  constructor
  all_goals
    intro label' name' definition' inner' hm
    simp only [List.mem_singleton, Selection.field.injEq] at hm
    obtain ⟨rfl, rfl, rfl, rfl⟩ := hm
  · exact hf
  · simp [hc]
  · simp
  · intro target' hc'
    rw [hc, Option.some.injEq] at hc'
    exact hc' ▸ hi

mutual

lemma resolved_of_resolveSelection : ∀ (parent : SchemaType) (written : Language.Selection)
    {selection : Selection}, resolveSelection s parent written = .ok selection →
    Resolved s parent [selection]
  | parent, .field position label name arguments directives written, selection, h => by
    rw [resolveSelection] at h
    split at h
    · simp at h
    · next definition hf =>
      split at h
      · next hc =>
        obtain rfl := Except.ok.inj h
        exact .leafField hf hc
      · simp at h
      · simp at h
      · next target first rest hc =>
        obtain ⟨selected, h1, h⟩ := bind_eq_ok.mp h
        obtain ⟨others, h2, h⟩ := bind_eq_ok.mp h
        obtain rfl := Except.ok.inj h
        exact .compositeField hf hc ((resolved_of_resolveSelection target first h1).cons
          (resolved_of_resolveSelections target rest h2))
  | parent, .inlineFragment condition directives written, selection, h => by
    rw [resolveSelection] at h
    obtain rfl := Except.ok.inj h
    exact .fragment rfl
  | parent, .fragmentSpread name directives, selection, h => by
    rw [resolveSelection] at h
    obtain rfl := Except.ok.inj h
    exact .fragment rfl

lemma resolved_of_resolveSelections : ∀ (parent : SchemaType) (written : List Language.Selection)
    {selections : List Selection}, resolveSelections s parent written = .ok selections →
    Resolved s parent selections
  | parent, [], selections, h => by
    rw [resolveSelections] at h
    obtain rfl := Except.ok.inj h
    exact .nil parent
  | parent, first :: rest, selections, h => by
    rw [resolveSelections] at h
    obtain ⟨selected, h1, h⟩ := bind_eq_ok.mp h
    obtain ⟨others, h2, h⟩ := bind_eq_ok.mp h
    obtain rfl := Except.ok.inj h
    exact (resolved_of_resolveSelection parent first h1).cons
      (resolved_of_resolveSelections parent rest h2)

end

lemma resolved_of_resolve {path source : String} {earlier : List String}
    {d : Language.OperationDefinition} {op : Operation}
    (h : Operation.resolve s path source earlier d = .ok op) :
    ∃ root, Operation.rootType? s op.kind = some root ∧ Resolved s root op.selections := by
  dsimp only [Operation.resolve] at h
  split at h
  · obtain ⟨name, -, h⟩ := bind_eq_ok.mp h
    split at h
    · simp at h
    split at h
    · next root hr =>
      obtain ⟨_, he, h⟩ := bind_eq_ok.mp h
      obtain rfl := Except.ok.inj he
      obtain ⟨vars, -, h⟩ := bind_eq_ok.mp h
      obtain ⟨selections, hs, h⟩ := bind_eq_ok.mp h
      obtain rfl := Except.ok.inj h
      exact ⟨root, hr, resolved_of_resolveSelections root d.selections hs⟩
    · obtain ⟨_, he, _⟩ := bind_eq_ok.mp h
      simp at he
  · obtain ⟨_, he, _⟩ := bind_eq_ok.mp h
    simp at he

lemma resolved_of_resolveAll {path source : String} {earlier : List String}
    {definitions : List Language.Definition} {ops : List Operation}
    (h : Operation.resolveAll s path source earlier definitions = .ok ops) :
    ∀ op ∈ ops, ∃ root, Operation.rootType? s op.kind = some root ∧
      Resolved s root op.selections := by
  induction definitions generalizing earlier ops with
  | nil =>
    obtain rfl := Except.ok.inj h
    simp
  | cons first rest ih =>
    cases first with
    | selections position selections => simp [Operation.resolveAll] at h
    | fragment name condition directives selections => exact ih h
    | operation d =>
      obtain ⟨op, h1, h⟩ := bind_eq_ok.mp h
      obtain ⟨others, h2, h⟩ := bind_eq_ok.mp h
      obtain rfl := Except.ok.inj h
      rw [List.forall_mem_cons]
      exact ⟨resolved_of_resolve h1, ih h2⟩

lemma resolved_of_ofText {path source : String} {ops : List Operation}
    (h : Operation.ofText s path source = .ok ops) {op : Operation} (hop : op ∈ ops) :
    ∃ root, Operation.rootType? s op.kind = some root ∧ Resolved s root op.selections := by
  unfold Operation.ofText at h
  split at h
  · simp at h
  · next document hd =>
    obtain ⟨resolved, hr, h⟩ := bind_eq_ok.mp h
    split at h
    · simp at h
    · obtain rfl := Except.ok.inj h
      exact resolved_of_resolveAll hr op hop

end Resolve

section Merge

variable {s : Schema} {parent : SchemaType} {groups : List KeyGroup} {selections : List Selection}

lemma Resolved.known (h : Resolved s parent selections) (hm : Merges groups selections)
    {k : KeyGroup} (hk : k ∈ groups) : parent.field? k.name = some k.definition := by
  obtain ⟨known, _, _, _⟩ := h
  obtain ⟨label, inner, ho, _⟩ := hm.occurs k hk
  exact known _ _ _ _ ho

lemma Resolved.definition_eq (h : Resolved s parent selections) (hm : Merges groups selections)
    {k : KeyGroup} (hk : k ∈ groups) {label : Option String} {name : String}
    {definition : SchemaField} {inner : List Selection}
    (ho : .field label name definition inner ∈ selections) (hkey : responseKey label name = k.key) :
    definition = k.definition := by
  have hg := h.known hm hk
  obtain ⟨known, _, _, _⟩ := h
  rw [← hm.named k hk label name definition inner ho hkey, known _ _ _ _ ho] at hg
  exact Option.some.inj hg

lemma Resolved.leafGroup (h : Resolved s parent selections) (hm : Merges groups selections)
    {k : KeyGroup} (hk : k ∈ groups)
    (hc : compositeType? s k.definition.type.baseName = none) : k.selections = [] := by
  rw [hm.inner k hk, List.eq_nil_iff_forall_not_mem]
  intro selection hs
  obtain ⟨label, name, definition, inner, ho, hkey, hi⟩ := mem_under.mp hs
  obtain rfl := h.definition_eq hm hk ho hkey
  obtain ⟨_, leaf, _, _⟩ := h
  simp [leaf _ _ _ _ ho hc] at hi

lemma Resolved.compositeGroup (h : Resolved s parent selections) (hm : Merges groups selections)
    {k : KeyGroup} (hk : k ∈ groups) {target : SchemaType}
    (hc : compositeType? s k.definition.type.baseName = some target) :
    k.selections ≠ [] ∧ Resolved s target k.selections := by
  constructor
  · obtain ⟨label, inner, ho, hkey⟩ := hm.occurs k hk
    obtain ⟨_, _, nonempty, _⟩ := h
    intro he
    obtain ⟨selection, hs⟩ := List.exists_mem_of_ne_nil _ (nonempty _ _ _ _ ho target hc)
    have : selection ∈ under k.key selections := mem_under.mpr ⟨_, _, _, _, ho, hkey, hs⟩
    simp [← hm.inner k hk, he] at this
  · rw [hm.inner k hk]
    have inside : ∀ selection ∈ under k.key selections, ∃ inner, selection ∈ inner ∧
        Resolved s target inner := by
      intro selection hs
      obtain ⟨label, name, definition, inner, ho, hkey, hi⟩ := mem_under.mp hs
      obtain rfl := h.definition_eq hm hk ho hkey
      obtain ⟨_, _, _, inside⟩ := h
      exact ⟨inner, hi, inside _ _ _ _ ho target hc⟩
    constructor
    all_goals
      intro label name definition inner ho
      obtain ⟨others, hi, ⟨known, leaf, nonempty, inside⟩⟩ := inside _ ho
    · exact known _ _ _ _ hi
    · exact leaf _ _ _ _ hi
    · exact nonempty _ _ _ _ hi
    · exact inside _ _ _ _ hi

end Merge

end GraphqlBindings

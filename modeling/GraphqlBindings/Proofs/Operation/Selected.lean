import GraphqlBindings.Proofs.Operation.Typing

/-! Fields that a document selects at a path of response keys, with the directives they carry.
Resolving keeps each of them at its path. -/

namespace GraphqlBindings

open GraphqlBindings.Language (Directive Document OperationDefinition)

/-- A field of the schema that is selected at a path of response keys, and the directives of the
selection. -/
inductive SelectedAt (s : Schema) : SchemaType → List Language.Selection → List String →
    List Directive → SchemaField → Prop
  | here {parent : SchemaType} {selections inner : List Language.Selection}
      {position : Language.Position} {label : Option String} {name : String}
      {arguments : List (String × Language.Value)} {directives : List Directive}
      {field : SchemaField} :
      .field position label name arguments directives inner ∈ selections →
      parent.HasField name field →
      SelectedAt s parent selections [responseKey label name] directives field
  | inside {parent target : SchemaType} {selections inner : List Language.Selection}
      {position : Language.Position} {label : Option String} {name : String}
      {arguments : List (String × Language.Value)} {above directives : List Directive}
      {outer field : SchemaField} {path : List String} :
      .field position label name arguments above inner ∈ selections →
      parent.HasField name outer → s.get? outer.type.baseName = some target →
      SelectedAt s target inner path directives field →
      SelectedAt s parent selections (responseKey label name :: path) directives field

def Language.Directive.IsCondition (d : Directive) : Prop :=
  (d.name = "skip" ∨ d.name = "include") ∧ ∃ name, ("if", .variable name) ∈ d.arguments

structure ConditionalAt (s : Schema) (parent : SchemaType) (selections : List Language.Selection)
    (path : List String) : Prop where
  selected : ∃ directives field, SelectedAt s parent selections path directives field
  condition : ∀ directives field, SelectedAt s parent selections path directives field →
    ∃ d ∈ directives, d.IsCondition

lemma SchemaType.HasField.unique {t : SchemaType} {name : String} {a b : SchemaField}
    (ha : t.HasField name a) (hb : t.HasField name b) : a = b := by
  rw [← SchemaType.field?_eq_some_iff] at ha hb
  exact Option.some.inj (ha.symm.trans hb)

section Resolved

variable {s : Schema}

lemma under_mono (key : String) {a b : List Selection} (h : a ⊆ b) : under key a ⊆ under key b := by
  intro selection hs
  obtain ⟨label, name, definition, inner, hm, hk, hi⟩ := mem_under.mp hs
  exact mem_under.mpr ⟨label, name, definition, inner, h hm, hk, hi⟩

lemma selectionsAt_mono {a b : List Selection} (h : a ⊆ b) (path : List String) :
    selectionsAt a path ⊆ selectionsAt b path := by
  induction path generalizing a b with
  | nil => exact h
  | cons key path ih => exact ih (under_mono key h)

lemma outlines_eq_map (selections : List Selection) :
    outlines selections = selections.map Selection.outline := by
  induction selections with
  | nil => rfl
  | cons first rest ih => rw [outlines, ih, List.map_cons]

lemma mem_outlines {written : List Language.Selection} {selection : Language.Selection}
    (h : selection ∈ written) : selection.outline ∈ Language.outlines written := by
  induction written with
  | nil => simp at h
  | cons first rest ih =>
    rw [Language.outlines]
    rcases List.mem_cons.mp h with rfl | h
    · exact List.mem_cons_self
    · exact List.mem_cons_of_mem _ (ih h)

lemma exists_resolved_field {written inner : List Language.Selection} {selections : List Selection}
    (ho : outlines selections = Language.outlines written) {position : Language.Position}
    {label : Option String} {name : String} {arguments : List (String × Language.Value)}
    {directives : List Directive}
    (h : .field position label name arguments directives inner ∈ written) :
    ∃ definition resolved, .field label name definition resolved ∈ selections ∧
      outlines resolved = Language.outlines inner := by
  have hm := mem_outlines h
  rw [← ho, outlines_eq_map] at hm
  obtain ⟨selection, hs, he⟩ := List.mem_map.mp hm
  cases selection with
  | field label' name' definition resolved =>
    rw [Selection.outline, Language.Selection.outline, Outline.field.injEq] at he
    obtain ⟨rfl, rfl, hi⟩ := he
    exact ⟨definition, resolved, hs, hi⟩
  | inlineFragment condition => simp [Selection.outline, Language.Selection.outline] at he
  | fragmentSpread fragment => simp [Selection.outline, Language.Selection.outline] at he

lemma SelectedAt.inner_ne_nil {parent : SchemaType} {written : List Language.Selection}
    {path : List String} {directives : List Directive} {field : SchemaField}
    (h : SelectedAt s parent written path directives field) : written ≠ [] := by
  cases h with
  | here hm _ => exact List.ne_nil_of_mem hm
  | inside hm _ _ _ => exact List.ne_nil_of_mem hm

lemma SelectedAt.resolved {parent : SchemaType} {written : List Language.Selection}
    {path : List String} {directives : List Directive} {field : SchemaField}
    (h : SelectedAt s parent written path directives field) {selections : List Selection}
    (hr : Resolved s parent selections) (ho : outlines selections = Language.outlines written) :
    ∃ front label name inner, path = front ++ [responseKey label name] ∧
      .field label name field inner ∈ selectionsAt selections front := by
  induction h generalizing selections with
  | @here _ _ _ _ label name _ _ _ hm hf =>
    obtain ⟨known, _, _, _⟩ := hr
    obtain ⟨definition, resolved, hs, -⟩ := exists_resolved_field ho hm
    obtain rfl := (SchemaType.field?_eq_some_iff.mp (known _ _ _ _ hs)).unique hf
    exact ⟨[], label, name, resolved, rfl, hs⟩
  | @inside _ target _ _ _ label name _ _ _ _ _ _ hm hf ht hin ih =>
    obtain ⟨known, leaf, _, inside⟩ := hr
    obtain ⟨definition, resolved, hs, hi⟩ := exists_resolved_field ho hm
    obtain rfl := (SchemaType.field?_eq_some_iff.mp (known _ _ _ _ hs)).unique hf
    cases hc : Operation.compositeType? s definition.type.baseName with
    | none =>
      obtain rfl := leaf _ _ _ _ hs hc
      obtain ⟨selection, _, hm⟩ := List.exists_cons_of_ne_nil hin.inner_ne_nil
      simp [hm, outlines, Language.outlines] at hi
    | some target' =>
      have ht' := (Operation.compositeType?_eq_some_iff.mp hc).1
      obtain rfl := Option.some.inj (ht.symm.trans ht')
      obtain ⟨front, label', name', inner, rfl, hmem⟩ := ih (inside _ _ _ _ hs _ hc) hi
      refine ⟨responseKey label name :: front, label', name', inner, rfl, ?_⟩
      refine selectionsAt_mono (fun selection hsel => ?_) front hmem
      exact mem_under.mpr ⟨label, name, definition, resolved, hs, rfl, hsel⟩

end Resolved

namespace Operation

lemma resolution_of_name {s : Schema} {path source : String} {d : Document}
    (hd : Document.read source = .ok d) {ops : List Operation}
    (hops : ofText s path source = .ok ops) {o : OperationDefinition} (ho : o ∈ d.operations)
    {op : Operation} (hop : op ∈ ops) (hn : o.name = some op.name) :
    Resolution s path source o op := by
  have hdoc : ofDocument s path source d = .ok ops := by
    rw [← hops, ofText, hd]
  obtain ⟨hr, -⟩ := ofDocument_eq_ok_iff.mp hdoc
  have hall : List.Forall₂ (Resolution s path source) d.operations ops :=
    resolutions_of_resolveAll hr
  have hnodup : (d.operations.map OperationDefinition.name).Nodup :=
    (resolveAll_isOk_iff.mp ⟨ops, hr⟩).2.2
  obtain ⟨o', ho', h⟩ := exists_mem_of_forall₂ hall hop
  obtain rfl := List.inj_on_of_nodup_map hnodup ho' ho (h.name_eq.trans hn.symm)
  exact h

end Operation

end GraphqlBindings

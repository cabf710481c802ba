import Mathlib
import GraphqlBindings.Proofs.Operation.Resolved

/-! Documents that a schema has everything for. They are the ones that can be resolved, and
resolving them puts the definitions of fields in and changes nothing else. -/

namespace GraphqlBindings

inductive SchemaType.HasField (t : SchemaType) : String → SchemaField → Prop
  | typename : t.HasField "__typename" .typename
  | listed {name : String} {before later : List SchemaField} {field : SchemaField} :
      name ≠ "__typename" → t.fields = before ++ field :: later → field.name = name →
      (∀ f ∈ before, f.name ≠ name) → t.HasField name field

lemma SchemaType.field?_eq_some_iff {t : SchemaType} {name : String} {field : SchemaField} :
    t.field? name = some field ↔ t.HasField name field := by
  unfold SchemaType.field?
  split
  · next hn =>
    subst hn
    constructor
    · intro h
      exact Option.some.inj h ▸ .typename
    · intro h
      cases h with
      | typename => rfl
      | listed hn => exact absurd rfl hn
  · next hn =>
    rw [List.find?_eq_some_iff_append]
    simp only [beq_iff_eq, Bool.not_eq_true', beq_eq_false_iff_ne]
    constructor
    · rintro ⟨he, before, later, hs, hb⟩
      exact .listed hn hs he hb
    · intro h
      cases h with
      | typename => exact absurd rfl hn
      | listed _ hs he hb => exact ⟨he, _, _, hs, hb⟩

/-- What can be selected on a type: its fields, with selections if and only if the field's own type
has fields. Nothing is asked of fragments. -/
inductive Selectable (s : Schema) : SchemaType → List Language.Selection → Prop
  | nil {parent : SchemaType} : Selectable s parent []
  | leaf {parent : SchemaType} {position : Language.Position} {label : Option String}
      {name : String} {arguments : List (String × Language.Value)}
      {directives : List Language.Directive} {rest : List Language.Selection}
      {field : SchemaField} : parent.HasField name field →
      (∀ t, s.get? field.type.baseName = some t → t.kind.isComposite = false) →
      Selectable s parent rest →
      Selectable s parent (.field position label name arguments directives [] :: rest)
  | composite {parent target : SchemaType} {position : Language.Position} {label : Option String}
      {name : String} {arguments : List (String × Language.Value)}
      {directives : List Language.Directive} {inner rest : List Language.Selection}
      {field : SchemaField} : parent.HasField name field →
      s.get? field.type.baseName = some target → target.kind.isComposite = true → inner ≠ [] →
      Selectable s target inner → Selectable s parent rest →
      Selectable s parent (.field position label name arguments directives inner :: rest)
  | inlineFragment {parent : SchemaType} {condition : Option String}
      {directives : List Language.Directive} {inner rest : List Language.Selection} :
      Selectable s parent rest →
      Selectable s parent (.inlineFragment condition directives inner :: rest)
  | fragmentSpread {parent : SchemaType} {name : String} {directives : List Language.Directive}
      {rest : List Language.Selection} : Selectable s parent rest →
      Selectable s parent (.fragmentSpread name directives :: rest)

inductive Outline where
  | field (label : Option String) (name : String) (selections : List Outline)
  | inlineFragment (condition : Option String)
  | fragmentSpread (name : String)

mutual

def Selection.outline : Selection → Outline
  | .field label name _ selections => .field label name (outlines selections)
  | .inlineFragment condition => .inlineFragment condition
  | .fragmentSpread name => .fragmentSpread name

def outlines : List Selection → List Outline
  | [] => []
  | first :: rest => first.outline :: outlines rest

end

namespace Language

mutual

def Selection.outline : Selection → Outline
  | .field _ label name _ _ selections => .field label name (outlines selections)
  | .inlineFragment condition _ _ => .inlineFragment condition
  | .fragmentSpread name _ => .fragmentSpread name

def outlines : List Selection → List Outline
  | [] => []
  | first :: rest => first.outline :: outlines rest

end

def Definition.operation? : Definition → Option OperationDefinition
  | .operation o => some o
  | _ => none

def Document.operations (d : Document) : List OperationDefinition :=
  d.definitions.filterMap Definition.operation?

end Language

namespace Operation

section Selections

variable {s : Schema}

lemma compositeType?_eq_some_iff {name : String} {t : SchemaType} :
    compositeType? s name = some t ↔ s.get? name = some t ∧ t.kind.isComposite = true := by
  simp [compositeType?, Option.filter_eq_some_iff]

lemma compositeType?_eq_none_iff {name : String} : compositeType? s name = none ↔
    ∀ t, s.get? name = some t → t.kind.isComposite = false := by
  simp [compositeType?, Option.filter_eq_none_iff]

lemma resolveSelections_cons {parent : SchemaType} {first : Language.Selection}
    {rest : List Language.Selection} {selection : Selection} {selections : List Selection}
    (hf : resolveSelection s parent first = .ok selection)
    (hr : resolveSelections s parent rest = .ok selections) :
    resolveSelections s parent (first :: rest) = .ok (selection :: selections) := by
  rw [resolveSelections]
  exact bind_eq_ok.mpr ⟨selection, hf, bind_eq_ok.mpr ⟨selections, hr, rfl⟩⟩

section Field

variable {parent target : SchemaType} {position : Language.Position} {label : Option String}
  {name : String} {arguments : List (String × Language.Value)}
  {directives : List Language.Directive} {inner : List Language.Selection} {field : SchemaField}

lemma resolveSelection_leaf (hf : parent.field? name = some field)
    (hc : compositeType? s field.type.baseName = none) :
    resolveSelection s parent (.field position label name arguments directives []) =
      .ok (.field label name field []) := by
  simp only [resolveSelection, hf, hc]

lemma resolveSelection_composite (hf : parent.field? name = some field)
    (hc : compositeType? s field.type.baseName = some target) (hn : inner ≠ []) :
    resolveSelection s parent (.field position label name arguments directives inner) =
      (resolveSelections s target inner).map (.field label name field) := by
  obtain ⟨first, rest, rfl⟩ := List.exists_cons_of_ne_nil hn
  simp only [resolveSelection, hf, hc, resolveSelections]
  cases resolveSelection s target first with
  | error fault => rfl
  | ok selected => cases resolveSelections s target rest <;> rfl

end Field

lemma exists_resolved_of_selectable {parent : SchemaType} {written : List Language.Selection}
    (h : Selectable s parent written) :
    ∃ selections, resolveSelections s parent written = .ok selections := by
  induction h with
  | nil => exact ⟨[], by rw [resolveSelections]⟩
  | leaf hf hc _ ih =>
    obtain ⟨others, ho⟩ := ih
    rw [← SchemaType.field?_eq_some_iff] at hf
    rw [← compositeType?_eq_none_iff] at hc
    exact ⟨_, resolveSelections_cons (resolveSelection_leaf hf hc) ho⟩
  | @composite _ _ _ label name _ _ _ _ field hf ht hc hn _ _ ihInner ih =>
    obtain ⟨selections, hs⟩ := ihInner
    obtain ⟨others, ho⟩ := ih
    rw [← SchemaType.field?_eq_some_iff] at hf
    have hcomposite := compositeType?_eq_some_iff.mpr ⟨ht, hc⟩
    refine ⟨.field label name field selections :: others, resolveSelections_cons ?_ ho⟩
    rw [resolveSelection_composite hf hcomposite hn, hs]
    rfl
  | inlineFragment _ ih =>
    obtain ⟨others, ho⟩ := ih
    exact ⟨_, resolveSelections_cons (by rw [resolveSelection]) ho⟩
  | fragmentSpread _ ih =>
    obtain ⟨others, ho⟩ := ih
    exact ⟨_, resolveSelections_cons (by rw [resolveSelection]) ho⟩

mutual

lemma selectable_of_resolveSelection : ∀ (parent : SchemaType) (written : Language.Selection)
    {selection : Selection}, resolveSelection s parent written = .ok selection →
    (∀ rest, Selectable s parent rest → Selectable s parent (written :: rest)) ∧
      selection.outline = written.outline
  | parent, .field position label name arguments directives inner, selection, h => by
    cases hf : parent.field? name with
    | none => simp [resolveSelection, hf] at h
    | some field =>
      have hfield := SchemaType.field?_eq_some_iff.mp hf
      cases hc : compositeType? s field.type.baseName with
      | none =>
        have hleaf := compositeType?_eq_none_iff.mp hc
        cases inner with
        | nil =>
          rw [resolveSelection_leaf hf hc, Except.ok.injEq] at h
          subst h
          exact ⟨fun rest hr => .leaf hfield hleaf hr, rfl⟩
        | cons first rest => simp [resolveSelection, hf, hc] at h
      | some target =>
        obtain ⟨ht, hk⟩ := compositeType?_eq_some_iff.mp hc
        by_cases hn : inner = []
        · simp [resolveSelection, hf, hc, hn] at h
        · rw [resolveSelection_composite hf hc hn] at h
          cases hs : resolveSelections s target inner with
          | error fault => simp [hs, Except.map] at h
          | ok selections =>
            rw [hs, Except.map, Except.ok.injEq] at h
            subst h
            obtain ⟨hselectable, ho⟩ := selectable_of_resolveSelections target inner hs
            refine ⟨fun rest hr => .composite hfield ht hk hn hselectable hr, ?_⟩
            rw [Selection.outline, Language.Selection.outline, ho]
  | parent, .inlineFragment condition directives inner, selection, h => by
    rw [resolveSelection, Except.ok.injEq] at h
    subst h
    exact ⟨fun rest hr => .inlineFragment hr, rfl⟩
  | parent, .fragmentSpread name directives, selection, h => by
    rw [resolveSelection, Except.ok.injEq] at h
    subst h
    exact ⟨fun rest hr => .fragmentSpread hr, rfl⟩

lemma selectable_of_resolveSelections : ∀ (parent : SchemaType)
    (written : List Language.Selection) {selections : List Selection},
    resolveSelections s parent written = .ok selections →
    Selectable s parent written ∧ outlines selections = Language.outlines written
  | parent, [], selections, h => by
    rw [resolveSelections, Except.ok.injEq] at h
    subst h
    exact ⟨.nil, rfl⟩
  | parent, first :: rest, selections, h => by
    rw [resolveSelections] at h
    obtain ⟨selected, h1, h⟩ := bind_eq_ok.mp h
    obtain ⟨others, h2, h⟩ := bind_eq_ok.mp h
    obtain rfl := Except.ok.inj h
    obtain ⟨hfirst, ho⟩ := selectable_of_resolveSelection parent first h1
    obtain ⟨hrest, hos⟩ := selectable_of_resolveSelections parent rest h2
    exact ⟨hfirst rest hrest, by rw [outlines, Language.outlines, ho, hos]⟩

end

end Selections

section Operations

open GraphqlBindings.Language (Definition OperationDefinition Document)

def IsInput (s : Schema) (name : String) : Prop :=
  name ∈ builtinScalars ∨ ∃ t, s.get? name = some t ∧
    (t.kind = .scalar ∨ t.kind = .enumeration ∨ t.kind = .inputObject)

structure Fits (s : Schema) (o : OperationDefinition) : Prop where
  named : o.name.isSome
  root : ∃ name root, s.rootName? o.kind = some name ∧ s.get? name = some root ∧
    Selectable s root o.selections
  vars : ∀ v ∈ o.vars, IsInput s v.type.baseName

/-- Operations alone, fragments apart, each with a name of its own that the schema has everything
for. -/
structure Resolvable (s : Schema) (d : Document) : Prop where
  named : ∀ position selections, .selections position selections ∉ d.definitions
  nonempty : d.operations ≠ []
  distinct : (d.operations.map OperationDefinition.name).Nodup
  fits : ∀ o ∈ d.operations, Fits s o

structure Resolution (s : Schema) (path source : String) (o : OperationDefinition)
    (op : Operation) : Prop where
  name_eq : o.name = some op.name
  kind_eq : op.kind = o.kind
  vars_eq : op.vars = o.vars.map fun v => ⟨v.name, v.type, v.default.map Language.Value.literal⟩
  source_eq : op.source = source
  path_eq : op.path = path
  known : ∃ name root, s.rootName? o.kind = some name ∧ s.get? name = some root ∧
    Resolved s root op.selections
  outline_eq : outlines op.selections = Language.outlines o.selections

variable {s : Schema} {path source : String}

lemma isInputType_iff {name : String} : isInputType s name = true ↔ IsInput s name := by
  rw [isInputType, Bool.or_eq_true, isBuiltinScalar, List.contains_iff_mem, IsInput]
  refine or_congr_right ?_
  cases s.get? name with
  | none => simp
  | some t => cases hk : t.kind <;> simp [TypeKind.isInput, hk]

lemma rootType?_eq_some_iff {kind : OperationKind} {root : SchemaType} :
    rootType? s kind = some root ↔ ∃ name, s.rootName? kind = some name ∧
      s.get? name = some root := Option.bind_eq_some_iff

lemma resolveVariable_eq_ok_iff {v : Language.VariableDefinition} {var : Variable} :
    resolveVariable s v = .ok var ↔ IsInput s v.type.baseName ∧
      ⟨v.name, v.type, v.default.map Language.Value.literal⟩ = var := by
  rw [resolveVariable, ← isInputType_iff]
  split <;> simp_all

lemma resolveVariables_eq_ok_iff {vs : List Language.VariableDefinition} {vars : List Variable} :
    vs.mapM (resolveVariable s) = .ok vars ↔ (∀ v ∈ vs, IsInput s v.type.baseName) ∧
      (vs.map fun v => ⟨v.name, v.type, v.default.map Language.Value.literal⟩) = vars := by
  rw [mapM_eq_ok_iff]
  induction vs generalizing vars with
  | nil => cases vars <;> simp
  | cons v rest ih =>
    cases vars with
    | nil => simp
    | cons var vars =>
      simp only [List.map_cons, List.cons.injEq, resolveVariable_eq_ok_iff, ih,
        List.forall_mem_cons]
      exact and_and_and_comm

lemma resolve_eq_ok_iff {earlier : List String} {o : OperationDefinition} {op : Operation} :
    resolve s path source earlier o = .ok op ↔ ∃ name root vars selections, o.name = some name ∧
      name ∉ earlier ∧ rootType? s o.kind = some root ∧
      o.vars.mapM (resolveVariable s) = .ok vars ∧
      resolveSelections s root o.selections = .ok selections ∧
      ⟨name, o.kind, vars, selections, source, path⟩ = op := by
  unfold resolve
  cases hn : o.name with
  | none => simp [bind, Except.bind]
  | some name =>
    by_cases he : name ∈ earlier
    · simp [bind, Except.bind, he]
    · cases hr : rootType? s o.kind with
      | none => simp [bind, Except.bind, he]
      | some root =>
        cases hv : o.vars.mapM (resolveVariable s) with
        | error fault => simp [bind, Except.bind, he]
        | ok vars =>
          cases hs : resolveSelections s root o.selections with
          | error fault => simp [bind, Except.bind, he, hs]
          | ok selections => simp [bind, Except.bind, he, hs, pure, Except.pure]

lemma resolve_isOk_iff {earlier : List String} {o : OperationDefinition} :
    (∃ op, resolve s path source earlier o = .ok op) ↔
      Fits s o ∧ ∀ name ∈ earlier, o.name ≠ some name := by
  simp only [resolve_eq_ok_iff]
  constructor
  · rintro ⟨op, name, root, vars, selections, hn, he, hr, hv, hs, -⟩
    obtain ⟨rootName, hroot⟩ := rootType?_eq_some_iff.mp hr
    refine ⟨⟨by simp [hn], ⟨rootName, root, hroot.1, hroot.2, ?_⟩, ?_⟩, ?_⟩
    · exact (selectable_of_resolveSelections root o.selections hs).1
    · exact (resolveVariables_eq_ok_iff.mp hv).1
    · intro n hm hne
      rw [hn, Option.some.injEq] at hne
      exact he (hne ▸ hm)
  · rintro ⟨⟨hn, ⟨rootName, root, hname, hroot, hs⟩, hv⟩, he⟩
    obtain ⟨name, hn⟩ := Option.isSome_iff_exists.mp hn
    obtain ⟨selections, hs⟩ := exists_resolved_of_selectable hs
    exact ⟨_, name, root, _, selections, hn, fun hm => he name hm hn,
      rootType?_eq_some_iff.mpr ⟨rootName, hname, hroot⟩,
      resolveVariables_eq_ok_iff.mpr ⟨hv, rfl⟩, hs, rfl⟩

lemma resolution_of_resolve {earlier : List String} {o : OperationDefinition} {op : Operation}
    (h : resolve s path source earlier o = .ok op) : Resolution s path source o op := by
  obtain ⟨name, root, vars, selections, hn, -, hr, hv, hs, rfl⟩ := resolve_eq_ok_iff.mp h
  obtain ⟨rootName, hroot⟩ := rootType?_eq_some_iff.mp hr
  refine ⟨hn, rfl, (resolveVariables_eq_ok_iff.mp hv).2.symm, rfl, rfl, ?_, ?_⟩
  · exact ⟨rootName, root, hroot.1, hroot.2, resolved_of_resolveSelections root _ hs⟩
  · exact (selectable_of_resolveSelections root _ hs).2

lemma resolveAll_operation {earlier : List String} {o : OperationDefinition}
    {rest : List Definition} {ops : List Operation} :
    resolveAll s path source earlier (.operation o :: rest) = .ok ops ↔
      ∃ op others, resolve s path source earlier o = .ok op ∧
        resolveAll s path source (op.name :: earlier) rest = .ok others ∧ op :: others = ops := by
  rw [resolveAll]
  simp only [bind_eq_ok, pure, Except.pure, Except.ok.injEq, exists_and_left]

lemma resolveAll_isOk_iff {earlier : List String} {definitions : List Definition} :
    let operations := definitions.filterMap Definition.operation?
    (∃ ops, resolveAll s path source earlier definitions = .ok ops) ↔
      (∀ position selections, .selections position selections ∉ definitions) ∧
      (∀ o ∈ operations, Fits s o ∧ ∀ name ∈ earlier, o.name ≠ some name) ∧
      (operations.map OperationDefinition.name).Nodup := by
  dsimp only
  induction definitions generalizing earlier with
  | nil => simp [resolveAll]
  | cons first rest ih =>
    cases first with
    | selections position selections =>
      constructor
      · rintro ⟨ops, h⟩
        simp [resolveAll] at h
      · rintro ⟨h, -⟩
        exact absurd List.mem_cons_self (h position selections)
    | fragment name condition directives selections =>
      have ha : (∀ position selections', .selections position selections' ∉
          Definition.fragment name condition directives selections :: rest) ↔
          ∀ position selections, .selections position selections ∉ rest := by simp
      rw [resolveAll, ih, List.filterMap_cons_none rfl, ha]
    | operation o =>
      have ha : (∀ position selections, .selections position selections ∉
          Definition.operation o :: rest) ↔
          ∀ position selections, .selections position selections ∉ rest := by simp
      rw [List.filterMap_cons_some (show Definition.operation? (.operation o) = some o from rfl),
        List.forall_mem_cons, List.map_cons, List.nodup_cons, ha]
      simp only [resolveAll_operation]
      constructor
      · rintro ⟨_, op, others, ho, hr, -⟩
        have hn := (resolution_of_resolve ho).name_eq
        obtain ⟨ha, hf, hd⟩ := ih.mp ⟨others, hr⟩
        refine ⟨ha, ⟨resolve_isOk_iff.mp ⟨op, ho⟩, fun o' hm => ?_⟩, fun hm => ?_, hd⟩
        · exact ⟨(hf o' hm).1, fun name he => (hf o' hm).2 name (List.mem_cons_of_mem _ he)⟩
        · obtain ⟨o', hm, he⟩ := List.mem_map.mp hm
          exact (hf o' hm).2 op.name List.mem_cons_self (he.trans hn)
      · rintro ⟨ha, ⟨ho, hf⟩, hm, hd⟩
        obtain ⟨op, ho⟩ : ∃ op, resolve s path source earlier o = .ok op :=
          resolve_isOk_iff.mpr ho
        have hn := (resolution_of_resolve ho).name_eq
        obtain ⟨others, hr⟩ : ∃ others,
            resolveAll s path source (op.name :: earlier) rest = .ok others := by
          refine ih.mpr ⟨ha, fun o' hm' => ⟨(hf o' hm').1, fun name he => ?_⟩, hd⟩
          rcases List.mem_cons.mp he with rfl | he
          · intro hne
            exact hm (hn ▸ hne ▸ List.mem_map_of_mem hm')
          · exact (hf o' hm').2 name he
        exact ⟨_, op, others, ho, hr, rfl⟩

lemma resolutions_of_resolveAll {earlier : List String} {definitions : List Definition}
    {ops : List Operation} (h : resolveAll s path source earlier definitions = .ok ops) :
    List.Forall₂ (Resolution s path source) (definitions.filterMap Definition.operation?) ops := by
  induction definitions generalizing earlier ops with
  | nil =>
    obtain rfl := Except.ok.inj h
    exact .nil
  | cons first rest ih =>
    cases first with
    | selections position selections => simp [resolveAll] at h
    | fragment name condition directives selections => exact ih h
    | operation o =>
      obtain ⟨op, others, ho, hr, rfl⟩ := resolveAll_operation.mp h
      exact .cons (resolution_of_resolve ho) (ih hr)

lemma ofDocument_eq_ok_iff {d : Document} {ops : List Operation} :
    ofDocument s path source d = .ok ops ↔
      resolveAll s path source [] d.definitions = .ok ops ∧ ops ≠ [] := by
  rw [ofDocument, bind_eq_ok]
  constructor
  · rintro ⟨ops', hr, h⟩
    split at h
    · simp at h
    · next hn =>
      obtain rfl := Except.ok.inj h
      exact ⟨hr, by simpa using hn⟩
  · rintro ⟨hr, hn⟩
    exact ⟨ops, hr, by simp [hn]⟩

lemma isInput_of_resolveAll {earlier : List String} {definitions : List Definition}
    {ops : List Operation} (h : resolveAll s path source earlier definitions = .ok ops) :
    ∀ op ∈ ops, ∀ v ∈ op.vars, IsInput s v.type.baseName := by
  induction definitions generalizing earlier ops with
  | nil =>
    obtain rfl := Except.ok.inj h
    simp
  | cons first rest ih =>
    cases first with
    | selections position selections => simp [resolveAll] at h
    | fragment name condition directives selections => exact ih h
    | operation o =>
      obtain ⟨op, others, ho, hr, rfl⟩ := resolveAll_operation.mp h
      obtain ⟨name, root, vars, selections, -, -, -, hv, -, rfl⟩ := resolve_eq_ok_iff.mp ho
      obtain ⟨hinput, rfl⟩ := resolveVariables_eq_ok_iff.mp hv
      rw [List.forall_mem_cons]
      exact ⟨List.forall_mem_map.mpr hinput, ih hr⟩

lemma isInput_of_ofText {ops : List Operation} (h : ofText s path source = .ok ops)
    {op : Operation} (hop : op ∈ ops) : ∀ v ∈ op.vars, IsInput s v.type.baseName := by
  rw [ofText] at h
  split at h
  · simp at h
  · exact isInput_of_resolveAll (ofDocument_eq_ok_iff.mp h).1 op hop

/-- A document that can be read is accepted exactly if its operations have names of their own and
the schema has everything for them; and then each of them comes back with the definitions of its
fields, and as it was written. -/
theorem ofText_isOk_iff (s : Schema) (path source : String) (d : Document)
    (hd : Document.read source = .ok d) :
    ((∃ ops, ofText s path source = .ok ops) ↔ Resolvable s d) ∧
      ∀ ops, ofText s path source = .ok ops →
        List.Forall₂ (Resolution s path source) d.operations ops := by
  have ht : ofText s path source = ofDocument s path source d := by rw [ofText, hd]
  simp only [ht, ofDocument_eq_ok_iff]
  constructor
  · constructor
    · rintro ⟨ops, hr, hn⟩
      obtain ⟨ha, hf, hnodup⟩ := resolveAll_isOk_iff.mp ⟨ops, hr⟩
      refine ⟨ha, fun he => hn ?_, hnodup, fun o ho => (hf o ho).1⟩
      have hops : List.Forall₂ _ d.operations ops := resolutions_of_resolveAll hr
      exact List.forall₂_nil_left_iff.mp (he ▸ hops)
    · rintro ⟨ha, hn, hnodup, hf⟩
      obtain ⟨ops, hr⟩ : ∃ ops, resolveAll s path source [] d.definitions = .ok ops :=
        resolveAll_isOk_iff.mpr ⟨ha, fun o ho => ⟨hf o ho, by simp⟩, hnodup⟩
      refine ⟨ops, hr, fun he => hn ?_⟩
      have hops : List.Forall₂ _ d.operations ops := resolutions_of_resolveAll hr
      exact List.forall₂_nil_right_iff.mp (he ▸ hops)
  · rintro ops ⟨hr, -⟩
    exact resolutions_of_resolveAll hr

end Operations

section Catalog

def itemField : SchemaField := ⟨"item", none, [], .named "Item", false, none⟩

def priceField : SchemaField := ⟨"price", none, [], .nonNull (.named "Float"), false, none⟩

def catalogSchema : Schema := .ofTypes (some "Query") none none
  [⟨.object, "Query", none, [itemField], [], [], [], []⟩,
    ⟨.object, "Item", none, [priceField, itemField], [], [], [], []⟩] []

def catalogQuery : String :=
  "query A { a: item { price ...M } } fragment M on Item { price }"

theorem ofText_isOk_iff_catalog :
    ∃ d, Language.Document.read catalogQuery = .ok d ∧
      ((∃ ops, ofText catalogSchema "a.graphql" catalogQuery = .ok ops) ↔
        Resolvable catalogSchema d) ∧
      ∀ ops, ofText catalogSchema "a.graphql" catalogQuery = .ok ops →
        List.Forall₂ (Resolution catalogSchema "a.graphql" catalogQuery) d.operations ops := by
  have hr : (Language.Document.read catalogQuery).toOption.isSome = true := by cbv
  cases hd : Language.Document.read catalogQuery with
  | error position => simp [hd, Except.toOption] at hr
  | ok d => exact ⟨d, rfl, ofText_isOk_iff catalogSchema "a.graphql" catalogQuery d hd⟩

end Catalog

end Operation

end GraphqlBindings

import Mathlib
import GraphqlBindings.Proofs.Code.Writing
import GraphqlBindings.Proofs.Generator.Closed
import GraphqlBindings.Proofs.Generator.Wrappers
import GraphqlBindings.Proofs.Operation.Arguments
import GraphqlBindings.Proofs.Operation.Typing
import GraphqlBindings.Proofs.Schema.Validation

namespace GraphqlBindings

namespace TypeRef

variable {base : CodeType} (boxed : Bool)

lemma present_shape (hb : base.isOption = false) (r : TypeRef) :
    (r.shape base boxed).present = r.requiredShape base boxed := by
  have ho := r.isOption_requiredShape boxed hb
  rw [shape_eq]
  split
  · cases hs : r.requiredShape base boxed with
    | option inner => simp [hs, CodeType.isOption] at ho
    | _ => rfl
  · rfl

end TypeRef

section Shape

variable {model : List Declaration} {s : Schema}

lemma writes_requiredShape_list {base : CodeType} {r : TypeRef} {j : Json}
    (h : ∀ items, j = .array items → ∀ item ∈ items,
      (TypeWrites model (r.shape base false) item ↔ IsInputValue s r item)) (boxed : Bool) :
    TypeWrites model ((TypeRef.list r).requiredShape base boxed) j ↔
      j ≠ .null ∧ IsInputValue s (.list r) j := by
  rw [TypeRef.requiredShape, typeWrites_vec_iff, isInputValue_list_iff]
  constructor
  · rintro ⟨items, rfl, hi⟩
    exact ⟨by simp, Or.inr ⟨items, rfl, fun item hm => (h items rfl item hm).mp (hi item hm)⟩⟩
  · rintro ⟨hn, rfl | ⟨items, rfl, hi⟩⟩
    · exact absurd rfl hn
    · exact ⟨items, rfl, fun item hm => (h items rfl item hm).mpr (hi item hm)⟩

lemma writes_shape {base : CodeType} {bound : Nat} (r : TypeRef)
    (hb : ∀ j, sizeOf j < bound →
      (TypeWrites model base j ↔ IsNamedInput s r.baseName j)) (boxed : Bool) (j : Json)
    (hj : sizeOf j < bound) :
    (TypeWrites model (r.shape base boxed) j ↔ IsInputValue s r j) ∧
      (TypeWrites model (r.requiredShape base boxed) j ↔ j ≠ .null ∧ IsInputValue s r j) := by
  induction r generalizing boxed j with
  | named name =>
    have hr : TypeWrites model ((TypeRef.named name).requiredShape base boxed) j ↔
        IsNamedInput s name j := by
      cases boxed with
      | false => simpa [TypeRef.requiredShape, TypeRef.baseName] using hb j hj
      | true =>
        simpa [TypeRef.requiredShape, TypeRef.baseName, typeWrites_boxed_iff] using hb j hj
    rw [TypeRef.shape, typeWrites_option_iff, hr, isInputValue_named_iff]
    refine ⟨Iff.rfl, fun h => ⟨h.ne_null, Or.inr h⟩, ?_⟩
    rintro ⟨hn, h⟩
    exact h.resolve_left hn
  | list r ih =>
    have hr := writes_requiredShape_list (j := j) (fun items hi item hm => (ih hb false item
      (lt_trans (by subst hi; have := List.sizeOf_lt_of_mem hm; simp; omega) hj)).1) boxed
    refine ⟨?_, hr⟩
    rw [TypeRef.shape, typeWrites_option_iff, hr, isInputValue_list_iff]
    constructor
    · rintro (rfl | ⟨-, h⟩)
      · exact Or.inl rfl
      · exact h
    · intro h
      by_cases hn : j = .null
      · exact Or.inl hn
      · exact Or.inr ⟨hn, h⟩
  | nonNull r ih =>
    have hr := (ih hb boxed j hj).2
    rw [TypeRef.shape, TypeRef.requiredShape, hr, isInputValue_nonNull_iff]
    simp

lemma sizeOf_member {members : List (String × Json)} {m : String × Json} (h : m ∈ members) :
    sizeOf m.2 < sizeOf (Json.object members) := by
  have hm := List.sizeOf_lt_of_mem h
  obtain ⟨k, x⟩ := m
  simp at hm ⊢
  omega

def FieldDeclaration.entry (f : FieldDeclaration) : String × CodeType := (f.key, f.type)

lemma bodyWrites_iff_isInputObject {fields : List FieldDeclaration} {params : List Parameter}
    (base : String → CodeType) (boxed : TypeRef → Bool) (bound : Nat)
    (hf : fields.map FieldDeclaration.entry =
      params.map fun p => (p.1, p.2.shape (base p.2.baseName) (boxed p.2)))
    (hd : (params.map Prod.fst).Nodup) (ho : ∀ name, (base name).isOption = false)
    (hb : ∀ p ∈ params, ∀ j, sizeOf j < bound →
      (TypeWrites model (base p.2.baseName) j ↔ IsNamedInput s p.2.baseName j)) {j : Json}
    (hj : sizeOf j ≤ bound) : BodyWrites model (.fields fields) j ↔ IsInputObject s params j := by
  have hkeys : fields.map FieldDeclaration.key = params.map Prod.fst := by
    simpa [FieldDeclaration.entry, Function.comp_def] using congrArg (List.map Prod.fst) hf
  have hfield : ∀ f ∈ fields, ∃ p ∈ params,
      p.1 = f.key ∧ p.2.shape (base p.2.baseName) (boxed p.2) = f.type := by
    intro f hm
    have := hf ▸ List.mem_map_of_mem (f := FieldDeclaration.entry) hm
    simpa [FieldDeclaration.entry] using this
  have hparam : ∀ p ∈ params, ∃ f ∈ fields,
      f.key = p.1 ∧ f.type = p.2.shape (base p.2.baseName) (boxed p.2) := by
    intro p hm
    have := List.mem_map_of_mem
      (f := fun p : Parameter => (p.1, p.2.shape (base p.2.baseName) (boxed p.2))) hm
    rw [← hf] at this
    simpa [FieldDeclaration.entry] using this
  have hvalue : ∀ members, j = .object members → ∀ m ∈ members, ∀ p ∈ params,
      (TypeWrites model (p.2.shape (base p.2.baseName) (boxed p.2)).present m.2 ↔
        m.2 ≠ .null ∧ IsInputValue s p.2 m.2) := by
    rintro members rfl m hm p hp
    rw [p.2.present_shape _ (ho _)]
    exact (writes_shape p.2 (hb p hp) _ _ ((sizeOf_member hm).trans_le hj)).2
  rw [bodyWrites_fields_iff (hkeys ▸ hd)]
  constructor
  · rintro ⟨members, rfl, hsorted, hmembers, hrequired⟩
    refine .object hsorted (fun m hm => ?_) (fun m hm => ?_) (fun p hp hn => ?_)
      fun p hp x hm => ?_
    · obtain ⟨f, hfm, hk, -⟩ := hmembers m hm
      exact hkeys ▸ hk ▸ List.mem_map_of_mem hfm
    · obtain ⟨f, hfm, -, hw⟩ := hmembers m hm
      obtain ⟨p, hp, -, ht⟩ := hfield f hfm
      exact ((hvalue members rfl m hm p hp).mp (ht ▸ hw)).1
    · obtain ⟨f, hfm, hk, ht⟩ := hparam p hp
      refine hk ▸ hrequired f hfm ?_
      rw [ht, TypeRef.isOption_shape _ (ho _), hn, Bool.not_true]
    · obtain ⟨f, hfm, hk, hw⟩ := hmembers _ hm
      obtain ⟨p', hp', hk', ht⟩ := hfield f hfm
      obtain rfl := List.inj_on_of_nodup_map hd hp' hp (hk'.trans hk)
      exact ((hvalue members rfl _ hm p' hp').mp (ht ▸ hw)).2
  · intro h
    cases h with
    | @object _ members hsorted hknown hnull hrequired hvalues =>
      refine ⟨members, rfl, hsorted, fun m hm => ?_, fun f hfm hopt => ?_⟩
      · obtain ⟨p, hp, hk⟩ := List.mem_map.mp (hknown m hm)
        obtain ⟨f, hfm, hk', ht⟩ := hparam p hp
        refine ⟨f, hfm, hk'.trans hk, ht ▸ (hvalue members rfl m hm p hp).mpr ⟨hnull m hm, ?_⟩⟩
        exact hvalues p hp m.2 (hk ▸ hm)
      · obtain ⟨p, hp, hk, ht⟩ := hfield f hfm
        refine hk ▸ hrequired p hp ?_
        rw [← ht, TypeRef.isOption_shape _ (ho _)] at hopt
        simpa using hopt

end Shape

namespace Generator

lemma map_value_variants (naming : Naming) (scope : NameScope) (values : List EnumValue) :
    (variants naming scope values).map Variant.value = values.map EnumValue.name := by
  induction values generalizing scope with
  | nil => rfl
  | cons v rest ih => simp [variants, ih]

section Fields

variable (g : Generator)

lemma map_inputFields (scope : NameScope) (fs : List InputValue) :
    (g.inputFields scope fs).map FieldDeclaration.entry =
      fs.map fun f => (f.name, g.schemaFieldType f.type) := by
  induction fs generalizing scope with
  | nil => rfl
  | cons f rest ih => simp [inputFields, FieldDeclaration.entry, ih]

lemma map_variableFields (scope : NameScope) (vars : List Variable) :
    (g.variableFields scope vars).map FieldDeclaration.entry =
      vars.map fun v => (v.name, v.type.shape (g.namedType v.type.baseName) false) := by
  induction vars generalizing scope with
  | nil => rfl
  | cons v rest ih => simp [variableFields, FieldDeclaration.entry, ih]

lemma isOption_namedType (name : String) : (g.namedType name).isOption = false := by
  rcases g.namedType_cases name with ⟨n, -, h⟩ | ⟨ident, -, h⟩ <;> simp [h, CodeType.isOption]

end Fields

section Names

variable {schema : Schema} {name : String} {j : Json}

lemma mem_builtinScalars (hb : isBuiltinScalar name = true) :
    name = "String" ∨ name = "Int" ∨ name = "Float" ∨ name = "Boolean" ∨ name = "ID" := by
  simpa [isBuiltinScalar, builtinScalars] using hb

lemma exists_foreign_of_isNamedInput (g : Generator)
    (hs : ∀ t ∈ schema.types, isBuiltinScalar t.name = true → t.kind = .scalar)
    (hb : isBuiltinScalar name = true) (h : IsNamedInput schema name j) :
    ∃ n v, g.namedType name = .named n ∧ ForeignValue n v ∧ v.json = j := by
  have hkind : ∀ t, schema.get? name = some t → t.kind = .scalar := by
    intro t ht
    obtain ⟨hm, rfl⟩ := Schema.get?_mem ht
    exact hs t hm hb
  rcases h with h | ⟨t, ht, hk, -⟩
  · cases h with
    | text value hn =>
      refine ⟨"String", .text value, ?_, .text value, by rw [CodeValue.json]⟩
      rw [namedType, if_pos hn]
    | int n => exact ⟨"i64", .integer n, rfl, .integer n, by rw [CodeValue.json]⟩
    | float x hx => exact ⟨"f64", .double x, rfl, .double x hx, by simp [CodeValue.json, hx]⟩
    | boolean b => exact ⟨"bool", .bool b, rfl, .bool b, by rw [CodeValue.json]⟩
    | scalar _ hn => simp [hb] at hn
    | enumeration ht hk => simp [hkind _ ht] at hk
  · simp [hkind t ht] at hk

lemma isNamedInput_of_foreign {g : Generator} (hb : isBuiltinScalar name = true) {n : String}
    {v : CodeValue} (hn : g.namedType name = .named n) (hf : ForeignValue n v) :
    IsNamedInput schema name v.json := by
  left
  have hname := mem_builtinScalars hb
  cases hf with
  | text s =>
    rw [CodeValue.json]
    rcases hname with rfl | rfl | rfl | rfl | rfl <;> simp [namedType] at hn
    · exact .text s (Or.inl rfl)
    · exact .text s (Or.inr rfl)
  | integer k =>
    rw [CodeValue.json]
    rcases hname with rfl | rfl | rfl | rfl | rfl <;> simp [namedType] at hn
    exact .int k
  | double x hx =>
    rw [CodeValue.json, hx]
    rcases hname with rfl | rfl | rfl | rfl | rfl <;> simp [namedType] at hn
    exact .float x hx
  | bool b =>
    rw [CodeValue.json]
    rcases hname with rfl | rfl | rfl | rfl | rfl <;> simp [namedType] at hn
    exact .boolean b
  | any k => rcases hname with rfl | rfl | rfl | rfl | rfl <;> simp [namedType] at hn

lemma isNamedInput_iff_of_get? (hb : isBuiltinScalar name = false) {t : SchemaType}
    (ht : schema.get? name = some t) : IsNamedInput schema name j ↔
      (t.kind = .scalar ∧ ∃ value, j = .string value) ∨
      (t.kind = .enumeration ∧ ∃ v ∈ t.enumValues, j = .string v.name) ∨
      (t.kind = .inputObject ∧
        IsInputObject schema (t.inputFields.map InputValue.parameter) j) := by
  constructor
  · rintro (h | ⟨t', ht', hk, h⟩)
    · cases h with
      | text value hn => rcases hn with rfl | rfl <;> simp [isBuiltinScalar, builtinScalars] at hb
      | scalar value _ ht' hk =>
        obtain rfl := Option.some.inj (ht.symm.trans ht')
        exact Or.inl ⟨hk, value, rfl⟩
      | enumeration ht' hk hv =>
        obtain rfl := Option.some.inj (ht.symm.trans ht')
        exact Or.inr (Or.inl ⟨hk, _, hv, rfl⟩)
      | _ => simp [isBuiltinScalar, builtinScalars] at hb
    · obtain rfl := Option.some.inj (ht.symm.trans ht')
      exact Or.inr (Or.inr ⟨hk, h⟩)
  · rintro (⟨hk, value, rfl⟩ | ⟨hk, v, hv, rfl⟩ | ⟨hk, h⟩)
    · exact Or.inl (.scalar value hb ht hk)
    · exact Or.inl (.enumeration ht hk hv)
    · exact Or.inr ⟨t, ht, hk, h⟩

end Names

section Request

variable {package : String} {schema : Schema} {naming : Naming} {g : Generator}
  {earlier : List OperationTypes} {decls model : List Declaration}

def InputsSound (schema : Schema) : Prop :=
  ∀ t ∈ schema.types, t.kind = .inputObject → (t.inputFields.map InputValue.name).Nodup ∧
    ∀ f ∈ t.inputFields, Operation.IsInput schema f.type.baseName

lemma Inside.writes_builtin (hi : Inside g decls model)
    (hs : ∀ t ∈ schema.types, isBuiltinScalar t.name = true → t.kind = .scalar) {name : String}
    (hb : isBuiltinScalar name = true) (j : Json) :
    TypeWrites model (g.namedType name) j ↔ IsNamedInput schema name j := by
  obtain ⟨n, hf, hn⟩ : ∃ n ∈ foreignTypes, g.namedType name = .named n := by
    rcases mem_builtinScalars hb with rfl | rfl | rfl | rfl | rfl
    exacts [⟨"String", by decide, rfl⟩, ⟨"i64", by decide, rfl⟩, ⟨"f64", by decide, rfl⟩,
      ⟨"bool", by decide, rfl⟩, ⟨"String", by decide, rfl⟩]
  have hu : n ∉ model.map Declaration.name := by
    intro hm
    obtain ⟨d, hd, rfl⟩ := List.mem_map.mp hm
    exact hi.not_foreign d hd hf
  rw [hn, typeWrites_foreign_iff hu]
  constructor
  · rintro ⟨v, hv, rfl⟩
    exact isNamedInput_of_foreign hb hn hv
  · intro h
    obtain ⟨n', v, hn', hv, rfl⟩ := exists_foreign_of_isNamedInput g hs hb h
    rw [hn, CodeType.named.injEq] at hn'
    exact ⟨v, hn' ▸ hv, rfl⟩

lemma Accounts.writes_userType (h : Accounts package schema naming g earlier)
    (hd : (schema.types.map SchemaType.name).Nodup) (hi : Inside g decls model) {t : SchemaType}
    (ht : t ∈ schema.userTypes) (hb : isBuiltinScalar t.name = false) :
    ∃ body, g.schemaTypeBody t = .ok body ∧
      ∀ j, TypeWrites model (g.namedType t.name) j ↔ BodyWrites model body j := by
  obtain ⟨ident, -, hident⟩ := h.typeName?_eq_some hd ht
  obtain ⟨d, hm, hdt⟩ := h.exists_declaration hi.schemaTypes_ok ht
  obtain ⟨hname, hbody⟩ := schemaType_ok hdt
  rw [hident, Option.getD_some] at hname
  refine ⟨d.body, hbody, fun j => ?_⟩
  have hn : g.namedType t.name = .named d.name := by
    simp only [isBuiltinScalar, builtinScalars, List.contains_eq_mem, List.mem_cons,
      List.not_mem_nil, or_false, decide_eq_false_iff_not, not_or] at hb
    simp [namedType, hb, hident, hname]
  rw [hn]
  exact typeWrites_declared_iff hi.unique (hi.subset hm)

lemma Inside.writes_text (hi : Inside g decls model) (j : Json) :
    TypeWrites model (.named "String") j ↔ ∃ value, j = .string value := by
  have hu : "String" ∉ model.map Declaration.name := by
    intro hm
    obtain ⟨d, hd, hn⟩ := List.mem_map.mp hm
    exact hi.not_foreign d hd (hn ▸ by decide)
  rw [typeWrites_foreign_iff hu]
  constructor
  · rintro ⟨v, hv, rfl⟩
    generalize hn : "String" = n at hv
    cases hv with
    | text value => exact ⟨value, by rw [CodeValue.json]⟩
    | _ => simp at hn
  · rintro ⟨value, rfl⟩
    exact ⟨.text value, .text value, by rw [CodeValue.json]⟩

structure Reachable (schema : Schema) (vars : List Variable) : Prop where
  scalars : ∀ t ∈ schema.types, isBuiltinScalar t.name = true → t.kind = .scalar
  inputs : InputsSound schema
  allowed : ∀ v ∈ vars, Operation.IsInput schema v.type.baseName
  known : ∀ name, Reaches schema vars name →
    isBuiltinScalar name = true ∨ ∃ t ∈ schema.userTypes, t.name = name

lemma Reachable.isInput {vars : List Variable} (hr : Reachable schema vars) {name : String}
    (h : Reaches schema vars name) : Operation.IsInput schema name := by
  cases h with
  | «variable» hv => exact hr.allowed _ hv
  | field _ ht hk hf => exact (hr.inputs _ (Schema.get?_mem ht).1 hk).2 _ hf

lemma Accounts.writes_namedType (h : Accounts package schema naming g earlier)
    (hd : (schema.types.map SchemaType.name).Nodup) (hi : Inside g decls model)
    {vars : List Variable} (hr : Reachable schema vars) (bound : Nat) {name : String}
    (hname : Reaches schema vars name) {j : Json} (hj : sizeOf j < bound) :
    TypeWrites model (g.namedType name) j ↔ IsNamedInput schema name j := by
  induction bound generalizing name j with
  | zero => exact absurd hj (Nat.not_lt_zero _)
  | succ bound ih =>
    cases hb : isBuiltinScalar name with
    | true => exact hi.writes_builtin hr.scalars hb j
    | false =>
      obtain ⟨t, ht, rfl⟩ := (hr.known name hname).resolve_left (by simp [hb])
      have hg : schema.get? t.name = some t :=
        (Schema.get?_eq_some_iff hd).mpr ⟨(Schema.mem_userTypes.mp ht).1, rfl⟩
      obtain ⟨body, hbody, hw⟩ := h.writes_userType hd hi ht hb
      rw [hw j, isNamedInput_iff_of_get? hb hg]
      have hkind : t.kind = .scalar ∨ t.kind = .enumeration ∨ t.kind = .inputObject := by
        rcases hr.isInput hname with hm | ⟨t', ht', hk⟩
        · simp [isBuiltinScalar, hm] at hb
        · exact Option.some.inj (hg.symm.trans ht') ▸ hk
      rw [schemaTypeBody] at hbody
      rcases hkind with hk | hk | hk <;> rw [hk, Except.ok.injEq] at hbody <;> subst hbody
      · simp [hk, bodyWrites_alias_iff, hi.writes_text]
      · rw [bodyWrites_variants_iff, map_value_variants]
        simp [hk]
      · simp only [hk, reduceCtorEq, false_and, true_and, false_or]
        refine bodyWrites_iff_isInputObject g.namedType (fun r => g.isRecursive r.baseName) bound
          ?_ ?_ g.isOption_namedType ?_ (Nat.lt_succ_iff.mp hj)
        · simp [map_inputFields, schemaFieldType, InputValue.parameter, Function.comp_def]
        · simpa [InputValue.parameter, Function.comp_def] using
            (hr.inputs t (Schema.get?_mem hg).1 hk).1
        · intro p hp j hj
          obtain ⟨f, hf, rfl⟩ := List.mem_map.mp hp
          exact ih (.field hname hg hk hf) hj

lemma Accounts.inside_schemaTypes (h : Accounts package schema naming g earlier)
    (hd : (schema.types.map SchemaType.name).Nodup) (hs : g.schemaTypes = .ok decls) :
    Inside g decls decls := by
  have hnames := h.map_name_schemaTypes hd hs
  have hnodup : (decls.map Declaration.name).Nodup := by
    have hall := List.nodup_reverse.mp (h.types_eq ▸ h.nodup_types)
    rw [hnames]
    exact ((List.sublist_cons_self _ _).trans (List.sublist_append_left _ _)).nodup hall
  refine ⟨hs, List.Subset.refl _, fun d hm e he hn => ?_, fun d hm => ?_⟩
  · exact List.inj_on_of_nodup_map hnodup hm he hn
  · exact h.not_foreign (hnames ▸ List.mem_map_of_mem hm)

lemma Accounts.writes_request (h : Accounts package schema naming g earlier)
    (hd : (schema.types.map SchemaType.name).Nodup) (hi : Inside g decls decls) {op : Operation}
    (hr : Reachable schema op.vars) (hvars : (op.vars.map Variable.name).Nodup) (j : Json) :
    BodyWrites decls (g.typesOf op).request.body j ↔ IsVariables schema op.vars j := by
  refine bodyWrites_iff_isInputObject g.namedType (fun _ => false) (sizeOf j) ?_ ?_
    g.isOption_namedType ?_ le_rfl
  · simp [map_variableFields, Variable.parameter, Function.comp_def]
  · simpa [Variable.parameter, Function.comp_def] using hvars
  · intro p hp x hx
    obtain ⟨v, hv, rfl⟩ := List.mem_map.mp hp
    exact h.writes_namedType hd hi hr (sizeOf j) (.variable hv) hx

lemma Accounts.writes_declared (h : Accounts package schema naming g earlier)
    (hvalid : schema.validate = .ok ()) (hd : (schema.types.map SchemaType.name).Nodup)
    {op : Operation} (hr : Reachable schema op.vars) (hvars : (op.vars.map Variable.name).Nodup)
    {types : OperationTypes} {g' : Generator} (hdecl : g.declare op = (.ok types, g')) :
    ∃ decls, g.schemaTypes = .ok decls ∧
      ∀ j, BodyWrites decls types.request.body j ↔ IsVariables schema op.vars j := by
  obtain ⟨decls, hs⟩ := schemaTypes_isOk (g := g) fun t ht =>
    Schema.isNamed_of_validate hvalid (h.schema_eq ▸ ht)
  obtain ⟨_, _, _, rfl, -⟩ := declare_ok hdecl
  exact ⟨decls, hs, h.writes_request hd (h.inside_schemaTypes hd hs) hr hvars⟩

/-- The data that a request writes is exactly what its variables can be given: whatever operations
have been declared or refused before, and however input objects refer to each other. -/
theorem writes_variables (schema : Schema) (hvalid : schema.validate = .ok ())
    (hd : (schema.types.map SchemaType.name).Nodup)
    (hscalar : ∀ t ∈ schema.types, isBuiltinScalar t.name = true → t.kind = .scalar)
    (hinputs : InputsSound schema) (path source : String) (ops : List Operation)
    (hops : Operation.ofText schema path source = .ok ops) (op : Operation) (hop : op ∈ ops)
    (hvars : (op.vars.map Variable.name).Nodup)
    (hknown : ∀ name, Reaches schema op.vars name →
      isBuiltinScalar name = true ∨ ∃ t ∈ schema.userTypes, t.name = name)
    (package : String) (naming : Naming) (earlier : List Operation) (types : OperationTypes)
    (g' : Generator)
    (hdecl : ((ofSchema package schema naming).declareAll earlier).2.declare op =
      (.ok types, g')) :
    ∃ decls, ((ofSchema package schema naming).declareAll earlier).2.schemaTypes = .ok decls ∧
      ∀ j, BodyWrites decls types.request.body j ↔ IsVariables schema op.vars j := by
  have h := (accounts_ofSchema package schema naming).declareAll earlier
  exact h.writes_declared hvalid hd
    ⟨hscalar, hinputs, Operation.isInput_of_ofText hops hop, hknown⟩ hvars hdecl

theorem writes_variables_of_decode {raw : Json} {schema : Schema}
    (hraw : Introspection.decode raw = .ok schema) (hvalid : schema.validate = .ok ())
    {op : Operation} (hr : Reachable schema op.vars) (hvars : (op.vars.map Variable.name).Nodup)
    (package : String) (naming : Naming) (earlier : List Operation) {types : OperationTypes}
    {g' : Generator}
    (hdecl : ((ofSchema package schema naming).declareAll earlier).2.declare op =
      (.ok types, g')) :
    ∃ decls, ((ofSchema package schema naming).declareAll earlier).2.schemaTypes = .ok decls ∧
      ∀ j, BodyWrites decls types.request.body j ↔ IsVariables schema op.vars j := by
  have hd := Schema.nodup_of_validate (Schema.index_of_decode hraw) hvalid
  have h := (accounts_ofSchema package schema naming).declareAll earlier
  exact h.writes_declared hvalid hd hr hvars hdecl

end Request

section Filters

def filterType : SchemaType where
  kind := .inputObject
  name := "Filter"
  description := none
  fields := []
  inputFields := [⟨"any", none, .list (.nonNull (.named "Filter")), none⟩,
    ⟨"region", none, .nonNull (.named "Region"), none⟩]
  interfaces := []
  enumValues := []
  possibleTypes := []

def itemsField : SchemaField := ⟨"items", none, [], .named "String", false, none⟩

def filterSchema : Schema := .ofTypes (some "Query") none none
  [⟨.object, "Query", none, [itemsField], [], [], [], []⟩, filterType,
    ⟨.enumeration, "Region", none, [], [], [], [⟨"EUROPE", none, false, none⟩], []⟩] []

def filterQuery : Operation where
  name := "items"
  kind := .query
  vars := [⟨"filter", .nonNull (.named "Filter"), none⟩, ⟨"limit", .named "Int", none⟩]
  selections := [.field none "items" itemsField []]
  source := "query items($filter: Filter!, $limit: Int) { items }"
  path := "items.graphql"

def filterVariables : Json :=
  .object [("filter", .object [("any", .array [.object [("region", .string "EUROPE")]]),
    ("region", .string "EUROPE")])]

lemma isInputValue_filter {members : List (String × Json)} (hs : Keyed.Sorted members)
    (hk : ∀ m ∈ members, m.1 = "any" ∨ m = ("region", .string "EUROPE"))
    (hn : ∀ m ∈ members, m.2 ≠ .null) (hr : "region" ∈ members.map Prod.fst)
    (ha : ∀ j, ("any", j) ∈ members →
      IsInputValue filterSchema (.list (.nonNull (.named "Filter"))) j) :
    IsInputValue filterSchema (.nonNull (.named "Filter")) (.object members) := by
  refine .nonNull (by simp) (.object (t := filterType) rfl rfl (.object hs ?_ hn ?_ ?_))
  · intro m hm
    rcases hk m hm with he | rfl <;> simp [*, filterType, InputValue.parameter]
  · simpa [filterType, InputValue.parameter, TypeRef.isNonNull] using hr
  · intro p hp j hj
    simp only [filterType, List.map_cons, List.map_nil, List.mem_cons, List.not_mem_nil,
      or_false] at hp
    rcases hp with rfl | rfl
    · exact ha j hj
    · obtain rfl : j = .string "EUROPE" := by simpa [InputValue.parameter] using hk _ hj
      exact .nonNull (by simp)
        (.leaf (.enumeration (v := ⟨"EUROPE", none, false, none⟩) rfl rfl (by simp)))

lemma isVariables_filterVariables :
    IsVariables filterSchema filterQuery.vars filterVariables := by
  have hinner : IsInputValue filterSchema (.nonNull (.named "Filter"))
      (.object [("region", .string "EUROPE")]) := by
    apply isInputValue_filter <;> simp [Keyed.Sorted]
  refine .object (by simp [Keyed.Sorted]) (by simp [filterQuery, Variable.parameter]) (by simp)
    (by simp [filterQuery, Variable.parameter, TypeRef.isNonNull]) ?_
  intro p hp j hj
  simp only [filterQuery, List.map_cons, List.map_nil, List.mem_cons, List.not_mem_nil,
    or_false] at hp
  rcases hp with rfl | rfl
  · obtain rfl : j = _ := by simpa [Variable.parameter] using hj
    refine isInputValue_filter (by unfold Keyed.Sorted; decide) (by simp) (by simp) (by simp) ?_
    intro j hj
    obtain rfl : j = _ := by simpa using hj
    exact .list (by simpa using hinner)
  · simp [Variable.parameter] at hj

lemma knows_filterQuery (name : String) (h : Reaches filterSchema filterQuery.vars name) :
    isBuiltinScalar name = true ∨ ∃ t ∈ filterSchema.userTypes, t.name = name := by
  have hknown : ∀ name ∈ ["Filter", "Region", "Int"], isBuiltinScalar name = true ∨
      ∃ t ∈ filterSchema.types, filterSchema.isUserType t = true ∧ t.name = name := by decide
  simp only [Schema.mem_userTypes, and_assoc]
  refine hknown name ?_
  cases h with
  | «variable» hv =>
    simp only [filterQuery, List.mem_cons, List.not_mem_nil, or_false] at hv
    rcases hv with rfl | rfl <;> decide
  | field _ ht hk hf =>
    have hm := (Schema.get?_mem ht).1
    simp only [filterSchema, Schema.ofTypes, List.mem_cons, List.not_mem_nil, or_false] at hm
    rcases hm with rfl | rfl | rfl
    · simp at hf
    · simp only [filterType, List.mem_cons, List.not_mem_nil, or_false] at hf
      rcases hf with rfl | rfl <;> decide
    · simp at hf

lemma declare_filterQuery :
    (ofSchema "shop" filterSchema ⟨false⟩).declare filterQuery =
      (.ok ((ofSchema "shop" filterSchema ⟨false⟩).typesOf filterQuery),
        (ofSchema "shop" filterSchema ⟨false⟩).after filterQuery) := by
  refine declare_of_checked (by decide +kernel) ?_
  have hsorted : filterSchema.userTypes = filterSchema.types.filter filterSchema.isUserType :=
    List.mergeSort_of_pairwise (by decide +kernel)
  rw [ofSchema, hsorted]
  decide +kernel

lemma inputsSound_filterSchema : InputsSound filterSchema := by
  intro t ht hk
  simp only [filterSchema, Schema.ofTypes, List.mem_cons, List.not_mem_nil, or_false] at ht
  rcases ht with rfl | rfl | rfl
  · simp at hk
  · refine ⟨by decide, fun f hf => Operation.isInputType_iff.mp ?_⟩
    simp only [filterType, List.mem_cons, List.not_mem_nil, or_false] at hf
    rcases hf with rfl | rfl <;> decide
  · simp at hk

theorem writes_variables_filter :
    filterSchema.validate = .ok () ∧
    Operation.ofText filterSchema "items.graphql" filterQuery.source = .ok [filterQuery] ∧
    IsVariables filterSchema filterQuery.vars filterVariables ∧
    ∃ decls, (ofSchema "shop" filterSchema ⟨false⟩).schemaTypes = .ok decls ∧
      ∀ j, BodyWrites decls
        ((ofSchema "shop" filterSchema ⟨false⟩).typesOf filterQuery).request.body j ↔
          IsVariables filterSchema filterQuery.vars j := by
  have hops : Operation.ofText filterSchema "items.graphql" filterQuery.source =
      .ok [filterQuery] := by cbv
  exact ⟨rfl, hops, isVariables_filterVariables, writes_variables filterSchema rfl (by decide)
    (by decide) inputsSound_filterSchema "items.graphql" filterQuery.source [filterQuery] hops
    filterQuery (List.mem_singleton_self _) (by decide) knows_filterQuery "shop" ⟨false⟩ [] _ _
    declare_filterQuery⟩

end Filters

end Generator

end GraphqlBindings

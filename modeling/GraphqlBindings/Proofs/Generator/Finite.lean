import Mathlib.Logic.Relation
import Mathlib.Order.WellFounded
import GraphqlBindings.Proofs.Generator.Closed

namespace GraphqlBindings.Generator

section Finite

variable {package : String} {schema : Schema} {naming : Naming} {g : Generator}
  {earlier : List OperationTypes} {decls model : List Declaration}

def IsFinite (model : List Declaration) (d : Declaration) : Prop :=
  Acc (fun e d => Declaration.Holds model d e) d

lemma Inside.held?_ne (hi : Inside g decls model) {e : Declaration} (he : e ∈ model) {name : String}
    (hn : name ∈ foreignTypes) : (CodeType.named name).held? ≠ some e.name := by
  intro hh
  rw [CodeType.held?, Option.some.injEq] at hh
  exact hi.not_foreign e he (hh ▸ hn)

lemma isFinite_of_isLeaf (hi : Inside g decls model) {t : SchemaType} {d : Declaration}
    (hd : g.schemaType t = .ok d) (hl : isLeaf t) : IsFinite model d := by
  constructor
  rintro e ⟨_, he, type, ht, hh⟩
  rcases schemaType_types hd ht with rfl | ⟨hn, _⟩
  · exact absurd hh (hi.held?_ne he (by decide))
  · exact absurd hl hn

lemma Accounts.isFinite_schemaType (h : Accounts package schema naming g earlier)
    (hd : (schema.types.map SchemaType.name).Nodup) (hi : Inside g decls model) :
    ∀ d ∈ decls, IsFinite model d := by
  intro d hm
  obtain ⟨t, _, hdt⟩ := h.exists_userType hi.schemaTypes_ok hm
  constructor
  rintro e ⟨_, he, type, ht, hh⟩
  rcases schemaType_types hdt ht with rfl | ⟨_, r, rfl⟩
  · exact absurd hh (hi.held?_ne he (by decide))
  obtain ⟨hb, hh⟩ := r.held?_shape _ _ hh
  rcases g.namedType_cases r.baseName with ⟨name, hn, hnt⟩ | ⟨ident, hident, hnt⟩
  · exact absurd (hnt ▸ hh) (hi.held?_ne he hn)
  · rw [hnt, CodeType.held?, Option.some.injEq] at hh
    obtain ⟨_, t', ht', hn⟩ := h.of_typeName? hident
    obtain ⟨d', hm', hdt'⟩ := h.exists_declaration hi.schemaTypes_ok ht'
    have he' : e = d' := by
      refine hi.unique e he d' (hi.subset hm') ?_
      rw [(schemaType_ok hdt').1, hn, hident, Option.getD_some, hh]
    have hg : schema.get? r.baseName = some t' :=
      (Schema.get?_eq_some_iff hd).mpr ⟨(Schema.mem_userTypes.mp ht').1, hn⟩
    have hk := isNamed_of_schemaType hdt'
    -- The type is not boxed, so that it has a declaration without being composite.
    refine he' ▸ isFinite_of_isLeaf hi hdt' ?_
    simp only [isRecursive, h.schema_eq, hg, hident, Option.map_some, Option.getD_some,
      Option.isSome_some, Bool.and_true] at hb
    cases hkind : t'.kind <;> simp_all [isLeaf, TypeKind.isComposite, TypeKind.isNamed]

lemma Accounts.isFinite_namedType (h : Accounts package schema naming g earlier)
    (hd : (schema.types.map SchemaType.name).Nodup) (hi : Inside g decls model) (name : String)
    {e : Declaration} (he : e ∈ model) (hh : (g.namedType name).held? = some e.name) :
    IsFinite model e := by
  rcases g.namedType_cases name with ⟨n, hn, hnt⟩ | ⟨ident, hident, hnt⟩
  · exact absurd (hnt ▸ hh) (hi.held?_ne he hn)
  · rw [hnt, CodeType.held?, Option.some.injEq] at hh
    have hmem : e.name ∈ decls.map Declaration.name := by
      rw [h.map_name_schemaTypes hd hi.schemaTypes_ok, ← hh]
      exact (h.of_typeName? hident).1
    obtain ⟨d, hm, hn⟩ := List.mem_map.mp hmem
    obtain rfl := hi.unique d (hi.subset hm) e he hn
    exact h.isFinite_schemaType hd hi d hm

lemma isFinite_treeStruct {g : Generator} (hu : ∀ d ∈ model, ∀ e ∈ model, d.name = e.name → d = e)
    (hn : ∀ name, ∀ e ∈ model, (g.namedType name).held? = some e.name → IsFinite model e)
    (tree : List ResponseField) (owner : String) (idents scope : NameScope)
    (hm : (g.treeStruct owner idents scope tree).1.nested ⊆ model) :
    (∀ f ∈ (g.treeStruct owner idents scope tree).1.fields, ∀ e ∈ model,
      f.type.held? = some e.name → IsFinite model e) ∧
    ∀ d ∈ (g.treeStruct owner idents scope tree).1.nested, IsFinite model d := by
  induction tree using tree_induction generalizing owner idents scope with
  | nil => simp [treeStruct]
  | leaf key definition rest ih =>
    simp only [treeStruct, ResponseStruct.cons, List.nil_append, List.forall_mem_cons] at hm ⊢
    obtain ⟨hf, hd⟩ := ih _ _ _ hm
    refine ⟨⟨fun e he hh => ?_, hf⟩, hd⟩
    exact hn _ e he (TypeRef.held?_shape _ _ _ hh).2
  | node key definition first more rest ihInner ih =>
    simp only [treeStruct, ResponseStruct.cons] at hm ⊢
    generalize scope.free (owner ++ g.naming.typeIdent key) = name at *
    have hi := ihInner name .empty (scope.insert name)
    generalize g.treeStruct name .empty (scope.insert name) (first :: more) = inner at *
    have ho := ih owner (idents.insert (idents.free (g.naming.fieldIdent key))) inner.2
    generalize g.treeStruct owner (idents.insert (idents.free (g.naming.fieldIdent key))) inner.2
      rest = others at *
    simp only [List.cons_append, List.cons_subset, List.append_subset, List.forall_mem_cons,
      List.forall_mem_append] at hm ⊢
    obtain ⟨hname, hinner, hothers⟩ := hm
    have hstruct : IsFinite model ⟨name, none, .fields inner.1.fields⟩ := by
      constructor
      rintro e ⟨_, he, type, ht, hh⟩
      obtain ⟨f, hf, rfl⟩ := List.mem_map.mp ht
      exact (hi hinner).1 f hf e he hh
    refine ⟨⟨fun e he hh => ?_, (ho hothers).1⟩, hstruct, (hi hinner).2, (ho hothers).2⟩
    have hh := (TypeRef.held?_shape _ _ _ hh).2
    rw [CodeType.held?, Option.some.injEq] at hh
    exact hu _ hname e he hh ▸ hstruct

lemma isFinite_declarations {g : Generator} {op : Operation}
    (hu : ∀ d ∈ model, ∀ e ∈ model, d.name = e.name → d = e)
    (hn : ∀ name, ∀ e ∈ model, (g.namedType name).held? = some e.name → IsFinite model e)
    (hm : (g.typesOf op).declarations ⊆ model) :
    ∀ d ∈ (g.typesOf op).declarations, IsFinite model d := by
  have hnested : (g.typesOf op).nested ⊆ model :=
    fun d hd => hm (by simp [OperationTypes.declarations, hd])
  obtain ⟨hf, hd⟩ := isFinite_treeStruct hu hn (responseTree op.selections) (g.responseName op)
    .empty (g.claim op).types hnested
  simp only [OperationTypes.declarations, List.forall_mem_cons]
  refine ⟨⟨_, ?_⟩, ⟨_, ?_⟩, hd⟩
  · rintro e ⟨_, he, type, ht, hh⟩
    obtain ⟨f, hf, rfl⟩ := List.mem_map.mp ht
    obtain ⟨r, hr⟩ := g.variableFields_type _ _ hf
    exact hn _ e he (TypeRef.held?_shape _ _ r (hr ▸ hh)).2
  · rintro e ⟨_, he, type, ht, hh⟩
    obtain ⟨f, hf', rfl⟩ := List.mem_map.mp ht
    exact hf f hf' e he hh

end Finite

section Model

lemma declarations_sublist (t : OperationTypes) :
    (t.declarations.map Declaration.name).Sublist t.typeNames :=
  List.sublist_cons_self _ _

lemma flatMap_declarations_sublist (types : List (Operation × OperationTypes)) :
    ((types.flatMap fun entry => entry.2.declarations).map Declaration.name).Sublist
      ((types.map Prod.snd).flatMap OperationTypes.typeNames) := by
  induction types with
  | nil => exact List.Sublist.slnil
  | cons entry rest ih =>
    simp only [List.flatMap_cons, List.map_append, List.map_cons]
    exact (declarations_sublist entry.2).append ih

def modelOf (decls : List Declaration) (types : List (Operation × OperationTypes)) :
    List Declaration :=
  decls ++ types.flatMap fun entry => entry.2.declarations

variable {decls : List Declaration} {types : List (Operation × OperationTypes)}

lemma mem_modelOf {d : Declaration} :
    d ∈ modelOf decls types ↔ d ∈ decls ∨ ∃ entry ∈ types, d ∈ entry.2.declarations := by
  rw [modelOf, List.mem_append, List.mem_flatMap]

lemma declarations_subset_modelOf {entry : Operation × OperationTypes} (h : entry ∈ types) :
    entry.2.declarations ⊆ modelOf decls types :=
  fun _ hd => mem_modelOf.mpr (Or.inr ⟨entry, h, hd⟩)

def Known (model : List Declaration) (name : String) : Prop :=
  name ∈ foreignTypes ∨ (model.map Declaration.name).count name = 1

structure Generates (g : Generator) (decls : List Declaration)
    (types : List (Operation × OperationTypes)) : Prop where
  schemaTypes_ok : g.schemaTypes = .ok decls
  made : ∀ entry ∈ types, ∃ g' : Generator, g'.idents = g.idents ∧ entry.2 = g'.typesOf entry.1
  nodup : ((modelOf decls types).map Declaration.name).Nodup
  not_foreign : ∀ d ∈ modelOf decls types, d.name ∉ foreignTypes

lemma generates_ofSchema {package : String} {schema : Schema} {naming : Naming}
    {ops : List Operation} (hd : (schema.types.map SchemaType.name).Nodup)
    (hs : (ofSchema package schema naming).schemaTypes = .ok decls)
    (ht : Service.operationTypes (ofSchema package schema naming) ops = .ok types) :
    Generates (ofSchema package schema naming) decls types := by
  have h := accounts_ofSchema package schema naming
  obtain ⟨g, ha, hidents, hmade⟩ := h.operationTypes ht
  have hnames := h.map_name_schemaTypes hd hs
  refine ⟨hs, hmade, ?_, ?_⟩
  · have hn := List.nodup_reverse.mp (ha.types_eq ▸ ha.nodup_types)
    have hsame : g.schemaNames = (ofSchema package schema naming).schemaNames := by
      simp only [schemaNames, hidents]
    rw [List.nil_append, List.cons_append, List.nodup_cons, hsame, ← hnames] at hn
    rw [modelOf, List.map_append]
    exact ((List.Sublist.refl _).append (flatMap_declarations_sublist types)).nodup hn.2
  · intro d hm
    rcases mem_modelOf.mp hm with hm | ⟨entry, he, hm⟩
    · exact h.not_foreign (hnames ▸ List.mem_map_of_mem hm)
    · obtain ⟨g', _, he'⟩ := hmade entry he
      refine (g'.own_typeNames entry.1 _ ?_).not_foreign
      exact he' ▸ (declarations_sublist entry.2).subset (List.mem_map_of_mem hm)

lemma Generates.known {g : Generator} (h : Generates g decls types) {d : Declaration}
    (hd : d ∈ modelOf decls types) : Known (modelOf decls types) d.name :=
  Or.inr (List.count_eq_one_of_mem h.nodup (List.mem_map_of_mem hd))

lemma Generates.inside {g : Generator} (h : Generates g decls types) :
    Inside g decls (modelOf decls types) where
  schemaTypes_ok := h.schemaTypes_ok
  subset := fun _ hd => mem_modelOf.mpr (Or.inl hd)
  unique := fun _ hd _ he hn => List.inj_on_of_nodup_map h.nodup hd he hn
  not_foreign := h.not_foreign

variable {package : String} {schema : Schema} {naming : Naming} {g : Generator}
  {earlier : List OperationTypes}

lemma Accounts.known_namedType (h : Accounts package schema naming g earlier)
    (hd : (schema.types.map SchemaType.name).Nodup) (hg : Generates g decls types)
    (name : String) : Known (modelOf decls types) (g.namedType name).base := by
  rcases g.namedType_cases name with ⟨n, hn, he⟩ | ⟨ident, hn, he⟩
  · exact he ▸ Or.inl hn
  · rw [he, CodeType.base]
    have hm : ident ∈ decls.map Declaration.name :=
      h.map_name_schemaTypes hd hg.schemaTypes_ok ▸ (h.of_typeName? hn).1
    obtain ⟨d, hdm, rfl⟩ := List.mem_map.mp hm
    exact hg.known (mem_modelOf.mpr (Or.inl hdm))

lemma Accounts.known_types (h : Accounts package schema naming g earlier)
    (hd : (schema.types.map SchemaType.name).Nodup) (hg : Generates g decls types)
    {d : Declaration} (hm : d ∈ modelOf decls types) {type : CodeType} (ht : type ∈ d.types) :
    Known (modelOf decls types) type.base := by
  rcases mem_modelOf.mp hm with hm | ⟨entry, he, hm⟩
  · obtain ⟨t, _, hdt⟩ := h.exists_userType hg.schemaTypes_ok hm
    rcases schemaType_types hdt ht with rfl | ⟨_, r, rfl⟩
    · exact Or.inl (by decide)
    · rw [schemaFieldType, TypeRef.base_shape]
      exact h.known_namedType hd hg _
  · obtain ⟨g', hi, he'⟩ := hg.made entry he
    have hw := g'.within_declarations entry.1 d (he' ▸ hm) type ht
    obtain ⟨r, ⟨name, rfl⟩ | ⟨name, hn, rfl⟩⟩ := hw.congr hi
    · rw [TypeRef.base_shape]
      exact h.known_namedType hd hg _
    · rw [TypeRef.base_shape, CodeType.base]
      obtain ⟨e, hm', rfl⟩ := List.mem_map.mp (he' ▸ hn)
      refine hg.known (declarations_subset_modelOf he ?_)
      simp [OperationTypes.declarations, hm']

lemma Accounts.isFinite_modelOf (h : Accounts package schema naming g earlier)
    (hd : (schema.types.map SchemaType.name).Nodup) (hg : Generates g decls types)
    {d : Declaration} (hm : d ∈ modelOf decls types) : IsFinite (modelOf decls types) d := by
  have hi := hg.inside
  rcases mem_modelOf.mp hm with hm | ⟨entry, he, hm⟩
  · exact h.isFinite_schemaType hd hi d hm
  · obtain ⟨g', hidents, he'⟩ := hg.made entry he
    refine isFinite_declarations hi.unique ?_ (he' ▸ declarations_subset_modelOf he) d (he' ▸ hm)
    intro name e hem hh
    rw [namedType_congr hidents] at hh
    exact h.isFinite_namedType hd hi name hem hh

/-- Every type named in the model of a service, or by a method of its client, is declared exactly
once or foreign, and no value has a value of its own declaration in itself, however the types of
the schema refer to each other. -/
theorem model_closed_finite (package : String) (schema : Schema) (naming : Naming)
    (hd : (schema.types.map SchemaType.name).Nodup) (decls : List Declaration)
    (hs : (ofSchema package schema naming).schemaTypes = .ok decls) (ops : List Operation)
    (types : List (Operation × OperationTypes))
    (ht : Service.operationTypes (ofSchema package schema naming) ops = .ok types) :
    (∀ d ∈ modelOf decls types, ∀ type ∈ d.types, Known (modelOf decls types) type.base) ∧
      (∀ entry ∈ types,
        Known (modelOf decls types) (entry.2.clientMethod entry.1).request ∧
        Known (modelOf decls types) (entry.2.clientMethod entry.1).response) ∧
      ∀ d, ¬ Relation.TransGen (Declaration.Holds (modelOf decls types)) d d := by
  have h := accounts_ofSchema package schema naming
  have hg := generates_ofSchema hd hs ht
  refine ⟨fun d hm type hty => h.known_types hd hg hm hty, fun entry he => ⟨?_, ?_⟩, ?_⟩
  · have hr : entry.2.request ∈ entry.2.declarations := by simp [OperationTypes.declarations]
    exact hg.known (declarations_subset_modelOf he hr)
  · have hr : entry.2.response ∈ entry.2.declarations := by simp [OperationTypes.declarations]
    exact hg.known (declarations_subset_modelOf he hr)
  · intro d hc
    obtain ⟨e, he, _⟩ := Relation.TransGen.head'_iff.mp hc
    have ha := (h.isFinite_modelOf hd hg he.1).transGen
    -- Going around a cycle for ever would be a descent without an end.
    rw [acc_iff_isEmpty_descending_chain] at ha
    exact ha.false ⟨fun _ => d, rfl, fun _ => Relation.transGen_swap.mpr hc⟩

theorem model_closed_finite_friends :
    (friendsSchema.types.map SchemaType.name).Nodup ∧ ∃ decls types,
      (ofSchema "shop" friendsSchema ⟨false⟩).schemaTypes = .ok decls ∧
      Service.operationTypes (ofSchema "shop" friendsSchema ⟨false⟩) [friendsQuery] = .ok types ∧
      (∀ d ∈ modelOf decls types, ∀ type ∈ d.types, Known (modelOf decls types) type.base) ∧
      (∀ entry ∈ types,
        Known (modelOf decls types) (entry.2.clientMethod entry.1).request ∧
        Known (modelOf decls types) (entry.2.clientMethod entry.1).response) ∧
      ∀ d, ¬ Relation.TransGen (Declaration.Holds (modelOf decls types)) d d := by
  have hd : (friendsSchema.types.map SchemaType.name).Nodup := by decide
  obtain ⟨decls, hs⟩ : ∃ decls, (ofSchema "shop" friendsSchema ⟨false⟩).schemaTypes = .ok decls :=
    schemaTypes_isOk (by decide)
  obtain ⟨types, ht⟩ : ∃ types, Service.operationTypes (ofSchema "shop" friendsSchema ⟨false⟩)
      [friendsQuery] = .ok types := by
    have hfirst : (ofSchema "shop" friendsSchema ⟨false⟩).operationTypes friendsQuery =
        .ok ((ofSchema "shop" friendsSchema ⟨false⟩).typesOf friendsQuery,
          (ofSchema "shop" friendsSchema ⟨false⟩).after friendsQuery) := by
      rw [Generator.operationTypes, declare_friends]
    exact ⟨_, bind_eq_ok.mpr ⟨_, hfirst, rfl⟩⟩
  exact ⟨hd, decls, types, hs, ht,
    model_closed_finite "shop" friendsSchema ⟨false⟩ hd decls hs [friendsQuery] types ht⟩

end Model

end GraphqlBindings.Generator

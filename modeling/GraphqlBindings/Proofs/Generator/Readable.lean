import Mathlib
import GraphqlBindings.Proofs.Generator.Closed
import GraphqlBindings.Proofs.Generator.Shape
import GraphqlBindings.Proofs.Operation.Resolved
import GraphqlBindings.Proofs.Schema.Validation

namespace GraphqlBindings

open Operation (compositeType?)

namespace Generator

lemma exists_variant (naming : Naming) {v : EnumValue} {values : List EnumValue} (h : v ∈ values)
    (scope : NameScope) : ∃ variant ∈ variants naming scope values, variant.value = v.name := by
  induction values generalizing scope with
  | nil => simp at h
  | cons first rest ih =>
    rcases List.mem_cons.mp h with rfl | h
    · exact ⟨_, List.mem_cons_self, rfl⟩
    · obtain ⟨variant, hm, hv⟩ := ih h (scope.unique (naming.typeIdent first.name)).2
      exact ⟨variant, List.mem_cons_of_mem _ hm, hv⟩

section Leaves

variable {package : String} {schema : Schema} {naming : Naming} {g : Generator}
  {earlier : List OperationTypes} {decls model : List Declaration} {name : String} {j : Json}

lemma Inside.reads_foreign (hi : Inside g decls model) (h : ForeignReads name j) :
    TypeReads model (.named name) j := by
  refine .foreign (fun hm => ?_) h
  obtain ⟨d, hd, rfl⟩ := List.mem_map.mp hm
  refine hi.not_foreign d hd ?_
  generalize d.name = name at h
  cases h <;> decide

lemma Accounts.namedType_of_get? (h : Accounts package schema naming g earlier)
    (hd : (schema.types.map SchemaType.name).Nodup) (hi : Inside g decls model)
    (hb : isBuiltinScalar name = false) {t : SchemaType} (ht : schema.get? name = some t) :
    g.namedType name = opaqueType ∨
      ∃ d ∈ model, g.namedType name = .named d.name ∧ g.schemaTypeBody t = .ok d.body := by
  simp only [isBuiltinScalar, builtinScalars, List.contains_eq_mem, List.mem_cons,
    List.not_mem_nil, or_false, decide_eq_false_iff_not, not_or] at hb
  cases hident : g.typeName? name with
  | none => exact Or.inl (by simp [namedType, hb, hident])
  | some ident =>
    obtain ⟨_, t', ht', rfl⟩ := h.of_typeName? hident
    have hg : schema.get? t'.name = some t' :=
      (Schema.get?_eq_some_iff hd).mpr ⟨(Schema.mem_userTypes.mp ht').1, rfl⟩
    obtain rfl := Option.some.inj (ht.symm.trans hg)
    obtain ⟨d, hm, hdt⟩ := h.exists_declaration hi.schemaTypes_ok ht'
    obtain ⟨hname, hbody⟩ := schemaType_ok hdt
    rw [hident, Option.getD_some] at hname
    exact Or.inr ⟨d, hi.subset hm, by simp [namedType, hb, hident, hname], hbody⟩

lemma Accounts.reads_leaf (h : Accounts package schema naming g earlier)
    (hd : (schema.types.map SchemaType.name).Nodup) (hi : Inside g decls model)
    (hs : ∀ t ∈ schema.types, isBuiltinScalar t.name = true → t.kind = .scalar)
    (hl : IsLeafValue schema name j) : TypeReads model (g.namedType name) j := by
  cases hl with
  | text value hn =>
    rw [namedType, if_pos hn]
    exact hi.reads_foreign (.text value)
  | int n =>
    have : g.namedType "Int" = .named "i64" := rfl
    exact this ▸ hi.reads_foreign (.integer n)
  | float n =>
    have : g.namedType "Float" = .named "f64" := rfl
    exact this ▸ hi.reads_foreign (.number n)
  | boolean b =>
    have : g.namedType "Boolean" = .named "bool" := rfl
    exact this ▸ hi.reads_foreign (.bool b)
  | scalar value hb ht hk =>
    rcases h.namedType_of_get? hd hi hb ht with hn | ⟨d, hm, hn, hbody⟩
    · exact hn ▸ hi.reads_foreign (.any _)
    · rw [schemaTypeBody, hk, Except.ok.injEq] at hbody
      rw [hn]
      refine .of_mem hi.unique hm ?_
      exact hbody ▸ .alias (hi.reads_foreign (.text value))
  | @enumeration _ t v ht hk hv =>
    have hb : isBuiltinScalar name = false := by
      rw [← Bool.not_eq_true]
      intro hb
      obtain ⟨hm, rfl⟩ := Schema.get?_mem ht
      simp [hs t hm hb] at hk
    rcases h.namedType_of_get? hd hi hb ht with hn | ⟨d, hm, hn, hbody⟩
    · exact hn ▸ hi.reads_foreign (.any _)
    · rw [schemaTypeBody, hk, Except.ok.injEq] at hbody
      obtain ⟨variant, hvm, hvn⟩ := exists_variant g.naming hv .empty
      rw [hn, ← hvn]
      refine .of_mem hi.unique hm ?_
      exact hbody ▸ .variants hvm

end Leaves

section Structs

variable (g : Generator)

lemma mem_fields_treeStruct (tree : List ResponseField) (owner : String)
    (idents scope : NameScope) {f : FieldDeclaration}
    (hf : f ∈ (g.treeStruct owner idents scope tree).1.fields) :
    ∃ key definition inner, .mk key definition inner ∈ tree ∧ f.key = key ∧
      ((inner = [] ∧
        f.type = definition.type.shape (g.namedType definition.type.baseName) false) ∨
      (inner ≠ [] ∧ ∃ name scope', f.type = definition.type.shape (.named name) false ∧
        ⟨name, none, .fields (g.treeStruct name .empty scope' inner).1.fields⟩ ::
          (g.treeStruct name .empty scope' inner).1.nested ⊆
            (g.treeStruct owner idents scope tree).1.nested)) := by
  induction tree using tree_induction generalizing owner idents scope with
  | nil => simp [treeStruct] at hf
  | leaf key definition rest ih =>
    simp only [treeStruct, ResponseStruct.cons, List.nil_append] at hf ⊢
    rcases List.mem_cons.mp hf with rfl | hf
    · exact ⟨key, definition, [], List.mem_cons_self, rfl, Or.inl ⟨rfl, rfl⟩⟩
    · obtain ⟨key', definition', inner, hm, hk, hc⟩ := ih _ _ _ hf
      exact ⟨key', definition', inner, List.mem_cons_of_mem _ hm, hk, hc⟩
  | node key definition first more rest _ ih =>
    simp only [treeStruct, ResponseStruct.cons] at hf ⊢
    rcases List.mem_cons.mp hf with rfl | hf
    · refine ⟨key, definition, first :: more, List.mem_cons_self, rfl, Or.inr ⟨by simp, ?_⟩⟩
      exact ⟨_, _, rfl, List.subset_append_left _ _⟩
    · obtain ⟨key', definition', inner, hm, hk, hc⟩ := ih _ _ _ hf
      refine ⟨key', definition', inner, List.mem_cons_of_mem _ hm, hk, hc.imp_right ?_⟩
      rintro ⟨hne, name, scope', ht, hs⟩
      exact ⟨hne, name, scope', ht, fun d hd => List.mem_append_right _ (hs hd)⟩

lemma reads_group {g : Generator} {s : Schema} {model : List Declaration}
    (hu : ∀ d ∈ model, ∀ e ∈ model, d.name = e.name → d = e)
    (hs : ∀ t ∈ s.types, isBuiltinScalar t.name = true → t.kind = .scalar)
    (hl : ∀ name j, IsLeafValue s name j → TypeReads model (g.namedType name) j)
    {selections : List Selection} {groups : List KeyGroup}
    (hg : groupFields [] selections = .ok groups) (hf : ¬ HasFragment selections)
    (hk : ¬ KeyConflict selections) {parent : SchemaType} (hr : Resolved s parent selections)
    {owner : String} {scope : NameScope}
    (hm : (g.treeStruct owner .empty scope (responseTree selections)).1.nested ⊆ model)
    (ih : ∀ k ∈ groups, ∀ target, Resolved s target k.selections → ∀ name scope',
      (g.treeStruct name .empty scope' (responseTree k.selections)).1.nested ⊆ model →
      ∀ j, IsResult s target k.selections j → BodyReads model
        (.fields (g.treeStruct name .empty scope' (responseTree k.selections)).1.fields) j)
    {f : FieldDeclaration}
    (hfield : f ∈ (g.treeStruct owner .empty scope (responseTree selections)).1.fields) :
    ∃ k ∈ groups, f.key = k.key ∧ ∀ j, IsValue s k.definition.type k.selections j →
      TypeReads model f.type j := by
  have hmerge := merges_of_groupFields hg
  obtain ⟨key, definition, inner, hnode, rfl, hc⟩ := g.mem_fields_treeStruct _ _ _ _ hfield
  rw [responseTree_eq_map hg] at hnode
  obtain ⟨k, hmem, hnode⟩ := List.mem_map.mp hnode
  obtain ⟨hkey, rfl, rfl⟩ := ResponseField.mk.inj hnode
  obtain ⟨hfk, hkk⟩ := hmerge.below hf hk hmem
  refine ⟨k, hmem, hkey.symm, fun j hv => ?_⟩
  -- A node has no tree exactly if its type has no fields, as resolving has made sure.
  rcases hc with ⟨hnil, ht⟩ | ⟨hne, name, scope', ht, hsub⟩
  · have hsel := (responseTree_eq_nil hfk hkk).mp hnil
    rw [ht]
    refine reads_leaf_shape ?_ (hl _) hv
    cases hcomposite : compositeType? s k.definition.type.baseName with
    | none => rfl
    | some target => exact absurd hsel (hr.compositeGroup hmerge hmem hcomposite).1
  · have hsel := mt (responseTree_eq_nil hfk hkk).mpr hne
    rw [ht]
    cases hcomposite : compositeType? s k.definition.type.baseName with
    | none => exact absurd (hr.leafGroup hmerge hmem hcomposite) hsel
    | some target =>
      refine reads_composite_shape hs hcomposite (fun j hj => ?_) hv
      have hinside := (hr.compositeGroup hmerge hmem hcomposite).2
      have hbelow : (g.treeStruct name .empty scope' (responseTree k.selections)).1.nested ⊆
          model := fun d hd => hm (hsub (List.mem_cons_of_mem _ hd))
      exact .of_mem hu (hm (hsub List.mem_cons_self))
        (ih k hmem target hinside name scope' hbelow j hj)

lemma reads_result {s : Schema} {model : List Declaration} {fields : List FieldDeclaration}
    {selections : List Selection} {groups : List KeyGroup} (hmerge : Merges groups selections)
    {parent : SchemaType} (hr : Resolved s parent selections)
    (h : ∀ f ∈ fields, ∃ k ∈ groups, f.key = k.key ∧
      ∀ j, IsValue s k.definition.type k.selections j → TypeReads model f.type j) {j : Json}
    (hj : IsResult s parent selections j) : BodyReads model (.fields fields) j := by
  cases hj with
  | @object _ _ members hkeys hvalues =>
    refine .fields ?_ ?_ ?_
    · intro f _
      rw [hkeys.count_eq]
      exact List.nodup_iff_count_le_one.mp (nodup_responseKeys selections) f.key
    · intro f hf hn
      obtain ⟨k, hmem, he, _⟩ := h f hf
      have hkey : f.key ∈ responseKeys selections := he ▸ hmerge.keys ▸ List.mem_map_of_mem hmem
      exact absurd (hkeys.mem_iff.mpr hkey) hn
    · intro f hf j hmj
      obtain ⟨k, hmem, he, hread⟩ := h f hf
      refine hread j ?_
      obtain ⟨label, inner, ho, hkey⟩ := hmerge.occurs k hmem
      rw [hmerge.inner k hmem, ← hkey]
      refine hvalues label k.name k.definition inner ho _ (hr.known hmerge hmem) j ?_
      rw [hkey, ← he]
      exact hmj

lemma reads_treeStruct {g : Generator} {s : Schema} {model : List Declaration}
    (hu : ∀ d ∈ model, ∀ e ∈ model, d.name = e.name → d = e)
    (hs : ∀ t ∈ s.types, isBuiltinScalar t.name = true → t.kind = .scalar)
    (hl : ∀ name j, IsLeafValue s name j → TypeReads model (g.namedType name) j)
    {selections : List Selection} (hf : ¬ HasFragment selections) (hk : ¬ KeyConflict selections)
    {parent : SchemaType} (hr : Resolved s parent selections) (owner : String) (scope : NameScope)
    (hm : (g.treeStruct owner .empty scope (responseTree selections)).1.nested ⊆ model) {j : Json}
    (hj : IsResult s parent selections j) :
    BodyReads model
      (.fields (g.treeStruct owner .empty scope (responseTree selections)).1.fields) j := by
  induction selections using selections_induction generalizing parent owner scope j with
  | step selections ih =>
    obtain ⟨groups, hg⟩ := groupFields_ok_of_not_keyClash fun hc => hk hc.keyConflict
    have hmerge := merges_of_groupFields hg
    refine reads_result hmerge hr (fun f hfield => ?_) hj
    refine reads_group hu hs hl hg hf hk hr hm ?_ hfield
    intro k hmem target hinside name scope' hbelow j hj
    obtain ⟨hfk, hkk⟩ := hmerge.below hf hk hmem
    exact ih groups hg k hmem hfk hkk hinside name scope' hbelow hj

end Structs

section Response

variable {package : String} {schema : Schema} {naming : Naming} {g g' : Generator}
  {earlier : List OperationTypes} {decls : List Declaration} {op : Operation}
  {types : OperationTypes}

lemma Accounts.inside_nested (h : Accounts package schema naming g earlier)
    (hn : (schema.types.map SchemaType.name).Nodup) (hs : g.schemaTypes = .ok decls)
    (hd : g.declare op = (.ok types, g')) : Inside g decls (decls ++ types.nested) := by
  have hnames := h.map_name_schemaTypes hn hs
  have hafter := h.declare hd
  obtain ⟨_, _, _, rfl, rfl⟩ := declare_ok hd
  have hnodup : ((decls ++ (g.typesOf op).nested).map Declaration.name).Nodup := by
    have hall := List.nodup_reverse.mp (hafter.types_eq ▸ hafter.nodup_types)
    refine List.Sublist.nodup ?_ hall
    rw [List.map_append, hnames, List.cons_append, List.flatMap_append, List.flatMap_singleton]
    refine ((List.Sublist.refl _).append ?_).cons _
    exact (((List.sublist_cons_self _ _).trans (List.sublist_cons_self _ _)).trans
      (List.sublist_cons_self _ _)).trans (List.sublist_append_right _ _)
  refine ⟨hs, List.subset_append_left _ _, fun d hm e he hne => ?_, fun d hm => ?_⟩
  · exact List.inj_on_of_nodup_map hnodup hm he hne
  · rcases List.mem_append.mp hm with hm | hm
    · exact h.not_foreign (hnames ▸ List.mem_map_of_mem hm)
    · refine (g.own_typeNames op _ ?_).not_foreign
      simp only [OperationTypes.typeNames, List.mem_cons]
      exact Or.inr (Or.inr (Or.inr (List.mem_map_of_mem hm)))

/-- Every response of an operation is read by its declaration: whatever operations have been
declared or refused before, and however its keys are repeated or renamed. -/
theorem reads_response (raw : Json) (schema : Schema) (hraw : Introspection.decode raw = .ok schema)
    (hvalid : schema.validate = .ok ())
    (hscalar : ∀ t ∈ schema.types, isBuiltinScalar t.name = true → t.kind = .scalar)
    (path source : String) (ops : List Operation)
    (hops : Operation.ofText schema path source = .ok ops) (op : Operation) (hop : op ∈ ops)
    (package : String) (naming : Naming) (earlier : List Operation) (types : OperationTypes)
    (g' : Generator)
    (hd : ((ofSchema package schema naming).declareAll earlier).2.declare op = (.ok types, g'))
    (j : Json) (hj : IsResponse schema op j) :
    ∃ decls, ((ofSchema package schema naming).declareAll earlier).2.schemaTypes = .ok decls ∧
      BodyReads (decls ++ types.nested) types.response.body j := by
  have h := (accounts_ofSchema package schema naming).declareAll earlier
  generalize ((ofSchema package schema naming).declareAll earlier).2 = g at h hd
  have hn := Schema.nodup_of_validate (Schema.index_of_decode hraw) hvalid
  obtain ⟨decls, hs⟩ := schemaTypes_isOk (g := g) fun t ht =>
    Schema.isNamed_of_validate hvalid (h.schema_eq ▸ ht)
  have hi := h.inside_nested hn hs hd
  obtain ⟨hf, hk, _, rfl, rfl⟩ := declare_ok hd
  obtain ⟨root, hroot, hresolved⟩ := resolved_of_ofText hops hop
  obtain ⟨root', hroot', hresult⟩ := hj
  obtain rfl := Option.some.inj (hroot.symm.trans hroot')
  refine ⟨decls, hs, reads_treeStruct hi.unique hscalar ?_ hf hk hresolved _ _ ?_ hresult⟩
  · exact fun name j hl => h.reads_leaf hn hi hscalar hl
  · exact List.subset_append_right _ _

end Response

section Friends

def friendsResult : Json :=
  .object [("__schema", .object [("queryType", .object [("name", .string "Query")]),
    ("types", .array [
      .object [("kind", .string "SCALAR"), ("name", .string "String")],
      .object [("kind", .string "OBJECT"), ("name", .string "Query"), ("fields", .array [
        .object [("name", .string "user"),
          ("type", .object [("kind", .string "OBJECT"), ("name", .string "user")])]])],
      .object [("kind", .string "ENUM"), ("name", .string "User"), ("enumValues", .array [
        .object [("name", .string "ADMIN")]])],
      .object [("kind", .string "OBJECT"), ("name", .string "user"), ("fields", .array [
        .object [("name", .string "name"), ("type", .object [("kind", .string "NON_NULL"),
          ("ofType", .object [("kind", .string "SCALAR"), ("name", .string "String")])])],
        .object [("name", .string "role"),
          ("type", .object [("kind", .string "ENUM"), ("name", .string "User")])],
        .object [("name", .string "friends"), ("type", .object [("kind", .string "LIST"),
          ("ofType", .object [("kind", .string "OBJECT"), ("name", .string "user")])])]])]])])]

def friendsOfAda : Json :=
  .array [.object [("name", .string "Bob"), ("role", .string "ADMIN")], .null]

def friendsReply : Json :=
  .object [("user", .object [("title", .string "Ada"), ("friends", friendsOfAda)])]

lemma isValue_nameField (selections : List Selection) (name : String) :
    IsValue friendsSchema nameField.type selections (.string name) :=
  .nonNull (by simp) (.leaf (.text name (Or.inl rfl)))

lemma isValue_friendsOfAda : IsValue friendsSchema friendsField.type
    [.field none "name" nameField [], .field none "role" roleField []] friendsOfAda := by
  refine .list fun j hj => ?_
  simp only [List.mem_cons, List.not_mem_nil, or_false] at hj
  rcases hj with rfl | rfl
  · refine .composite rfl (.object (by decide +kernel) ?_)
    intro label name definition inner hm field hf j hj
    simp only [List.mem_cons, Selection.field.injEq, List.not_mem_nil, or_false] at hm
    rcases hm with ⟨rfl, rfl, rfl, rfl⟩ | ⟨rfl, rfl, rfl, rfl⟩
    · obtain rfl : nameField = field := Option.some.inj hf
      obtain rfl : .string "Bob" = j := by simpa [responseKey, eq_comm] using hj
      exact isValue_nameField _ _
    · obtain rfl : roleField = field := Option.some.inj hf
      obtain rfl : .string "ADMIN" = j := by simpa [responseKey, eq_comm] using hj
      exact .leaf (.enumeration (v := ⟨"ADMIN", none, false, none⟩) rfl rfl (by simp))
  · exact .null rfl

lemma isResponse_friendsReply : IsResponse friendsSchema friendsQuery friendsReply := by
  refine ⟨_, rfl, .object (by decide +kernel) ?_⟩
  intro label name definition inner hm field hf j hj
  simp only [friendsQuery, List.mem_cons, Selection.field.injEq, List.not_mem_nil, or_false] at hm
  obtain ⟨rfl, rfl, rfl, rfl⟩ := hm
  obtain rfl : userField = field := Option.some.inj hf
  obtain rfl : .object [("title", .string "Ada"), ("friends", friendsOfAda)] = j := by
    simpa [responseKey, eq_comm] using hj
  refine .composite rfl (.object (by decide +kernel) ?_)
  intro label name definition inner hm field hf j hj
  simp only [under, Selection.under, friendsQuery, responseKey, Option.getD_none,
    List.flatMap_cons, List.flatMap_nil, List.append_nil, if_true, List.mem_cons,
    Selection.field.injEq, List.not_mem_nil, or_false] at hm
  rcases hm with ⟨rfl, rfl, rfl, _⟩ | ⟨rfl, rfl, rfl, _⟩ | ⟨rfl, rfl, rfl, _⟩
  · obtain rfl : nameField = field := Option.some.inj hf
    obtain rfl : .string "Ada" = j := by simpa [responseKey, eq_comm] using hj
    exact isValue_nameField _ _
  all_goals
    obtain rfl : friendsField = field := Option.some.inj hf
    obtain rfl : friendsOfAda = j := by simpa [responseKey, eq_comm] using hj
    exact isValue_friendsOfAda

theorem reads_response_friends :
    Introspection.decode friendsResult = .ok friendsSchema ∧
    Operation.ofText friendsSchema "me.graphql" friendsQuery.source = .ok [friendsQuery] ∧
    IsResponse friendsSchema friendsQuery friendsReply ∧
    ∃ decls, (ofSchema "shop" friendsSchema ⟨false⟩).schemaTypes = .ok decls ∧
      BodyReads (decls ++ ((ofSchema "shop" friendsSchema ⟨false⟩).typesOf friendsQuery).nested)
        ((ofSchema "shop" friendsSchema ⟨false⟩).typesOf friendsQuery).response.body
        friendsReply := by
  have hraw : Introspection.decode friendsResult = .ok friendsSchema := rfl
  have hops : Operation.ofText friendsSchema "me.graphql" friendsQuery.source =
      .ok [friendsQuery] := by cbv
  exact ⟨hraw, hops, isResponse_friendsReply,
    reads_response friendsResult friendsSchema hraw rfl (by decide) "me.graphql"
      friendsQuery.source [friendsQuery] hops friendsQuery (List.mem_singleton_self _) "shop"
      ⟨false⟩ [] _ _ declare_friends friendsReply isResponse_friendsReply⟩

end Friends

end Generator

end GraphqlBindings

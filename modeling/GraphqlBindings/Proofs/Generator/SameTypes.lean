import GraphqlBindings.Proofs.Generator.Names
import GraphqlBindings.Proofs.Schema.SameTypes
import GraphqlBindings.Schema.Edit

namespace GraphqlBindings.Generator

def withSchema (g : Generator) (schema : Schema) : Generator := { g with schema }

section Declare

variable (g : Generator) (schema : Schema) (op : Operation)

lemma withSchema_naming : (g.withSchema schema).naming = g.naming := rfl

lemma withSchema_idents : (g.withSchema schema).idents = g.idents := rfl

lemma responseOf_withSchema : (g.withSchema schema).responseOf op = g.responseOf op :=
  treeStruct_congr (withSchema_naming g schema) (withSchema_idents g schema) ..

lemma typesOf_withSchema : (g.withSchema schema).typesOf op = g.typesOf op := by
  have hv (scope vars) :
      (g.withSchema schema).variableFields scope vars = g.variableFields scope vars :=
    variableFields_congr (withSchema_naming g schema) (withSchema_idents g schema) scope vars
  have hr (name) : (g.withSchema schema).request name op = g.request name op := by
    rw [request, request, hv]
  rw [typesOf, typesOf, responseOf_withSchema, hr]
  rfl

lemma after_withSchema : (g.withSchema schema).after op = (g.after op).withSchema schema := by
  rw [after, responseOf_withSchema]
  rfl

lemma declare_withSchema : (g.withSchema schema).declare op =
    ((g.declare op).1, (g.declare op).2.withSchema schema) := by
  cases hu : unsupported? op.selections with
  | some construct => simp only [declare, hu]
  | none =>
    have ht : (g.withSchema schema).takenName? op = g.takenName? op := rfl
    cases hn : g.takenName? op with
    | some name => simp only [declare, hu, ht, hn]
    | none =>
      rw [declare_of_checked hu hn, declare_of_checked hu (ht.trans hn), typesOf_withSchema,
        after_withSchema]

lemma declareAll_withSchema (ops : List Operation) : (g.withSchema schema).declareAll ops =
    ((g.declareAll ops).1, (g.declareAll ops).2.withSchema schema) := by
  induction ops generalizing g with
  | nil => rfl
  | cons op rest ih => simp only [declareAll, declare_withSchema, ih]

end Declare

section SchemaTypes

variable {g : Generator} {s s' : Schema} (h : s.SameTypes s')
include h

lemma schemaFieldType_sameTypes (hg : g.schema = s) (r : TypeRef) :
    (g.withSchema s').schemaFieldType r = g.schemaFieldType r := by
  have hr (name) : (g.withSchema s').isRecursive name = g.isRecursive name := by
    rw [isRecursive, isRecursive, hg, ← h.get?]
    rfl
  rw [schemaFieldType, schemaFieldType, hr]
  rfl

lemma schemaFields_sameTypes (hg : g.schema = s) (scope : NameScope) (fs : List SchemaField) :
    (g.withSchema s').schemaFields scope fs = g.schemaFields scope fs := by
  induction fs generalizing scope with
  | nil => rfl
  | cons f rest ih =>
    rw [schemaFields, schemaFields]
    simp only [ih, schemaFieldType_sameTypes h hg]
    rfl

lemma inputFields_sameTypes (hg : g.schema = s) (scope : NameScope) (fs : List InputValue) :
    (g.withSchema s').inputFields scope fs = g.inputFields scope fs := by
  induction fs generalizing scope with
  | nil => rfl
  | cons f rest ih =>
    rw [inputFields, inputFields]
    simp only [ih, schemaFieldType_sameTypes h hg]
    rfl

lemma schemaTypes_sameTypes (hg : g.schema = s) :
    (g.withSchema s').schemaTypes = g.schemaTypes := by
  have ht : (g.withSchema s').schemaType = g.schemaType := by
    funext t
    rw [schemaType, schemaType, schemaTypeBody, schemaTypeBody, schemaFields_sameTypes h hg,
      inputFields_sameTypes h hg]
    rfl
  rw [schemaTypes, schemaTypes, ht, hg, ← h.userTypes]
  rfl

lemma ofSchema_sameTypes (package : String) (naming : Naming) :
    ofSchema package s' naming = (ofSchema package s naming).withSchema s' := by
  rw [ofSchema, ofSchema, h.userTypes]
  rfl

end SchemaTypes

/-- Two schemas with the same types come to the same everywhere: types and roots are found by name,
listed, written and declared alike, documents are resolved and operations are declared alike, faults
included, and both are sound or neither is. -/
theorem eq_of_sameTypes {s s' : Schema} (h : s.SameTypes s') :
    ((∀ name, s'.get? name = s.get? name) ∧ (∀ kind, s'.rootName? kind = s.rootName? kind) ∧
      (∀ name, s'.isRoot name = s.isRoot name) ∧
      (∀ kind, Operation.rootType? s' kind = Operation.rootType? s kind)) ∧
    (s'.userTypes = s.userTypes ∧ Sdl.render s' = Sdl.render s) ∧
    (∀ path source, Operation.ofText s' path source = Operation.ofText s path source) ∧
    (∀ package naming ops,
      let run := (ofSchema package s naming).declareAll ops
      let run' := (ofSchema package s' naming).declareAll ops
      run'.1 = run.1 ∧ run'.2.schemaTypes = run.2.schemaTypes ∧
        ∀ name, run'.2.typeName? name = run.2.typeName? name) ∧
    (s'.validate = .ok () ↔ s.validate = .ok ()) := by
  refine ⟨⟨h.get?, h.rootName?, h.isRoot, Operation.rootType?_sameTypes h⟩,
    ⟨h.userTypes, h.render⟩, Operation.ofText_sameTypes h, fun package naming ops => ?_, h.validate⟩
  have hs : ((ofSchema package s naming).declareAll ops).2.schema = s := by
    obtain ⟨types, methods, he⟩ := (ofSchema package s naming).declareAll_eq ops
    rw [he]
    rfl
  dsimp only
  rw [ofSchema_sameTypes h, declareAll_withSchema]
  exact ⟨rfl, schemaTypes_sameTypes h hs, fun name => rfl⟩

section Friends

def draftSchema : Schema := .ofTypes (some "Query") none none
  [⟨.object, "User", none, [nameField, roleField, friendsField], [], [], [], []⟩,
    ⟨.scalar, "String", none, [], [], [], [], []⟩, ⟨.object, "Gone", none, [], [], [], [], []⟩,
    ⟨.object, "Query", none, [userField], [], [], [], []⟩] []

def draftEdits : List Schema.Edit :=
  [.rename 0 "user", .remove 2, .push ⟨.scalar, "User", none, [], [], [], [⟨"ADMIN", none, false,
    none⟩], []⟩, .setKind 3 .enumeration, .reverse]

theorem eq_of_sameTypes_friends :
    let edited := draftEdits.foldl Schema.edit draftSchema
    let run := (ofSchema "shop" friendsSchema ⟨false⟩).declareAll [friendsQuery]
    let run' := (ofSchema "shop" edited ⟨false⟩).declareAll [friendsQuery]
    edited.index = ["User", "String", "Gone", "Query"] ∧
    edited.types.map SchemaType.name = ["User", "Query", "String", "user"] ∧
    friendsSchema.SameTypes edited ∧
    edited.get? "Query" = friendsSchema.get? "Query" ∧
    Operation.ofText edited "me.graphql" friendsQuery.source =
      Operation.ofText friendsSchema "me.graphql" friendsQuery.source ∧
    run'.1 = run.1 ∧ (edited.validate = .ok () ↔ friendsSchema.validate = .ok ()) := by
  have hp : (draftEdits.foldl Schema.edit draftSchema).types.Perm friendsSchema.types := by
    decide
  have hd : (friendsSchema.types.map SchemaType.name).Nodup := by decide
  have h : friendsSchema.SameTypes (draftEdits.foldl Schema.edit draftSchema) :=
    ⟨rfl, rfl, rfl, fun _ => hp.mem_iff, hd, (hp.map SchemaType.name).nodup_iff.mpr hd⟩
  obtain ⟨⟨hget, -⟩, -, htext, hrun, hvalid⟩ := eq_of_sameTypes h
  exact ⟨rfl, rfl, h, hget "Query", htext "me.graphql" friendsQuery.source,
    (hrun "shop" ⟨false⟩ [friendsQuery]).1, hvalid⟩

end Friends

end GraphqlBindings.Generator

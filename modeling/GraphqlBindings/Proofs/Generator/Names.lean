import Mathlib.Data.List.Perm.Basic
import GraphqlBindings.Proofs.Generator.Call
import GraphqlBindings.Proofs.Schema.Lookup

/-! The names of a service. Its scopes hold what has been handed out, each name once, whatever
operations have been declared or refused before. -/

namespace GraphqlBindings

def OperationTypes.typeNames (t : OperationTypes) : List String :=
  t.operation :: t.request.name :: t.response.name :: t.nested.map Declaration.name

namespace Generator

def declareAll (g : Generator) : List Operation → List (Except Fault OperationTypes) × Generator
  | [] => ([], g)
  | op :: rest =>
    let first := g.declare op
    let others := first.2.declareAll rest
    (first.1 :: others.1, others.2)

lemma declareAll_eq (g : Generator) (ops : List Operation) :
    ∃ types methods, (g.declareAll ops).2 = { g with types, methods } := by
  induction ops generalizing g with
  | nil => exact ⟨g.types, g.methods, rfl⟩
  | cons op rest ih =>
    rw [declareAll]
    obtain ⟨types, methods, h⟩ := ih (g.declare op).2
    refine ⟨types, methods, h.trans ?_⟩
    rcases g.declare_cases op with ⟨-, -, -, he⟩ | ⟨-, fault, he⟩
    · rw [he]
      rfl
    · rw [he]

def declared (results : List (Except Fault OperationTypes)) : List OperationTypes :=
  results.filterMap Except.toOption

def schemaNames (g : Generator) : List String := (g.idents.map Prod.snd).reverse

/-- The generator of a service after these operations: schema types have names of their own, and
the scopes hold what has been handed out, each name once. -/
structure Accounts (package : String) (schema : Schema) (naming : Naming) (g : Generator)
    (earlier : List OperationTypes) : Prop where
  schema_eq : g.schema = schema
  naming_eq : g.naming = naming
  idents_fst : g.idents.map Prod.fst = (schema.userTypes.map SchemaType.name).reverse
  idents_free : ∀ entry ∈ g.idents, ∃ s : NameScope, entry.2 = s.free (naming.typeIdent entry.1)
  types_eq : g.types.taken = (naming.clientName package :: g.schemaNames ++
    earlier.flatMap OperationTypes.typeNames).reverse
  methods_eq : g.methods.taken = (clientMethodNames ++ earlier.map OperationTypes.method).reverse
  nodup_types : g.types.taken.Nodup
  nodup_methods : g.methods.taken.Nodup

section Structs

variable (g : Generator)

lemma taken_treeStruct (tree : List ResponseField) (owner : String) (idents scope : NameScope) :
    (g.treeStruct owner idents scope tree).2.taken =
      ((g.treeStruct owner idents scope tree).1.nested.map Declaration.name).reverse ++
        scope.taken := by
  induction tree using tree_induction generalizing owner idents scope with
  | nil => simp [treeStruct]
  | leaf key definition rest ih => simpa [treeStruct, ResponseStruct.cons] using ih ..
  | node key definition first more rest ihInner ih =>
    simp [treeStruct, ResponseStruct.cons, ih, ihInner]

lemma nodup_treeStruct (tree : List ResponseField) (owner : String) (idents scope : NameScope)
    (h : scope.taken.Nodup) : (g.treeStruct owner idents scope tree).2.taken.Nodup := by
  induction tree using tree_induction generalizing owner idents scope with
  | nil => simpa [treeStruct] using h
  | leaf key definition rest ih => simpa [treeStruct] using ih _ _ _ h
  | node key definition first more rest ihInner ih =>
    simpa [treeStruct] using ih _ _ _ (ihInner _ _ _ (NameScope.nodup_insert_free h _))

end Structs

lemma taken_after (g : Generator) (op : Operation) :
    (g.after op).types.taken = (g.typesOf op).typeNames.reverse ++ g.types.taken := by
  simp [after, responseOf, taken_treeStruct, claim, operationNames, OperationTypes.typeNames,
    typesOf, request]

lemma nodup_operationNames (g : Generator) (op : Operation) : (g.operationNames op).Nodup := by
  simp [operationNames, operationName, requestName, responseName]

lemma nodup_taken_after {g : Generator} {op : Operation} (hf : g.Free op)
    (h : g.types.taken.Nodup) : (g.after op).types.taken.Nodup := by
  apply nodup_treeStruct
  have ht : (g.claim op).types.taken = (g.operationNames op).reverse ++ g.types.taken := by
    simp [claim, operationNames]
  rw [ht]
  refine List.Nodup.append (List.nodup_reverse.mpr (g.nodup_operationNames op)) h ?_
  intro name hn ht
  exact hf.1 name (List.mem_reverse.mp hn) ht

section Run

variable {package : String} {schema : Schema} {naming : Naming}

lemma Accounts.declare {g g' : Generator} {earlier : List OperationTypes} {op : Operation}
    {types : OperationTypes} (h : Accounts package schema naming g earlier)
    (hd : g.declare op = (.ok types, g')) :
    Accounts package schema naming g' (earlier ++ [types]) := by
  obtain ⟨_, _, hf, rfl, rfl⟩ := declare_ok hd
  refine ⟨h.schema_eq, h.naming_eq, h.idents_fst, h.idents_free, ?_, ?_, ?_, ?_⟩
  · have hr : (g.after op).schemaNames = g.schemaNames := rfl
    rw [taken_after, h.types_eq, hr]
    simp
  · have hm : (g.after op).methods.taken = g.methodName op :: g.methods.taken := rfl
    rw [hm, h.methods_eq]
    simp [typesOf]
  · exact nodup_taken_after hf h.nodup_types
  · exact List.nodup_cons.mpr ⟨hf.2, h.nodup_methods⟩

lemma Accounts.declareAll {g : Generator} {earlier : List OperationTypes}
    (h : Accounts package schema naming g earlier) (ops : List Operation) :
    Accounts package schema naming (g.declareAll ops).2
      (earlier ++ declared (g.declareAll ops).1) := by
  induction ops generalizing g earlier with
  | nil => simpa [Generator.declareAll, declared] using h
  | cons op rest ih =>
    simp only [Generator.declareAll]
    rcases g.declare_cases op with ⟨_, _, _, he⟩ | ⟨_, fault, he⟩
    · have hn := ih (h.declare he)
      simpa [he, declared, Except.toOption] using hn
    · have hn := ih h
      simpa only [he, declared, List.filterMap_cons, Except.toOption] using hn

end Run

lemma nameTypes_spec (naming : Naming) (types : List SchemaType) (scope : NameScope)
    (idents : List (String × String)) (h : scope.taken.Nodup) :
    ∃ added, (nameTypes naming scope idents types).2 = added ++ idents ∧
      (nameTypes naming scope idents types).1.taken = added.map Prod.snd ++ scope.taken ∧
      (nameTypes naming scope idents types).1.taken.Nodup ∧
      added.map Prod.fst = (types.map SchemaType.name).reverse ∧
      ∀ entry ∈ added, ∃ s : NameScope, entry.2 = s.free (naming.typeIdent entry.1) := by
  induction types generalizing scope idents with
  | nil => exact ⟨[], by simp [nameTypes, h]⟩
  | cons t rest ih =>
    have hn := NameScope.nodup_insert_free h (naming.typeIdent t.name)
    obtain ⟨added, hi, ht, hd, hf, hs⟩ :=
      ih (scope.insert _) ((t.name, scope.free (naming.typeIdent t.name)) :: idents) hn
    refine ⟨added ++ [(t.name, scope.free (naming.typeIdent t.name))], ?_, ?_, hd, ?_, ?_⟩
    · simpa [nameTypes] using hi
    · simpa [nameTypes] using ht
    · simp [hf]
    · intro entry he
      rcases List.mem_append.mp he with he | he
      · exact hs entry he
      · obtain rfl := List.mem_singleton.mp he
        exact ⟨scope, rfl⟩

lemma accounts_ofSchema (package : String) (schema : Schema) (naming : Naming) :
    Accounts package schema naming (ofSchema package schema naming) [] := by
  obtain ⟨added, hi, ht, hd, hf, hs⟩ := nameTypes_spec naming schema.userTypes
    (NameScope.empty.insert (naming.clientName package)) [] (by simp)
  have hidents : (ofSchema package schema naming).idents = added := by
    simpa [ofSchema] using hi
  refine ⟨rfl, rfl, by rw [hidents, hf], by rwa [hidents], ?_, ?_, hd, ?_⟩
  · simp only [schemaNames, hidents, List.flatMap_nil, List.append_nil, List.reverse_cons,
      List.reverse_reverse]
    simpa [ofSchema] using ht
  · simp [ofSchema]
  · exact List.nodup_reverse.mpr (by decide)

section Distinct

variable {package : String} {schema : Schema} {naming : Naming} {g : Generator}
  {earlier : List OperationTypes}

lemma Accounts.nodup_idents (h : Accounts package schema naming g earlier)
    (hd : (schema.types.map SchemaType.name).Nodup) : (g.idents.map Prod.fst).Nodup :=
  h.idents_fst ▸ List.nodup_reverse.mpr (schema.nodup_userTypes hd)

lemma Accounts.map_typeName? (h : Accounts package schema naming g earlier)
    (hd : (schema.types.map SchemaType.name).Nodup) :
    schema.userTypes.map (fun t => g.typeName? t.name) = g.schemaNames.map some :=
  calc schema.userTypes.map (fun t => g.idents.lookup t.name)
    _ = ((g.idents.map Prod.fst).map fun name => g.idents.lookup name).reverse := by
      simp only [h.idents_fst, List.map_reverse, List.reverse_reverse, List.map_map,
        Function.comp_def]
    _ = (g.idents.map fun entry => some entry.2).reverse := by
      rw [List.map_map]
      congr 1
      refine List.map_congr_left fun entry he => ?_
      exact (mem_iff_lookup (h.nodup_idents hd)).mp he
    _ = g.schemaNames.map some := by
      simp [schemaNames]

end Distinct

/-- One scope for a whole service: after any run of calls, some of which may have failed, the
client, the user types and all types of the declared operations have names of their own, and so
have all methods of the client. -/
theorem nodup_names (package : String) (schema : Schema) (naming : Naming)
    (hd : (schema.types.map SchemaType.name).Nodup) (ops : List Operation) :
    let run := (ofSchema package schema naming).declareAll ops
    ∃ names, schema.userTypes.map (fun t => run.2.typeName? t.name) = names.map some ∧
      (naming.clientName package :: names ++
        (declared run.1).flatMap OperationTypes.typeNames).Nodup ∧
      (clientMethodNames ++ (declared run.1).map OperationTypes.method).Nodup ∧
      ∀ types ∈ declared run.1,
        types.method ≠ "new" ∧ types.method ≠ "from_client" ∧ types.method ≠ "inner" := by
  have h := (accounts_ofSchema package schema naming).declareAll ops
  have hmethods := List.nodup_reverse.mp (h.methods_eq ▸ h.nodup_methods)
  refine ⟨_, h.map_typeName? hd, ?_, hmethods, fun types ht => ?_⟩
  · exact List.nodup_reverse.mp (h.types_eq ▸ h.nodup_types)
  · have hfree : types.method ∉ clientMethodNames :=
      fun hm => List.disjoint_of_nodup_append hmethods hm (List.mem_map_of_mem ht)
    simpa [clientMethodNames] using hfree

section Friends

def nameField : SchemaField := ⟨"name", none, [], .nonNull (.named "String"), false, none⟩

def roleField : SchemaField := ⟨"role", none, [], .named "User", false, none⟩

def friendsField : SchemaField := ⟨"friends", none, [], .list (.named "user"), false, none⟩

def userField : SchemaField := ⟨"user", none, [], .named "user", false, none⟩

def friendsSchema : Schema := .ofTypes (some "Query") none none
  [⟨.scalar, "String", none, [], [], [], [], []⟩,
    ⟨.object, "Query", none, [userField], [], [], [], []⟩,
    ⟨.enumeration, "User", none, [], [], [], [⟨"ADMIN", none, false, none⟩], []⟩,
    ⟨.object, "user", none, [nameField, roleField, friendsField], [], [], [], []⟩] []

def friendsQuery : Operation where
  name := "me"
  kind := .query
  vars := []
  selections := [.field none "user" userField
    [.field (some "title") "name" nameField [],
      .field none "friends" friendsField [.field none "name" nameField []],
      .field none "friends" friendsField [.field none "role" roleField []]]]
  source := "query me { user { title: name friends { name } friends { role } } }"
  path := "me.graphql"

theorem nodup_names_friends :
    let run := (ofSchema "shop" friendsSchema ⟨false⟩).declareAll [friendsQuery, friendsQuery]
    (friendsSchema.types.map SchemaType.name).Nodup ∧
    ∃ names, friendsSchema.userTypes.map (fun t => run.2.typeName? t.name) = names.map some ∧
      (Naming.clientName ⟨false⟩ "shop" :: names ++
        (declared run.1).flatMap OperationTypes.typeNames).Nodup ∧
      (clientMethodNames ++ (declared run.1).map OperationTypes.method).Nodup ∧
      ∀ types ∈ declared run.1,
        types.method ≠ "new" ∧ types.method ≠ "from_client" ∧ types.method ≠ "inner" := by
  have hd : (friendsSchema.types.map SchemaType.name).Nodup := by decide
  exact ⟨hd, nodup_names "shop" friendsSchema ⟨false⟩ hd [friendsQuery, friendsQuery]⟩

lemma declare_friends :
    (ofSchema "shop" friendsSchema ⟨false⟩).declare friendsQuery =
      (.ok ((ofSchema "shop" friendsSchema ⟨false⟩).typesOf friendsQuery),
        (ofSchema "shop" friendsSchema ⟨false⟩).after friendsQuery) := by
  refine declare_of_checked (by decide +kernel) ?_
  have hsorted : friendsSchema.userTypes = friendsSchema.types.filter friendsSchema.isUserType :=
    List.mergeSort_of_pairwise (by decide +kernel)
  rw [ofSchema, hsorted]
  decide +kernel

end Friends

end Generator

end GraphqlBindings

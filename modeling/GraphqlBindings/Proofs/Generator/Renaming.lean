import GraphqlBindings.Proofs.Generator.Structs

/-! An operation declared beside others and the same operation declared alone: the declarations are
the same under other names for structs. A number behind one struct's name changes the names that all
structs below it ask for, so that the names are related by their places only. -/

namespace GraphqlBindings

section Rename

variable (ρ : String → String)

def CodeType.rename : CodeType → CodeType
  | named name => named (ρ name)
  | option inner => option inner.rename
  | vec inner => vec inner.rename
  | boxed inner => boxed inner.rename

def FieldDeclaration.rename (f : FieldDeclaration) : FieldDeclaration :=
  { f with type := f.type.rename ρ }

def DeclarationBody.rename : DeclarationBody → DeclarationBody
  | .alias type => .alias (type.rename ρ)
  | .variants vs => .variants vs
  | .fields fs => .fields (fs.map (FieldDeclaration.rename ρ))

def Declaration.rename (d : Declaration) : Declaration :=
  { d with name := ρ d.name, body := d.body.rename ρ }

lemma TypeRef.rename_shape_and_required (r : TypeRef) (base : CodeType) (boxed : Bool) :
    (r.shape base boxed).rename ρ = r.shape (base.rename ρ) boxed ∧
      (r.requiredShape base boxed).rename ρ = r.requiredShape (base.rename ρ) boxed := by
  induction r generalizing boxed with
  | named name => cases boxed <;> simp [shape, requiredShape, CodeType.rename]
  | list r ih => simp [shape, requiredShape, CodeType.rename, ih]
  | nonNull r ih => simp [shape, requiredShape, ih]

lemma TypeRef.rename_shape (r : TypeRef) (base : CodeType) (boxed : Bool) :
    (r.shape base boxed).rename ρ = r.shape (base.rename ρ) boxed :=
  (r.rename_shape_and_required ρ base boxed).1

end Rename

section Exchange

def exchange (a b : List String) (name : String) : String := ((a.zip b).lookup name).getD name

variable {a b : List String}

lemma exchange_of_not_mem {name : String} (h : name ∉ a) : exchange a b name = name := by
  have hn : (a.zip b).lookup name = none := by
    refine lookup_eq_none_of_not_mem fun hm => ?_
    obtain ⟨⟨x, y⟩, hxy, rfl⟩ := List.mem_map.mp hm
    exact h (List.of_mem_zip hxy).1
  rw [exchange, hn, Option.getD_none]

lemma map_exchange (hd : a.Nodup) (hl : a.length = b.length) : a.map (exchange a b) = b := by
  have hk : (a.zip b).map Prod.fst = a := List.map_fst_zip hl.le
  refine List.ext_getElem (by simpa using hl) fun i hi hi' => ?_
  rw [List.getElem_map, exchange]
  have hm : (a[i], b[i]) ∈ a.zip b := by
    rw [List.mem_iff_getElem]
    exact ⟨i, by simpa using ⟨by simpa using hi, hi'⟩, List.getElem_zip ..⟩
  rw [(mem_iff_lookup (hk.symm ▸ hd)).mp hm, Option.getD_some]

lemma exchange_mem (hd : a.Nodup) (hl : a.length = b.length) {name : String} (h : name ∈ a) :
    exchange a b name ∈ b := by
  have hm := List.mem_map_of_mem (f := exchange a b) h
  rwa [map_exchange hd hl] at hm

lemma exchange_injOn (ha : a.Nodup) (hb : b.Nodup) (hl : a.length = b.length) (names : Set String)
    (hs : ∀ name ∈ names, name ∉ a → name ∉ b) : Set.InjOn (exchange a b) names := by
  intro x hx y hy he
  by_cases hxa : x ∈ a <;> by_cases hya : y ∈ a
  · exact List.inj_on_of_nodup_map ((map_exchange ha hl).symm ▸ hb) hxa hya he
  · rw [exchange_of_not_mem hya] at he
    exact absurd (he ▸ exchange_mem ha hl hxa) (hs y hy hya)
  · rw [exchange_of_not_mem hxa] at he
    exact absurd (he ▸ exchange_mem ha hl hya) (hs x hx hxa)
  · rwa [exchange_of_not_mem hxa, exchange_of_not_mem hya] at he

end Exchange

namespace Generator

variable {ρ : String → String}

section Tree

variable (g : Generator)

lemma treeStruct_rename (hleaf : ∀ type, ρ (g.namedType type).base = (g.namedType type).base)
    (tree : List ResponseField) (owner owner' : String) (idents scope scope' : NameScope) :
    let s := (g.treeStruct owner idents scope tree).1
    let s' := (g.treeStruct owner' idents scope' tree).1
    (s.nested.map Declaration.name).map ρ = s'.nested.map Declaration.name →
      s'.fields = s.fields.map (FieldDeclaration.rename ρ) ∧
        s'.nested = s.nested.map (Declaration.rename ρ) := by
  have hnamed (type) : (g.namedType type).rename ρ = g.namedType type := by
    have h := hleaf type
    rcases g.namedType_cases type with ⟨n, -, he⟩ | ⟨n, -, he⟩ <;> rw [he] at h ⊢ <;>
      exact congrArg CodeType.named h
  dsimp only
  induction tree using tree_induction generalizing owner owner' idents scope scope' with
  | nil => simp [treeStruct]
  | leaf key definition rest ih =>
    simp only [treeStruct, ResponseStruct.cons, List.nil_append]
    intro hρ
    obtain ⟨hfields, hnested⟩ := ih _ _ _ _ _ hρ
    refine ⟨?_, hnested⟩
    rw [hfields, List.map_cons]
    simp [responseField, FieldDeclaration.rename, TypeRef.rename_shape, hnamed]
  | node key definition first more rest ihInner ih =>
    simp only [treeStruct, ResponseStruct.cons, List.cons_append, List.map_cons, List.map_append,
      List.cons.injEq]
    generalize scope.free (owner ++ g.naming.typeIdent key) = name at *
    generalize scope'.free (owner' ++ g.naming.typeIdent key) = name' at *
    have hinner := ihInner name name' .empty (scope.insert name) (scope'.insert name')
    have hlength := (g.length_treePaths name .empty (scope.insert name) (first :: more)).symm.trans
      (g.length_treePaths name' .empty (scope'.insert name') (first :: more))
    generalize g.treeStruct name .empty (scope.insert name) (first :: more) = inner at *
    generalize g.treeStruct name' .empty (scope'.insert name') (first :: more) = inner' at *
    have hothers := ih owner owner' (idents.insert (idents.free (g.naming.fieldIdent key))) inner.2
      inner'.2
    rintro ⟨hname, hρ⟩
    -- what stands inside the field comes first in both lists, and is equally long
    obtain ⟨hρinner, hρothers⟩ := List.append_inj hρ (by simpa using hlength)
    obtain ⟨hfi, hni⟩ := hinner hρinner
    obtain ⟨hfo, hno⟩ := hothers hρothers
    refine ⟨⟨?_, hfo⟩, ?_, ?_⟩
    · simp [responseField, FieldDeclaration.rename, TypeRef.rename_shape, CodeType.rename, hname]
    · simp [Declaration.rename, DeclarationBody.rename, hname, hfi]
    · rw [hni, hno]

end Tree

/-- What one operation's structs are called in two scopes. Every struct has the name of the other
one's at its place; all other names stay, those of schema types among them, and none of them becomes
the name of a struct. -/
structure RenamesStructs (g : Generator) (ρ : String → String) (a b : OperationTypes) : Prop where
  places : (a.nested.map Declaration.name).map ρ = b.nested.map Declaration.name
  others : ∀ name ∉ a.nested.map Declaration.name, ρ name = name
  known : ∀ name, name ∈ foreignTypes ∨ name ∈ g.schemaNames → ρ name = name
  injective : Set.InjOn ρ
    {name | name ∈ foreignTypes ∨ name ∈ g.schemaNames ∨ name ∈ a.typeNames}
  response : b.response = a.response.rename ρ
  nested : b.nested = a.nested.map (Declaration.rename ρ)

section Response

variable {package : String} {schema : Schema} {naming : Naming} {g : Generator}
  {earlier : List OperationTypes} {op : Operation}

lemma Free.of_subset {g g' : Generator} (h : g.Free op) (hn : g'.naming = g.naming)
    (ht : g'.types.taken ⊆ g.types.taken) (hm : g'.methods.taken ⊆ g.methods.taken) :
    g'.Free op := by
  simp only [Free, operationNames, operationName, requestName, responseName, methodName, hn] at h ⊢
  exact ⟨fun name hname htaken => h.1 name hname (ht htaken), fun htaken => h.2 (hm htaken)⟩

lemma Accounts.taken_subset {g' : Generator} {earlier' : List OperationTypes}
    (h : Accounts package schema naming g earlier) (h' : Accounts package schema naming g' earlier')
    (hi : g'.idents = g.idents) (hs : earlier' ⊆ earlier) :
    g'.types.taken ⊆ g.types.taken ∧ g'.methods.taken ⊆ g.methods.taken := by
  have hnames : g'.schemaNames = g.schemaNames := by rw [schemaNames, schemaNames, hi]
  rw [h.types_eq, h'.types_eq, h.methods_eq, h'.methods_eq, hnames]
  constructor
  · intro name hn
    simp only [List.mem_reverse, List.mem_append, List.mem_flatMap] at hn ⊢
    exact hn.imp_right (Exists.imp fun t ht => ⟨hs ht.1, ht.2⟩)
  · intro name hn
    simp only [List.mem_reverse, List.mem_append, List.mem_map] at hn ⊢
    exact hn.imp_right (Exists.imp fun t ht => ⟨hs ht.1, ht.2⟩)

lemma declare_of_free (hf : ¬ HasFragment op.selections) (hk : ¬ KeyConflict op.selections)
    (hfree : g.Free op) : g.declare op = (.ok (g.typesOf op), g.after op) := by
  rcases g.declare_cases op with ⟨-, -, -, he⟩ | ⟨hc, -⟩
  · exact he
  · exact absurd hc (by simp [hf, hk, hfree])

lemma Accounts.nested_fresh (h : Accounts package schema naming g earlier) (hf : g.Free op)
    {name : String} (hn : name ∈ (g.typesOf op).nested.map Declaration.name) :
    name ∉ foreignTypes ∧ name ∉ g.schemaNames ∧ name ∉ g.operationNames op := by
  obtain ⟨d, hd, rfl⟩ := List.mem_map.mp hn
  obtain ⟨hforeign, hschema⟩ := h.nested_not_known hf hd
  refine ⟨hforeign, hschema, fun ho => ?_⟩
  have hnodup : (g.operationNames op ++ (g.typesOf op).nested.map Declaration.name).Nodup :=
    (h.nodup_typeNames hf).of_append_right
  exact List.disjoint_of_nodup_append hnodup ho hn

section Two

variable {g' : Generator} {earlier' : List OperationTypes}

lemma Accounts.renamesStructs (h : Accounts package schema naming g earlier)
    (h' : Accounts package schema naming g' earlier') (hi : g'.idents = g.idents)
    (hf : g.Free op) (hf' : g'.Free op) :
    RenamesStructs g' (exchange ((g.typesOf op).nested.map Declaration.name)
      ((g'.typesOf op).nested.map Declaration.name)) (g.typesOf op) (g'.typesOf op) := by
  have hn : g'.naming = g.naming := h'.naming_eq.trans h.naming_eq.symm
  have hnames : g'.schemaNames = g.schemaNames := by rw [schemaNames, schemaNames, hi]
  have hops : g'.operationNames op = g.operationNames op := by
    simp only [operationNames, operationName, requestName, responseName, hn]
  have hl : ((g.typesOf op).nested.map Declaration.name).length =
      ((g'.typesOf op).nested.map Declaration.name).length := by
    rw [List.length_map, List.length_map, typesOf, typesOf, responseOf, responseOf,
      ← length_treePaths, ← length_treePaths]
  have hplaces := map_exchange (h.nodup_nested hf) hl
  have hother := @exchange_of_not_mem ((g.typesOf op).nested.map Declaration.name)
    ((g'.typesOf op).nested.map Declaration.name)
  have hinj := exchange_injOn (h.nodup_nested hf) (h'.nodup_nested hf') hl
  generalize exchange ((g.typesOf op).nested.map Declaration.name)
    ((g'.typesOf op).nested.map Declaration.name) = ρ at *
  have hknown : ∀ name, name ∈ foreignTypes ∨ name ∈ g'.schemaNames → ρ name = name := by
    intro name hk
    refine hother fun hm => ?_
    obtain ⟨hforeign, hschema, -⟩ := h.nested_fresh hf hm
    exact hk.elim hforeign (hnames ▸ hschema)
  have hstructs := g.treeStruct_rename (fun type => hknown _ ?_)
    (responseTree op.selections) (g.responseName op) (g'.responseName op) .empty
    (g.claim op).types (g'.claim op).types
  · dsimp only at hstructs
    rw [← treeStruct_congr hn hi _ (g'.responseName op)] at hstructs
    obtain ⟨hfields, hnested⟩ := hstructs hplaces
    refine ⟨hplaces, fun name hm => hother hm, hknown, hinj _ fun name hm hold hnew => ?_, ?_,
      hnested⟩
    · obtain ⟨hforeign, hschema, hop⟩ := h'.nested_fresh hf' hnew
      rcases hm with hm | hm | hm
      · exact hforeign hm
      · exact hschema hm
      · have hm : name ∈ g.operationNames op ++ (g.typesOf op).nested.map Declaration.name := hm
        exact (List.mem_append.mp hm).elim (hops ▸ hop) hold
    · have hr : ρ (g.responseName op) = g.responseName op := by
        refine hother fun hm => (h.nested_fresh hf hm).2.2 ?_
        simp [operationNames]
      have hr' : g'.responseName op = g.responseName op := by rw [responseName, responseName, hn]
      simp only [typesOf, Declaration.rename, DeclarationBody.rename, hr, hr']
      rw [responseOf, hfields]
      rfl
  · rcases g.namedType_cases type with ⟨n, hm, he⟩ | ⟨ident, hident, he⟩ <;> rw [he]
    · exact Or.inl hm
    · exact Or.inr (hnames ▸ (h.of_typeName? hident).1)

end Two

/-- Whatever has been declared or refused before, an operation that can be declared then can be
declared alone. It has the same names and the same request, and the same structs at the same places,
under other names at most. -/
theorem declare_alone (package : String) (schema : Schema) (naming : Naming)
    (earlier : List Operation) (op : Operation) (types : OperationTypes) (g' : Generator)
    (hd : ((ofSchema package schema naming).declareAll earlier).2.declare op = (.ok types, g')) :
    ∃ alone after, (ofSchema package schema naming).declare op = (.ok alone, after) ∧
      (alone.name = types.name ∧ alone.kind = types.kind ∧ alone.operation = types.operation ∧
        alone.method = types.method ∧ alone.request = types.request ∧
        alone.response.name = types.response.name) ∧
      alone.nested.length = types.nested.length ∧
      ∃ ρ, RenamesStructs (ofSchema package schema naming) ρ types alone := by
  have h₀ := accounts_ofSchema package schema naming
  have h := h₀.declareAll earlier
  obtain ⟨scope, methods, he⟩ := (ofSchema package schema naming).declareAll_eq earlier
  generalize ((ofSchema package schema naming).declareAll earlier).2 = g at h hd he
  generalize ofSchema package schema naming = g₀ at h₀ he ⊢
  obtain ⟨hf, hk, hfree, rfl, rfl⟩ := declare_ok hd
  have hn : g₀.naming = g.naming := by rw [he]
  have hi : g₀.idents = g.idents := by rw [he]
  have hfree₀ : g₀.Free op :=
    have hs := h.taken_subset h₀ hi (List.nil_subset _)
    hfree.of_subset hn hs.1 hs.2
  have hr := h.renamesStructs h₀ hi hfree hfree₀
  refine ⟨g₀.typesOf op, g₀.after op, declare_of_free hf hk hfree₀, ⟨rfl, rfl, ?_⟩, ?_, _, hr⟩
  · simp only [typesOf, request, operationName, requestName, responseName, methodName, hn,
      variableFields_congr hn hi, and_self]
  · rw [← List.length_map Declaration.name, ← hr.places, List.length_map, List.length_map]

section Friends

def namesakeQuery : Operation :=
  { friendsQuery with
    name := "meResponseUser"
    selections := [.field none "user" userField [.field none "name" nameField []]] }

def labelledQuery : Operation :=
  { friendsQuery with
    selections := [.field (some "userResponseUser") "user" userField
      [.field none "friends" friendsField [.field none "name" nameField []]]] }

lemma ofSchema_friends : ofSchema "shop" friendsSchema ⟨false⟩ =
    ⟨friendsSchema, ⟨false⟩, ⟨["User2", "User", "ShopClient"]⟩, ⟨clientMethodNames.reverse⟩,
      [("user", "User2"), ("User", "User")]⟩ := by
  have hsorted : friendsSchema.userTypes = friendsSchema.types.filter friendsSchema.isUserType :=
    List.mergeSort_of_pairwise (by decide +kernel)
  have hnames : nameTypes ⟨false⟩ (NameScope.empty.insert (Naming.clientName ⟨false⟩ "shop")) []
      (friendsSchema.types.filter friendsSchema.isUserType) =
      (⟨["User2", "User", "ShopClient"]⟩, [("user", "User2"), ("User", "User")]) := by
    decide +kernel
  rw [ofSchema, hsorted, hnames]

lemma responseTree_namesake : responseTree namesakeQuery.selections =
    [.mk "user" userField [.mk "name" nameField []]] := by
  cbv

lemma responseTree_labelled : responseTree labelledQuery.selections =
    [.mk "userResponseUser" userField
      [.mk "friends" friendsField [.mk "name" nameField []]]] := by
  cbv

lemma declareAll_namesake :
    ((ofSchema "shop" friendsSchema ⟨false⟩).declareAll [namesakeQuery]).2 =
      (ofSchema "shop" friendsSchema ⟨false⟩).after namesakeQuery := by
  have ht : (ofSchema "shop" friendsSchema ⟨false⟩).takenName? namesakeQuery = none := by
    rw [ofSchema_friends]
    decide +kernel
  rw [declareAll, declare_of_checked (by decide +kernel) ht]
  rfl

theorem declare_alone_friends :
    let g := ofSchema "shop" friendsSchema ⟨false⟩
    let shared := (g.declareAll [namesakeQuery]).2
    (shared.typesOf labelledQuery).nested.map Declaration.name =
      ["MeResponseUserResponseUser2", "MeResponseUserResponseUser2Friends"] ∧
    (g.typesOf labelledQuery).nested.map Declaration.name =
      ["MeResponseUserResponseUser", "MeResponseUserResponseUserFriends"] ∧
    shared.declare labelledQuery =
      (.ok (shared.typesOf labelledQuery), shared.after labelledQuery) ∧
    ∃ alone after, g.declare labelledQuery = (.ok alone, after) ∧
      ∃ ρ, RenamesStructs g ρ (shared.typesOf labelledQuery) alone := by
  have hu : unsupported? labelledQuery.selections = none := by decide +kernel
  have ht : ((ofSchema "shop" friendsSchema ⟨false⟩).declareAll [namesakeQuery]).2.takenName?
      labelledQuery = none := by
    rw [declareAll_namesake, ofSchema_friends]
    simp only [after, responseOf, responseTree_namesake, treeStruct, ResponseStruct.cons]
    decide +kernel
  have hd := declare_of_checked hu ht
  obtain ⟨alone, left, halone, -, -, hρ⟩ := declare_alone "shop" friendsSchema ⟨false⟩
    [namesakeQuery] labelledQuery _ _ hd
  refine ⟨?_, ?_, hd, alone, left, halone, hρ⟩
  · rw [declareAll_namesake, ofSchema_friends]
    simp only [typesOf, after, responseOf, responseTree_namesake, responseTree_labelled, treeStruct,
      ResponseStruct.cons]
    decide +kernel
  · rw [ofSchema_friends]
    simp only [typesOf, responseOf, responseTree_labelled, treeStruct, ResponseStruct.cons]
    decide +kernel

end Friends

end Response

end Generator

end GraphqlBindings

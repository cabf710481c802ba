import Mathlib
import GraphqlBindings.Proofs.Code.Omission
import GraphqlBindings.Proofs.Generator.Structs
import GraphqlBindings.Proofs.Generator.Writable
import GraphqlBindings.Proofs.Operation.Selected

namespace GraphqlBindings.Generator

open GraphqlBindings.Language (Directive Document OperationDefinition)

section Structs

variable (g : Generator) {op : Operation} {s : Schema}

lemma exists_fieldAt (h : Mergeable s op.selections) {label : Option String} {name : String}
    {field : SchemaField} {inner : List Selection} (front : List String) {path : List String}
    {d : Declaration} (hd : (path, d) ∈ g.structEntries op)
    (hs : .field label name field inner ∈ selectionsAt op.selections (path ++ front)) :
    ∃ f, FieldAt (g.typesOf op).nested d (front ++ [responseKey label name]) f ∧
      f.type.isOption = !field.type.isNonNull := by
  induction front generalizing path d with
  | nil =>
    rw [List.append_nil] at hs
    obtain ⟨hbody, hkeys, htypes⟩ := g.mergesAt_structEntries h _ hd
    have hkey : responseKey label name ∈ d.fields.map FieldDeclaration.key :=
      hkeys ▸ mem_responseKeys.mpr ⟨label, name, field, inner, hs, rfl⟩
    obtain ⟨f, hf, hfk⟩ := List.mem_map.mp hkey
    obtain ⟨definition, hsame, htype⟩ := htypes f hf
    obtain rfl := hsame label name field inner hs hfk.symm
    refine ⟨f, hfk ▸ .here hbody hf, ?_⟩
    rcases htype with ⟨-, ht⟩ | ⟨e, -, ht⟩
    · rw [ht, TypeRef.isOption_shape _ (g.isOption_namedType _)]
    · rw [ht, TypeRef.isOption_shape _ rfl]
  | cons key front ih =>
    obtain ⟨hbody, hkeys, htypes⟩ := g.mergesAt_structEntries h _ hd
    have hne : selectionsAt op.selections (path ++ [key]) ≠ [] := by
      intro hnil
      rw [List.append_cons, selectionsAt_append, hnil, selectionsAt_empty] at hs
      exact absurd hs List.not_mem_nil
    have hkey : key ∈ d.fields.map FieldDeclaration.key := by
      rw [hkeys]
      by_contra hkey
      rw [selectionsAt_append, selectionsAt, under_eq_nil hkey] at hne
      exact hne rfl
    obtain ⟨f, hf, rfl⟩ := List.mem_map.mp hkey
    obtain ⟨definition, -, ⟨hnil, -⟩ | ⟨e, he, ht⟩⟩ := htypes f hf
    · exact absurd hnil hne
    · rw [List.append_cons] at hs
      obtain ⟨inner, hinner, ho⟩ := ih (List.mem_cons_of_mem _ he) hs
      refine ⟨inner, .inside hbody hf (List.of_mem_zip he).2 ?_ hinner, ho⟩
      rw [ht, TypeRef.base_shape, CodeType.base]

lemma keysDistinct_of_mem (h : Mergeable s op.selections) {d : Declaration}
    (hd : d ∈ (g.typesOf op).response :: (g.typesOf op).nested) : d.KeysDistinct := by
  have hl : (g.typesOf op).nested.length ≤ (treePaths (responseTree op.selections)).length :=
    (g.length_treePaths ..).ge
  obtain ⟨path, hm⟩ : ∃ path, (path, d) ∈ g.structEntries op := by
    rw [structEntries]
    rcases List.mem_cons.mp hd with rfl | hd
    · exact ⟨[], List.mem_cons_self⟩
    · rw [← List.map_snd_zip hl] at hd
      obtain ⟨⟨path, e⟩, he, rfl⟩ := List.mem_map.mp hd
      exact ⟨path, List.mem_cons_of_mem _ he⟩
  obtain ⟨hbody, hkeys, -⟩ := g.mergesAt_structEntries h _ hm
  intro fields hf
  obtain rfl := DeclarationBody.fields.inj (hbody.symm.trans hf)
  exact hkeys ▸ nodup_responseKeys _

end Structs

section Response

/-- For each path of keys where a field is selected a response has one field. Whatever directives
are there, it is an option exactly if the schema lets the selected field be null; and exactly then
is a response that can be read still read when the member at that path is left out, everywhere or
in one object. -/
theorem option_iff_nullable (s : Schema) (path source : String) (d : Document)
    (hread : Document.read source = .ok d) (ops : List Operation)
    (hops : Operation.ofText s path source = .ok ops) (o : OperationDefinition)
    (ho : o ∈ d.operations) (op : Operation) (hop : op ∈ ops) (hname : o.name = some op.name)
    (root : SchemaType) (hroot : Operation.rootType? s o.kind = some root) (keys : List String)
    (directives : List Directive) (field : SchemaField)
    (hselected : SelectedAt s root o.selections keys directives field)
    (package : String) (schema : Schema) (naming : Naming) (earlier : List Operation)
    (types : OperationTypes) (g' : Generator)
    (hd : ((ofSchema package schema naming).declareAll earlier).2.declare op = (.ok types, g')) :
    ∃ f, FieldAt types.nested types.response keys f ∧
      (∀ f', FieldAt types.nested types.response keys f' → f' = f) ∧
      f.type.isOption = !field.type.isNonNull ∧
      ∀ model, types.nested ⊆ model →
        (∀ d ∈ model, ∀ e ∈ model, d.name = e.name → d = e) →
        ∀ j : Json, BodyReads model types.response.body j →
          (BodyReads model types.response.body (j.without keys) ↔
            field.type.isNonNull = false ∨ j.without keys = j) ∧
          ∀ j', j.OmitsAt keys j' →
            (BodyReads model types.response.body j' ↔ field.type.isNonNull = false) := by
  have h := (accounts_ofSchema package schema naming).declareAll earlier
  generalize ((ofSchema package schema naming).declareAll earlier).2 = g at h hd
  obtain ⟨hfragment, hconflict, hfree, rfl, rfl⟩ := declare_ok hd
  have hres := Operation.resolution_of_name hread hops ho hop hname
  obtain ⟨rootName, root', hrootName, hget, hresolved⟩ := hres.known
  obtain rfl : root = root' := by
    have hroot' := Operation.rootType?_eq_some_iff.mpr ⟨rootName, hrootName, hget⟩
    exact Option.some.inj (hroot.symm.trans hroot')
  obtain ⟨front, label, name, inner, rfl, hmem⟩ := hselected.resolved hresolved hres.outline_eq
  have hm : Mergeable s op.selections := ⟨hfragment, hconflict, root, hresolved⟩
  have hresponse : ([], (g.typesOf op).response) ∈ g.structEntries op := List.mem_cons_self
  obtain ⟨f, hf, hoption⟩ := g.exists_fieldAt hm front hresponse hmem
  have hkeys : (g.typesOf op).response.KeysDistinct := g.keysDistinct_of_mem hm List.mem_cons_self
  have hinner : ∀ e ∈ (g.typesOf op).nested, e.KeysDistinct := fun e he =>
    g.keysDistinct_of_mem hm (List.mem_cons_of_mem _ he)
  have hnames : ∀ d ∈ (g.typesOf op).nested, ∀ e ∈ (g.typesOf op).nested, d.name = e.name →
      d = e := fun d hd e he => List.inj_on_of_nodup_map (h.nodup_nested hfree) hd he
  refine ⟨f, hf, fun f' hf' => hf.unique hnames hinner hkeys hf', hoption, ?_⟩
  intro model hsub hunique j hj
  cases hnull : field.type.isNonNull with
  | false =>
    rw [hnull, Bool.not_false] at hoption
    simp only [true_or, iff_true]
    exact ⟨hf.reads_without hunique hsub hinner hkeys hoption hj,
      fun j' hj' => hf.of_omitsAt hunique hsub hinner hkeys hoption hj' hj⟩
  | true =>
    rw [hnull, Bool.not_true] at hoption
    simp only [Bool.true_eq_false, false_or, iff_false]
    refine ⟨⟨hf.without_eq hunique hsub hoption, fun he => ?_⟩, fun j' hj' => ?_⟩
    · rwa [he]
    · exact hf.not_omitsAt hunique hsub hoption hj'

end Response

section Price

open Operation (catalogSchema itemField priceField)

def catalogRoot : SchemaType := ⟨.object, "Query", none, [itemField], [], [], [], []⟩

def dependsOn (name : String) : Directive := ⟨name, [("if", .variable "w")]⟩

def priceDefinition : OperationDefinition where
  position := ⟨1, 1⟩
  kind := .query
  name := some "A"
  vars := [⟨⟨1, 9⟩, "w", .nonNull (.named "Boolean"), none⟩]
  directives := []
  selections := [.field ⟨1, 25⟩ none "item" [] [dependsOn "include"]
    [.field ⟨1, 49⟩ none "price" [] [dependsOn "skip"] []]]

def priceQuery : Operation where
  name := "A"
  kind := .query
  vars := [⟨"w", .nonNull (.named "Boolean"), none⟩]
  selections := [.field none "item" itemField [.field none "price" priceField []]]
  source := "query A($w: Boolean!) \x7b item @include(if: $w) \x7b price @skip(if: $w) \x7d \x7d"
  path := "a.graphql"

def priceTypes : OperationTypes := (ofSchema "shop" catalogSchema ⟨false⟩).typesOf priceQuery

lemma read_price : Document.read priceQuery.source = .ok ⟨[.operation priceDefinition]⟩ := by
  cbv

lemma ofText_price :
    Operation.ofText catalogSchema "a.graphql" priceQuery.source = .ok [priceQuery] := by
  cbv

lemma declare_price : (ofSchema "shop" catalogSchema ⟨false⟩).declare priceQuery =
    (.ok priceTypes, (ofSchema "shop" catalogSchema ⟨false⟩).after priceQuery) := by
  refine declare_of_checked (by decide +kernel) ?_
  have hsorted : catalogSchema.userTypes = catalogSchema.types.filter catalogSchema.isUserType :=
    List.mergeSort_of_pairwise (by decide +kernel)
  rw [ofSchema, hsorted]
  decide +kernel

lemma selectedAt_price : SelectedAt catalogSchema catalogRoot priceDefinition.selections
    ["item", "price"] [dependsOn "skip"] priceField :=
  .inside List.mem_cons_self (SchemaType.field?_eq_some_iff.mp rfl) rfl
    (.here List.mem_cons_self (SchemaType.field?_eq_some_iff.mp rfl))

lemma conditionalAt_price :
    ConditionalAt catalogSchema catalogRoot priceDefinition.selections ["item", "price"] := by
  refine ⟨⟨_, _, selectedAt_price⟩, fun directives field h => ?_⟩
  generalize hk : ["item", "price"] = keys at h
  cases h with
  | here hm _ => simp at hk
  | inside hm _ _ hin =>
    obtain ⟨-, rfl⟩ := List.cons.inj hk
    simp only [priceDefinition, List.mem_singleton, Language.Selection.field.injEq] at hm
    obtain ⟨-, -, -, -, -, rfl⟩ := hm
    generalize hk : ["price"] = keys at hin
    cases hin with
    | here hm _ =>
      simp only [List.mem_singleton, Language.Selection.field.injEq] at hm
      obtain ⟨-, -, -, -, rfl, -⟩ := hm
      exact ⟨dependsOn "skip", List.mem_singleton_self _, .inl rfl, "w", List.mem_singleton_self _⟩
    | inside hm _ _ hin =>
      obtain ⟨-, rfl⟩ := List.cons.inj hk
      cases hin

lemma exists_fieldAt_price : ∃ f,
    FieldAt priceTypes.nested priceTypes.response ["item", "price"] f ∧
      f.type.isOption = false := by
  obtain ⟨hf, hk, -⟩ := declare_ok declare_price
  obtain ⟨root, -, hr⟩ := resolved_of_ofText ofText_price (List.mem_singleton_self _)
  have hm : .field none "price" priceField [] ∈ selectionsAt priceQuery.selections ["item"] :=
    List.mem_cons_self
  exact exists_fieldAt _ ⟨hf, hk, root, hr⟩ ["item"]
    (show ([], priceTypes.response) ∈ structEntries _ priceQuery from List.mem_cons_self) hm

/-- The schema has a price in each item, and a query that asks for prices if a variable says so
takes them for granted: without its price an item is not read. -/
theorem price_not_optional :
    Document.read priceQuery.source = .ok ⟨[.operation priceDefinition]⟩ ∧
    Operation.ofText catalogSchema "a.graphql" priceQuery.source = .ok [priceQuery] ∧
    (ofSchema "shop" catalogSchema ⟨false⟩).declare priceQuery =
      (.ok priceTypes, (ofSchema "shop" catalogSchema ⟨false⟩).after priceQuery) ∧
    ConditionalAt catalogSchema catalogRoot priceDefinition.selections ["item", "price"] ∧
    ∃ f, FieldAt priceTypes.nested priceTypes.response ["item", "price"] f ∧
      f.type.isOption = false ∧
      ∀ model, priceTypes.nested ⊆ model →
        (∀ d ∈ model, ∀ e ∈ model, d.name = e.name → d = e) →
        ¬ BodyReads model priceTypes.response.body (.object [("item", .object [])]) := by
  obtain ⟨f, hf, ho⟩ := exists_fieldAt_price
  refine ⟨read_price, ofText_price, declare_price, conditionalAt_price, f, hf, ho, ?_⟩
  intro model hm hu hj
  have hsame := hf.without_eq hu hm ho
    (j := .object [("item", .object [("price", .integer 1)])]) hj
  simp [Json.without, membersWithout] at hsame

theorem option_iff_nullable_price :
    Document.read priceQuery.source = .ok ⟨[.operation priceDefinition]⟩ ∧
    Operation.ofText catalogSchema "a.graphql" priceQuery.source = .ok [priceQuery] ∧
    Operation.rootType? catalogSchema .query = some catalogRoot ∧
    SelectedAt catalogSchema catalogRoot priceDefinition.selections ["item", "price"]
      [dependsOn "skip"] priceField ∧
    (ofSchema "shop" catalogSchema ⟨false⟩).declare priceQuery =
      (.ok priceTypes, (ofSchema "shop" catalogSchema ⟨false⟩).after priceQuery) ∧
    ∃ f, FieldAt priceTypes.nested priceTypes.response ["item", "price"] f ∧
      (∀ f', FieldAt priceTypes.nested priceTypes.response ["item", "price"] f' → f' = f) ∧
      f.type.isOption = !priceField.type.isNonNull ∧
      ∀ model, priceTypes.nested ⊆ model →
        (∀ d ∈ model, ∀ e ∈ model, d.name = e.name → d = e) →
        ∀ j : Json, BodyReads model priceTypes.response.body j →
          (BodyReads model priceTypes.response.body (j.without ["item", "price"]) ↔
            priceField.type.isNonNull = false ∨ j.without ["item", "price"] = j) ∧
          ∀ j', j.OmitsAt ["item", "price"] j' →
            (BodyReads model priceTypes.response.body j' ↔ priceField.type.isNonNull = false) :=
  ⟨read_price, ofText_price, rfl, selectedAt_price, declare_price,
    option_iff_nullable catalogSchema "a.graphql" priceQuery.source _ read_price [priceQuery]
      ofText_price priceDefinition List.mem_cons_self priceQuery List.mem_cons_self rfl catalogRoot
      rfl _ _ _ selectedAt_price "shop" catalogSchema ⟨false⟩ [] _ _ declare_price⟩

end Price

end GraphqlBindings.Generator

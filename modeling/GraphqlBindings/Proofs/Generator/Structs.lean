import Mathlib
import GraphqlBindings.Proofs.Generator.Closed
import GraphqlBindings.Proofs.Generator.Position

/-! The structs of a response: each merges what is selected under its path by any of the fields
there, they stand in the order of the document, and each is named once, by an earlier one. -/

namespace GraphqlBindings

def Declaration.fields (d : Declaration) : List FieldDeclaration :=
  match d.body with
  | .fields fields => fields
  | _ => []

def Declaration.mentions (d : Declaration) : List String := d.types.map CodeType.base

namespace Generator

section Fields

def Declares (g : Generator) (structs : List String → Declaration → Prop) :
    FieldDeclaration → ResponseField → Prop
  | f, .mk key definition [] =>
    f.key = key ∧ f.type = definition.type.shape (g.namedType definition.type.baseName) false
  | f, .mk key definition (_ :: _) =>
    f.key = key ∧ ∃ d, structs [key] d ∧ f.type = definition.type.shape (.named d.name) false

lemma Declares.mono {g : Generator} {a b : List String → Declaration → Prop}
    (hs : ∀ path d, a path d → b path d) {f : FieldDeclaration} {node : ResponseField}
    (h : g.Declares a f node) : g.Declares b f node := by
  obtain ⟨key, definition, fields⟩ := node
  cases fields with
  | nil => exact h
  | cons first more =>
    obtain ⟨hk, d, hd, ht⟩ := h
    exact ⟨hk, d, hs _ _ hd, ht⟩

variable (g : Generator)

def treeStructs (owner : String) (idents scope : NameScope) (tree : List ResponseField) :
    List (List String × Declaration) :=
  (treePaths tree).zip (g.treeStruct owner idents scope tree).1.nested

lemma length_treePaths (owner : String) (idents scope : NameScope) (tree : List ResponseField) :
    (treePaths tree).length = (g.treeStruct owner idents scope tree).1.nested.length := by
  induction tree using tree_induction generalizing owner idents scope with
  | nil => simp [treePaths, treeStruct]
  | leaf key definition rest ih =>
    simpa [treePaths, treeStruct, ResponseStruct.cons] using ih _ _ _
  | node key definition first more rest ihInner ih =>
    simp only [treePaths, treeStruct, ResponseStruct.cons, List.cons_append, List.length_cons,
      List.length_append, List.length_map, ← ihInner, ← ih]

lemma mem_treeStructs_node (owner : String) (idents scope : NameScope) (key : String)
    (definition : SchemaField) (first : ResponseField) (more rest : List ResponseField)
    (path : List String) (d : Declaration) :
    let name := scope.free (owner ++ g.naming.typeIdent key)
    let inner := g.treeStruct name .empty (scope.insert name) (first :: more)
    let later := idents.insert (idents.free (g.naming.fieldIdent key))
    (path, d) ∈ g.treeStructs owner idents scope (.mk key definition (first :: more) :: rest) ↔
      (path = [key] ∧ d = ⟨name, none, .fields inner.1.fields⟩) ∨
      (∃ p, path = key :: p ∧
        (p, d) ∈ g.treeStructs name .empty (scope.insert name) (first :: more)) ∨
      (path, d) ∈ g.treeStructs owner later inner.2 rest := by
  intro name inner later
  have hl : ((treePaths (first :: more)).map (key :: ·)).length = inner.1.nested.length := by
    rw [List.length_map]
    exact g.length_treePaths ..
  have hz : g.treeStructs owner idents scope (.mk key definition (first :: more) :: rest) =
      ([key], ⟨name, none, .fields inner.1.fields⟩) ::
        (((treePaths (first :: more)).zip inner.1.nested).map (Prod.map (key :: ·) id) ++
          g.treeStructs owner later inner.2 rest) := by
    rw [treeStructs, treePaths, treeStruct]
    simp only [ResponseStruct.cons, List.cons_append, List.zip_cons_cons]
    rw [List.zip_append hl, List.zip_map_left]
    rfl
  rw [hz, List.mem_cons, List.mem_append, List.mem_map, Prod.mk.injEq]
  simp only [Prod.exists, Prod.map_apply, id_eq, Prod.mk.injEq, treeStructs]
  constructor
  · rintro (h | ⟨p, e, hm, rfl, rfl⟩ | h)
    · exact Or.inl h
    · exact Or.inr (Or.inl ⟨p, rfl, hm⟩)
    · exact Or.inr (Or.inr h)
  · rintro (h | ⟨p, rfl, hm⟩ | h)
    · exact Or.inl h
    · exact Or.inr (Or.inl ⟨p, d, hm, rfl, rfl⟩)
    · exact Or.inr (Or.inr h)

lemma declares_treeStruct (owner : String) (idents scope : NameScope)
    (tree : List ResponseField) :
    List.Forall₂ (g.Declares fun path d => (path, d) ∈ g.treeStructs owner idents scope tree)
        (g.treeStruct owner idents scope tree).1.fields tree ∧
      ∀ path d, (path, d) ∈ g.treeStructs owner idents scope tree →
        ∃ node, NodeAt tree path node ∧ d.body = .fields d.fields ∧
          List.Forall₂ (g.Declares fun p e =>
            (path ++ p, e) ∈ g.treeStructs owner idents scope tree) d.fields node := by
  induction tree using tree_induction generalizing owner idents scope with
  | nil => simp [treeStruct, treeStructs, treePaths]
  | leaf key definition rest ih =>
    obtain ⟨hf, hd⟩ := ih owner (idents.insert (idents.free (g.naming.fieldIdent key))) scope
    have hs : g.treeStructs owner idents scope (.mk key definition [] :: rest) =
        g.treeStructs owner (idents.insert (idents.free (g.naming.fieldIdent key))) scope rest := by
      simp only [treeStructs, treePaths, treeStruct, ResponseStruct.cons, List.nil_append]
    rw [hs, treeStruct]
    refine ⟨.cons ⟨rfl, rfl⟩ hf, fun path d hm => ?_⟩
    obtain ⟨node, hn, hb, hfields⟩ := hd path d hm
    exact ⟨node, hn.mono (List.subset_cons_self _ _), hb, hfields⟩
  | node key definition first more rest ihInner ih =>
    have hmem := g.mem_treeStructs_node owner idents scope key definition first more rest
    dsimp only at hmem
    rw [treeStruct]
    dsimp only [ResponseStruct.cons]
    generalize scope.free (owner ++ g.naming.typeIdent key) = name at *
    obtain ⟨hif, hid⟩ := ihInner name .empty (scope.insert name)
    generalize g.treeStruct name .empty (scope.insert name) (first :: more) = inner at *
    obtain ⟨hof, hod⟩ := ih owner (idents.insert (idents.free (g.naming.fieldIdent key))) inner.2
    refine ⟨.cons ⟨rfl, _, (hmem _ _).mpr (Or.inl ⟨rfl, rfl⟩), rfl⟩ ?_, fun path d hm => ?_⟩
    · exact hof.imp fun _ _ => Declares.mono fun p e hp => (hmem p e).mpr (Or.inr (Or.inr hp))
    · rcases (hmem path d).mp hm with ⟨rfl, rfl⟩ | ⟨p, rfl, hp⟩ | hp
      · refine ⟨_, .here List.mem_cons_self, rfl, ?_⟩
        exact hif.imp fun _ _ => Declares.mono fun p e hp =>
          (hmem _ e).mpr (Or.inr (Or.inl ⟨p, rfl, hp⟩))
      · obtain ⟨node, hn, hb, hfields⟩ := hid p d hp
        refine ⟨node, .inside List.mem_cons_self hn, hb, ?_⟩
        exact hfields.imp fun _ _ => Declares.mono fun q e hq =>
          (hmem _ e).mpr (Or.inr (Or.inl ⟨p ++ q, rfl, hq⟩))
      · obtain ⟨node, hn, hb, hfields⟩ := hod path d hp
        refine ⟨node, hn.mono (List.subset_cons_self _ _), hb, ?_⟩
        exact hfields.imp fun _ _ => Declares.mono fun q e hq =>
          (hmem _ e).mpr (Or.inr (Or.inr hq))

end Fields

section Merge

/-- The struct for a path, among the structs of a response: a field for each key that is selected
there, in the order of first occurrence, of the shape that the one selected field has. -/
structure MergesAt (g : Generator) (selections : List Selection)
    (structs : List (List String × Declaration)) (path : List String) (d : Declaration) :
    Prop where
  body : d.body = .fields d.fields
  keys : d.fields.map FieldDeclaration.key = responseKeys (selectionsAt selections path)
  types : ∀ f ∈ d.fields, ∃ definition,
    (∀ label name definition' inner,
      .field label name definition' inner ∈ selectionsAt selections path →
      responseKey label name = f.key → definition' = definition) ∧
    ((selectionsAt selections (path ++ [f.key]) = [] ∧
        f.type = definition.type.shape (g.namedType definition.type.baseName) false) ∨
      ∃ e, (path ++ [f.key], e) ∈ structs ∧
        f.type = definition.type.shape (.named e.name) false)

lemma mergesAt_of_declares {g : Generator} {s : Schema} {selections : List Selection}
    {structs : List (List String × Declaration)} {path : List String} {d : Declaration}
    (h : Mergeable s (selectionsAt selections path)) (hb : d.body = .fields d.fields)
    (hd : List.Forall₂ (g.Declares fun p e => (path ++ p, e) ∈ structs) d.fields
      (responseTree (selectionsAt selections path))) :
    g.MergesAt selections structs path d := by
  obtain ⟨groups, hg⟩ := h.groups
  have hm := merges_of_groupFields hg
  obtain ⟨parent, hr⟩ := h.resolved
  rw [responseTree_eq_map hg, List.forall₂_map_right_iff] at hd
  have hkey : ∀ {f : FieldDeclaration} {k : KeyGroup}, g.Declares
      (fun p e => (path ++ p, e) ∈ structs) f
      (.mk k.key k.definition (responseTree k.selections)) → f.key = k.key := by
    intro f k hf
    cases ht : responseTree k.selections <;> (rw [ht] at hf; exact hf.1)
  refine ⟨hb, ?_, fun f hf => ?_⟩
  · rw [← hm.keys, ← List.forall₂_eq_eq_eq, List.forall₂_map_left_iff, List.forall₂_map_right_iff]
    exact hd.imp fun _ _ => hkey
  · obtain ⟨k, hk, hf⟩ : ∃ k ∈ groups, g.Declares (fun p e => (path ++ p, e) ∈ structs) f
        (.mk k.key k.definition (responseTree k.selections)) := by
      obtain ⟨i, hi, rfl⟩ := List.mem_iff_getElem.mp hf
      have hl := hd.length_eq
      exact ⟨groups[i], List.getElem_mem _, hd.get hi (hl ▸ hi)⟩
    have hfk := hkey hf
    refine ⟨k.definition, fun label name definition' inner ho he => ?_, ?_⟩
    · exact hr.definition_eq hm hk ho (he.trans hfk)
    · have hin : selectionsAt selections (path ++ [f.key]) = k.selections := by
        rw [selectionsAt_append, hm.inner k hk, hfk]
        rfl
      rw [hin, hfk]
      cases ht : responseTree k.selections with
      | nil =>
        rw [ht] at hf
        exact Or.inl ⟨(h.group hm hk).responseTree_eq_nil.mp ht, hf.2⟩
      | cons first more =>
        rw [ht] at hf
        obtain ⟨_, e, he, hft⟩ := hf
        exact Or.inr ⟨e, he, hft⟩

end Merge

section Names

def Forward (known : String → Prop) : List Declaration → Prop
  | [] => True
  | d :: later => (∀ name ∈ d.mentions, known name ∨ name ∈ later.map Declaration.name) ∧
      Forward known later

section Forward

variable {known : String → Prop} {a b : List Declaration}

lemma forward_cons {d : Declaration} : Forward known (d :: a) ↔
    (∀ name ∈ d.mentions, known name ∨ name ∈ a.map Declaration.name) ∧ Forward known a := Iff.rfl

lemma Forward.append (ha : Forward known a) (hb : Forward known b) : Forward known (a ++ b) := by
  induction a with
  | nil => exact hb
  | cons d later ih =>
    rw [List.cons_append, forward_cons]
    refine ⟨fun name hn => ?_, ih ha.2⟩
    rw [List.map_append, List.mem_append, ← or_assoc]
    exact Or.inl (ha.1 name hn)

lemma Forward.suffix (h : Forward known (a ++ b)) : Forward known b := by
  induction a with
  | nil => exact h
  | cons d later ih => exact ih h.2

lemma Forward.mem_tail (h : Forward known a) {name : String}
    (hn : name ∈ a.flatMap Declaration.mentions) :
    known name ∨ name ∈ a.tail.map Declaration.name := by
  induction a with
  | nil => simp at hn
  | cons d later ih =>
    rw [List.flatMap_cons, List.mem_append] at hn
    rcases hn with hn | hn
    · exact h.1 name hn
    · exact (ih h.2 hn).imp_right fun hm => ((List.tail_sublist later).map _).subset hm

end Forward

def IsLeafName (g : Generator) (name : String) : Prop := ∃ type, name = (g.namedType type).base

def MentionsOnce (g : Generator) (mentions : List String) (structs : List Declaration) : Prop :=
  ∃ leaves : List String, (∀ name ∈ leaves, g.IsLeafName name) ∧
    ∀ name, mentions.count name =
      (structs.map Declaration.name).count name + leaves.count name

lemma MentionsOnce.mem {g : Generator} {mentions : List String} {structs : List Declaration}
    (h : g.MentionsOnce mentions structs) {name : String} (hn : name ∈ mentions) :
    g.IsLeafName name ∨ name ∈ structs.map Declaration.name := by
  obtain ⟨leaves, hl, hc⟩ := h
  have hp := List.count_pos_iff.mpr hn
  rw [hc] at hp
  by_cases hm : name ∈ structs.map Declaration.name
  · exact Or.inr hm
  · rw [List.count_eq_zero_of_not_mem hm, Nat.zero_add] at hp
    exact Or.inl (hl name (List.count_pos_iff.mp hp))

variable (g : Generator)

lemma mentions_treeStruct (owner : String) (idents scope : NameScope)
    (tree : List ResponseField) :
    let s := (g.treeStruct owner idents scope tree).1
    g.MentionsOnce (s.fields.map (fun f => f.type.base) ++ s.nested.flatMap Declaration.mentions)
      s.nested ∧ Forward g.IsLeafName s.nested := by
  dsimp only
  induction tree using tree_induction generalizing owner idents scope with
  | nil => exact ⟨⟨[], by simp, by simp [treeStruct]⟩, by simp [treeStruct, Forward]⟩
  | leaf key definition rest ih =>
    obtain ⟨⟨leaves, hl, hc⟩, hf⟩ :=
      ih owner (idents.insert (idents.free (g.naming.fieldIdent key))) scope
    rw [treeStruct]
    refine ⟨⟨(g.namedType definition.type.baseName).base :: leaves, ?_, fun name => ?_⟩, hf⟩
    · exact List.forall_mem_cons.mpr ⟨⟨_, rfl⟩, hl⟩
    · have hn := hc name
      simp only [ResponseStruct.cons, responseField, TypeRef.base_shape, List.nil_append,
        List.map_cons, List.cons_append, List.count_cons] at hn ⊢
      omega
  | node key definition first more rest ihInner ih =>
    rw [treeStruct]
    simp only [ResponseStruct.cons]
    generalize scope.free (owner ++ g.naming.typeIdent key) = name at *
    obtain ⟨hi, hf⟩ := ihInner name .empty (scope.insert name)
    generalize g.treeStruct name .empty (scope.insert name) (first :: more) = inner at *
    obtain ⟨⟨leaves', hl', hc'⟩, hf'⟩ :=
      ih owner (idents.insert (idents.free (g.naming.fieldIdent key))) inner.2
    generalize g.treeStruct owner (idents.insert (idents.free (g.naming.fieldIdent key))) inner.2
      rest = others at *
    have hm : (⟨name, none, .fields inner.1.fields⟩ : Declaration).mentions =
        inner.1.fields.map fun f => f.type.base := by
      simp [Declaration.mentions, Declaration.types, Function.comp_def]
    constructor
    · obtain ⟨leaves, hl, hc⟩ := hi
      refine ⟨leaves ++ leaves', List.forall_mem_append.mpr ⟨hl, hl'⟩, fun n => ?_⟩
      have hn := hc n
      have hn' := hc' n
      simp only [responseField, TypeRef.base_shape, CodeType.base, List.cons_append,
        List.map_cons, List.map_append, List.flatMap_cons, List.flatMap_append, hm,
        List.count_cons, List.count_append] at hn hn' ⊢
      omega
    · rw [List.cons_append, forward_cons]
      refine ⟨fun n hn => ?_, hf.append hf'⟩
      rw [hm] at hn
      rw [List.map_append, List.mem_append, ← or_assoc]
      exact Or.inl (hi.mem (List.mem_append_left _ hn))

lemma count_mentions_of_forward {first d : Declaration} {rest before later : List Declaration}
    (hs : first :: rest = before ++ d :: later) (hb : before ≠ [])
    (hf : Forward g.IsLeafName (first :: rest))
    (hm : g.MentionsOnce ((first :: rest).flatMap Declaration.mentions) rest)
    (hd : (rest.map Declaration.name).Nodup)
    (hl : ∀ e ∈ rest, ¬ g.IsLeafName e.name) :
    (before.flatMap Declaration.mentions).count d.name = 1 ∧
      d.name ∉ (d :: later).flatMap Declaration.mentions := by
  obtain ⟨_, before, rfl⟩ := List.exists_cons_of_ne_nil hb
  rw [List.cons_append, List.cons.injEq] at hs
  obtain ⟨rfl, rfl⟩ := hs
  have hmem : d ∈ before ++ d :: later := by simp
  have hlast : d.name ∉ (d :: later).flatMap Declaration.mentions := by
    intro hn
    rcases (Forward.suffix (a := first :: before) hf).mem_tail hn with hn | hn
    · exact hl d hmem hn
    · rw [List.map_append, List.map_cons] at hd
      exact (List.nodup_cons.mp hd.of_append_right).1 hn
  refine ⟨?_, hlast⟩
  obtain ⟨leaves, hleaves, hc⟩ := hm
  have hn := hc d.name
  rw [List.count_eq_one_of_mem hd (List.mem_map_of_mem hmem),
    List.count_eq_zero_of_not_mem fun hn => hl d hmem (hleaves _ hn), ← List.cons_append,
    List.flatMap_append, List.count_append, List.count_eq_zero_of_not_mem hlast] at hn
  exact hn

end Names

section Response

variable {package : String} {schema : Schema} {naming : Naming} {g g' : Generator}
  {earlier : List OperationTypes} {op : Operation} {types : OperationTypes}

lemma Accounts.nodup_typeNames (h : Accounts package schema naming g earlier) (hf : g.Free op) :
    (g.schemaNames ++ (g.typesOf op).typeNames).Nodup := by
  have hnodup := nodup_taken_after hf h.nodup_types
  rw [taken_after, h.types_eq, ← List.reverse_append, List.nodup_reverse, List.cons_append,
    List.cons_append, List.nodup_cons] at hnodup
  refine List.Nodup.sublist ?_ hnodup.2
  exact (List.sublist_append_left _ _).append_right _

lemma Accounts.nested_not_known (h : Accounts package schema naming g earlier) (hf : g.Free op)
    {d : Declaration} (hd : d ∈ (g.typesOf op).nested) :
    d.name ∉ foreignTypes ∧ d.name ∉ g.schemaNames := by
  have hm : d.name ∈ (g.typesOf op).typeNames := by
    rw [OperationTypes.typeNames]
    simp only [List.mem_cons]
    exact Or.inr (Or.inr (Or.inr (List.mem_map_of_mem hd)))
  refine ⟨(g.own_typeNames op _ hm).not_foreign, fun hs => ?_⟩
  exact List.disjoint_of_nodup_append (h.nodup_typeNames hf) hs hm

lemma Accounts.nested_not_leaf (h : Accounts package schema naming g earlier) (hf : g.Free op)
    {d : Declaration} (hd : d ∈ (g.typesOf op).nested) : ¬ g.IsLeafName d.name := by
  obtain ⟨hforeign, hschema⟩ := h.nested_not_known hf hd
  rintro ⟨type, hn⟩
  rcases g.namedType_cases type with ⟨n, hm, he⟩ | ⟨ident, hident, he⟩ <;>
    rw [he, CodeType.base] at hn
  · exact hforeign (hn ▸ hm)
  · exact hschema (hn ▸ (h.of_typeName? hident).1)

lemma Accounts.nodup_nested (h : Accounts package schema naming g earlier) (hf : g.Free op) :
    ((g.typesOf op).nested.map Declaration.name).Nodup := by
  have ht := (h.nodup_typeNames hf).of_append_right
  simp only [OperationTypes.typeNames, List.nodup_cons] at ht
  exact ht.2.2.2

def structEntries (g : Generator) (op : Operation) : List (List String × Declaration) :=
  ([], (g.typesOf op).response) :: (treePaths (responseTree op.selections)).zip (g.typesOf op).nested

lemma mergesAt_structEntries (g : Generator) {s : Schema} (h : Mergeable s op.selections) :
    ∀ entry ∈ g.structEntries op, g.MergesAt op.selections
      ((treePaths (responseTree op.selections)).zip (g.typesOf op).nested) entry.1 entry.2 := by
  obtain ⟨hfields, hstructs⟩ := g.declares_treeStruct (g.responseName op) .empty
    (g.claim op).types (responseTree op.selections)
  refine List.forall_mem_cons.mpr ⟨mergesAt_of_declares h rfl hfields, fun ⟨path, d⟩ hmem => ?_⟩
  obtain ⟨node, hn, hb, hnode⟩ := hstructs path d hmem
  obtain ⟨hat, rfl⟩ := h.nodeAt hn
  exact mergesAt_of_declares hat hb hnode

/-- The structs of a response under their paths: one for each path with selections, in the order
of the document, and each named by one field in all, of the response or of an earlier struct. -/
structure MergesPaths (g : Generator) (selections : List Selection) (paths : List (List String))
    (response : Declaration) (nested : List Declaration) : Prop where
  mem_paths : ∀ path, path ∈ paths ↔ path ≠ [] ∧ selectionsAt selections path ≠ []
  nodup_paths : paths.Nodup
  preorder : paths.Pairwise (Precedes selections)
  length_eq : paths.length = nested.length
  merges : ∀ entry ∈ ([], response) :: paths.zip nested,
    g.MergesAt selections (paths.zip nested) entry.1 entry.2
  mentioned_once : ∀ before d later, response :: nested = before ++ d :: later → before ≠ [] →
    (before.flatMap Declaration.mentions).count d.name = 1 ∧
      d.name ∉ (d :: later).flatMap Declaration.mentions

/-- A response merges its selections path by path, whatever keys are repeated or renamed, and
whatever operations have been declared or refused before. -/
theorem response_merges (s : Schema) (path source : String) (ops : List Operation)
    (hops : Operation.ofText s path source = .ok ops) (op : Operation) (hop : op ∈ ops)
    (package : String) (schema : Schema) (naming : Naming) (earlier : List Operation)
    (types : OperationTypes) (g' : Generator)
    (hd : ((ofSchema package schema naming).declareAll earlier).2.declare op = (.ok types, g')) :
    ∃ paths, MergesPaths ((ofSchema package schema naming).declareAll earlier).2 op.selections paths
      types.response types.nested := by
  have h := (accounts_ofSchema package schema naming).declareAll earlier
  generalize ((ofSchema package schema naming).declareAll earlier).2 = g at h hd
  obtain ⟨hf, hk, hfree, rfl, rfl⟩ := declare_ok hd
  obtain ⟨root, _, hr⟩ := resolved_of_ofText hops hop
  have hm : Mergeable s op.selections := ⟨hf, hk, root, hr⟩
  have hpairs := hm.pairwise_treePaths
  refine ⟨treePaths (responseTree op.selections), fun path => hm.mem_treePaths, ?_, hpairs,
    g.length_treePaths .., g.mergesAt_structEntries hm, ?_⟩
  · refine hpairs.imp ?_
    rintro p _ hp rfl
    exact not_precedes_self _ p hp
  · intro before d later hs hb
    obtain ⟨hmention, hforward⟩ := g.mentions_treeStruct (g.responseName op) .empty
      (g.claim op).types (responseTree op.selections)
    have hresponse : (g.typesOf op).response.mentions =
        (g.responseOf op).1.fields.map fun f => f.type.base := by
      simp [typesOf, Declaration.mentions, Declaration.types, Function.comp_def]
    refine g.count_mentions_of_forward hs hb ?_ ?_ (h.nodup_nested hfree)
      fun e he => h.nested_not_leaf hfree he
    · rw [forward_cons, hresponse]
      exact ⟨fun name hn => hmention.mem (List.mem_append_left _ hn), hforward⟩
    · rw [List.flatMap_cons, hresponse]
      exact hmention

lemma ofText_friends :
    Operation.ofText friendsSchema "me.graphql" friendsQuery.source = .ok [friendsQuery] := by
  cbv

theorem response_merges_friends :
    Operation.ofText friendsSchema "me.graphql" friendsQuery.source = .ok [friendsQuery] ∧
    (ofSchema "shop" friendsSchema ⟨false⟩).declare friendsQuery =
      (.ok ((ofSchema "shop" friendsSchema ⟨false⟩).typesOf friendsQuery),
        (ofSchema "shop" friendsSchema ⟨false⟩).after friendsQuery) ∧
    ∃ paths, MergesPaths (ofSchema "shop" friendsSchema ⟨false⟩) friendsQuery.selections paths
      ((ofSchema "shop" friendsSchema ⟨false⟩).typesOf friendsQuery).response
      ((ofSchema "shop" friendsSchema ⟨false⟩).typesOf friendsQuery).nested :=
  ⟨ofText_friends, declare_friends,
    response_merges friendsSchema "me.graphql" friendsQuery.source [friendsQuery] ofText_friends
      friendsQuery (List.mem_singleton_self _) "shop" friendsSchema ⟨false⟩ [] _ _ declare_friends⟩

end Response

end Generator

end GraphqlBindings

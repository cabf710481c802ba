import GraphqlBindings.Proofs.Generator.Declared
import GraphqlBindings.Proofs.Naming.Identifier
import GraphqlBindings.Service.Run

namespace GraphqlBindings.Generator

open Naming

section Foreign

lemma eq_string_of_foreign {name : String} (h : BeginsLarge name) (hf : name ∈ foreignTypes) :
    name = "String" := by
  simp only [foreignTypes, List.mem_cons, List.not_mem_nil, or_false] at hf
  rcases hf with rfl | rfl | rfl | rfl | rfl
  · rfl
  all_goals exact absurd h (by decide)

def Own (name : String) : Prop := BeginsLarge name ∧ "String".length < name.length

lemma Own.not_foreign {name : String} (h : Own name) : name ∉ foreignTypes := by
  intro hf
  rw [Own, eq_string_of_foreign h.1 hf] at h
  exact absurd h.2 (Nat.lt_irrefl _)

lemma Own.append {name : String} (h : Own name) (suffix : String) : Own (name ++ suffix) := by
  refine ⟨h.1.append suffix, ?_⟩
  rw [String.length_append]
  exact Nat.lt_add_right _ h.2

lemma Own.free {name : String} (h : Own name) (s : NameScope) : Own (s.free name) := by
  obtain ⟨suffix, he⟩ := h.1.free_eq_append s
  exact he ▸ h.append suffix

variable (g : Generator)

lemma own_typeIdent_append (naming : Naming) (name : String) {suffix : String}
    (hs : 6 ≤ suffix.length) : Own (naming.typeIdent name ++ suffix) := by
  have hb := naming.beginsLarge_typeIdent name
  refine ⟨hb.append suffix, ?_⟩
  have hl : 0 < (naming.typeIdent name).length := by
    rw [← String.length_toList, List.length_pos_iff]
    intro he
    simp [BeginsLarge, he] at hb
  have : "String".length = 6 := by decide
  rw [String.length_append]
  omega

lemma own_nested (tree : List ResponseField) (owner : String) (idents scope : NameScope)
    (h : Own owner) : ∀ d ∈ (g.treeStruct owner idents scope tree).1.nested, Own d.name := by
  induction tree using tree_induction generalizing owner idents scope with
  | nil => simp [treeStruct]
  | leaf key definition rest ih => simpa [treeStruct, ResponseStruct.cons] using ih _ _ _ h
  | node key definition first more rest ihInner ih =>
    have hn : Own (scope.free (owner ++ g.naming.typeIdent key)) := (h.append _).free scope
    simp only [treeStruct, ResponseStruct.cons, List.cons_append, List.forall_mem_cons,
      List.forall_mem_append]
    exact ⟨hn, ihInner _ _ _ hn, ih _ _ _ h⟩

lemma own_typeNames (op : Operation) : ∀ name ∈ (g.typesOf op).typeNames, Own name := by
  have hr : Own (g.responseName op) := own_typeIdent_append _ _ (by decide)
  simp only [OperationTypes.typeNames, List.forall_mem_cons, List.forall_mem_map]
  exact ⟨own_typeIdent_append _ _ (by decide), own_typeIdent_append _ _ (by decide), hr,
    g.own_nested _ _ _ _ hr⟩

lemma Accounts.not_foreign {package : String} {schema : Schema} {naming : Naming} {g : Generator}
    {earlier : List OperationTypes} (h : Accounts package schema naming g earlier) {name : String}
    (hn : name ∈ g.schemaNames) : name ∉ foreignTypes := by
  obtain ⟨entry, he, rfl⟩ := List.mem_map.mp (List.mem_reverse.mp hn)
  obtain ⟨s, hs⟩ := h.idents_free entry he
  have hb : BeginsLarge entry.2 := hs ▸ (naming.beginsLarge_typeIdent _).free s
  intro hf
  have := eq_string_of_foreign hb hf
  exact naming.free_typeIdent_ne_string s entry.1 (hs ▸ this)

end Foreign

section Types

def Within (g : Generator) (structs : List String) (type : CodeType) : Prop :=
  ∃ r : TypeRef, (∃ name, type = r.shape (g.namedType name) false) ∨
    ∃ name ∈ structs, type = r.shape (.named name) false

lemma Within.mono {g : Generator} {a b : List String} {type : CodeType} (h : Within g a type)
    (hs : a ⊆ b) : Within g b type := by
  obtain ⟨r, h | ⟨name, hn, h⟩⟩ := h
  · exact ⟨r, Or.inl h⟩
  · exact ⟨r, Or.inr ⟨name, hs hn, h⟩⟩

variable (g : Generator)

lemma within_treeStruct (tree : List ResponseField) (owner : String) (idents scope : NameScope) :
    let s := (g.treeStruct owner idents scope tree).1
    (∀ f ∈ s.fields, Within g (s.nested.map Declaration.name) f.type) ∧
      ∀ d ∈ s.nested, ∀ type ∈ d.types, Within g (s.nested.map Declaration.name) type := by
  dsimp only
  induction tree using tree_induction generalizing owner idents scope with
  | nil => simp [treeStruct]
  | leaf key definition rest ih =>
    have ih := ih owner (idents.insert (idents.free (g.naming.fieldIdent key))) scope
    simp only [treeStruct, ResponseStruct.cons, List.nil_append, List.forall_mem_cons]
    exact ⟨⟨⟨definition.type, Or.inl ⟨_, rfl⟩⟩, ih.1⟩, ih.2⟩
  | node key definition first more rest ihInner ih =>
    simp only [treeStruct, ResponseStruct.cons]
    generalize scope.free (owner ++ g.naming.typeIdent key) = name at *
    have hi := ihInner name .empty (scope.insert name)
    generalize g.treeStruct name .empty (scope.insert name) (first :: more) = inner at *
    have ho := ih owner (idents.insert (idents.free (g.naming.fieldIdent key))) inner.2
    generalize g.treeStruct owner (idents.insert (idents.free (g.naming.fieldIdent key))) inner.2
      rest = others at *
    simp only [List.cons_append, List.map_cons, List.map_append, List.forall_mem_cons,
      List.forall_mem_append]
    -- Further out there are more structs, so what is known of each part is weakened to all.
    have hl : inner.1.nested.map Declaration.name ⊆ name ::
        (inner.1.nested.map Declaration.name ++ others.1.nested.map Declaration.name) := by simp
    have hr : others.1.nested.map Declaration.name ⊆ name ::
        (inner.1.nested.map Declaration.name ++ others.1.nested.map Declaration.name) := by simp
    refine ⟨⟨⟨definition.type, Or.inr ⟨name, List.mem_cons_self, rfl⟩⟩, ?_⟩, ?_, ?_, ?_⟩
    · exact fun f hf => (ho.1 f hf).mono hr
    · simp only [Declaration.types, List.forall_mem_map]
      exact fun f hf => (hi.1 f hf).mono hl
    · exact fun d hd type ht => (hi.2 d hd type ht).mono hl
    · exact fun d hd type ht => (ho.2 d hd type ht).mono hr

lemma within_declarations (op : Operation) : ∀ d ∈ (g.typesOf op).declarations,
    ∀ type ∈ d.types, Within g ((g.typesOf op).nested.map Declaration.name) type := by
  have h := g.within_treeStruct (responseTree op.selections) (g.responseName op) .empty
    (g.claim op).types
  simp only [OperationTypes.declarations, List.forall_mem_cons]
  refine ⟨?_, ?_, h.2⟩
  · simp only [typesOf, request, Declaration.types, List.forall_mem_map]
    intro f hf
    obtain ⟨r, hr⟩ := g.variableFields_type _ _ hf
    exact ⟨r, Or.inl ⟨_, hr⟩⟩
  · simp only [typesOf, Declaration.types, List.forall_mem_map]
    exact h.1

end Types

section Run

variable {package : String} {schema : Schema} {naming : Naming}

lemma Accounts.operationTypes {g : Generator} {earlier : List OperationTypes}
    (h : Accounts package schema naming g earlier) {ops : List Operation}
    {types : List (Operation × OperationTypes)} (ht : Service.operationTypes g ops = .ok types) :
    ∃ g', Accounts package schema naming g' (earlier ++ types.map Prod.snd) ∧
      g'.idents = g.idents ∧
      ∀ entry ∈ types, ∃ g'' : Generator, g''.idents = g.idents ∧
        entry.2 = g''.typesOf entry.1 := by
  induction ops generalizing g earlier types with
  | nil =>
    obtain rfl := Except.ok.inj ht
    exact ⟨g, by simpa using h, rfl, by simp⟩
  | cons op rest ih =>
    obtain ⟨⟨first, next⟩, hf, ht⟩ := bind_eq_ok.mp ht
    obtain ⟨others, ho, ht⟩ := bind_eq_ok.mp ht
    obtain rfl := Except.ok.inj ht
    have hd : g.declare op = (.ok first, next) := by
      unfold Generator.operationTypes at hf
      split at hf
      · simp at hf
      · next hd =>
        obtain ⟨rfl, rfl⟩ := Prod.mk.inj (Except.ok.inj hf)
        exact hd
    obtain ⟨_, _, _, rfl, rfl⟩ := declare_ok hd
    obtain ⟨g', ha, hi, hm⟩ := ih (h.declare hd) ho
    refine ⟨g', by simpa using ha, hi, ?_⟩
    rw [List.forall_mem_cons]
    exact ⟨⟨g, rfl, rfl⟩, hm⟩

lemma Within.congr {g g' : Generator} (h : g'.idents = g.idents) {structs : List String}
    {type : CodeType} (hw : Within g' structs type) : Within g structs type := by
  simpa only [Within, namedType_congr h] using hw

end Run

structure Inside (g : Generator) (decls model : List Declaration) : Prop where
  schemaTypes_ok : g.schemaTypes = .ok decls
  subset : decls ⊆ model
  unique : ∀ d ∈ model, ∀ e ∈ model, d.name = e.name → d = e
  not_foreign : ∀ e ∈ model, e.name ∉ foreignTypes

end GraphqlBindings.Generator

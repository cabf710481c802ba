import GraphqlBindings.Proofs.Generator.Tree

/-! One operation declared by a generator. It fails exactly if its selections cannot be declared or
one of its names is taken, and a failure takes no name. -/

namespace GraphqlBindings.Generator

def responseOf (g : Generator) (op : Operation) : ResponseStruct × NameScope :=
  g.treeStruct (g.responseName op) .empty (g.claim op).types (responseTree op.selections)

def typesOf (g : Generator) (op : Operation) : OperationTypes where
  name := op.name
  kind := op.kind
  operation := g.operationName op
  method := g.methodName op
  request := g.request (g.requestName op) op
  response := ⟨g.responseName op, none, .fields (g.responseOf op).1.fields⟩
  nested := (g.responseOf op).1.nested

def after (g : Generator) (op : Operation) : Generator :=
  { g.claim op with types := (g.responseOf op).2 }

def Free (g : Generator) (op : Operation) : Prop :=
  (∀ name ∈ g.operationNames op, name ∉ g.types.taken) ∧ g.methodName op ∉ g.methods.taken

section Congr

variable {g g' : Generator}

lemma namedType_congr (hi : g'.idents = g.idents) (name : String) :
    g'.namedType name = g.namedType name := by
  simp only [namedType, typeName?, hi]

lemma treeStruct_congr (hn : g'.naming = g.naming) (hi : g'.idents = g.idents)
    (tree : List ResponseField) (owner : String) (idents scope : NameScope) :
    g'.treeStruct owner idents scope tree = g.treeStruct owner idents scope tree := by
  induction tree using tree_induction generalizing owner idents scope with
  | nil => rw [treeStruct, treeStruct]
  | leaf key definition rest ih =>
    simp only [treeStruct, responseField, hn, namedType_congr hi, ih]
  | node key definition first more rest ihInner ih =>
    simp only [treeStruct, responseField, hn, ihInner, ih]

lemma variableFields_congr (hn : g'.naming = g.naming) (hi : g'.idents = g.idents)
    (scope : NameScope) (vars : List Variable) :
    g'.variableFields scope vars = g.variableFields scope vars := by
  induction vars generalizing scope with
  | nil => rfl
  | cons v rest ih => simp only [variableFields, hn, namedType_congr hi, ih]

end Congr

variable (g : Generator) (op : Operation)

lemma takenName?_eq_none : g.takenName? op = none ↔ g.Free op := by
  simp [takenName?, Free]

lemma declare_of_checked {g : Generator} {op : Operation} (hu : unsupported? op.selections = none)
    (ht : g.takenName? op = none) : g.declare op = (.ok (g.typesOf op), g.after op) := by
  obtain ⟨hf, hk⟩ := unsupported?_eq_none.mp hu
  simp only [declare, hu, ht, g.responseStruct_eq_treeStruct hf hk]
  rfl

lemma declare_cases :
    (¬ HasFragment op.selections ∧ ¬ KeyConflict op.selections ∧ g.Free op ∧
      g.declare op = (.ok (g.typesOf op), g.after op)) ∨
    ((HasFragment op.selections ∨ KeyConflict op.selections ∨ ¬ g.Free op) ∧
      ∃ fault, g.declare op = (.error fault, g)) := by
  cases hu : unsupported? op.selections with
  | some construct =>
    right
    refine ⟨?_, .unsupported op.name construct, by rw [declare, hu]⟩
    by_contra h
    push Not at h
    have := unsupported?_eq_none.mpr ⟨h.1, h.2.1⟩
    simp [hu] at this
  | none =>
    obtain ⟨hf, hk⟩ := unsupported?_eq_none.mp hu
    cases ht : g.takenName? op with
    | some name =>
      right
      refine ⟨Or.inr (Or.inr fun h => ?_), .nameTaken name, by rw [declare, hu, ht]⟩
      rw [← takenName?_eq_none, ht] at h
      simp at h
    | none => exact Or.inl ⟨hf, hk, (g.takenName?_eq_none op).mp ht, declare_of_checked hu ht⟩

lemma declare_ok {g g' : Generator} {op : Operation} {types : OperationTypes}
    (h : g.declare op = (.ok types, g')) :
    ¬ HasFragment op.selections ∧ ¬ KeyConflict op.selections ∧ g.Free op ∧
      types = g.typesOf op ∧ g' = g.after op := by
  rcases g.declare_cases op with ⟨hf, hk, hn, he⟩ | ⟨_, fault, he⟩
  · rw [he, Prod.mk.injEq, Except.ok.injEq] at h
    exact ⟨hf, hk, hn, h.1.symm, h.2.symm⟩
  · simp [he] at h

/-- A call fails exactly if a fragment occurs at some depth, a response key stands for two fields
at some path, or one of the operation's names is taken; and then nothing has changed. -/
theorem declare_error_iff (g : Generator) (op : Operation) :
    ((∃ fault, (g.declare op).1 = .error fault) ↔
      HasFragment op.selections ∨ KeyConflict op.selections ∨
      (g.operationName op ∈ g.types.taken ∨ g.requestName op ∈ g.types.taken ∨
        g.responseName op ∈ g.types.taken) ∨ g.methodName op ∈ g.methods.taken) ∧
    ∀ fault, (g.declare op).1 = .error fault → (g.declare op).2 = g := by
  have hn : ¬ g.Free op ↔ (g.operationName op ∈ g.types.taken ∨ g.requestName op ∈ g.types.taken ∨
      g.responseName op ∈ g.types.taken) ∨ g.methodName op ∈ g.methods.taken := by
    simp [Free, operationNames, imp_iff_not_or]
  rw [← hn]
  rcases g.declare_cases op with ⟨hf, hk, hfree, he⟩ | ⟨hc, fault, he⟩
  · simp [he, hf, hk, hfree]
  · exact ⟨by simpa [he] using hc, by simp [he]⟩

end GraphqlBindings.Generator

import GraphqlBindings.Operation.Resolve
import GraphqlBindings.Proofs.Keyed

namespace GraphqlBindings

inductive IsInputLeaf (s : Schema) : String → Json → Prop
  | text {name : String} (value : String) : name = "String" ∨ name = "ID" →
      IsInputLeaf s name (.string value)
  | int (n : Int64) : IsInputLeaf s "Int" (.integer n.toInt)
  | float (x : Decimal.Binary64) : x.isInfinite = false →
      IsInputLeaf s "Float" (.number (.double x))
  | boolean (b : Bool) : IsInputLeaf s "Boolean" (.bool b)
  | scalar {name : String} {t : SchemaType} (value : String) : isBuiltinScalar name = false →
      s.get? name = some t → t.kind = .scalar → IsInputLeaf s name (.string value)
  | enumeration {name : String} {t : SchemaType} {v : EnumValue} : s.get? name = some t →
      t.kind = .enumeration → v ∈ t.enumValues → IsInputLeaf s name (.string v.name)

abbrev Parameter := String × TypeRef

def InputValue.parameter (f : InputValue) : Parameter := (f.name, f.type)

def Variable.parameter (v : Variable) : Parameter := (v.name, v.type)

mutual

inductive IsInputValue (s : Schema) : TypeRef → Json → Prop
  | null {r : TypeRef} : r.isNonNull = false → IsInputValue s r .null
  | nonNull {r : TypeRef} {j : Json} : j ≠ .null → IsInputValue s r j →
      IsInputValue s (.nonNull r) j
  | list {r : TypeRef} {items : List Json} : (∀ j ∈ items, IsInputValue s r j) →
      IsInputValue s (.list r) (.array items)
  | leaf {name : String} {j : Json} : IsInputLeaf s name j → IsInputValue s (.named name) j
  | object {name : String} {t : SchemaType} {j : Json} : s.get? name = some t →
      t.kind = .inputObject → IsInputObject s (t.inputFields.map InputValue.parameter) j →
      IsInputValue s (.named name) j

inductive IsInputObject (s : Schema) : List Parameter → Json → Prop
  | object {params : List Parameter} {members : List (String × Json)} : Keyed.Sorted members →
      (∀ m ∈ members, m.1 ∈ params.map Prod.fst) → (∀ m ∈ members, m.2 ≠ .null) →
      (∀ p ∈ params, p.2.isNonNull = true → p.1 ∈ members.map Prod.fst) →
      (∀ p ∈ params, ∀ j, (p.1, j) ∈ members → IsInputValue s p.2 j) →
      IsInputObject s params (.object members)

end

def IsVariables (s : Schema) (vars : List Variable) (j : Json) : Prop :=
  IsInputObject s (vars.map Variable.parameter) j

inductive Reaches (s : Schema) (vars : List Variable) : String → Prop
  | variable {v : Variable} : v ∈ vars → Reaches s vars v.type.baseName
  | field {name : String} {t : SchemaType} {f : InputValue} : Reaches s vars name →
      s.get? name = some t → t.kind = .inputObject → f ∈ t.inputFields →
      Reaches s vars f.type.baseName

def IsNamedInput (s : Schema) (name : String) (j : Json) : Prop :=
  IsInputLeaf s name j ∨ ∃ t, s.get? name = some t ∧ t.kind = .inputObject ∧
    IsInputObject s (t.inputFields.map InputValue.parameter) j

section Inversion

variable {s : Schema} {r : TypeRef} {name : String} {j : Json}

lemma IsNamedInput.ne_null (h : IsNamedInput s name j) : j ≠ .null := by
  rcases h with h | ⟨t, -, -, h⟩ <;> cases h <;> simp [Json.integer]

lemma isInputValue_named_iff :
    IsInputValue s (.named name) j ↔ j = .null ∨ IsNamedInput s name j := by
  constructor
  · intro h
    cases h with
    | null => exact Or.inl rfl
    | leaf h => exact Or.inr (Or.inl h)
    | object ht hk h => exact Or.inr (Or.inr ⟨_, ht, hk, h⟩)
  · rintro (rfl | h | ⟨t, ht, hk, h⟩)
    · exact .null rfl
    · exact .leaf h
    · exact .object ht hk h

lemma isInputValue_list_iff : IsInputValue s (.list r) j ↔
    j = .null ∨ ∃ items, j = .array items ∧ ∀ item ∈ items, IsInputValue s r item := by
  constructor
  · intro h
    cases h with
    | null => exact Or.inl rfl
    | list h => exact Or.inr ⟨_, rfl, h⟩
  · rintro (rfl | ⟨items, rfl, h⟩)
    · exact .null rfl
    · exact .list h

lemma isInputValue_nonNull_iff :
    IsInputValue s (.nonNull r) j ↔ j ≠ .null ∧ IsInputValue s r j := by
  constructor
  · intro h
    cases h with
    | null h => simp [TypeRef.isNonNull] at h
    | nonNull hj h => exact ⟨hj, h⟩
  · rintro ⟨hj, h⟩
    exact .nonNull hj h

end Inversion

end GraphqlBindings

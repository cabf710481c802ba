import GraphqlBindings.Operation.Resolve
import GraphqlBindings.Proofs.Operation.Paths
import GraphqlBindings.Proofs.Schema.Lookup

/-! Results of operations, from the schema alone: an object has exactly the keys that are selected
at its path, and the value under a key is one of the selected field's type. -/

namespace GraphqlBindings

open Operation (compositeType? rootType?)

inductive IsLeafValue (s : Schema) : String → Json → Prop
  | text {name : String} (value : String) : name = "String" ∨ name = "ID" →
      IsLeafValue s name (.string value)
  | int (n : Int64) : IsLeafValue s "Int" (.integer n.toInt)
  | float (n : Json.Number) : IsLeafValue s "Float" (.number n)
  | boolean (b : Bool) : IsLeafValue s "Boolean" (.bool b)
  | scalar {name : String} {t : SchemaType} (value : String) : isBuiltinScalar name = false →
      s.get? name = some t → t.kind = .scalar → IsLeafValue s name (.string value)
  | enumeration {name : String} {t : SchemaType} {v : EnumValue} : s.get? name = some t →
      t.kind = .enumeration → v ∈ t.enumValues → IsLeafValue s name (.string v.name)

lemma IsLeafValue.not_composite {s : Schema} {name : String} {j : Json}
    (hs : ∀ t ∈ s.types, isBuiltinScalar t.name = true → t.kind = .scalar)
    (h : IsLeafValue s name j) : compositeType? s name = none := by
  have hb : isBuiltinScalar name = true → compositeType? s name = none := by
    intro hb
    rw [compositeType?, Option.filter_eq_none_iff]
    intro t ht
    obtain ⟨hm, rfl⟩ := Schema.get?_mem ht
    simp [hs t hm hb, TypeKind.isComposite]
  cases h with
  | text value hn => exact hb (by rcases hn with rfl | rfl <;> decide)
  | int n => exact hb (by decide)
  | float n => exact hb (by decide)
  | boolean b => exact hb (by decide)
  | scalar value _ ht hk => simp [compositeType?, ht, hk, TypeKind.isComposite]
  | enumeration ht hk _ => simp [compositeType?, ht, hk, TypeKind.isComposite]

mutual

/-- An object for these selections on a type. What is selected inside a key is selected by all of
its fields at once. -/
inductive IsResult (s : Schema) : SchemaType → List Selection → Json → Prop
  | object {parent : SchemaType} {selections : List Selection} {members : List (String × Json)} :
      (members.map Prod.fst).Perm (responseKeys selections) →
      (∀ label name definition inner, .field label name definition inner ∈ selections →
        ∀ field, parent.field? name = some field →
        ∀ j, (responseKey label name, j) ∈ members →
          IsValue s field.type (under (responseKey label name) selections) j) →
      IsResult s parent selections (.object members)

inductive IsValue (s : Schema) : TypeRef → List Selection → Json → Prop
  | null {r : TypeRef} {selections : List Selection} : r.isNonNull = false →
      IsValue s r selections .null
  | nonNull {r : TypeRef} {selections : List Selection} {j : Json} : j ≠ .null →
      IsValue s r selections j → IsValue s (.nonNull r) selections j
  | list {r : TypeRef} {selections : List Selection} {items : List Json} :
      (∀ j ∈ items, IsValue s r selections j) → IsValue s (.list r) selections (.array items)
  | leaf {name : String} {selections : List Selection} {j : Json} : IsLeafValue s name j →
      IsValue s (.named name) selections j
  | composite {name : String} {target : SchemaType} {selections : List Selection} {j : Json} :
      compositeType? s name = some target → IsResult s target selections j →
      IsValue s (.named name) selections j

end

def IsResponse (s : Schema) (op : Operation) (j : Json) : Prop :=
  ∃ root, rootType? s op.kind = some root ∧ IsResult s root op.selections j

end GraphqlBindings

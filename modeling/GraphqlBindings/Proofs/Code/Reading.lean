import Mathlib.Tactic.Lemma
import GraphqlBindings.Generator.Basic
import GraphqlBindings.Code.Declaration
import GraphqlBindings.Json.Basic

namespace GraphqlBindings

namespace CodeType

def base : CodeType → String
  | named name => name
  | option inner | vec inner | boxed inner => inner.base

def held? : CodeType → Option String
  | named name => some name
  | option inner => inner.held?
  | vec _ | boxed _ => none

end CodeType

def foreignTypes : List String := ["String", "i64", "f64", "bool", "serde_json::Value"]

def Declaration.types (d : Declaration) : List CodeType :=
  match d.body with
  | .alias type => [type]
  | .variants _ => []
  | .fields fields => fields.map FieldDeclaration.type

/-- Values of one declaration have values of another one in themselves. -/
def Declaration.Holds (model : List Declaration) (d e : Declaration) : Prop :=
  d ∈ model ∧ e ∈ model ∧ ∃ type ∈ d.types, type.held? = some e.name

namespace TypeRef

variable (inner : CodeType) (boxed : Bool)

lemma base_shape_and_required (r : TypeRef) :
    (r.shape inner boxed).base = inner.base ∧ (r.requiredShape inner boxed).base = inner.base := by
  induction r generalizing boxed with
  | named name => cases boxed <;> simp [shape, requiredShape, CodeType.base]
  | list r ih => simp [shape, requiredShape, CodeType.base, ih]
  | nonNull r ih => simp [shape, requiredShape, ih]

lemma base_shape (r : TypeRef) : (r.shape inner boxed).base = inner.base :=
  (r.base_shape_and_required inner boxed).1

lemma held?_shape_and_required (r : TypeRef) {name : String} :
    ((r.shape inner boxed).held? = some name → boxed = false ∧ inner.held? = some name) ∧
    ((r.requiredShape inner boxed).held? = some name →
      boxed = false ∧ inner.held? = some name) := by
  induction r with
  | named _ => cases boxed <;> simp [shape, requiredShape, CodeType.held?]
  | list r _ => simp [shape, requiredShape, CodeType.held?]
  | nonNull r ih => simpa [shape, requiredShape] using ih.2

lemma held?_shape (r : TypeRef) {name : String}
    (h : (r.shape inner boxed).held? = some name) : boxed = false ∧ inner.held? = some name :=
  (r.held?_shape_and_required inner boxed).1 h

end TypeRef

inductive ForeignReads : String → Json → Prop
  | text (s : String) : ForeignReads "String" (.string s)
  | integer (n : Int64) : ForeignReads "i64" (.integer n.toInt)
  | number (n : Json.Number) : ForeignReads "f64" (.number n)
  | bool (b : Bool) : ForeignReads "bool" (.bool b)
  | any (j : Json) : ForeignReads "serde_json::Value" j

mutual

inductive TypeReads (model : List Declaration) : CodeType → Json → Prop
  | declared {name : String} {d : Declaration} {j : Json} :
      model.find? (fun d => d.name == name) = some d → BodyReads model d.body j →
      TypeReads model (.named name) j
  | foreign {name : String} {j : Json} : name ∉ model.map Declaration.name →
      ForeignReads name j → TypeReads model (.named name) j
  | absent (type : CodeType) : TypeReads model (.option type) .null
  | present {type : CodeType} {j : Json} : TypeReads model type j →
      TypeReads model (.option type) j
  | vec {type : CodeType} {items : List Json} : (∀ j ∈ items, TypeReads model type j) →
      TypeReads model (.vec type) (.array items)
  | boxed {type : CodeType} {j : Json} : TypeReads model type j → TypeReads model (.boxed type) j

inductive BodyReads (model : List Declaration) : DeclarationBody → Json → Prop
  | alias {type : CodeType} {j : Json} : TypeReads model type j → BodyReads model (.alias type) j
  | variants {variants : List Variant} {v : Variant} : v ∈ variants →
      BodyReads model (.variants variants) (.string v.value)
  | fields {fields : List FieldDeclaration} {members : List (String × Json)} :
      (∀ f ∈ fields, (members.map Prod.fst).count f.key ≤ 1) →
      (∀ f ∈ fields, f.key ∉ members.map Prod.fst → f.type.isOption = true) →
      (∀ f ∈ fields, ∀ j, (f.key, j) ∈ members → TypeReads model f.type j) →
      BodyReads model (.fields fields) (.object members)

end

lemma TypeReads.of_mem {model : List Declaration} {d : Declaration} {j : Json}
    (hu : ∀ d ∈ model, ∀ e ∈ model, d.name = e.name → d = e) (hd : d ∈ model)
    (h : BodyReads model d.body j) : TypeReads model (.named d.name) j := by
  refine .declared ?_ h
  obtain ⟨e, he⟩ : ∃ e, model.find? (fun e => e.name == d.name) = some e := by
    rw [← Option.isSome_iff_exists, List.find?_isSome]
    exact ⟨d, hd, by simp⟩
  have hn : e.name = d.name := by simpa using List.find?_some he
  rw [he, hu e (List.mem_of_find?_eq_some he) d hd hn]

end GraphqlBindings

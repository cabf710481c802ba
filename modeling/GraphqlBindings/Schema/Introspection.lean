import GraphqlBindings.Schema.Basic
import GraphqlBindings.Json.Basic

/-!
Schemas from introspection results. The result is an object with a member `__schema`, or a reply
whose data is such an object. Lists and texts may be absent or null, flags may be absent.
-/

namespace GraphqlBindings.Introspection

open Json (Record)

/-- Why a result is no schema. A reference is faulty if a wrapper has nothing inside or a name is
missing; every other fault is one of shape. -/
inductive Fault where
  | noSchema
  | shape
  | noInner (kind : String)
  | noName (kind : String)
deriving DecidableEq, Repr, Inhabited

abbrev Decoded := Except Fault

def text : Json → Decoded String
  | .string s => .ok s
  | _ => .error .shape

def optionalText : Json → Decoded (Option String)
  | .null => .ok none
  | .string s => .ok (some s)
  | _ => .error .shape

def flag : Json → Decoded Bool
  | .bool b => .ok b
  | _ => .error .shape

def listOf {α : Type} (decode : Json → Decoded α) : Json → Decoded (List α)
  | .array items => items.mapM decode
  | _ => .error .shape

def optionalListOf {α : Type} (decode : Json → Decoded α) : Json → Decoded (List α)
  | .null => .ok []
  | j => listOf decode j

inductive WrittenRef where
  | mk (kind : String) (name : Option String) (inner : Option WrittenRef)
deriving Repr

structure PartialRef where
  kind : Option String
  name : Option String
  inner : Option WrittenRef

def PartialRef.empty : PartialRef := ⟨none, none, none⟩

def PartialRef.finish (p : PartialRef) : Decoded WrittenRef :=
  match p.kind with
  | some kind => .ok (.mk kind p.name p.inner)
  | none => .error .shape

mutual

def WrittenRef.ofJson : Json → Decoded WrittenRef
  | .object members => do
    let p ← WrittenRef.ofMembers .empty members
    p.finish
  | .array items => do
    let p ← WrittenRef.ofItems items
    p.finish
  | _ => .error .shape

def WrittenRef.ofOptional : Json → Decoded (Option WrittenRef)
  | .null => .ok none
  | .object members => do
    let p ← WrittenRef.ofMembers .empty members
    return some (← p.finish)
  | .array items => do
    let p ← WrittenRef.ofItems items
    return some (← p.finish)
  | _ => .error .shape

def WrittenRef.ofMembers (p : PartialRef) : List (String × Json) → Decoded PartialRef
  | [] => .ok p
  | (key, value) :: rest =>
    if key = "kind" then do
      let kind ← text value
      WrittenRef.ofMembers { p with kind := some kind } rest
    else if key = "name" then do
      let name ← optionalText value
      WrittenRef.ofMembers { p with name } rest
    else if key = "ofType" then do
      let inner ← WrittenRef.ofOptional value
      WrittenRef.ofMembers { p with inner } rest
    else WrittenRef.ofMembers p rest

def WrittenRef.ofItems : List Json → Decoded PartialRef
  | [] => .ok .empty
  | [kind] => do return ⟨some (← text kind), none, none⟩
  | [kind, name] => do return ⟨some (← text kind), ← optionalText name, none⟩
  | [kind, name, inner] => do
    return ⟨some (← text kind), ← optionalText name, ← WrittenRef.ofOptional inner⟩
  | _ :: _ :: _ :: _ :: _ => .error .shape

end

def WrittenRef.typeRef : WrittenRef → Decoded TypeRef
  | .mk kind name inner =>
    match TypeKind.ofText kind with
    | .list =>
      match inner with
      | some inner => do return .list (← inner.typeRef)
      | none => .error (.noInner kind)
    | .nonNull =>
      match inner with
      | some inner => do return .nonNull (← inner.typeRef)
      | none => .error (.noInner kind)
    | _ =>
      match name with
      | some name => .ok (.named name)
      | none => .error (.noName kind)

def typeRef (j : Json) : Decoded TypeRef := do
  let written ← WrittenRef.ofJson j
  written.typeRef

def record (fields : List String) (j : Json) : Decoded Record :=
  match Record.of? fields j with
  | some r => .ok r
  | none => .error .shape

def inputValue (j : Json) : Decoded InputValue := do
  let r ← record ["name", "description", "type", "defaultValue"] j
  let name := r.required .shape "name" text
  let description := r.defaulting none "description" optionalText
  let type := r.required .shape "type" typeRef
  let default := r.defaulting none "defaultValue" optionalText
  r.check .shape [("name", Record.fault? name), ("description", Record.fault? description),
    ("type", Record.fault? type), ("defaultValue", Record.fault? default)]
  return ⟨← name, ← description, ← type, ← default⟩

def field (j : Json) : Decoded SchemaField := do
  let r ← record ["name", "description", "args", "type", "isDeprecated", "deprecationReason"] j
  let name := r.required .shape "name" text
  let description := r.defaulting none "description" optionalText
  let args := r.defaulting [] "args" (optionalListOf inputValue)
  let type := r.required .shape "type" typeRef
  let isDeprecated := r.defaulting false "isDeprecated" flag
  let reason := r.defaulting none "deprecationReason" optionalText
  r.check .shape [("name", Record.fault? name), ("description", Record.fault? description),
    ("args", Record.fault? args), ("type", Record.fault? type),
    ("isDeprecated", Record.fault? isDeprecated), ("deprecationReason", Record.fault? reason)]
  return ⟨← name, ← description, ← args, ← type, ← isDeprecated, ← reason⟩

def enumValue (j : Json) : Decoded EnumValue := do
  let r ← record ["name", "description", "isDeprecated", "deprecationReason"] j
  let name := r.required .shape "name" text
  let description := r.defaulting none "description" optionalText
  let isDeprecated := r.defaulting false "isDeprecated" flag
  let reason := r.defaulting none "deprecationReason" optionalText
  r.check .shape [("name", Record.fault? name), ("description", Record.fault? description),
    ("isDeprecated", Record.fault? isDeprecated), ("deprecationReason", Record.fault? reason)]
  return ⟨← name, ← description, ← isDeprecated, ← reason⟩

def type (j : Json) : Decoded SchemaType := do
  let r ← record ["kind", "name", "description", "fields", "inputFields", "interfaces",
    "enumValues", "possibleTypes"] j
  let kind := r.required .shape "kind" text
  let name := r.required .shape "name" text
  let description := r.defaulting none "description" optionalText
  let fields := r.defaulting [] "fields" (optionalListOf field)
  let inputFields := r.defaulting [] "inputFields" (optionalListOf inputValue)
  let interfaces := r.defaulting [] "interfaces" (optionalListOf typeRef)
  let enumValues := r.defaulting [] "enumValues" (optionalListOf enumValue)
  let possibleTypes := r.defaulting [] "possibleTypes" (optionalListOf typeRef)
  r.check .shape [("kind", Record.fault? kind), ("name", Record.fault? name),
    ("description", Record.fault? description), ("fields", Record.fault? fields),
    ("inputFields", Record.fault? inputFields), ("interfaces", Record.fault? interfaces),
    ("enumValues", Record.fault? enumValues), ("possibleTypes", Record.fault? possibleTypes)]
  return ⟨.ofText (← kind), ← name, ← description, ← fields, ← inputFields, ← interfaces,
    ← enumValues, ← possibleTypes⟩

def directive (j : Json) : Decoded SchemaDirective := do
  let r ← record ["name", "description", "locations", "args"] j
  let name := r.required .shape "name" text
  let description := r.defaulting none "description" optionalText
  let locations := r.defaulting [] "locations" (optionalListOf text)
  let args := r.defaulting [] "args" (optionalListOf inputValue)
  r.check .shape [("name", Record.fault? name), ("description", Record.fault? description),
    ("locations", Record.fault? locations), ("args", Record.fault? args)]
  return ⟨← name, ← description, ← locations, ← args⟩

def root (j : Json) : Decoded String := do
  let r ← record ["name"] j
  let name := r.required .shape "name" text
  r.check .shape [("name", Record.fault? name)]
  name

def optionalRoot : Json → Decoded (Option String)
  | .null => .ok none
  | j => do return some (← root j)

def schema (j : Json) : Decoded Schema := do
  let r ← record ["queryType", "mutationType", "subscriptionType", "types", "directives"] j
  let query := r.defaulting none "queryType" optionalRoot
  let mutation := r.defaulting none "mutationType" optionalRoot
  let subscription := r.defaulting none "subscriptionType" optionalRoot
  let types := r.required .shape "types" (listOf type)
  let directives := r.defaulting [] "directives" (optionalListOf directive)
  r.check .shape [("queryType", Record.fault? query), ("mutationType", Record.fault? mutation),
    ("subscriptionType", Record.fault? subscription), ("types", Record.fault? types),
    ("directives", Record.fault? directives)]
  return .ofTypes (← query) (← mutation) (← subscription) (← types) (← directives)

def decode (result : Json) : Decoded Schema :=
  match ((result.member? "data").getD result).member? "__schema" with
  | some j => schema j
  | none => .error .noSchema

end GraphqlBindings.Introspection

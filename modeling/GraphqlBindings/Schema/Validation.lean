import GraphqlBindings.Schema.Basic

namespace GraphqlBindings

def SchemaType.references (t : SchemaType) : List TypeRef :=
  (t.fields.flatMap fun f => f.type :: f.args.map InputValue.type) ++
    t.inputFields.map InputValue.type ++ t.interfaces ++ t.possibleTypes

namespace Schema

inductive Fault where
  | duplicateType (name : String)
  | unknownKind (name kind : String)
  | unknownReference (owner name : String)
  | unknownRoot (name : String)
deriving DecidableEq, Repr, Inhabited

def Fault.message : Fault → String
  | .duplicateType name => s!"schema load error: duplicate type {name}"
  | .unknownKind name kind => s!"unknown type kind {kind} for type {name}"
  | .unknownReference owner name =>
    s!"schema load error: type {owner} references unknown type {name}"
  | .unknownRoot name => s!"schema load error: unknown root type {name}"

def firstRepeated? (seen : List String) : List String → Option String
  | [] => none
  | name :: rest => if seen.contains name then some name else firstRepeated? (name :: seen) rest

def resolves (s : Schema) (name : String) : Bool := isBuiltinScalar name || (s.get? name).isSome

def typeFault? (s : Schema) (t : SchemaType) : Option Fault :=
  if t.kind.isNamed then
    (t.references.find? fun r => !s.resolves r.baseName).map fun r =>
      .unknownReference t.name r.baseName
  else some (.unknownKind t.name t.kind.text)

def repetition? (s : Schema) : Option Fault :=
  if s.index.eraseDups.length = s.types.length then none
  else (firstRepeated? [] (s.types.map SchemaType.name)).map .duplicateType

def rootFault? (s : Schema) : Option Fault :=
  (s.rootNames.find? fun name => (s.get? name).isNone).map .unknownRoot

def fault? (s : Schema) : Option Fault :=
  (s.repetition?.or (s.types.findSome? s.typeFault?)).or s.rootFault?

def validate (s : Schema) : Except Fault Unit :=
  match s.fault? with
  | some fault => .error fault
  | none => .ok ()

end Schema

end GraphqlBindings

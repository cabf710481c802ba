import GraphqlBindings.Language.Document

/-!
Schemas: named types with their members, directives, and the names of the root types. Types are
found by name with the help of an index made when the schema was read; a schema edited since then
is searched as well.
-/

namespace GraphqlBindings

inductive TypeKind where
  | scalar
  | object
  | interface
  | union
  | enumeration
  | inputObject
  | list
  | nonNull
  | unknown (text : String)
deriving DecidableEq, Repr, Inhabited

namespace TypeKind

def ofText : String → TypeKind
  | "SCALAR" => scalar
  | "OBJECT" => object
  | "INTERFACE" => interface
  | "UNION" => union
  | "ENUM" => enumeration
  | "INPUT_OBJECT" => inputObject
  | "LIST" => list
  | "NON_NULL" => nonNull
  | text => unknown text

def text : TypeKind → String
  | scalar => "SCALAR"
  | object => "OBJECT"
  | interface => "INTERFACE"
  | union => "UNION"
  | enumeration => "ENUM"
  | inputObject => "INPUT_OBJECT"
  | list => "LIST"
  | nonNull => "NON_NULL"
  | unknown text => text

def isComposite : TypeKind → Bool
  | object | interface | union => true
  | _ => false

def isInput : TypeKind → Bool
  | scalar | enumeration | inputObject => true
  | _ => false

def isNamed : TypeKind → Bool
  | list | nonNull | unknown _ => false
  | _ => true

end TypeKind

structure InputValue where
  name : String
  description : Option String
  type : TypeRef
  default : Option String
deriving DecidableEq, Repr, Inhabited

structure SchemaField where
  name : String
  description : Option String
  args : List InputValue
  type : TypeRef
  isDeprecated : Bool
  deprecationReason : Option String
deriving DecidableEq, Repr, Inhabited

def SchemaField.typename : SchemaField where
  name := "__typename"
  description := none
  args := []
  type := .nonNull (.named "String")
  isDeprecated := false
  deprecationReason := none

structure EnumValue where
  name : String
  description : Option String
  isDeprecated : Bool
  deprecationReason : Option String
deriving DecidableEq, Repr, Inhabited

structure SchemaType where
  kind : TypeKind
  name : String
  description : Option String
  fields : List SchemaField
  inputFields : List InputValue
  interfaces : List TypeRef
  enumValues : List EnumValue
  possibleTypes : List TypeRef
deriving DecidableEq, Repr, Inhabited

def SchemaType.field? (t : SchemaType) (name : String) : Option SchemaField :=
  if name = "__typename" then some .typename else t.fields.find? (·.name == name)

structure SchemaDirective where
  name : String
  description : Option String
  locations : List String
  args : List InputValue
deriving DecidableEq, Repr, Inhabited

/-- `index` holds the names of the types as they were when the schema was read. -/
structure Schema where
  queryType : Option String
  mutationType : Option String
  subscriptionType : Option String
  types : List SchemaType
  directives : List SchemaDirective
  index : List String
deriving DecidableEq, Repr, Inhabited

def lastIdxOf? (name : String) (names : List String) : Option Nat :=
  (names.reverse.idxOf? name).map fun i => names.length - 1 - i

def builtinScalars : List String := ["String", "Int", "Float", "Boolean", "ID"]

def isBuiltinScalar (name : String) : Bool := builtinScalars.contains name

def conventionalRoots : List String := ["Query", "Mutation", "Subscription"]

namespace Schema

def ofTypes (queryType mutationType subscriptionType : Option String) (types : List SchemaType)
    (directives : List SchemaDirective) : Schema where
  queryType := queryType
  mutationType := mutationType
  subscriptionType := subscriptionType
  types := types
  directives := directives
  index := types.map SchemaType.name

def indexed? (s : Schema) (name : String) : Option SchemaType := do
  let i ← lastIdxOf? name s.index
  let t ← s.types[i]?
  if t.name = name then some t else none

def get? (s : Schema) (name : String) : Option SchemaType :=
  (s.indexed? name).or (s.types.find? (·.name == name))

def rootName? (s : Schema) : OperationKind → Option String
  | .query => s.queryType
  | .mutation => s.mutationType
  | .subscription => s.subscriptionType

def rootNames (s : Schema) : List String :=
  [s.queryType, s.mutationType, s.subscriptionType].filterMap id

def isRoot (s : Schema) (name : String) : Bool :=
  conventionalRoots.contains name || s.rootNames.contains name

def isUserType (s : Schema) (t : SchemaType) : Bool :=
  !(t.name.isEmpty || t.name.toList.head? == some '_' ||
    (isBuiltinScalar t.name && t.kind == .scalar) || s.isRoot t.name)

def userTypes (s : Schema) : List SchemaType :=
  (s.types.filter s.isUserType).mergeSort fun a b => decide (a.name ≤ b.name)

end Schema

end GraphqlBindings

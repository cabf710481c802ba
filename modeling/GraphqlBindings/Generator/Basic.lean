import GraphqlBindings.Code.Declaration
import GraphqlBindings.Language.Grammar
import GraphqlBindings.Generator.Response
import GraphqlBindings.Naming.Identifier
import GraphqlBindings.Schema.Validation

namespace GraphqlBindings.TypeRef

mutual

def shape (base : CodeType) (boxed : Bool) : TypeRef → CodeType
  | .nonNull inner => requiredShape base boxed inner
  | .named name => .option (requiredShape base boxed (.named name))
  | .list inner => .option (requiredShape base boxed (.list inner))

def requiredShape (base : CodeType) (boxed : Bool) : TypeRef → CodeType
  | .named _ => if boxed then .boxed base else base
  | .list inner => .vec (shape base false inner)
  | .nonNull inner => requiredShape base boxed inner

end

end GraphqlBindings.TypeRef

namespace GraphqlBindings

/-- Names are handed out from `types` and `methods`; `idents` has the generated names of schema
types, the latest first. -/
structure Generator where
  schema : Schema
  naming : Naming
  types : NameScope
  methods : NameScope
  idents : List (String × String)
deriving Repr, Inhabited

def clientMethodNames : List String := ["new", "from_client", "inner"]

namespace Generator

def nameTypes (naming : Naming) (scope : NameScope) (idents : List (String × String)) :
    List SchemaType → NameScope × List (String × String)
  | [] => (scope, idents)
  | t :: rest =>
    let (ident, scope) := scope.unique (naming.typeIdent t.name)
    nameTypes naming scope ((t.name, ident) :: idents) rest

def ofSchema (package : String) (schema : Schema) (naming : Naming) : Generator :=
  let scope := NameScope.empty.insert (naming.clientName package)
  let (types, idents) := nameTypes naming scope [] schema.userTypes
  ⟨schema, naming, types, ⟨clientMethodNames.reverse⟩, idents⟩

def typeName? (g : Generator) (name : String) : Option String := g.idents.lookup name

def opaqueType : CodeType := .named "serde_json::Value"

def namedType (g : Generator) (name : String) : CodeType :=
  if name = "String" ∨ name = "ID" then .named "String"
  else if name = "Int" then .named "i64"
  else if name = "Float" then .named "f64"
  else if name = "Boolean" then .named "bool"
  else match g.typeName? name with
    | some ident => .named ident
    | none => opaqueType

def isRecursive (g : Generator) (name : String) : Bool :=
  ((g.schema.get? name).map fun t => t.kind.isComposite || t.kind == .inputObject).getD false &&
    (g.typeName? name).isSome

def schemaFieldType (g : Generator) (r : TypeRef) : CodeType :=
  r.shape (g.namedType r.baseName) (g.isRecursive r.baseName)

def withDeprecation (description : Option String) (isDeprecated : Bool) (reason : Option String) :
    Option String :=
  if !isDeprecated then description
  else
    let reason := reason.getD ""
    let note := if reason.isEmpty then "deprecated" else "deprecated: " ++ reason
    some (match description with
      | some description => description ++ "\n\n" ++ note
      | none => note)

def schemaFields (g : Generator) (scope : NameScope) : List SchemaField → List FieldDeclaration
  | [] => []
  | f :: rest =>
    let (ident, scope) := scope.unique (g.naming.fieldIdent f.name)
    ⟨ident, f.name, g.schemaFieldType f.type,
      withDeprecation f.description f.isDeprecated f.deprecationReason⟩ ::
      g.schemaFields scope rest

def inputFields (g : Generator) (scope : NameScope) : List InputValue → List FieldDeclaration
  | [] => []
  | f :: rest =>
    let (ident, scope) := scope.unique (g.naming.fieldIdent f.name)
    ⟨ident, f.name, g.schemaFieldType f.type, f.description⟩ :: g.inputFields scope rest

def variants (naming : Naming) (scope : NameScope) : List EnumValue → List Variant
  | [] => []
  | v :: rest =>
    let (ident, scope) := scope.unique (naming.typeIdent v.name)
    ⟨ident, v.name, withDeprecation v.description v.isDeprecated v.deprecationReason⟩ ::
      variants naming scope rest

def schemaTypeBody (g : Generator) (t : SchemaType) : Except Schema.Fault DeclarationBody :=
  match t.kind with
  | .scalar => .ok (.alias (.named "String"))
  | .enumeration => .ok (.variants (variants g.naming .empty t.enumValues))
  | .object | .interface => .ok (.fields (g.schemaFields .empty t.fields))
  | .inputObject => .ok (.fields (g.inputFields .empty t.inputFields))
  | .union => .ok (.fields [])
  | .list | .nonNull | .unknown _ => .error (.unknownKind t.name t.kind.text)

def schemaType (g : Generator) (t : SchemaType) : Except Schema.Fault Declaration := do
  let body ← g.schemaTypeBody t
  return ⟨(g.typeName? t.name).getD (g.naming.typeIdent t.name), t.description, body⟩

def schemaTypes (g : Generator) : Except Schema.Fault (List Declaration) :=
  g.schema.userTypes.mapM g.schemaType

end Generator

def Model.ofSchema (package : String) (schema : Schema) (naming : Naming) :
    Except Schema.Fault Model := do
  let declarations ← (Generator.ofSchema package schema naming).schemaTypes
  return ⟨package, declarations⟩

end GraphqlBindings

import GraphqlBindings.Language.Value

namespace GraphqlBindings.Language

open GraphqlBindings.Language.Parser

structure InputValueDefinition where
  description : Option String
  name : String
  type : TypeRef
  default : Option Value
  directives : List Directive
deriving Repr, Inhabited

structure FieldDefinition where
  description : Option String
  name : String
  arguments : List InputValueDefinition
  type : TypeRef
  directives : List Directive
deriving Repr, Inhabited

structure EnumValueDefinition where
  description : Option String
  name : String
  directives : List Directive
deriving Repr, Inhabited

inductive TypeBody where
  | scalar
  | object (interfaces : List String) (fields : List FieldDefinition)
  | interface (interfaces : List String) (fields : List FieldDefinition)
  | union (members : List String)
  | enumeration (values : List EnumValueDefinition)
  | input (fields : List InputValueDefinition)
deriving Repr, Inhabited

structure TypeDefinition where
  description : Option String
  name : String
  directives : List Directive
  body : TypeBody
deriving Repr, Inhabited

inductive TypeSystemDefinition where
  | schema (directives : List Directive) (roots : List (String × String))
  | extension (definition : TypeDefinition)
  | type (definition : TypeDefinition)
  | directive (description : Option String) (name : String)
      (arguments : List InputValueDefinition) (repeatable : Bool) (locations : List String)
deriving Repr, Inhabited

def implementsInterfaces : Parser (List String) := do
  let interfaces ← maybe (do
    word "implements"
    let _ ← maybe (punct .amp)
    separated name .amp)
  pure (interfaces.getD [])

def inputValueDefinition (depth : Nat) : Parser InputValueDefinition := do
  let description ← maybe string
  let n ← name
  punct .colon
  let type ← typeRef depth
  let default ← defaultValue depth
  let dirs ← directives depth
  pure ⟨description, n, type, default, dirs⟩

def block {α : Type} (opening closing : Punctuator) (depth : Nat) (item : Nat → Parser α) :
    Parser (List α) := do
  let items ← maybe (between opening closing depth fun d => repeated1 (item d))
  pure (items.getD [])

def argumentDefinitions (depth : Nat) : Parser (List InputValueDefinition) :=
  block .parenOpen .parenClose depth inputValueDefinition

def fieldDefinition (depth : Nat) : Parser FieldDefinition := do
  let description ← maybe string
  let n ← name
  let args ← argumentDefinitions depth
  punct .colon
  let type ← typeRef depth
  let dirs ← directives depth
  pure ⟨description, n, args, type, dirs⟩

def enumValueDefinition (depth : Nat) : Parser EnumValueDefinition := do
  let description ← maybe string
  let n ← name
  let dirs ← directives depth
  pure ⟨description, n, dirs⟩

def fieldBlock (depth : Nat) : Parser (List FieldDefinition) :=
  block .braceOpen .braceClose depth fieldDefinition

def scalarType (depth : Nat) : Parser TypeDefinition := do
  word "scalar"
  let n ← name
  let dirs ← directives depth
  pure ⟨none, n, dirs, .scalar⟩

def objectType (depth : Nat) : Parser TypeDefinition := do
  word "type"
  let n ← name
  let interfaces ← implementsInterfaces
  let dirs ← directives depth
  let fields ← fieldBlock depth
  pure ⟨none, n, dirs, .object interfaces fields⟩

def interfaceType (depth : Nat) : Parser TypeDefinition := do
  word "interface"
  let n ← name
  let interfaces ← implementsInterfaces
  let dirs ← directives depth
  let fields ← fieldBlock depth
  pure ⟨none, n, dirs, .interface interfaces fields⟩

def unionType (depth : Nat) : Parser TypeDefinition := do
  word "union"
  let n ← name
  let dirs ← directives depth
  let members ← maybe (do
    punct .equals
    let _ ← maybe (punct .bar)
    separated name .bar)
  pure ⟨none, n, dirs, .union (members.getD [])⟩

def enumType (depth : Nat) : Parser TypeDefinition := do
  word "enum"
  let n ← name
  let dirs ← directives depth
  let values ← block .braceOpen .braceClose depth enumValueDefinition
  pure ⟨none, n, dirs, .enumeration values⟩

def inputType (depth : Nat) : Parser TypeDefinition := do
  word "input"
  let n ← name
  let dirs ← directives depth
  let fields ← block .braceOpen .braceClose depth inputValueDefinition
  pure ⟨none, n, dirs, .input fields⟩

def typeDefinition (depth : Nat) : Parser TypeDefinition :=
  (scalarType depth).or ((objectType depth).or ((interfaceType depth).or ((unionType depth).or
    ((enumType depth).or (inputType depth)))))

def directiveLocations : List String :=
  ["QUERY", "MUTATION", "SUBSCRIPTION", "FIELD", "FRAGMENT_DEFINITION", "FRAGMENT_SPREAD",
    "INLINE_FRAGMENT", "SCHEMA", "SCALAR", "OBJECT", "FIELD_DEFINITION", "ARGUMENT_DEFINITION",
    "INTERFACE", "UNION", "ENUM", "ENUM_VALUE", "INPUT_OBJECT", "INPUT_FIELD_DEFINITION",
    "VARIABLE_DEFINITION"]

def directiveLocation : Parser String
  | ts@(⟨.name n, _⟩ :: rest) => if directiveLocations.contains n then .ok (n, rest) else .error ts
  | ts => .error ts

def directiveDefinition (depth : Nat) (description : Option String) :
    Parser TypeSystemDefinition := do
  word "directive"
  punct .at
  let n ← name
  let args ← argumentDefinitions depth
  let repeatable ← maybe (word "repeatable")
  word "on"
  let _ ← maybe (punct .bar)
  let locations ← separated directiveLocation .bar
  pure (.directive description n args repeatable.isSome locations)

def areRoots (roots : List (String × String)) : Bool :=
  roots.all (fun (kind, _) => ["query", "mutation", "subscription"].contains kind) &&
    decide (roots.map (·.1)).Nodup

def schemaDefinition (depth : Nat) : Parser TypeSystemDefinition := fun ts =>
  (do
    word "schema"
    let dirs ← directives depth
    let roots ← between .braceOpen .braceClose depth fun _ => repeated (do
      let kind ← name
      punct .colon
      pure (kind, ← name))
    if areRoots roots then pure (.schema dirs roots) else fun _ => .error ts :
    Parser TypeSystemDefinition) ts

def TypeDefinition.isEmpty (d : TypeDefinition) : Bool :=
  d.directives.isEmpty && match d.body with
    | .scalar => true
    | .object interfaces fields | .interface interfaces fields =>
      interfaces.isEmpty && fields.isEmpty
    | .union members => members.isEmpty
    | .enumeration values => values.isEmpty
    | .input fields => fields.isEmpty

def typeExtension (depth : Nat) : Parser TypeSystemDefinition := do
  word "extend"
  fun ts => (do
    let d ← typeDefinition depth
    if d.isEmpty then fun _ => .error ts else pure (.extension d) :
    Parser TypeSystemDefinition) ts

def describedDefinition (depth : Nat) : Parser TypeSystemDefinition := do
  let description ← maybe string
  (do
    let d ← typeDefinition depth
    pure (.type { d with description }) : Parser TypeSystemDefinition).or
    (directiveDefinition depth description)

def typeSystemDefinition (depth : Nat) : Parser TypeSystemDefinition :=
  (schemaDefinition depth).or ((typeExtension depth).or (describedDefinition depth))

structure SchemaText where
  definitions : List TypeSystemDefinition
deriving Repr, Inhabited

def SchemaText.parser : Parser SchemaText := do
  let definitions ← repeated1 (typeSystemDefinition bracketLimit)
  pure ⟨definitions⟩

def SchemaText.read (text : String) : Except Position SchemaText := SchemaText.parser.read text

end GraphqlBindings.Language

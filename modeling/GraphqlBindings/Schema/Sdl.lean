import GraphqlBindings.Schema.Validation
import GraphqlBindings.Language.TypeSystem
import GraphqlBindings.Text.Lines

namespace GraphqlBindings.Sdl

open GraphqlBindings.Text

def comments (indent : String) (description : Option String) : String :=
  match description with
  | some text => markedLines indent "#" (lines text)
  | none => ""

def default (value : InputValue) : String :=
  match value.default with
  | some literal => " = " ++ literal
  | none => ""

def inputValue (value : InputValue) : String :=
  value.name ++ ": " ++ value.type.text ++ default value

def arguments (args : List InputValue) : String :=
  if args.isEmpty then "" else "(" ++ ", ".intercalate (args.map inputValue) ++ ")"

def escapeChar : Char → List Char
  | '\\' => ['\\', '\\']
  | '"' => ['\\', '"']
  | '\n' => ['\\', 'n']
  | c => [c]

def escape (s : String) : String := .ofList (s.toList.flatMap escapeChar)

def deprecation (field : SchemaField) : String :=
  if !field.isDeprecated then ""
  else
    let reason := field.deprecationReason.getD ""
    if reason.isEmpty then " @deprecated"
    else " @deprecated(reason: \"" ++ escape reason ++ "\")"

def field (f : SchemaField) : String :=
  comments "  " f.description ++ "  " ++ f.name ++ arguments f.args ++ ": " ++ f.type.text ++
    deprecation f ++ "\n"

def inputField (value : InputValue) : String :=
  comments "  " value.description ++ "  " ++ inputValue value ++ "\n"

def enumValue (value : EnumValue) : String :=
  let note := if value.isDeprecated then
      markedLines "  " "#" ["deprecated: " ++ value.deprecationReason.getD ""]
    else ""
  comments "  " value.description ++ note ++ "  " ++ value.name ++ "\n"

def implements (interfaces : List TypeRef) : String :=
  if interfaces.isEmpty then ""
  else " implements " ++ " & ".intercalate (interfaces.map TypeRef.baseName)

def members (types : List TypeRef) : String :=
  if types.isEmpty then "" else " = " ++ " | ".intercalate (types.map TypeRef.baseName)

def block (items : List String) : String :=
  if items.isEmpty then "\n" else " \x7b\n" ++ String.join items ++ "\x7d\n"

def type (t : SchemaType) : Except Schema.Fault String := do
  let body ← match t.kind with
    | .scalar => .ok ("scalar " ++ t.name ++ "\n")
    | .object => .ok ("type " ++ t.name ++ implements t.interfaces ++ block (t.fields.map field))
    | .interface =>
      .ok ("interface " ++ t.name ++ implements t.interfaces ++ block (t.fields.map field))
    | .inputObject => .ok ("input " ++ t.name ++ block (t.inputFields.map inputField))
    | .enumeration => .ok ("enum " ++ t.name ++ block (t.enumValues.map enumValue))
    | .union => .ok ("union " ++ t.name ++ members t.possibleTypes ++ "\n")
    | .list | .nonNull | .unknown _ => .error (.unknownKind t.name t.kind.text)
  return comments "" t.description ++ body

def render (s : Schema) : Except Schema.Fault String := do
  let blocks ← s.userTypes.mapM type
  return "\n".intercalate blocks

def check (text : String) : Except Language.Position Unit :=
  if isBlankText text then .ok () else (Language.SchemaText.read text).map fun _ => ()

end GraphqlBindings.Sdl

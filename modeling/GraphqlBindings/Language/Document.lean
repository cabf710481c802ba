import GraphqlBindings.Language.Value

namespace GraphqlBindings

inductive OperationKind where
  | query
  | mutation
  | subscription
deriving DecidableEq, Repr, Inhabited

def OperationKind.keyword : OperationKind → String
  | query => "query"
  | mutation => "mutation"
  | subscription => "subscription"

end GraphqlBindings

namespace GraphqlBindings.Language

open GraphqlBindings.Language.Parser

inductive Selection where
  | field (position : Position) (label : Option String) (name : String)
      (arguments : List (String × Value)) (directives : List Directive)
      (selections : List Selection)
  | inlineFragment (condition : Option String) (directives : List Directive)
      (selections : List Selection)
  | fragmentSpread (name : String) (directives : List Directive)
deriving Repr, Inhabited

structure VariableDefinition where
  position : Position
  name : String
  type : TypeRef
  default : Option Value
deriving Repr, Inhabited

structure OperationDefinition where
  position : Position
  kind : OperationKind
  name : Option String
  vars : List VariableDefinition
  directives : List Directive
  selections : List Selection
deriving Repr, Inhabited

inductive Definition where
  | selections (position : Position) (selections : List Selection)
  | operation (definition : OperationDefinition)
  | fragment (name condition : String) (directives : List Directive) (selections : List Selection)
deriving Repr, Inhabited

structure Document where
  definitions : List Definition
deriving Repr, Inhabited

def fieldSelection (depth : Nat) (nested : Parser (List Selection)) : Parser Selection := do
  let position ← here
  let first ← name
  let second ← maybe (do punct .colon; name)
  let args ← arguments depth
  let dirs ← directives depth
  let inside ← maybe nested
  let (label, n) := match second with
    | some n => (some first, n)
    | none => (none, first)
  pure (.field position label n args dirs (inside.getD []))

def inlineFragment (depth : Nat) (nested : Parser (List Selection)) : Parser Selection := do
  let condition ← maybe (do word "on"; name)
  let dirs ← directives depth
  let inside ← nested
  pure (.inlineFragment condition dirs inside)

def fragmentSpread (depth : Nat) : Parser Selection := do
  let n ← name
  let dirs ← directives depth
  pure (.fragmentSpread n dirs)

def selections : Nat → Parser (List Selection)
  | 0 => fail
  | depth + 1 => do
    punct .braceOpen
    let items ← repeated1
      ((fieldSelection depth (selections depth)).or (do
        punct .spread
        (inlineFragment depth (selections depth)).or (fragmentSpread depth)))
    punct .braceClose
    pure items

def variableDefinition (depth : Nat) : Parser VariableDefinition := do
  let position ← here
  punct .dollar
  let n ← name
  punct .colon
  let type ← typeRef depth
  let default ← defaultValue depth
  pure ⟨position, n, type, default⟩

def operation (depth : Nat) (kind : OperationKind) : Parser Definition := do
  let position ← here
  word kind.keyword
  let n ← maybe name
  let vars ← maybe (between .parenOpen .parenClose depth fun d => repeated1 (variableDefinition d))
  let dirs ← directives depth
  let inside ← selections depth
  pure (.operation ⟨position, kind, n, vars.getD [], dirs, inside⟩)

def anonymous (depth : Nat) : Parser Definition := do
  let position ← here
  let inside ← selections depth
  pure (.selections position inside)

def fragment (depth : Nat) : Parser Definition := do
  word "fragment"
  let n ← name
  word "on"
  let condition ← name
  let dirs ← directives depth
  let inside ← selections depth
  pure (.fragment n condition dirs inside)

def definition (depth : Nat) : Parser Definition :=
  (anonymous depth).or ((operation depth .query).or ((operation depth .mutation).or
    ((operation depth .subscription).or (fragment depth))))

def Document.parser : Parser Document := do
  let definitions ← repeated1 (definition bracketLimit)
  pure ⟨definitions⟩

def Document.read (text : String) : Except Position Document := Document.parser.read text

end GraphqlBindings.Language

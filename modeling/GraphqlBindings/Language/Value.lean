import GraphqlBindings.Language.Grammar
import GraphqlBindings.Decimal.Shortest
import GraphqlBindings.Json.Writer

namespace GraphqlBindings.Language

open GraphqlBindings.Language.Parser

inductive Value where
  | variable (name : String)
  | int (value : Int)
  | float (value : Decimal.Binary64)
  | string (value : String)
  | bool (value : Bool)
  | null
  | enumName (name : String)
  | list (items : List Value)
  | object (fields : List (String × Value))
deriving Repr, Inhabited

namespace Value

def ofName : String → Value
  | "true" => .bool true
  | "false" => .bool false
  | "null" => .null
  | name => .enumName name

def simple (withVariables : Bool) : Parser Value
  | ⟨.name n, _⟩ :: rest => .ok (ofName n, rest)
  | ⟨.int n, _⟩ :: rest => .ok (.int n, rest)
  | ⟨.float b, _⟩ :: rest => .ok (.float b, rest)
  | ⟨.string s, _⟩ :: rest => .ok (.string s, rest)
  | ts@(⟨.punctuator .dollar, _⟩ :: rest) =>
    if withVariables then (do pure (.variable (← name)) : Parser Value) rest else .error ts
  | ts => .error ts

def field (value : Parser Value) : Parser (String × Value) := do
  let key ← name
  punct .colon
  pure (key, ← value)

def parser (withVariables : Bool) : Nat → Parser Value
  | 0 => simple withVariables
  | depth + 1 =>
    let list : Parser Value := do
      punct .bracketOpen
      let items ← repeated (parser withVariables depth)
      punct .bracketClose
      pure (.list items)
    let object : Parser Value := do
      punct .braceOpen
      let fields ← repeated (field (parser withVariables depth))
      punct .braceClose
      pure (.object (Keyed.ofList fields))
    (simple withVariables).or (list.or object)

mutual

def literal : Value → String
  | .variable name => "$" ++ name
  | .int n => toString n
  | .float b => .ofList b.plain
  | .string s => Json.quoted s
  | .bool b => if b then "true" else "false"
  | .null => "null"
  | .enumName name => name
  | .list items => "[" ++ literalItems items ++ "]"
  | .object fields => "\x7b" ++ literalFields fields ++ "\x7d"

def literalItems : List Value → String
  | [] => ""
  | [v] => v.literal
  | v :: rest => v.literal ++ ", " ++ literalItems rest

def literalFields : List (String × Value) → String
  | [] => ""
  | [(name, v)] => name ++ ": " ++ v.literal
  | (name, v) :: rest => name ++ ": " ++ v.literal ++ ", " ++ literalFields rest

end

end Value

def argument (depth : Nat) : Parser (String × Value) := Value.field (Value.parser true depth)

def arguments (depth : Nat) : Parser (List (String × Value)) := do
  let args ← maybe (between .parenOpen .parenClose depth fun d => repeated1 (argument d))
  pure (args.getD [])

structure Directive where
  name : String
  arguments : List (String × Value)
deriving Repr, Inhabited

def directives (depth : Nat) : Parser (List Directive) :=
  repeated (do
    punct .at
    let n ← name
    let args ← arguments depth
    pure ⟨n, args⟩)

def defaultValue (depth : Nat) : Parser (Option Value) :=
  maybe (do
    punct .equals
    Value.parser false depth)

end GraphqlBindings.Language

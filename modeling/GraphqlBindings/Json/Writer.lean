import GraphqlBindings.Json.Basic
import GraphqlBindings.Decimal.Shortest

namespace GraphqlBindings.Json

def lowerHex (n : Nat) : Char := (Nat.toDigits 16 (n % 16)).headD '0'

def escapeChar (c : Char) : List Char :=
  match c with
  | '"' => ['\\', '"']
  | '\\' => ['\\', '\\']
  | '\x08' => ['\\', 'b']
  | '\x0c' => ['\\', 'f']
  | '\n' => ['\\', 'n']
  | '\r' => ['\\', 'r']
  | '\t' => ['\\', 't']
  | c => if c.toNat < 0x20 then ['\\', 'u', '0', '0', lowerHex (c.toNat / 16), lowerHex c.toNat]
    else [c]

def quoted (s : String) : String := .ofList (['"'] ++ s.toList.flatMap escapeChar ++ ['"'])

def Number.text : Number → String
  | .integer n => toString n
  | .double b => if b.isInfinite then "null" else .ofList b.interchange

mutual

def compact : Json → String
  | .null => "null"
  | .bool b => if b then "true" else "false"
  | .number n => n.text
  | .string s => quoted s
  | .array items => "[" ++ ",".intercalate (compactItems items) ++ "]"
  | .object members => "\x7b" ++ ",".intercalate (compactMembers members) ++ "\x7d"

def compactItems : List Json → List String
  | [] => []
  | v :: rest => v.compact :: compactItems rest

def compactMembers : List (String × Json) → List String
  | [] => []
  | (k, v) :: rest => (quoted k ++ ":" ++ v.compact) :: compactMembers rest

end

def indentation (level : Nat) : String := "\n" ++ .ofList (List.replicate (2 * level) ' ')

mutual

def prettyAt (level : Nat) : Json → String
  | .null => "null"
  | .bool b => if b then "true" else "false"
  | .number n => n.text
  | .string s => quoted s
  | .array [] => "[]"
  | .array (v :: rest) =>
    "[" ++ ",".intercalate (prettyItems (level + 1) (v :: rest)) ++ indentation level ++ "]"
  | .object [] => "\x7b\x7d"
  | .object (m :: rest) =>
    "\x7b" ++ ",".intercalate (prettyMembers (level + 1) (m :: rest)) ++ indentation level ++
      "\x7d"

def prettyItems (level : Nat) : List Json → List String
  | [] => []
  | v :: rest => (indentation level ++ prettyAt level v) :: prettyItems level rest

def prettyMembers (level : Nat) : List (String × Json) → List String
  | [] => []
  | (k, v) :: rest =>
    (indentation level ++ quoted k ++ ": " ++ prettyAt level v) :: prettyMembers level rest

end

def pretty (v : Json) : String := prettyAt 0 v

end GraphqlBindings.Json

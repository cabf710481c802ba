import GraphqlBindings.Decimal.Binary64

namespace GraphqlBindings.Language

structure Position where
  line : Nat
  column : Nat
deriving DecidableEq, Repr, Inhabited

namespace Position

def start : Position := ⟨1, 1⟩

def text (p : Position) : String := toString p.line ++ ":" ++ toString p.column

def next (p : Position) (c : Char) : Position :=
  if c = '\n' then ⟨p.line + 1, 1⟩ else ⟨p.line, p.column + 1⟩

def advance (p : Position) (cs : List Char) : Position := cs.foldl next p

end Position

inductive Punctuator where
  | bang | dollar | amp | parenOpen | parenClose | spread | colon | equals | at
  | bracketOpen | bracketClose | braceOpen | bar | braceClose
deriving DecidableEq, Repr, Inhabited

def Punctuator.ofChar? : Char → Option Punctuator
  | '!' => some .bang
  | '$' => some .dollar
  | '&' => some .amp
  | '(' => some .parenOpen
  | ')' => some .parenClose
  | ':' => some .colon
  | '=' => some .equals
  | '@' => some .at
  | '[' => some .bracketOpen
  | ']' => some .bracketClose
  | '{' => some .braceOpen
  | '|' => some .bar
  | '}' => some .braceClose
  | _ => none

inductive Token where
  | punctuator (p : Punctuator)
  | name (name : String)
  | int (value : Int)
  | float (value : Decimal.Binary64)
  | string (value : String)
deriving DecidableEq, Repr, Inhabited

structure Lexeme where
  token : Token
  position : Position
deriving Repr, Inhabited

end GraphqlBindings.Language

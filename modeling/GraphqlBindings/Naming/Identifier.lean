import GraphqlBindings.Text.Case

/-!
Identifiers of the generated code: GraphQL names split into words, joined again in the case of
fields or of types, and kept away from reserved words.
-/

namespace GraphqlBindings

open GraphqlBindings.Text

/-- Whether a run of capitals is one word, or every capital begins one. -/
structure Naming where
  preserveAcronyms : Bool
deriving DecidableEq, Repr, Inhabited

namespace Naming

def isSeparator (c : Char) : Bool := c == '_' || c == '-'

def splitSeparators : List Char → List (List Char)
  | [] => [[]]
  | c :: rest =>
    if isSeparator c then [] :: splitSeparators rest
    else match splitSeparators rest with
      | [] => [[c]]
      | piece :: pieces => (c :: piece) :: pieces

/-- A word begins at a capital: at each one, or, with acronyms kept together, at one that has no
capital before it or a small letter behind it. -/
def beginsWord (n : Naming) (before c : Char) (after : Option Char) : Bool :=
  isCapital c && (!n.preserveAcronyms || !isCapital before || (after.map isSmall).getD false)

def splitPiece (n : Naming) (before : Char) : List Char → List (List Char)
  | [] => [[]]
  | c :: rest =>
    match splitPiece n c rest with
    | [] => [[c]]
    | word :: words =>
      if n.beginsWord before c rest.head? then [] :: (c :: word) :: words
      else (c :: word) :: words

def wordsOfPiece (n : Naming) : List Char → List (List Char)
  | [] => []
  | c :: rest =>
    if !(c :: rest).any isSmall then [c :: rest]
    else match n.splitPiece c rest with
      | [] => [[c]]
      | word :: words => (c :: word) :: words

def words (n : Naming) (name : String) : List (List Char) :=
  (splitSeparators name.toList).flatMap n.wordsOfPiece

def orDefault (ident default : List Char) : List Char :=
  match ident with
  | [] => default
  | c :: _ => if isAsciiDigit c then '_' :: ident else ident

def pathWords : List String := ["self", "Self", "super", "crate"]

def keywords : List String :=
  ["as", "break", "const", "continue", "crate", "else", "enum", "extern", "false", "fn", "for",
    "if", "impl", "in", "let", "loop", "match", "mod", "move", "mut", "pub", "ref", "return",
    "self", "Self", "static", "struct", "super", "trait", "true", "type", "unsafe", "use", "where",
    "while", "async", "await", "dyn", "abstract", "become", "box", "do", "final", "macro",
    "override", "priv", "typeof", "unsized", "virtual", "yield", "try", "gen"]

def rawMark : String := "r#"

def escapeIdent (ident : String) : String :=
  if pathWords.contains ident then ident ++ "_"
  else if keywords.contains ident then rawMark ++ ident
  else ident

def stripRawMark (ident : String) : String :=
  match ident.toList with
  | 'r' :: '#' :: rest => .ofList rest
  | _ => ident

def snake (n : Naming) (name : String) : List Char :=
  ['_'].intercalate ((n.words name).map toSmallWord)

def pascal (n : Naming) (name : String) : List Char := (n.words name).flatMap capitalize

def fieldIdent (n : Naming) (name : String) : String :=
  escapeIdent (.ofList (orDefault (n.snake name) "field".toList))

def usedTypeNames : List String :=
  ["Self", "Box", "Option", "Result", "String", "Vec", "Serialize", "Deserialize"]

def typeIdent (n : Naming) (name : String) : String :=
  let ident := String.ofList (orDefault (n.pascal name) "Value".toList)
  if usedTypeNames.contains ident then ident ++ "Type" else ident

def clientName (n : Naming) (package : String) : String := n.typeIdent package ++ "Client"

end Naming

structure NameScope where
  taken : List String
deriving DecidableEq, Repr, Inhabited

namespace NameScope

def empty : NameScope := ⟨[]⟩

def contains (s : NameScope) (name : String) : Bool := s.taken.contains name

def insert (s : NameScope) (name : String) : NameScope := ⟨name :: s.taken⟩

def claim (s : NameScope) (name : String) : Bool × NameScope :=
  if s.contains name then (false, s) else (true, s.insert name)

def numberingStem (name : String) : String :=
  let base := Naming.stripRawMark name
  match base.toList.getLast? with
  | some c => if Text.isAsciiDigit c then base ++ "_" else base
  | none => base

def numbered (name : String) (k : Nat) : String := numberingStem name ++ toString k

/-- The name if it is free, else with the least number from 2 on that makes it free. Of one
number more than there are names, one does. -/
def free (s : NameScope) (name : String) : String :=
  if s.contains name then
    let k := (List.range (s.taken.length + 1)).find? fun k => !s.contains (numbered name (k + 2))
    numbered name (k.getD (s.taken.length + 1) + 2)
  else name

def unique (s : NameScope) (name : String) : String × NameScope :=
  (s.free name, s.insert (s.free name))

def uniques (s : NameScope) : List String → List String × NameScope
  | [] => ([], s)
  | name :: rest =>
    let (ident, s) := s.unique name
    let (idents, s) := s.uniques rest
    (ident :: idents, s)

end NameScope

end GraphqlBindings

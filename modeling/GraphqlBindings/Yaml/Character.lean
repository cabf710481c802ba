namespace GraphqlBindings.Yaml

def isAllowed (c : Char) : Bool :=
  let n := c.toNat
  n == 0x09 || n == 0x0a || n == 0x0d || (decide (0x20 ≤ n) && decide (n ≤ 0x7e)) || n == 0x85 ||
    (decide (0xa0 ≤ n) && decide (n ≤ 0xd7ff)) || (decide (0xe000 ≤ n) && decide (n ≤ 0xfffd)) ||
    decide (0x10000 ≤ n)

def isBlank (c : Char) : Bool := c == ' ' || c == '\t'

def isBreak (c : Char) : Bool :=
  c == '\r' || c == '\n' || c == '\u0085' || c == '\u2028' || c == '\u2029'

def isDigit (c : Char) : Bool := decide ('0' ≤ c) && decide (c ≤ '9')

def isWord (c : Char) : Bool :=
  isDigit c || (decide ('a' ≤ c) && decide (c ≤ 'z')) || (decide ('A' ≤ c) && decide (c ≤ 'Z')) ||
    c == '_' || c == '-'

def atGap : List Char → Bool
  | [] => true
  | c :: _ => isBlank c || isBreak c

def atLineEnd : List Char → Bool
  | [] => true
  | c :: _ => isBreak c

def atDocumentMark : List Char → Bool
  | '-' :: '-' :: '-' :: rest => atGap rest
  | '.' :: '.' :: '.' :: rest => atGap rest
  | _ => false

def takeBreak : List Char → Option (Char × List Char)
  | '\r' :: '\n' :: rest => some ('\n', rest)
  | c :: rest =>
    if c == '\r' || c == '\n' || c == '\u0085' then some ('\n', rest)
    else if isBreak c then some (c, rest)
    else none
  | [] => none

def breaksIn : List Char → List Char
  | [] => []
  | '\r' :: '\n' :: rest => '\n' :: breaksIn rest
  | c :: rest =>
    if c == '\r' || c == '\n' || c == '\u0085' then '\n' :: breaksIn rest
    else if isBreak c then c :: breaksIn rest
    else breaksIn rest

/-- What blanks and breaks between two pieces of a scalar stand for: a single line feed is a
blank, of several the first one goes. Behind an escaped break nothing but the breaks counts. -/
def fold (escaped : Bool) (gap : List Char) : List Char :=
  if escaped then breaksIn gap
  else match breaksIn gap with
    | [] => gap
    | '\n' :: [] => [' ']
    | '\n' :: rest => rest
    | breaks => breaks

structure Mark where
  index : Nat
  line : Nat
  column : Nat
deriving Repr, Inhabited

def Mark.advance (m : Mark) : List Char → Mark
  | [] => m
  | '\r' :: '\n' :: rest => advance ⟨m.index + 2, m.line + 1, 0⟩ rest
  | c :: rest =>
    if isBreak c then advance ⟨m.index + 1, m.line + 1, 0⟩ rest
    else advance ⟨m.index + 1, m.line, m.column + 1⟩ rest

end GraphqlBindings.Yaml

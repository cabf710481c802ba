import GraphqlBindings.Text.PrintableTable

namespace GraphqlBindings.Text

def isBlank (c : Char) : Bool :=
  let n := c.toNat
  (decide (9 ≤ n) && decide (n ≤ 13)) || n == 0x20 || n == 0x85 || n == 0xa0 || n == 0x1680 ||
    (decide (0x2000 ≤ n) && decide (n ≤ 0x200a)) || n == 0x2028 || n == 0x2029 || n == 0x202f ||
    n == 0x205f || n == 0x3000

def trimStartChars (cs : List Char) : List Char := cs.dropWhile isBlank

def trimEndChars (cs : List Char) : List Char := (cs.reverse.dropWhile isBlank).reverse

def trimEnd (s : String) : String := .ofList (trimEndChars s.toList)

def trim (s : String) : String := .ofList (trimEndChars (trimStartChars s.toList))

def isBlankText (s : String) : Bool := s.toList.all isBlank

def consLine (c : Char) : List (List Char) → List (List Char)
  | [] => [[c]]
  | line :: rest => (c :: line) :: rest

def linesOfChars : List Char → List (List Char)
  | [] => []
  | '\n' :: rest => [] :: linesOfChars rest
  | '\r' :: '\n' :: rest => [] :: linesOfChars rest
  | c :: rest => consLine c (linesOfChars rest)

def lines (s : String) : List String := (linesOfChars s.toList).map String.ofList

def markedLines (indent mark : String) (ls : List String) : String :=
  String.join (ls.map fun line =>
    let line := trimEnd line
    if line.isEmpty then indent ++ mark ++ "\n" else indent ++ mark ++ " " ++ line ++ "\n")

def isPrintable (c : Char) : Bool :=
  if c.toNat < 0x80 then decide (0x20 ≤ c.toNat) && c.toNat != 0x7f
  else !inStretches unprintables c.toNat

def hexDigits (n : Nat) : List Char := Nat.toDigits 16 n

def quoteChar (c : Char) : List Char :=
  match c with
  | '\x00' => ['\\', '0']
  | '\t' => ['\\', 't']
  | '\n' => ['\\', 'n']
  | '\r' => ['\\', 'r']
  | '"' => ['\\', '"']
  | '\\' => ['\\', '\\']
  | c => if isPrintable c then [c] else ['\\', 'u', '{'] ++ hexDigits c.toNat ++ ['}']

def quoteChars (cs : List Char) : List Char := ['"'] ++ cs.flatMap quoteChar ++ ['"']

def quote (s : String) : String := .ofList (quoteChars s.toList)

end GraphqlBindings.Text

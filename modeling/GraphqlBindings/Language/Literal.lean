import GraphqlBindings.Decimal.Binary64
import GraphqlBindings.Text.Lines
import GraphqlBindings.Text.Case

namespace GraphqlBindings.Language

open GraphqlBindings.Text GraphqlBindings.Decimal

def digitValue (c : Char) : Nat := c.toNat - '0'.toNat

def natOfDigits (ds : List Char) : Nat := ds.foldl (fun n c => n * 10 + digitValue c) 0

def takeMinus : List Char → Bool × List Char
  | '-' :: rest => (true, rest)
  | cs => (false, cs)

def isWholePart (ds : List Char) : Bool :=
  !ds.isEmpty && ds.all isAsciiDigit && (ds.head? != some '0' || ds.length == 1)

def intValue? (cs : List Char) : Option Int :=
  let (negative, ds) := takeMinus cs
  if !isWholePart ds then none else
  let n := natOfDigits ds
  if negative then if n ≤ Nat.pow 2 63 then some (-(n : Int)) else none
  else if n < Nat.pow 2 63 then some n else none

def exponentValue? : List Char → Option Int
  | '+' :: ds => if !ds.isEmpty && ds.all isAsciiDigit then some (natOfDigits ds) else none
  | '-' :: ds => if !ds.isEmpty && ds.all isAsciiDigit then some (-(natOfDigits ds : Int)) else none
  | d :: ds =>
    if '1' ≤ d ∧ d ≤ '8' ∧ ds.all isAsciiDigit then some (natOfDigits (d :: ds)) else none
  | [] => none

def isExponentMark (c : Char) : Bool := c == 'e' || c == 'E'

def floatValue? (cs : List Char) : Option Binary64 := do
  let (negative, cs) := takeMinus cs
  let mantissa := cs.takeWhile (!isExponentMark ·)
  let power ← match cs.dropWhile (!isExponentMark ·) with
    | [] => some 0
    | _ :: e => exponentValue? e
  let whole := mantissa.takeWhile (· != '.')
  let fraction ← match mantissa.dropWhile (· != '.') with
    | [] => some []
    | _ :: ds => if !ds.isEmpty && ds.all isAsciiDigit then some ds else none
  guard (isWholePart whole)
  let digits := whole ++ fraction
  pure (Binary64.ofDecimal negative (natOfDigits digits) digits.length (power - fraction.length))

def isFloatText (cs : List Char) : Bool := cs.any fun c => c == '.' || isExponentMark c

def hexValue? (c : Char) : Option Nat :=
  if '0' ≤ c ∧ c ≤ '9' then some (c.toNat - '0'.toNat)
  else if 'a' ≤ c ∧ c ≤ 'f' then some (c.toNat - 'a'.toNat + 10)
  else if 'A' ≤ c ∧ c ≤ 'F' then some (c.toNat - 'A'.toNat + 10)
  else none

def natOfHex? (ds : List Char) : Option Nat :=
  ds.foldl (fun n c => do pure ((← n) * 16 + (← hexValue? c))) (some 0)

/-- The character of a `\u` escape; the first of its four places may be a plus sign. -/
def unicodeChar? (a b c d : Char) : Option Char := do
  let code ← natOfHex? (if a = '+' then [b, c, d] else [a, b, c, d])
  if code < 0xd800 ∨ 0xe000 ≤ code then some (Char.ofNat code) else none

def simpleEscape? : Char → Option Char
  | '"' => some '"'
  | '\\' => some '\\'
  | '/' => some '/'
  | 'b' => some '\x10'
  | 'f' => some '\x0c'
  | 'n' => some '\n'
  | 'r' => some '\r'
  | 't' => some '\t'
  | _ => none

def unescape : List Char → Option (List Char)
  | [] => some []
  | '\\' :: 'u' :: a :: b :: c :: d :: rest => do
    let x ← unicodeChar? a b c d
    pure (x :: (← unescape rest))
  | '\\' :: c :: rest => do
    let x ← simpleEscape? c
    pure (x :: (← unescape rest))
  | ['\\'] => none
  | c :: rest => (unescape rest).map (c :: ·)

def bytesOf (line : List Char) : Nat := line.foldl (fun n c => n + c.utf8Size) 0

def indentOf (line : List Char) : Nat := bytesOf (line.takeWhile isBlank)

def dropBytes : Nat → List Char → List Char
  | 0, cs => cs
  | _, [] => []
  | n + 1, c :: rest => dropBytes (n + 1 - c.utf8Size) rest

def unescapeBlock : List Char → List Char
  | '\\' :: '"' :: '"' :: '"' :: rest => '"' :: '"' :: '"' :: unescapeBlock rest
  | c :: rest => c :: unescapeBlock rest
  | [] => []

def dropBlankEnds (ls : List (List Char)) : List (List Char) :=
  ((ls.dropWhile (·.all isBlank)).reverse.dropWhile (·.all isBlank)).reverse

def blockValue (body : List Char) : List Char :=
  match linesOfChars body with
  | [] => []
  | first :: others =>
    let common := ((others.filter (!·.all isBlank)).map indentOf).min?
    let unindent (line : List Char) : List Char := match common with
      | some n => if n ≤ bytesOf line then dropBytes n line else line
      | none => line
    ['\n'].intercalate ((dropBlankEnds (first :: others.map unindent)).map unescapeBlock)

end GraphqlBindings.Language

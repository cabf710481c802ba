import GraphqlBindings.Decimal.Binary64

/-!
The shortest decimal that reads back as a given binary64 number. On each decimal grid, from
coarse to fine, the two neighbours of the number are tried; the first grid with a hit wins, and
of two hits the nearer one, the even one on a tie.
-/

namespace GraphqlBindings.Decimal

/-- Four times the mantissa and the ends of the interval that rounds to it, as multiples of
`2 ^ (exponent - 2)`, and whether the ends belong to it. -/
structure RoundingInterval where
  low : Nat
  value : Nat
  high : Nat
  closed : Bool

def roundingInterval (mantissa : Nat) (exponent : Int) : RoundingInterval where
  low := 4 * mantissa - (if mantissa = Nat.pow 2 52 ∧ -1074 < exponent then 1 else 2)
  value := 4 * mantissa
  high := 4 * mantissa + 2
  closed := mantissa % 2 == 0

def RoundingInterval.holds (i : RoundingInterval) (unit point : Nat) : Bool :=
  if i.closed then decide (i.low * unit ≤ point) && decide (point ≤ i.high * unit)
  else decide (i.low * unit < point) && decide (point < i.high * unit)

def RoundingInterval.onGrid (i : RoundingInterval) (unit step : Nat) : Option Nat :=
  let v := i.value * unit
  let d := v / step
  let below := i.holds unit (d * step)
  let above := i.holds unit ((d + 1) * step)
  match below, above with
  | true, true =>
    let toBelow := v - d * step
    let toAbove := (d + 1) * step - v
    some (if toBelow < toAbove then d else if toAbove < toBelow then d + 1 else d + d % 2)
  | true, false => some d
  | false, true => some (d + 1)
  | false, false => none

def commonTerms (exponent g : Int) : Nat × Nat :=
  let e := exponent - 2
  (Nat.pow 2 e.toNat * Nat.pow 10 (-g).toNat, Nat.pow 2 (-e).toNat * Nat.pow 10 g.toNat)

def floorLog10 (num den : Nat) : Int :=
  let atLeast (k : Int) : Bool := decide (den * Nat.pow 10 k.toNat ≤ num * Nat.pow 10 (-k).toNat)
  let guess := (Int.ofNat num.log2 - Int.ofNat den.log2) * 30103 / 100000
  if atLeast (guess + 1) then guess + 1
  else if atLeast guess then guess
  else guess - 1

/-- Tries grids of ever finer steps; seventeen digits always suffice. -/
def searchGrids (i : RoundingInterval) (exponent : Int) : Nat → Int → Nat × Int
  | 0, g => (0, g)
  | tries + 1, g =>
    let (unit, step) := commonTerms exponent g
    match i.onGrid unit step with
    | some d => (d, g)
    | none => searchGrids i exponent tries (g - 1)

def dropZeros : Nat → Nat → Int → Nat × Int
  | 0, d, g => (d, g)
  | tries + 1, d, g => if d ≠ 0 ∧ d % 10 = 0 then dropZeros tries (d / 10) (g + 1) else (d, g)

def shortest (mantissa : Nat) (exponent : Int) : Nat × Int :=
  if mantissa = 0 then (0, 0) else
  let (num, den) := (Binary64.finite false mantissa exponent).magnitude
  let (d, g) := searchGrids (roundingInterval mantissa exponent) exponent 18 (floorLog10 num den)
  dropZeros 18 d g

def zeros (n : Nat) : List Char := List.replicate n '0'

def positional (digits : List Char) (e : Int) (pointZero : Bool) : List Char :=
  if 0 ≤ e then digits ++ zeros e.toNat ++ (if pointZero then ['.', '0'] else [])
  else
    let places := (-e).toNat
    if places < digits.length then
      digits.take (digits.length - places) ++ ['.'] ++ digits.drop (digits.length - places)
    else ['0', '.'] ++ zeros (places - digits.length) ++ digits

def scientific (digits : List Char) (e : Int) : List Char :=
  let leading := e + digits.length - 1
  let fraction := if digits.length ≤ 1 then [] else '.' :: digits.drop 1
  digits.take 1 ++ fraction ++ ['e', if leading < 0 then '-' else '+'] ++
    (toString leading.natAbs).toList

def signChars (negative : Bool) : List Char := if negative then ['-'] else []

def Binary64.interchange : Binary64 → List Char
  | .infinite s => signChars s ++ "inf".toList
  | .finite s m e =>
    let (d, g) := shortest m e
    let digits := (toString d).toList
    let leading := g + digits.length - 1
    signChars s ++
      (if -5 ≤ leading ∧ leading ≤ 15 then positional digits g true else scientific digits g)

def Binary64.plain : Binary64 → List Char
  | .infinite s => signChars s ++ "inf".toList
  | .finite s m e =>
    let (d, g) := shortest m e
    signChars s ++ positional (toString d).toList g false

end GraphqlBindings.Decimal

import GraphqlBindings.Json.Basic

/-!
Numbers as JSON texts write them, and their values. Digits are gathered into a 64-bit significand
until the next one no longer fits; the rest only counts as places. The significand is rounded to
binary64 and then multiplied or divided by one rounded power of ten.
-/

namespace GraphqlBindings.Json

open GraphqlBindings.Decimal

structure NumberLiteral where
  negative : Bool
  whole : List Nat
  fraction : List Nat
  exponent : Option (Bool × List Nat)
deriving Repr, Inhabited, BEq

def significandLimit : Nat := Nat.pow 2 64 - 1

def absorb (significand : Nat) : List Nat → Nat × Nat
  | [] => (significand, 0)
  | d :: ds =>
    if significandLimit < significand * 10 + d then (significand, ds.length + 1)
    else absorb (significand * 10 + d) ds

def ofDigits (ds : List Nat) : Nat := ds.foldl (fun n d => n * 10 + d) 0

/-- Divides by `10 ^ 308` until the exponent is in the table's range; `none` is out of range.
After three such steps every significand is zero. -/
def scaleByTens : Nat → Binary64 → Int → Option Binary64
  | 0, f, _ => some f
  | tries + 1, f, e =>
    if 308 < e.natAbs then
      if f.isZero then some f
      else if 0 ≤ e then none
      else scaleByTens tries (f.overMagnitude (Binary64.powerOfTen 308)) (e + 308)
    else if 0 ≤ e then
      let scaled := f.timesMagnitude (Binary64.powerOfTen e.natAbs)
      if scaled.isInfinite then none else some scaled
    else some (f.overMagnitude (Binary64.powerOfTen e.natAbs))

def NumberLiteral.value? (n : NumberLiteral) : Option Number :=
  let (significand, left) := absorb 0 n.whole
  let sign (f : Binary64) : Number := .double (if n.negative then f.neg else f)
  if left = 0 ∧ n.fraction.isEmpty ∧ n.exponent.isNone then
    if !n.negative then some (.integer significand)
    else if significand = 0 ∨ Nat.pow 2 63 < significand then
      some (sign (Binary64.ofQuotient false significand 1))
    else some (.integer (-(significand : Int)))
  else
    let (significand, leftOfFraction) := absorb significand n.fraction
    let places : Int := (left : Int) - ((n.fraction.length : Int) - leftOfFraction)
    let power : Int := match n.exponent with
      | none => 0
      | some (negative, ds) => if negative then -(ofDigits ds : Int) else ofDigits ds
    (scaleByTens 4 (Binary64.ofQuotient false significand 1) (places + power)).map sign

end GraphqlBindings.Json

namespace GraphqlBindings.Decimal

/-- A finite number is `± mantissa · 2 ^ exponent`. As rounding leaves it, the mantissa is below
`2 ^ 53` and the exponent from `-1074` to `971`, with `2 ^ 52 ≤ mantissa` above `-1074`. -/
inductive Binary64 where
  | finite (negative : Bool) (mantissa : Nat) (exponent : Int)
  | infinite (negative : Bool)
deriving DecidableEq, Repr, Inhabited

def roundHalfEven (num den : Nat) : Nat :=
  let q := num / den
  let r := num % den
  if 2 * r < den then q else if den < 2 * r then q + 1 else q + q % 2

def scaleBy (num den : Nat) (e : Int) : Nat × Nat :=
  if 0 ≤ e then (num, den * Nat.pow 2 e.toNat) else (num * Nat.pow 2 (-e).toNat, den)

def fittingExponent (num den : Nat) : Int :=
  let e : Int := max (Int.ofNat num.log2 - Int.ofNat den.log2 - 53) (-1074)
  let (n, d) := scaleBy num den e
  if Nat.pow 2 53 ≤ n / d then e + 1 else e

namespace Binary64

def zero (negative : Bool) : Binary64 := .finite negative 0 (-1074)

def ofQuotient (negative : Bool) (num den : Nat) : Binary64 :=
  if num = 0 then zero negative else
  let e := fittingExponent num den
  let (n, d) := scaleBy num den e
  let m := roundHalfEven n d
  let (m, e) := if m = Nat.pow 2 53 then (Nat.pow 2 52, e + 1) else (m, e)
  if 971 < e then .infinite negative else .finite negative m e

def isZero : Binary64 → Bool
  | finite _ m _ => m == 0
  | infinite _ => false

def isInfinite : Binary64 → Bool
  | finite .. => false
  | infinite _ => true

def neg : Binary64 → Binary64
  | finite s m e => finite (!s) m e
  | infinite s => infinite (!s)

def magnitude : Binary64 → Nat × Nat
  | finite _ m e => if 0 ≤ e then (m * Nat.pow 2 e.toNat, 1) else (m, Nat.pow 2 (-e).toNat)
  | infinite _ => (0, 1)

def timesMagnitude (a b : Binary64) : Binary64 :=
  let (n, d) := a.magnitude
  let (n', d') := b.magnitude
  ofQuotient false (n * n') (d * d')

def overMagnitude (a b : Binary64) : Binary64 :=
  let (n, d) := a.magnitude
  let (n', d') := b.magnitude
  ofQuotient false (n * d') (d * n')

def powerOfTen (k : Nat) : Binary64 := ofQuotient false (Nat.pow 10 k) 1

def ofDecimal (negative : Bool) (digits : Nat) (places : Nat) (e : Int) : Binary64 :=
  if digits = 0 then zero negative
  else if 400 < e + places then .infinite negative
  else if e + places < -400 then zero negative
  else if 0 ≤ e then ofQuotient negative (digits * Nat.pow 10 e.toNat) 1
  else ofQuotient negative digits (Nat.pow 10 (-e).toNat)

end Binary64

end GraphqlBindings.Decimal

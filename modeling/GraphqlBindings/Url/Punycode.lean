/-!
Labels of domain names outside ASCII, as digits of a mixed base: each code point is written as its
distance from the one before it, in the order of code points. Reading puts them back in.
-/

namespace GraphqlBindings.Url.Punycode

def digit (d : Nat) : Char := if d < 26 then Char.ofNat (97 + d) else Char.ofNat (22 + d)

def threshold (k bias : Nat) : Nat :=
  if k ≤ bias then 1 else if bias + 26 ≤ k then 26 else k - bias

def shrink : Nat → Nat → Nat → Nat × Nat
  | 0, delta, k => (delta, k)
  | fuel + 1, delta, k => if 455 < delta then shrink fuel (delta / 35) (k + 36) else (delta, k)

def adapt (delta count : Nat) (first : Bool) : Nat :=
  let delta := if first then delta / 700 else delta / 2
  let (delta, k) := shrink delta (delta + delta / count) 0
  k + 36 * delta / (delta + 38)

def digits (bias : Nat) : Nat → Nat → Nat → List Char
  | 0, _, _ => []
  | fuel + 1, q, k =>
    let t := threshold k bias
    if q < t then [digit q]
    else digit (t + (q - t) % (36 - t)) :: digits bias fuel ((q - t) / (36 - t)) (k + 36)

structure State where
  delta : Nat
  bias : Nat
  handled : Nat
  output : List Char

def scan (code base : Nat) (s : State) : List Nat → State
  | [] => s
  | n :: rest =>
    if n < code then scan code base { s with delta := s.delta + 1 } rest
    else if n = code then
      scan code base
        { delta := 0
          bias := adapt s.delta (s.handled + 1) (s.handled == base)
          handled := s.handled + 1
          output := s.output ++ digits s.bias (s.delta + 1) s.delta 36 } rest
    else scan code base s rest

def encodeFrom (label : List Nat) (base : Nat) (s : State) (last : Nat) : List Nat → List Char
  | [] => s.output
  | code :: rest =>
    let s := { s with delta := s.delta + (code - last) * (s.handled + 1) }
    let s := scan code base s label
    encodeFrom label base { s with delta := s.delta + 1 } (code + 1) rest

def encode (label : List Char) : List Char :=
  let codes := label.map Char.toNat
  let basic := label.filter (·.toNat < 0x80)
  let others := (codes.filter (0x80 ≤ ·)).eraseDups.mergeSort
  let output := if basic.isEmpty then [] else basic ++ ['-']
  encodeFrom codes basic.length ⟨0, 72, basic.length, output⟩ 128 others

def digitValue? (c : Char) : Option Nat :=
  if 'a' ≤ c ∧ c ≤ 'z' then some (c.toNat - 97)
  else if '0' ≤ c ∧ c ≤ '9' then some (c.toNat - 22)
  else none

structure Reader where
  position : Nat
  code : Nat
  bias : Nat
  output : List Char

/-- Puts in the code point of a number that has been read up to its last digit. `start` is the
position before that number. -/
def Reader.finish (r : Reader) (start : Nat) : Option Reader :=
  let count := r.output.length + 1
  let code := r.code + r.position / count
  let place := r.position % count
  if code.isValidChar then
    some
      { position := place + 1
        code := code
        bias := adapt (r.position - start) count (start == 0)
        output := r.output.insertIdx place (Char.ofNat code) }
  else none

def decodeFrom (r : Reader) (start weight k : Nat) : List Char → Option (List Char)
  | [] => if k = 36 then some r.output else none
  | c :: rest => do
    let d ← digitValue? c
    let t := threshold k r.bias
    let r := { r with position := r.position + d * weight }
    if d < t then
      let r ← r.finish start
      decodeFrom r r.position 1 36 rest
    else decodeFrom r start (weight * (36 - t)) (k + 36) rest

def decode (written : List Char) : Option (List Char) :=
  let numbers := (written.reverse.takeWhile (· != '-')).reverse
  let basic := written.take (written.length - numbers.length - 1)
  if written.head? = some '-' ∧ basic.isEmpty then none
  else decodeFrom ⟨0, 128, 72, basic⟩ 0 1 36 numbers

end GraphqlBindings.Url.Punycode

import GraphqlBindings.Url.Punycode
import GraphqlBindings.Text.Case

namespace GraphqlBindings.Url

def upperHex (n : Nat) : Char := (Nat.toDigits 16 (n % 16)).headD '0' |>.toUpper

def percentByte (b : UInt8) : List Char := ['%', upperHex (b.toNat / 16), upperHex b.toNat]

def isControl (c : Char) : Bool := decide (c.toNat < 0x20) || decide (0x7e < c.toNat)

def isFragmentUnsafe (c : Char) : Bool :=
  isControl c || [' ', '"', '<', '>', '\x60'].contains c

def isPathUnsafe (c : Char) : Bool := isFragmentUnsafe c || ['#', '?', '{', '}'].contains c

def isUserUnsafe (c : Char) : Bool :=
  isPathUnsafe c || ['/', ':', ';', '=', '@', '[', '\\', ']', '^', '|'].contains c

def isQueryUnsafe (c : Char) : Bool :=
  isControl c || [' ', '"', '#', '<', '>', '\''].contains c

def encodeChar (unsafeChar : Char → Bool) (c : Char) : List Char :=
  if unsafeChar c then (String.utf8EncodeChar c).flatMap percentByte else [c]

def encode (unsafeChar : Char → Bool) (cs : List Char) : String :=
  .ofList (cs.flatMap (encodeChar unsafeChar))

def hexValue? (c : Char) : Option Nat :=
  if '0' ≤ c ∧ c ≤ '9' then some (c.toNat - '0'.toNat)
  else if 'a' ≤ c ∧ c ≤ 'f' then some (c.toNat - 'a'.toNat + 10)
  else if 'A' ≤ c ∧ c ≤ 'F' then some (c.toNat - 'A'.toNat + 10)
  else none

def byteOf? (a b : Char) : Option UInt8 := do
  let x ← hexValue? a
  let y ← hexValue? b
  pure (UInt8.ofNat (x * 16 + y))

def decodeBytes : List Char → List UInt8
  | '%' :: a :: b :: rest =>
    match byteOf? a b with
    | some byte => byte :: decodeBytes rest
    | none => '%'.toUInt8 :: decodeBytes (a :: b :: rest)
  | c :: rest => String.utf8EncodeChar c ++ decodeBytes rest
  | [] => []

/-- The pieces of an `ipv6` address are eight words of 16 bits. -/
inductive Host where
  | domain (name : String)
  | ipv4 (address : Nat)
  | ipv6 (pieces : List Nat)
deriving DecidableEq, Repr, Inhabited

def splitAtChar (separator : Char) : List Char → List (List Char)
  | [] => [[]]
  | c :: rest =>
    if c = separator then [] :: splitAtChar separator rest
    else match splitAtChar separator rest with
      | [] => [[c]]
      | piece :: pieces => (c :: piece) :: pieces

def numberIn? (base : Nat) (cs : List Char) : Option Nat :=
  cs.foldl (fun n c => do
    let d ← hexValue? c
    if d < base then pure ((← n) * base + d) else none) (some 0)

def ipv4Number? : List Char → Option Nat
  | [] => none
  | ['0'] => some 0
  | '0' :: c :: rest => if c = 'x' ∨ c = 'X' then numberIn? 16 rest else numberIn? 8 (c :: rest)
  | cs => numberIn? 10 cs

def dropEmptyLast (parts : List (List Char)) : List (List Char) :=
  if parts.getLast? = some [] then parts.dropLast else parts

def endsInNumber (name : List Char) : Bool :=
  match (dropEmptyLast (splitAtChar '.' name)).getLast? with
  | some last =>
    (!last.isEmpty && last.all Text.isAsciiDigit) || (ipv4Number? last).isSome
  | none => false

def ipv4? (name : List Char) : Option Nat := do
  let parts := dropEmptyLast (splitAtChar '.' name)
  if 4 < parts.length then none
  let numbers ← parts.mapM ipv4Number?
  let last ← numbers.getLast?
  let leading := numbers.dropLast
  if leading.any (255 < ·) ∨ Nat.pow 256 (4 - leading.length) ≤ last then none
  pure (leading.zipIdx.foldl (fun sum (n, i) => sum + n * Nat.pow 256 (3 - i)) last)

def embeddedIpv4? (cs : List Char) : Option (List Nat) := do
  let parts := splitAtChar '.' cs
  if parts.length ≠ 4 then none
  let numbers ← parts.mapM fun part =>
    if part.isEmpty ∨ 3 < part.length ∨ (1 < part.length ∧ part.head? = some '0') then none
    else numberIn? 10 part
  match numbers with
  | [a, b, c, d] =>
    if a < 256 ∧ b < 256 ∧ c < 256 ∧ d < 256 then some [a * 256 + b, c * 256 + d] else none
  | _ => none

def ipv6Words? : List (List Char) → Option (List Nat)
  | [] => some []
  | [piece] =>
    if piece.contains '.' then embeddedIpv4? piece
    else if piece.isEmpty ∨ 4 < piece.length then none
    else (numberIn? 16 piece).map ([·])
  | piece :: rest => do
    if piece.isEmpty ∨ 4 < piece.length then none
    let word ← numberIn? 16 piece
    let words ← ipv6Words? rest
    pure (word :: words)

def splitDoubleColon : List Char → Option (List Char × List Char)
  | ':' :: ':' :: rest => some ([], rest)
  | c :: rest => (splitDoubleColon rest).map fun (before, rest) => (c :: before, rest)
  | [] => none

def ipv6Side? (cs : List Char) : Option (List Nat) :=
  if cs.isEmpty then some [] else ipv6Words? (splitAtChar ':' cs)

def ipv6? (cs : List Char) : Option (List Nat) :=
  match splitDoubleColon cs with
  | some (before, after) => do
    if before.contains '.' then none
    let left ← ipv6Side? before
    let right ← ipv6Side? after
    if 8 ≤ left.length + right.length then none
    pure (left ++ List.replicate (8 - left.length - right.length) 0 ++ right)
  | none => do
    let words ← ipv6Words? (splitAtChar ':' cs)
    if words.length = 8 then pure words else none

def isForbiddenInDomain (c : Char) : Bool :=
  decide (c.toNat ≤ 0x20) || c.toNat == 0x7f ||
    ['%', '#', '/', ':', '<', '>', '?', '@', '[', '\\', ']', '^', '|'].contains c

def isForbiddenInHost (c : Char) : Bool :=
  ['\x00', '\t', '\n', '\r', ' ', '#', '/', ':', '<', '>', '?', '@', '[', '\\', ']', '^',
    '|'].contains c

def foldDomainChar (c : Char) : List Char :=
  let n := c.toNat
  if n = 0x3002 ∨ n = 0xff0e ∨ n = 0xff61 then ['.']
  else if n = 0xad ∨ n = 0x200b ∨ n = 0x2060 ∨ n = 0xfeff then []
  else if 0xff01 ≤ n ∧ n ≤ 0xff5e then Text.toSmall (Char.ofNat (n - 0xfee0))
  else Text.toSmall c

def isAscii (label : List Char) : Bool := label.all (·.toNat < 0x80)

def encodedMark : List Char := ['x', 'n', '-', '-']

def encodedLabel? (label : List Char) : Option (List Char) :=
  if isAscii label ∨ label.any fun c => decide (0x80 ≤ c.toNat) && decide (c.toNat < 0xa0) then none
  else some (encodedMark ++ Punycode.encode label)

def isWellEncoded (written : List Char) : Bool :=
  match Punycode.decode (written.drop 4) with
  | some label =>
    label.flatMap foldDomainChar == label && encodedLabel? label == some written
  | none => false

def asciiLabel? (label : List Char) : Option (List Char) :=
  if !isAscii label then encodedLabel? label
  else if label.take 4 = encodedMark ∧ !isWellEncoded label then none
  else some label

def domain? (name : List Char) : Option (List Char) := do
  let text ← String.fromUTF8? ⟨(decodeBytes name).toArray⟩
  let folded := text.toList.flatMap foldDomainChar
  let labels ← (splitAtChar '.' folded).mapM asciiLabel?
  let ascii := ['.'].intercalate labels
  if ascii.any isForbiddenInDomain then none else pure ascii

def bracketed? (cs : List Char) : Option (List Nat) :=
  match cs with
  | '[' :: rest => if rest.getLast? = some ']' then ipv6? rest.dropLast else none
  | _ => none

namespace Host

def parse? (cs : List Char) : Option Host :=
  if cs.head? = some '[' then (bracketed? cs).map .ipv6
  else do
    let name ← domain? cs
    if name.isEmpty then none
    if endsInNumber name then (ipv4? name).map .ipv4
    else pure (.domain (.ofList name))

def isOpaque (cs : List Char) : Bool :=
  if cs.head? = some '[' then (bracketed? cs).isSome else !cs.any isForbiddenInHost

def hexText (n : Nat) : String := .ofList (Nat.toDigits 16 n)

def zeroRuns : List Nat → List Nat
  | [] => []
  | n :: rest =>
    let runs := zeroRuns rest
    (if n = 0 then runs.headD 0 + 1 else 0) :: runs

def longestRun (pieces : List Nat) : Option (Nat × Nat) :=
  let runs := zeroRuns pieces
  let longest := runs.foldl max 0
  if longest < 2 then none else (runs.idxOf? longest).map fun i => (i, longest)

def ipv6Text (pieces : List Nat) : String :=
  let side (ps : List Nat) := ":".intercalate (ps.map hexText)
  match longestRun pieces with
  | none => side pieces
  | some (i, n) => side (pieces.take i) ++ "::" ++ side (pieces.drop (i + n))

def text : Host → String
  | domain name => name
  | ipv4 n =>
    let parts := [n / 0x1000000, n / 0x10000 % 0x100, n / 0x100 % 0x100, n % 0x100]
    ".".intercalate (parts.map toString)
  | ipv6 pieces => "[" ++ ipv6Text pieces ++ "]"

end Host

end GraphqlBindings.Url

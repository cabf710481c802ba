import GraphqlBindings.Text.CaseTable

/-!
Capital and small letters. Mappings are the full Unicode ones: a character may turn into
several, and a capital sigma that ends a word has a small form of its own.
-/

namespace GraphqlBindings.Text

def isAsciiUpper (c : Char) : Bool := decide ('A' ≤ c) && decide (c ≤ 'Z')

def isAsciiLower (c : Char) : Bool := decide ('a' ≤ c) && decide (c ≤ 'z')

def isAsciiDigit (c : Char) : Bool := decide ('0' ≤ c) && decide (c ≤ '9')

def isAsciiLetter (c : Char) : Bool := isAsciiUpper c || isAsciiLower c

def isCapital (c : Char) : Bool :=
  if c.toNat < 0x80 then isAsciiUpper c else inStretches capitals c.toNat

def isSmall (c : Char) : Bool :=
  if c.toNat < 0x80 then isAsciiLower c else inStretches smalls c.toNat

def hasCase (c : Char) : Bool :=
  if c.toNat < 0x80 then isAsciiLetter c else inStretches casedLetters c.toNat

def isCaseIgnorable (c : Char) : Bool :=
  if c.toNat < 0x80 then ['\'', '.', ':', '^', '\x60'].contains c
  else inStretches caseIgnorables c.toNat

def mapCode (sequences : Array (Nat × List Nat)) (offsets : Array (Nat × Nat × Nat × Int))
    (c : Char) : List Char :=
  match sequences.find? (·.1 == c.toNat) with
  | some (_, codes) => codes.map Char.ofNat
  | none =>
    let holds (entry : Nat × Nat × Nat × Int) : Bool :=
      Stretch.contains ⟨entry.1, entry.2.1, entry.2.2.1⟩ c.toNat
    match offsets.find? holds with
    | some (_, _, _, offset) => [Char.ofNat (c.toNat + offset).toNat]
    | none => [c]

def toSmall (c : Char) : List Char :=
  if c.toNat < 0x80 then [if isAsciiUpper c then Char.ofNat (c.toNat + 32) else c]
  else mapCode toSmallSequences toSmallOffsets c

def toCapital (c : Char) : List Char :=
  if c.toNat < 0x80 then [if isAsciiLower c then Char.ofNat (c.toNat - 32) else c]
  else mapCode toCapitalSequences toCapitalOffsets c

def nextToCased (cs : List Char) : Bool :=
  ((cs.dropWhile isCaseIgnorable).head?.map hasCase).getD false

/-- Small letters of a word; `before` is what has been read of it, last character first. -/
def smallFrom (before : List Char) : List Char → List Char
  | [] => []
  | c :: rest =>
    (if c = 'Σ' then [if nextToCased before && !nextToCased rest then 'ς' else 'σ']
      else toSmall c) ++ smallFrom (c :: before) rest

def toSmallWord (word : List Char) : List Char := smallFrom [] word

def capitalize : List Char → List Char
  | [] => []
  | c :: rest => toCapital c ++ rest.flatMap toSmall

end GraphqlBindings.Text

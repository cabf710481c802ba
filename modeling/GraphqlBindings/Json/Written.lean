import GraphqlBindings.Json.Number

/-!
JSON texts as they are written: members in their order with repetitions, numbers not yet
evaluated, and texts whose escapes do not make characters marked as such. A reader that passes
over a part of the text needs no more than its form; `Written.value?` asks for the rest.
-/

namespace GraphqlBindings.Json

/-- `string none` is a text with half of a surrogate pair; so is a key `none`. -/
inductive Written where
  | null
  | bool (value : Bool)
  | number (literal : NumberLiteral)
  | string (text : Option String)
  | array (items : List Written)
  | object (members : List (Option String × Written))
deriving Repr, Inhabited

def isSpace (c : Char) : Bool := c == ' ' || c == '\n' || c == '\t' || c == '\r'

def skipSpaces (cs : List Char) : List Char := cs.dropWhile isSpace

def digit? (c : Char) : Option Nat :=
  if '0' ≤ c ∧ c ≤ '9' then some (c.toNat - '0'.toNat) else none

def hexDigit? (c : Char) : Option Nat :=
  if '0' ≤ c ∧ c ≤ '9' then some (c.toNat - '0'.toNat)
  else if 'a' ≤ c ∧ c ≤ 'f' then some (c.toNat - 'a'.toNat + 10)
  else if 'A' ≤ c ∧ c ≤ 'F' then some (c.toNat - 'A'.toNat + 10)
  else none

def takeDigits : List Char → List Nat × List Char
  | [] => ([], [])
  | c :: rest =>
    match digit? c with
    | some d => let (ds, rest) := takeDigits rest; (d :: ds, rest)
    | none => ([], c :: rest)

def hex4? (a b c d : Char) : Option Nat := do
  let a ← hexDigit? a
  let b ← hexDigit? b
  let c ← hexDigit? c
  let d ← hexDigit? d
  pure (((a * 16 + b) * 16 + c) * 16 + d)

inductive Piece where
  | char (c : Char)
  | unit (code : Nat)

def isHighHalf (code : Nat) : Bool := decide (0xd800 ≤ code) && decide (code < 0xdc00)

def isLowHalf (code : Nat) : Bool := decide (0xdc00 ≤ code) && decide (code < 0xe000)

def joinPieces : List Piece → Option (List Char)
  | [] => some []
  | .char c :: rest => (joinPieces rest).map (c :: ·)
  | .unit a :: .unit b :: rest =>
    if isHighHalf a then
      if isLowHalf b then
        (joinPieces rest).map (Char.ofNat (0x10000 + (a - 0xd800) * 0x400 + (b - 0xdc00)) :: ·)
      else none
    else if isLowHalf a then none
    else (joinPieces (.unit b :: rest)).map (Char.ofNat a :: ·)
  | .unit a :: rest =>
    if isHighHalf a || isLowHalf a then none else (joinPieces rest).map (Char.ofNat a :: ·)

def escaped? (c : Char) : Option Char :=
  match c with
  | '"' => some '"'
  | '\\' => some '\\'
  | '/' => some '/'
  | 'b' => some '\x08'
  | 'f' => some '\x0c'
  | 'n' => some '\n'
  | 'r' => some '\r'
  | 't' => some '\t'
  | _ => none

def takePieces : List Char → Option (List Piece × List Char)
  | [] => none
  | '"' :: rest => some ([], rest)
  | '\\' :: 'u' :: a :: b :: c :: d :: rest => do
    let code ← hex4? a b c d
    let (pieces, rest) ← takePieces rest
    pure (.unit code :: pieces, rest)
  | '\\' :: c :: rest => do
    let e ← escaped? c
    let (pieces, rest) ← takePieces rest
    pure (.char e :: pieces, rest)
  | c :: rest =>
    if c.toNat < 0x20 then none else do
      let (pieces, rest) ← takePieces rest
      pure (.char c :: pieces, rest)

def takeText (cs : List Char) : Option (Option String × List Char) := do
  let (pieces, rest) ← takePieces cs
  pure ((joinPieces pieces).map String.ofList, rest)

def takeFraction : List Char → Option (List Nat × List Char)
  | '.' :: rest =>
    let (ds, rest) := takeDigits rest
    if ds.isEmpty then none else some (ds, rest)
  | cs => some ([], cs)

def takeExponent (cs : List Char) : Option (Option (Bool × List Nat) × List Char) :=
  match cs with
  | c :: rest =>
    if c == 'e' || c == 'E' then
      let (negative, rest) := match rest with
        | '-' :: rest => (true, rest)
        | '+' :: rest => (false, rest)
        | rest => (false, rest)
      let (ds, rest) := takeDigits rest
      if ds.isEmpty then none else some (some (negative, ds), rest)
    else some (none, cs)
  | [] => some (none, [])

def takeNumber (negative : Bool) (cs : List Char) : Option (NumberLiteral × List Char) := do
  let (whole, rest) := takeDigits cs
  guard (!whole.isEmpty && (whole.head? != some 0 || whole.length == 1))
  let (fraction, rest) ← takeFraction rest
  let (exponent, rest) ← takeExponent rest
  pure (⟨negative, whole, fraction, exponent⟩, rest)

mutual

def takeWritten : Nat → List Char → Option (Written × List Char)
  | 0, _ => none
  | fuel + 1, cs =>
    match skipSpaces cs with
    | 'n' :: 'u' :: 'l' :: 'l' :: rest => some (.null, rest)
    | 't' :: 'r' :: 'u' :: 'e' :: rest => some (.bool true, rest)
    | 'f' :: 'a' :: 'l' :: 's' :: 'e' :: rest => some (.bool false, rest)
    | '"' :: rest => (takeText rest).map fun (text, rest) => (.string text, rest)
    | '[' :: rest =>
      match skipSpaces rest with
      | ']' :: rest => some (.array [], rest)
      | rest => (takeItems fuel rest).map fun (items, rest) => (.array items, rest)
    | '{' :: rest =>
      match skipSpaces rest with
      | '}' :: rest => some (.object [], rest)
      | rest => (takeMembers fuel rest).map fun (members, rest) => (.object members, rest)
    | '-' :: rest => (takeNumber true rest).map fun (n, rest) => (.number n, rest)
    | rest => (takeNumber false rest).map fun (n, rest) => (.number n, rest)

def takeItems : Nat → List Char → Option (List Written × List Char)
  | 0, _ => none
  | fuel + 1, cs => do
    let (item, rest) ← takeWritten fuel cs
    match skipSpaces rest with
    | ']' :: rest => pure ([item], rest)
    | ',' :: rest =>
      let (items, rest) ← takeItems fuel rest
      pure (item :: items, rest)
    | _ => none

def takeMembers : Nat → List Char → Option (List (Option String × Written) × List Char)
  | 0, _ => none
  | fuel + 1, cs =>
    match skipSpaces cs with
    | '"' :: rest => do
      let (key, rest) ← takeText rest
      match skipSpaces rest with
      | ':' :: rest =>
        let (value, rest) ← takeWritten fuel rest
        match skipSpaces rest with
        | '}' :: rest => pure ([(key, value)], rest)
        | ',' :: rest =>
          let (members, rest) ← takeMembers fuel rest
          pure ((key, value) :: members, rest)
        | _ => none
      | _ => none
    | _ => none

end

def Written.ofText? (text : String) : Option Written :=
  let cs := text.toList
  match takeWritten (2 * cs.length + 1) cs with
  | some (w, rest) => if (skipSpaces rest).isEmpty then some w else none
  | none => none

mutual

def Written.value? (depth : Nat) : Written → Option Json
  | .null => some .null
  | .bool b => some (.bool b)
  | .number n => n.value?.map .number
  | .string text => text.map .string
  | .array items =>
    match depth with
    | 0 => none
    | depth + 1 => (valuesOf? depth items).map .array
  | .object members =>
    match depth with
    | 0 => none
    | depth + 1 => (membersOf? depth members).map Json.objectOf

def valuesOf? (depth : Nat) : List Written → Option (List Json)
  | [] => some []
  | w :: rest => do
    let v ← w.value? depth
    let vs ← valuesOf? depth rest
    pure (v :: vs)

def membersOf? (depth : Nat) : List (Option String × Written) → Option (List (String × Json))
  | [] => some []
  | (key, w) :: rest => do
    let key ← key
    let v ← w.value? depth
    let vs ← membersOf? depth rest
    pure ((key, v) :: vs)

end

def depthLimit : Nat := 127

def ofText? (text : String) : Option Json :=
  (Written.ofText? text).bind (·.value? depthLimit)

end GraphqlBindings.Json

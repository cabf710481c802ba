import GraphqlBindings.Yaml.Character

namespace GraphqlBindings.Yaml

def hexValue? (c : Char) : Option Nat :=
  if isDigit c then some (c.toNat - '0'.toNat)
  else if 'a' ≤ c ∧ c ≤ 'f' then some (c.toNat - 'a'.toNat + 10)
  else if 'A' ≤ c ∧ c ≤ 'F' then some (c.toNat - 'A'.toNat + 10)
  else none

def takeHex : Nat → Nat → List Char → Option (Nat × List Char)
  | 0, value, cs => some (value, cs)
  | n + 1, value, c :: rest => do
    let d ← hexValue? c
    takeHex n (value * 16 + d) rest
  | _ + 1, _, [] => none

def charOf? (code : Nat) : Option Char :=
  if code < 0xd800 ∨ (0xe000 ≤ code ∧ code < 0x110000) then some (Char.ofNat code) else none

def codeLength? : Char → Option Nat
  | 'x' => some 2
  | 'u' => some 4
  | 'U' => some 8
  | _ => none

def escaped? : Char → Option Char
  | '0' => some '\x00'
  | 'a' => some '\x07'
  | 'b' => some '\x08'
  | 't' => some '\t'
  | '\t' => some '\t'
  | 'n' => some '\n'
  | 'v' => some '\x0b'
  | 'f' => some '\x0c'
  | 'r' => some '\r'
  | 'e' => some '\x1b'
  | ' ' => some ' '
  | '"' => some '"'
  | '/' => some '/'
  | '\\' => some '\\'
  | 'N' => some '\u0085'
  | '_' => some '\u00a0'
  | 'L' => some '\u2028'
  | 'P' => some '\u2029'
  | _ => none

def takeEscape : List Char → Option (Char × List Char)
  | [] => none
  | c :: rest =>
    match codeLength? c with
    | some n => do
      let (code, rest) ← takeHex n 0 rest
      let char ← charOf? code
      pure (char, rest)
    | none => (escaped? c).map fun char => (char, rest)

def isGap (c : Char) : Bool := isBlank c || isBreak c

def takeGap (cs : List Char) : List Char × List Char := (cs.takeWhile isGap, cs.dropWhile isGap)

def endsWithBreak (gap : List Char) : Bool := (gap.getLast?.map isBreak).getD false

def takeSingleQuoted : Nat → Bool → List Char → Option (List Char × List Char)
  | 0, _, _ => none
  | fuel + 1, lineStart, cs =>
    if lineStart && atDocumentMark cs then none else
    match cs with
    | '\'' :: '\'' :: rest => do
      let (text, rest) ← takeSingleQuoted fuel false rest
      pure ('\'' :: text, rest)
    | '\'' :: rest => some ([], rest)
    | c :: rest =>
      if isGap c then do
        let (gap, rest) := takeGap (c :: rest)
        let (text, rest) ← takeSingleQuoted fuel (endsWithBreak gap) rest
        pure (fold false gap ++ text, rest)
      else do
        let (text, rest) ← takeSingleQuoted fuel false rest
        pure (c :: text, rest)
    | [] => none

def takeDoubleQuoted : Nat → Bool → List Char → Option (List Char × List Char)
  | 0, _, _ => none
  | fuel + 1, lineStart, cs =>
    if lineStart && atDocumentMark cs then none else
    match cs with
    | '"' :: rest => some ([], rest)
    | '\\' :: rest =>
      match takeBreak rest with
      | some (_, rest) => do
        let (gap, rest) := takeGap rest
        let (text, rest) ← takeDoubleQuoted fuel (gap.isEmpty || endsWithBreak gap) rest
        pure (fold true gap ++ text, rest)
      | none => do
        let (char, rest) ← takeEscape rest
        let (text, rest) ← takeDoubleQuoted fuel false rest
        pure (char :: text, rest)
    | c :: rest =>
      if isGap c then do
        let (gap, rest) := takeGap (c :: rest)
        let (text, rest) ← takeDoubleQuoted fuel (endsWithBreak gap) rest
        pure (fold false gap ++ text, rest)
      else do
        let (text, rest) ← takeDoubleQuoted fuel false rest
        pure (c :: text, rest)
    | [] => none

def isFlowMark (c : Char) : Bool := c == ',' || c == '[' || c == ']' || c == '{' || c == '}'

def takePlainPiece (inFlow : Bool) : List Char → Option (List Char × List Char)
  | [] => some ([], [])
  | c :: rest =>
    if isGap c then some ([], c :: rest)
    else if inFlow && c == ':' &&
        ((rest.head?.map fun d => isFlowMark d || d == '?').getD false) then
      none
    else if (c == ':' && atGap rest) || (inFlow && isFlowMark c) then some ([], c :: rest)
    else (takePlainPiece inFlow rest).map fun (piece, rest) => (c :: piece, rest)

def hasBadTab (indent : Nat) (column : Option Nat) : List Char → Bool
  | [] => false
  | c :: rest =>
    if isBreak c then hasBadTab indent (some 0) rest
    else match column with
      | none => hasBadTab indent none rest
      | some n => (c == '\t' && decide (n < indent)) || hasBadTab indent (some (n + 1)) rest

def columnBehind (gap : List Char) : Option Nat :=
  if gap.any isBreak then some (gap.reverse.takeWhile isBlank).length else none

/-- The rest of a plain scalar behind its first piece: pieces with gaps between them, each in a
line that is indented enough. The flag says whether the last gap has a break. -/
def takePlainRest (inFlow : Bool) (indent : Nat) : Nat → List Char →
    Option (List Char × Bool × List Char)
  | 0, _ => none
  | fuel + 1, cs =>
    let (gap, rest) := takeGap cs
    if gap.isEmpty then some ([], false, cs)
    else if hasBadTab indent none gap then none
    else
      let column := columnBehind gap
      if (!inFlow && (column.map fun n => decide (n < indent)).getD false) ||
          rest.head? == some '#' || (column == some 0 && atDocumentMark rest) then
        some ([], column.isSome, rest)
      else do
        let (piece, after) ← takePlainPiece inFlow rest
        if piece.isEmpty then some ([], column.isSome, rest)
        else
          let (text, broken, after) ← takePlainRest inFlow indent fuel after
          pure (fold false gap ++ piece ++ text, broken, after)

inductive Chomping where
  | strip
  | clip
  | keep

def takeBlockHeader : List Char → Option (Chomping × Option Nat × List Char)
  | cs =>
    let chomping (c : Char) : Option Chomping :=
      if c = '+' then some .keep else if c = '-' then some .strip else none
    let width (c : Char) : Option Nat := if isDigit c then some (c.toNat - '0'.toNat) else none
    match cs with
    | a :: b :: rest =>
      match chomping a, width a with
      | some ch, _ =>
        match width b with
        | some n => if n = 0 then none else some (ch, some n, rest)
        | none => some (ch, none, b :: rest)
      | none, some n =>
        if n = 0 then none else
        match chomping b with
        | some ch => some (ch, some n, rest)
        | none => some (.clip, some n, b :: rest)
      | none, none => some (.clip, none, cs)
    | [a] =>
      match chomping a, width a with
      | some ch, _ => some (ch, none, [])
      | none, some n => if n = 0 then none else some (.clip, some n, [])
      | none, none => some (.clip, none, cs)
    | [] => some (.clip, none, [])

def finishLine (cs : List Char) : Option (List Char) :=
  let cs := cs.dropWhile isBlank
  let cs := if cs.head? == some '#' then cs.dropWhile (!isBreak ·) else cs
  if !atLineEnd cs then none
  else match takeBreak cs with
    | some (_, rest) => some rest
    | none => some cs

structure BlockGap where
  breaks : List Char
  column : Nat
  widest : Nat
  rest : List Char

def takeBlockGap (indent : Option Nat) (column widest : Nat) : List Char → Option BlockGap
  | [] => some ⟨[], column, max widest column, []⟩
  | '\r' :: '\n' :: rest => (takeBlockGap indent 0 (max widest column) rest).map fun g =>
      { g with breaks := '\n' :: g.breaks }
  | c :: rest =>
    let inside := (indent.map fun n => decide (column < n)).getD true
    if c = ' ' ∧ inside then takeBlockGap indent (column + 1) widest rest
    else if c = '\t' ∧ inside then none
    else if isBreak c then (takeBlockGap indent 0 (max widest column) rest).map fun g =>
      { g with breaks := (if c = '\u2028' ∨ c = '\u2029' then c else '\n') :: g.breaks }
    else some ⟨[], column, max widest column, c :: rest⟩

def joinBlockLines (literal : Bool) (lineBreak : List Char) (breaks : List Char)
    (blankBefore blankAfter : Bool) : List Char :=
  if !literal && lineBreak == ['\n'] && !blankBefore && !blankAfter then
    if breaks.isEmpty then [' '] else breaks
  else lineBreak ++ breaks

/-- Lines of a block scalar with this indentation. `lineBreak` and `breaks` are those behind the
text so far. Each round takes a line. -/
def takeBlockLines (literal : Bool) (chomping : Chomping) (indent : Nat) :
    Nat → List Char → Bool → BlockGap → Option (List Char × List Char)
  | 0, _, _, _ => none
  | fuel + 1, lineBreak, blankBefore, gap =>
    if gap.column = indent ∧ !gap.rest.isEmpty then do
      let blank := (gap.rest.head?.map isBlank).getD false
      let joined := joinBlockLines literal lineBreak gap.breaks blankBefore blank
      let line := gap.rest.takeWhile (!isBreak ·)
      let (newBreak, rest) := match takeBreak (gap.rest.dropWhile (!isBreak ·)) with
        | some (b, rest) => ([b], rest)
        | none => ([], [])
      let column := if newBreak.isEmpty then indent + line.length else 0
      let next ← takeBlockGap (some indent) column 0 rest
      let (text, rest) ← takeBlockLines literal chomping indent fuel newBreak blank next
      pure (joined ++ line ++ text, rest)
    else
      let tail := match chomping with
        | .strip => []
        | .clip => lineBreak
        | .keep => lineBreak ++ gap.breaks
      some (tail, gap.rest)

def takeBlockScalar (literal : Bool) (parent : Int) (cs : List Char) :
    Option (List Char × List Char) := do
  let (chomping, width, rest) ← takeBlockHeader cs
  let rest ← finishLine rest
  let given : Option Nat := width.map fun n => if 0 ≤ parent then parent.toNat + n else n
  let gap ← takeBlockGap given 0 0 rest
  let indent := given.getD (max gap.widest (max (parent + 1).toNat 1))
  takeBlockLines literal chomping indent (rest.length + 1) [] false gap

end GraphqlBindings.Yaml

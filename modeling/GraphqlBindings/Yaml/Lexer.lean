import GraphqlBindings.Yaml.Token

/-!
From characters to tokens. Indentation opens and closes blocks, and a colon makes what stands in
front of it a key: its token is put where the key began.
-/

namespace GraphqlBindings.Yaml

/-- A place where a key may have begun. A required one stands where a block expects a key. -/
structure PossibleKey where
  required : Bool
  token : Nat
  mark : Mark
deriving Repr, Inhabited

/-- `keys` has the possible key of each open bracket, the innermost first, and of the block around
them. `indents` are the indentations of the blocks around the one of `indent`. -/
structure Lexer where
  rest : List Char
  mark : Mark
  indent : Int
  indents : List Int
  keyAllowed : Bool
  keys : List (Option PossibleKey)
  tokens : Array Token
deriving Repr, Inhabited

namespace Lexer

def start (cs : List Char) : Lexer where
  rest := cs
  mark := ⟨0, 0, 0⟩
  indent := -1
  indents := []
  keyAllowed := true
  keys := [none]
  tokens := #[]

def inFlow (l : Lexer) : Bool := decide (1 < l.keys.length)

def moveTo (l : Lexer) (rest : List Char) : Lexer :=
  { l with rest, mark := l.mark.advance (l.rest.take (l.rest.length - rest.length)) }

def skip (l : Lexer) (n : Nat) : Lexer := l.moveTo (l.rest.drop n)

def emit (l : Lexer) (t : Token) : Lexer := { l with tokens := l.tokens.push t }

def insertAt (l : Lexer) (i : Nat) (t : Token) : Lexer :=
  { l with tokens := l.tokens.extract 0 i ++ #[t] ++ l.tokens.extract i l.tokens.size }

def allowKey (l : Lexer) (allowed : Bool) : Lexer := { l with keyAllowed := allowed }

def skipToToken : Nat → Lexer → Lexer
  | 0, l => l
  | fuel + 1, l =>
    let rest := if l.mark.column = 0 ∧ l.rest.head? = some '\ufeff' then l.rest.drop 1 else l.rest
    let tabs := l.inFlow || !l.keyAllowed
    let rest := rest.dropWhile fun c => c == ' ' || (tabs && c == '\t')
    let rest := if rest.head? == some '#' then rest.dropWhile (!isBreak ·) else rest
    match takeBreak rest with
    | some (_, rest) =>
      let l := l.moveTo rest
      skipToToken fuel (if l.inFlow then l else l.allowKey true)
    | none => l.moveTo rest

def isStale (m : Mark) (k : PossibleKey) : Bool :=
  decide (k.mark.line < m.line) || decide (k.mark.index + 1024 < m.index)

def dropStaleKeys (l : Lexer) : Option Lexer :=
  if l.keys.any fun k => (k.map fun k => isStale l.mark k && k.required).getD false then none
  else some { l with keys := l.keys.map fun k => k.filter fun k => !isStale l.mark k }

def removeKey (l : Lexer) : Option Lexer :=
  match l.keys with
  | some k :: keys => if k.required then none else some { l with keys := none :: keys }
  | _ => some l

def saveKey (l : Lexer) : Option Lexer :=
  if l.keyAllowed then do
    let required := !l.inFlow && l.indent == (l.mark.column : Int)
    let l ← l.removeKey
    pure { l with keys := some ⟨required, l.tokens.size, l.mark⟩ :: l.keys.drop 1 }
  else some l

def openBlock (l : Lexer) (column i : Nat) (t : Token) : Lexer :=
  if !l.inFlow && decide (l.indent < (column : Int)) then
    { l.insertAt i t with indent := (column : Int), indents := l.indent :: l.indents }
  else l

def closeBlocks (column : Int) (indents : List Int) (l : Lexer) : Lexer :=
  if !l.inFlow && decide (column < l.indent) then
    match indents with
    | outer :: indents =>
      closeBlocks column indents { l.emit .blockEnd with indent := outer, indents }
    | [] => l
  else l

def unroll (l : Lexer) (column : Int) : Lexer := closeBlocks column l.indents l

def lexMark (l : Lexer) (t : Token) (rest : List Char) : Option Lexer := do
  let l ← (l.unroll (-1)).removeKey
  pure (((l.allowKey false).moveTo rest).emit t)

def openFlow (l : Lexer) (t : Token) : Option Lexer := do
  let l ← l.saveKey
  pure (({ l with keys := none :: l.keys, keyAllowed := true }.skip 1).emit t)

def closeFlow (l : Lexer) (t : Token) : Option Lexer := do
  let l ← l.removeKey
  let keys := if l.inFlow then l.keys.drop 1 else l.keys
  pure (({ l with keys, keyAllowed := false }.skip 1).emit t)

def lexFlowEntry (l : Lexer) : Option Lexer := do
  let l ← l.removeKey
  pure (((l.allowKey true).skip 1).emit .flowEntry)

def lexBlockEntry (l : Lexer) : Option Lexer := do
  if !l.inFlow && !l.keyAllowed then none
  let l := l.openBlock l.mark.column l.tokens.size .blockSequenceStart
  let l ← l.removeKey
  pure (((l.allowKey true).skip 1).emit .blockEntry)

def lexKey (l : Lexer) : Option Lexer := do
  if !l.inFlow && !l.keyAllowed then none
  let l := l.openBlock l.mark.column l.tokens.size .blockMappingStart
  let l ← l.removeKey
  pure (((l.allowKey (!l.inFlow)).skip 1).emit .key)

def lexValue (l : Lexer) : Option Lexer :=
  match l.keys with
  | some k :: keys =>
    let l := (l.insertAt k.token .key).openBlock k.mark.column k.token .blockMappingStart
    some ((({ l with keys := none :: keys }.allowKey false).skip 1).emit .value)
  | _ =>
    if !l.inFlow && !l.keyAllowed then none
    else
      let l := l.openBlock l.mark.column l.tokens.size .blockMappingStart
      some (((l.allowKey (!l.inFlow)).skip 1).emit .value)

def lexItem (l : Lexer) (item : Option (Token × List Char)) : Option Lexer := do
  let l ← l.saveKey
  let (t, rest) ← item
  pure (((l.allowKey false).moveTo rest).emit t)

def lexQuoted (l : Lexer) (taken : Option (List Char × List Char)) : Option Lexer :=
  l.lexItem (taken.map fun (text, rest) => (.scalar .quoted (.ofList text), rest))

def lexBlockScalar (l : Lexer) (literal : Bool) : Option Lexer := do
  let l ← l.removeKey
  let (text, rest) ← takeBlockScalar literal l.indent (l.rest.drop 1)
  let style := if literal then ScalarStyle.literal else .folded
  pure (((l.allowKey true).moveTo rest).emit (.scalar style (.ofList text)))

def lexPlain (l : Lexer) : Option Lexer := do
  let l ← l.saveKey
  let (piece, rest) ← takePlainPiece l.inFlow l.rest
  let (text, broken, rest) ←
    takePlainRest l.inFlow (l.indent + 1).toNat (rest.length + 1) rest
  pure (((l.allowKey broken).moveTo rest).emit (.scalar .plain (.ofList (piece ++ text))))

def isIndicator (c : Char) : Bool :=
  ['-', '?', ':', ',', '[', ']', '{', '}', '#', '&', '*', '!', '|', '>', '\'', '"', '%', '@',
    '\x60'].contains c

def beginsPlain (inFlow : Bool) (c : Char) (rest : List Char) : Bool :=
  !(isIndicator c || isBlank c || isBreak c) ||
    (c == '-' && !(rest.head?.map isBlank).getD false) ||
    (!inFlow && (c == '?' || c == ':') && !atGap rest)

def lexToken (l : Lexer) (c : Char) (rest : List Char) : Option Lexer :=
  if l.mark.column = 0 ∧ c = '%' then do
    let (t, rest) ← takeDirective rest
    l.lexMark t rest
  else if l.mark.column = 0 ∧ atDocumentMark l.rest then
    l.lexMark (if c = '-' then .documentStart else .documentEnd) (l.rest.drop 3)
  else if c = '[' then l.openFlow .flowSequenceStart
  else if c = '{' then l.openFlow .flowMappingStart
  else if c = ']' then l.closeFlow .flowSequenceEnd
  else if c = '}' then l.closeFlow .flowMappingEnd
  else if c = ',' then l.lexFlowEntry
  else if c = '-' ∧ atGap rest then l.lexBlockEntry
  else if c = '?' ∧ (l.inFlow ∨ atGap rest) then l.lexKey
  else if c = ':' ∧ (l.inFlow ∨ atGap rest) then l.lexValue
  else if c = '*' then l.lexItem ((takeAnchorName rest).map fun (n, rest) => (.alias n, rest))
  else if c = '&' then l.lexItem ((takeAnchorName rest).map fun (n, rest) => (.anchor n, rest))
  else if c = '!' then l.lexItem (takeTag l.inFlow l.rest)
  else if c = '|' ∧ !l.inFlow then l.lexBlockScalar true
  else if c = '>' ∧ !l.inFlow then l.lexBlockScalar false
  else if c = '\'' then l.lexQuoted (takeSingleQuoted (rest.length + 1) false rest)
  else if c = '"' then l.lexQuoted (takeDoubleQuoted (rest.length + 1) false rest)
  else if beginsPlain l.inFlow c rest then l.lexPlain
  else none

def finish (l : Lexer) : Option Lexer := (l.unroll (-1)).removeKey

def run : Nat → Lexer → Option Lexer
  | 0, _ => none
  | fuel + 1, l => do
    let l ← (l.skipToToken (l.rest.length + 1)).dropStaleKeys
    match l.rest with
    | [] => l.finish
    | c :: rest =>
      let l ← (l.unroll l.mark.column).lexToken c rest
      run fuel l

end Lexer

def tokens? (text : String) : Option (List Token) :=
  let cs := match text.toList with
    | '\ufeff' :: rest => rest
    | cs => cs
  if cs.all isAllowed then
    (Lexer.run (cs.length + 1) (.start cs)).map fun l => l.tokens.toList
  else none

end GraphqlBindings.Yaml

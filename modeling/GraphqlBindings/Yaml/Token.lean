import GraphqlBindings.Yaml.Scalar

namespace GraphqlBindings.Yaml

inductive ScalarStyle where
  | plain
  | quoted
  | literal
  | folded
deriving DecidableEq, Repr, Inhabited

inductive Token where
  | version (major minor : Nat)
  | tagHandle (handle target : String)
  | documentStart
  | documentEnd
  | blockSequenceStart
  | blockMappingStart
  | blockEnd
  | flowSequenceStart
  | flowSequenceEnd
  | flowMappingStart
  | flowMappingEnd
  | blockEntry
  | flowEntry
  | key
  | value
  | alias (name : String)
  | anchor (name : String)
  | tag (handle suffix : String)
  | scalar (style : ScalarStyle) (text : String)
deriving DecidableEq, Repr, Inhabited

def takeVersionNumber (cs : List Char) : Option (Nat × List Char) :=
  let ds := cs.takeWhile isDigit
  if ds.isEmpty ∨ 9 < ds.length then none
  else some (ds.foldl (fun n d => n * 10 + (d.toNat - '0'.toNat)) 0, cs.dropWhile isDigit)

def takeHandle (inDirective : Bool) : List Char → Option (List Char × List Char)
  | '!' :: rest =>
    let word := rest.takeWhile isWord
    match rest.dropWhile isWord with
    | '!' :: rest => some ('!' :: word ++ ['!'], rest)
    | rest => if inDirective ∧ !word.isEmpty then none else some ('!' :: word, rest)
  | _ => none

def isUriChar (wide : Bool) (c : Char) : Bool :=
  isWord c || [';', '/', '?', ':', '@', '&', '=', '+', '$', '.', '!', '~', '*', '\'', '(',
    ')'].contains c || (wide && [',', '[', ']'].contains c)

def takePercentByte : List Char → Option (UInt8 × List Char)
  | '%' :: a :: b :: rest => do
    let a ← hexValue? a
    let b ← hexValue? b
    pure (UInt8.ofNat (a * 16 + b), rest)
  | _ => none

def encodedLength (first : UInt8) : Nat :=
  if first &&& 0x80 = 0 then 1
  else if first &&& 0xe0 = 0xc0 then 2
  else if first &&& 0xf0 = 0xe0 then 3
  else if first &&& 0xf8 = 0xf0 then 4
  else 0

def takePercentBytes : Nat → List Char → Option (List UInt8 × List Char)
  | 0, cs => some ([], cs)
  | n + 1, cs => do
    let (b, rest) ← takePercentByte cs
    if b &&& 0xc0 = 0x80 then
      let (bs, rest) ← takePercentBytes n rest
      pure (b :: bs, rest)
    else none

def takeUri (wide : Bool) : Nat → List Char → Option (List Char × List Char)
  | 0, _ => none
  | fuel + 1, cs =>
    match cs with
    | '%' :: _ => do
      let (first, rest) ← takePercentByte cs
      let length := encodedLength first
      if length = 0 then none
      let (others, rest) ← takePercentBytes (length - 1) rest
      let decoded ← String.fromUTF8? ⟨(first :: others).toArray⟩
      let (uri, rest) ← takeUri wide fuel rest
      pure (decoded.toList ++ uri, rest)
    | c :: rest =>
      if isUriChar wide c then do
        let (uri, rest) ← takeUri wide fuel rest
        pure (c :: uri, rest)
      else some ([], cs)
    | [] => some ([], [])

def takeDirective (cs : List Char) : Option (Token × List Char) := do
  let name := cs.takeWhile isWord
  let rest := cs.dropWhile isWord
  if !atGap rest then none
  let rest := rest.dropWhile isBlank
  if name = "YAML".toList then
    let (major, rest) ← takeVersionNumber rest
    match rest with
    | '.' :: rest =>
      let (minor, rest) ← takeVersionNumber rest
      pure (.version major minor, ← finishLine rest)
    | _ => none
  else if name = "TAG".toList then
    let (handle, rest) ← takeHandle true rest
    match rest with
    | c :: _ =>
      if !isBlank c then none
      let rest := rest.dropWhile isBlank
      let (target, rest) ← takeUri true (rest.length + 1) rest
      if target.isEmpty ∨ !atGap rest then none
      pure (.tagHandle (.ofList handle) (.ofList target), ← finishLine rest)
    | [] => none
  else none

def takeAnchorName (cs : List Char) : Option (String × List Char) :=
  let name := cs.takeWhile isWord
  let rest := cs.dropWhile isWord
  let ends := atGap rest ||
    (rest.head?.map ['?', ':', ',', ']', '}', '%', '@', '\x60'].contains).getD false
  if name.isEmpty ∨ !ends then none else some (.ofList name, rest)

def takeTag (inFlow : Bool) (cs : List Char) : Option (Token × List Char) := do
  let (tag, rest) ← match cs with
    | '!' :: '<' :: rest => do
      let (uri, rest) ← takeUri true (rest.length + 1) rest
      if uri.isEmpty then none
      match rest with
      | '>' :: rest => pure (Token.tag "" (.ofList uri), rest)
      | _ => none
    | _ => do
      let (handle, rest) ← takeHandle false cs
      let (uri, rest) ← takeUri false (rest.length + 1) rest
      if 2 ≤ handle.length ∧ handle.getLast? = some '!' then
        if uri.isEmpty then none
        pure (Token.tag (.ofList handle) (.ofList uri), rest)
      else
        let suffix := handle.drop 1 ++ uri
        pure (if suffix.isEmpty then Token.tag "" "!" else Token.tag "!" (.ofList suffix), rest)
  if atGap rest ∨ (inFlow ∧ rest.head? = some ',') then pure (tag, rest) else none

end GraphqlBindings.Yaml

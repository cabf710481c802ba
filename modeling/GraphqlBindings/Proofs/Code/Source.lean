import GraphqlBindings.Code.Declaration
import GraphqlBindings.Language.Literal
import GraphqlBindings.Proofs.Code.Identifier

/-! A reader of source code, for the items that models are made of: aliases, structs and enums with
their attributes, and the function that gives the variants of an enum their texts. It refuses what
it does not know, and words that are not free. -/

namespace GraphqlBindings.Code

open GraphqlBindings.Text

inductive Token where
  | word (w : Word)
  | literal (text : String)
  | lifetime (name : String)
  | mark (text : String)
deriving DecidableEq, Repr

section Lexer

def pairMarks : List (List Char) := [[':', ':'], ['-', '>'], ['=', '>']]

def singleMarks : List Char :=
  ['#', '!', '[', ']', '(', ')', '{', '}', '<', '>', ':', '=', ';', ',', '&', '*']

def skipBlank : Bool → List Char → List Char
  | _, [] => []
  | true, c :: rest => skipBlank (c != '\n') rest
  | false, '/' :: '/' :: rest => skipBlank true rest
  | false, c :: rest => if isSpace c then skipBlank false rest else c :: rest

def escape? : Char → Option Char
  | 'n' => some '\n'
  | 'r' => some '\r'
  | 't' => some '\t'
  | '0' => some '\x00'
  | '\\' => some '\\'
  | '\'' => some '\''
  | '"' => some '"'
  | _ => none

inductive LiteralState where
  | text
  | escape
  | opening
  | code (left value : Nat)

def consChar (c : Char) (found : List Char × List Char) : List Char × List Char :=
  (c :: found.1, found.2)

def literalFrom : LiteralState → List Char → Option (List Char × List Char)
  | _, [] => none
  | .text, c :: rest =>
    if c = '"' then some ([], rest)
    else if c = '\\' then literalFrom .escape rest
    else if c = '\r' then none
    else (literalFrom .text rest).map (consChar c)
  | .escape, c :: rest =>
    if c = 'u' then literalFrom .opening rest
    else match escape? c with
      | some d => (literalFrom .text rest).map (consChar d)
      | none => none
  | .opening, c :: rest => if c = '{' then literalFrom (.code 6 0) rest else none
  | .code left value, c :: rest =>
    if c = '}' then
      if left < 6 ∧ value.isValidChar then
        (literalFrom .text rest).map (consChar (Char.ofNat value))
      else none
    else match Language.hexValue? c with
      | some digit =>
        if left = 0 then none else literalFrom (.code (left - 1) (16 * value + digit)) rest
      | none => none

variable (a : Alphabet)

def takeWord (raw : Bool) (c : Char) (cs : List Char) : Option (Token × List Char) :=
  let rest := cs.dropWhile a.isWordChar
  if rest.head?.any ['"', '\'', '#'].contains then none
  else some (.word ⟨raw, .ofList (c :: cs.takeWhile a.isWordChar)⟩, rest)

def takeLiteral (cs : List Char) : Option (Token × List Char) :=
  (literalFrom .text cs).bind fun (text, rest) =>
    if rest.head?.any a.isWordChar then none else some (.literal (.ofList text), rest)

def takeLifetime : List Char → Option (Token × List Char)
  | [] => none
  | c :: cs =>
    let rest := cs.dropWhile a.isWordChar
    if a.isWordStart c && rest.head? != some '\'' then
      some (.lifetime (.ofList (c :: cs.takeWhile a.isWordChar)), rest)
    else none

def takeMark (c : Char) (rest : List Char) : Option (Token × List Char) :=
  if pairMarks.contains (c :: rest.take 1) then
    some (.mark (.ofList (c :: rest.take 1)), rest.drop 1)
  else if singleMarks.contains c then some (.mark (.ofList [c]), rest)
  else none

def takeToken : List Char → Option (Token × List Char)
  | '"' :: rest => takeLiteral a rest
  | '\'' :: rest => takeLifetime a rest
  | 'r' :: '#' :: c :: rest => if a.isWordStart c then takeWord a true c rest else none
  | c :: rest => if a.isWordStart c then takeWord a false c rest else takeMark c rest
  | [] => none

lemma skipBlank_length (inComment : Bool) (cs : List Char) :
    (skipBlank inComment cs).length ≤ cs.length := by
  fun_induction skipBlank inComment cs with
  | case1 => simp
  | case2 _ _ ih => exact Nat.le_succ_of_le ih
  | case3 _ ih => exact Nat.le_succ_of_le (Nat.le_succ_of_le ih)
  | case4 _ _ _ _ ih => exact Nat.le_succ_of_le ih
  | case5 => simp

def lexFrom (cs : List Char) : Option (List Token) :=
  let next := skipBlank false cs
  if next.isEmpty then some []
  else match takeToken a next with
    | none => none
    | some (token, rest) =>
      if _h : rest.length < next.length then (lexFrom rest).map (token :: ·) else none
termination_by cs.length
decreasing_by exact Nat.lt_of_lt_of_le _h (skipBlank_length false cs)

end Lexer

section Reader

abbrev Reader := StateT (List Token) Option

namespace Reader

variable {α : Type}

def token (expected : Token) : Reader Unit
  | [] => none
  | t :: rest => if t = expected then some ((), rest) else none

def tokens : List Token → Reader Unit
  | [] => pure ()
  | t :: ts => do
    token t
    tokens ts

def mark (text : String) : Reader Unit := token (.mark text)

def keyword (name : String) : Reader Unit := token (.word ⟨false, name⟩)

def word : Reader Word
  | .word w :: rest => some (w, rest)
  | _ => none

def literal : Reader String
  | .literal text :: rest => some (text, rest)
  | _ => none

def or (p q : Reader α) : Reader α := fun ts => (p ts).or (q ts)

def many (stop : List Token → Option (List Token)) (p : Reader α) : Reader (List α) := fun ts =>
  match stop ts with
  | some rest => some ([], rest)
  | none =>
    match p ts with
    | none => none
    | some (x, rest) =>
      if _h : rest.length < ts.length then
        (many stop p rest).map fun (xs, left) => (x :: xs, left)
      else none
termination_by ts => ts.length

def atEnd (ts : List Token) : Option (List Token) := if ts.isEmpty then some [] else none

def atMark (text : String) (ts : List Token) : Option (List Token) :=
  if ts.head? = some (.mark text) then some ts.tail else none

def unlessAhead (front ts : List Token) : Option (List Token) :=
  if front.isPrefixOf ts then none else some ts

end Reader

structure Attribute where
  name : Word
  arguments : List (List Token)
deriving DecidableEq, Repr

structure Field where
  attributes : List Attribute
  name : Word
  type : CodeType
deriving DecidableEq, Repr

structure Choice where
  attributes : List Attribute
  name : Word
deriving DecidableEq, Repr

structure Arm where
  owner : Word
  variant : Word
  text : String
deriving DecidableEq, Repr

inductive Item where
  | setting (content : Attribute)
  | imported (path : List Token)
  | alias (attributes : List Attribute) (name : Word) (type : CodeType)
  | struct (attributes : List Attribute) (name : Word) (fields : List Field)
  | enum (attributes : List Attribute) (name : Word) (choices : List Choice)
  | texts (owner : Word) (arms : List Arm)
deriving DecidableEq, Repr

open Reader

def consArgument (t : Token) : List (List Token) → List (List Token)
  | [] => [[t]]
  | argument :: rest => (t :: argument) :: rest

def arguments : Reader (List (List Token))
  | [] => none
  | t :: rest =>
    if t = .mark ")" then some ([[]], rest)
    else if t = .mark "," then (arguments rest).map fun found => ([] :: found.1, found.2)
    else if ["(", "[", "]", "\x7b", "\x7d"].any fun bracket => t = .mark bracket then none
    else (arguments rest).map fun found => (consArgument t found.1, found.2)

def attributeBody : Reader Attribute := do
  mark "["
  let name ← word
  mark "("
  let arguments ← arguments
  mark "]"
  pure ⟨name, arguments⟩

def attributes : Reader (List Attribute) :=
  many (unlessAhead [.mark "#"]) do
    mark "#"
    attributeBody

def setting : Reader Item := do
  mark "#"
  mark "!"
  let content ← attributeBody
  pure (.setting content)

variable (reserved : List String)

def Word.isFree (w : Word) : Bool :=
  w.name != "_" && !(if w.raw then placeWords else reserved).contains w.name

def Word.isSegment (w : Word) : Bool := w.isFree reserved || !w.raw && placeWords.contains w.name

def identifier : Reader Word := do
  let w ← word
  if w.isFree reserved then pure w else failure

def segments : List Token → List Word × List Token
  | .mark m :: .word w :: rest =>
    if m = "::" ∧ w.isSegment reserved then
      (w :: (segments rest).1, (segments rest).2)
    else ([], .mark m :: .word w :: rest)
  | ts => ([], ts)

def pathText (first : Option Word) (more : List Word) : String :=
  (first.map Word.text).getD "" ++ String.join (more.map fun w => "::" ++ w.text)

def path : Reader String
  | .word w :: rest =>
    if w.isSegment reserved then
      some (pathText (some w) (segments reserved rest).1, (segments reserved rest).2)
    else none
  | ts =>
    let found := segments reserved ts
    if found.1.isEmpty then none else some (pathText none found.1, found.2)

def wrapper? : String → Option (CodeType → CodeType)
  | "Option" => some .option
  | "Vec" => some .vec
  | "Box" => some .boxed
  | _ => none

def type : List Token → Option (CodeType × List Token)
  | .word w :: .mark m :: rest =>
    if m = "<" then do
      let wrap ← wrapper? w.text
      let (inner, rest) ← type rest
      let (_, rest) ← mark ">" rest
      pure (wrap inner, rest)
    else (path reserved (.word w :: .mark m :: rest)).map fun found => (.named found.1, found.2)
  | ts => (path reserved ts).map fun found => (.named found.1, found.2)

def field : Reader Field := do
  let attributes ← attributes
  keyword "pub"
  let name ← identifier reserved
  mark ":"
  let type ← type reserved
  mark ","
  pure ⟨attributes, name, type⟩

def choice : Reader Choice := do
  let attributes ← attributes
  let name ← identifier reserved
  mark ","
  pure ⟨attributes, name⟩

def arm : Reader Arm := do
  let owner ← identifier reserved
  mark "::"
  let variant ← identifier reserved
  mark "=>"
  let text ← literal
  mark ","
  pure ⟨owner, variant, text⟩

def aliasItem (attributes : List Attribute) : Reader Item := do
  keyword "pub"
  keyword "type"
  let name ← identifier reserved
  mark "="
  let type ← type reserved
  mark ";"
  pure (.alias attributes name type)

def structItem (attributes : List Attribute) : Reader Item := do
  keyword "pub"
  keyword "struct"
  let name ← identifier reserved
  mark "\x7b"
  let fields ← many (atMark "\x7d") (field reserved)
  pure (.struct attributes name fields)

def enumItem (attributes : List Attribute) : Reader Item := do
  keyword "pub"
  keyword "enum"
  let name ← identifier reserved
  mark "\x7b"
  let choices ← many (atMark "\x7d") (choice reserved)
  pure (.enum attributes name choices)

def textsHead : List Token :=
  [.word ⟨false, "pub"⟩, .word ⟨false, "fn"⟩, .word ⟨false, "as_str"⟩, .mark "(", .mark "&",
    .word ⟨false, "self"⟩, .mark ")", .mark "->", .mark "&", .lifetime "static",
    .word ⟨false, "str"⟩, .mark "\x7b", .word ⟨false, "match"⟩, .mark "*", .word ⟨false, "self"⟩,
    .mark "\x7b"]

def textsItem : Reader Item := do
  keyword "impl"
  let owner ← identifier reserved
  mark "\x7b"
  tokens textsHead
  let arms ← many (atMark "\x7d") (arm reserved)
  mark "\x7d"
  mark "\x7d"
  pure (.texts owner arms)

def importItem : Reader Item := do
  keyword "use"
  let path ← many (atMark ";") fun ts => ts.head?.map fun t => (t, ts.tail)
  pure (.imported path)

def item : Reader Item := do
  let attributes ← attributes
  let declared := (aliasItem reserved attributes).or
    ((structItem reserved attributes).or (enumItem reserved attributes))
  if attributes.isEmpty then declared.or ((textsItem reserved).or importItem) else declared

def items (ts : List Token) : Option (List Item) := do
  let (settings, rest) ← many (unlessAhead [.mark "#", .mark "!"]) setting ts
  let (items, _) ← many atEnd (item reserved) rest
  pure (settings ++ items)

def read (a : Alphabet) (text : String) : Option (List Item) :=
  (lexFrom a text.toList).bind (items reserved)

end Reader

end GraphqlBindings.Code

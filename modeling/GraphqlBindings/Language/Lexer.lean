import GraphqlBindings.Language.Token
import GraphqlBindings.Language.Literal

/-!
From characters to lexemes. Blanks, commas and comments separate lexemes and are dropped; each
token is a piece of the text, so the text behind it is shorter. Reading stops at the first piece
that is no token.
-/

namespace GraphqlBindings.Language

open GraphqlBindings.Text

/-- Passes over what is between tokens. A tab counts as eight columns; carriage returns and byte
order marks have no width; a comment ends with its line, at a line feed or a carriage return. -/
def skipIgnored (inComment : Bool) (p : Position) : List Char → List Char × Position
  | [] => ([], p)
  | c :: rest =>
    if inComment then
      if c = '\n' ∨ c = '\r' then skipIgnored false ⟨p.line + 1, 1⟩ rest
      else skipIgnored true p rest
    else if c = '\r' ∨ c = '\ufeff' then skipIgnored false p rest
    else if c = '\t' then skipIgnored false ⟨p.line, p.column + 8⟩ rest
    else if c = '\n' then skipIgnored false ⟨p.line + 1, 1⟩ rest
    else if c = ' ' ∨ c = ',' then skipIgnored false ⟨p.line, p.column + 1⟩ rest
    else if c = '#' then skipIgnored true p rest
    else (c :: rest, p)

theorem skipIgnored_length (inComment : Bool) (p : Position) (cs : List Char) :
    (skipIgnored inComment p cs).1.length ≤ cs.length := by
  induction cs generalizing inComment p with
  | nil => simp [skipIgnored]
  | cons c rest ih =>
    simp only [skipIgnored, List.length_cons]
    repeat' split
    all_goals first
      | exact Nat.le_succ_of_le (ih _ _)
      | exact Nat.le_refl _

def isNameStart (c : Char) : Bool := c == '_' || isAsciiLetter c

def isNameChar (c : Char) : Bool := isNameStart c || isAsciiDigit c

def endsNumber (c : Char) : Bool :=
  [' ', '\n', '\r', '\t', ',', '#', '!', '$', ':', '=', '@', '|', '&', '(', ')', '[', ']', '{',
    '}'].contains c

def splitString (escaped : Bool) : List Char → Option (List Char × List Char)
  | [] => none
  | c :: rest =>
    if c = '"' ∧ !escaped then some ([], rest)
    else if c = '\n' then none
    else (splitString (!escaped && c == '\\') rest).map fun (body, rest) => (c :: body, rest)

theorem splitString_eq {escaped : Bool} {cs body rest : List Char}
    (h : splitString escaped cs = some (body, rest)) : body ++ '"' :: rest = cs := by
  induction cs generalizing escaped body with
  | nil => simp [splitString] at h
  | cons c cs ih =>
    simp only [splitString] at h
    split at h
    · next hc => simp_all
    · split at h
      · simp at h
      · obtain ⟨⟨b, r⟩, hb, he⟩ := Option.map_eq_some_iff.1 h
        simp only [Prod.mk.injEq] at he
        obtain ⟨rfl, rfl⟩ := he
        simp [ih hb]

def splitBlock (afterBackslash : Bool) : List Char → Option (List Char × List Char)
  | '"' :: '"' :: '"' :: rest =>
    if afterBackslash then
      (splitBlock false rest).map fun (body, rest) => ('"' :: '"' :: '"' :: body, rest)
    else some ([], rest)
  | c :: rest => (splitBlock (c == '\\') rest).map fun (body, rest) => (c :: body, rest)
  | [] => none

theorem splitBlock_eq {b : Bool} {cs body rest : List Char}
    (h : splitBlock b cs = some (body, rest)) : body ++ '"' :: '"' :: '"' :: rest = cs := by
  fun_induction splitBlock b cs generalizing body with
  | case1 r ih =>
    obtain ⟨⟨b', r'⟩, hb, he⟩ := Option.map_eq_some_iff.1 h
    simp only [Prod.mk.injEq] at he
    obtain ⟨rfl, rfl⟩ := he
    simp [ih hb]
  | case2 => simp_all
  | case3 b c r _ ih =>
    obtain ⟨⟨b', r'⟩, hb, he⟩ := Option.map_eq_some_iff.1 h
    simp only [Prod.mk.injEq] at he
    obtain ⟨rfl, rfl⟩ := he
    simp [ih hb]
  | case4 => simp at h

structure Taken (cs : List Char) where
  token : Token
  piece : List Char
  rest : List Char
  piece_append_rest : piece ++ rest = cs
  piece_ne_nil : piece ≠ []

theorem Taken.rest_length {cs : List Char} (t : Taken cs) : t.rest.length < cs.length := by
  have hp := List.length_pos_iff.2 t.piece_ne_nil
  have ha := congrArg List.length t.piece_append_rest
  simp only [List.length_append] at ha
  omega

def takeName (c : Char) (rest : List Char) : Taken (c :: rest) where
  token := .name (.ofList (c :: rest.takeWhile isNameChar))
  piece := c :: rest.takeWhile isNameChar
  rest := rest.dropWhile isNameChar
  piece_append_rest := by simp
  piece_ne_nil := by simp

def numberToken? (piece : List Char) : Option Token :=
  if isFloatText piece then (floatValue? piece).map .float else (intValue? piece).map .int

def takeNumber (c : Char) (rest : List Char) : Option (Taken (c :: rest)) :=
  (numberToken? (c :: rest.takeWhile (!endsNumber ·))).map fun token =>
    { token
      piece := c :: rest.takeWhile (!endsNumber ·)
      rest := rest.dropWhile (!endsNumber ·)
      piece_append_rest := by simp
      piece_ne_nil := by simp }

def takeString (rest : List Char) : Option (Taken ('"' :: rest)) :=
  match h : splitString false rest with
  | none => none
  | some (body, after) => (unescape body).map fun value =>
    { token := .string (.ofList value)
      piece := '"' :: body ++ ['"']
      rest := after
      piece_append_rest := by simp [splitString_eq h]
      piece_ne_nil := by simp }

def takeBlock (rest : List Char) : Option (Taken ('"' :: '"' :: '"' :: rest)) :=
  match h : splitBlock false rest with
  | none => none
  | some (body, after) => some
    { token := .string (.ofList (blockValue body))
      piece := '"' :: '"' :: '"' :: body ++ ['"', '"', '"']
      rest := after
      piece_append_rest := by simp [splitBlock_eq h]
      piece_ne_nil := by simp }

def takeChar (c : Char) (rest : List Char) : Option (Taken (c :: rest)) :=
  (Punctuator.ofChar? c).map fun p =>
    { token := .punctuator p
      piece := [c]
      rest := rest
      piece_append_rest := rfl
      piece_ne_nil := by simp }

def takeToken : (cs : List Char) → Option (Taken cs)
  | '"' :: '"' :: '"' :: rest => takeBlock rest
  | '"' :: rest => takeString rest
  | '.' :: '.' :: '.' :: rest => some
    { token := .punctuator .spread
      piece := ['.', '.', '.']
      rest := rest
      piece_append_rest := rfl
      piece_ne_nil := by simp }
  | c :: rest =>
    if isNameStart c then some (takeName c rest)
    else if c = '-' ∨ isAsciiDigit c then takeNumber c rest
    else takeChar c rest
  | [] => none

structure Lexed where
  lexemes : List Lexeme
  stop : Position
  complete : Bool

def lexFrom (p : Position) (cs : List Char) : Lexed :=
  match _h : skipIgnored false p cs with
  | ([], q) => ⟨[], q, true⟩
  | (c :: rest, q) =>
    match takeToken (c :: rest) with
    | none => ⟨[], q, false⟩
    | some t =>
      let later := lexFrom (q.advance t.piece) t.rest
      { later with lexemes := ⟨t.token, q⟩ :: later.lexemes }
termination_by cs.length
decreasing_by
  have hs := skipIgnored_length false p cs
  have ht := t.rest_length
  grind

def lex (text : String) : Lexed := lexFrom .start text.toList

end GraphqlBindings.Language

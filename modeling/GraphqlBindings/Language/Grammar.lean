import GraphqlBindings.Language.Lexer

/-!
Parsers over lexemes. Each choice is made by the next lexeme: an alternative is given up only
while nothing of it has been read. Brackets nest at most `bracketLimit` deep; a parser that opens
one has the remaining depth as an argument.
-/

namespace GraphqlBindings

inductive TypeRef where
  | named (name : String)
  | list (inner : TypeRef)
  | nonNull (inner : TypeRef)
deriving DecidableEq, Repr, Inhabited

namespace TypeRef

def baseName : TypeRef → String
  | named name => name
  | list inner | nonNull inner => inner.baseName

def isNonNull : TypeRef → Bool
  | nonNull _ => true
  | _ => false

def text : TypeRef → String
  | named name => name
  | list inner => "[" ++ inner.text ++ "]"
  | nonNull inner => inner.text ++ "!"

end TypeRef

end GraphqlBindings

namespace GraphqlBindings.Language

/-- A failure is what was left to read, the offending lexeme first. -/
abbrev Parser := StateT (List Lexeme) (Except (List Lexeme))

def bracketLimit : Nat := 50

namespace Parser

variable {α β : Type}

def fail : Parser α := fun ts => .error ts

def here : Parser Position := fun ts => .ok ((ts.head?.map Lexeme.position).getD .start, ts)

def punct (p : Punctuator) : Parser Unit
  | ts@(⟨.punctuator q, _⟩ :: rest) => if q = p then .ok ((), rest) else .error ts
  | ts => .error ts

def name : Parser String
  | ⟨.name n, _⟩ :: rest => .ok (n, rest)
  | ts => .error ts

def word (w : String) : Parser Unit
  | ts@(⟨.name n, _⟩ :: rest) => if n = w then .ok ((), rest) else .error ts
  | ts => .error ts

def string : Parser String
  | ⟨.string s, _⟩ :: rest => .ok (s, rest)
  | ts => .error ts

/-- The second parser, if the first one fails at its first lexeme. -/
def or (p q : Parser α) : Parser α := fun ts =>
  match p ts with
  | .error rest => if rest.length < ts.length then .error rest else q ts
  | r => r

def maybe (p : Parser α) : Parser (Option α) := (p >>= fun a => pure (some a)).or (pure none)

def repeated (p : Parser α) : Parser (List α) := fun ts =>
  match p ts with
  | .error rest => if rest.length < ts.length then .error rest else .ok ([], ts)
  | .ok (a, rest) =>
    if _h : rest.length < ts.length then
      match repeated p rest with
      | .error left => .error left
      | .ok (as, left) => .ok (a :: as, left)
    else .ok ([a], rest)
termination_by ts => ts.length

def repeated1 (p : Parser α) : Parser (List α) := do
  let a ← p
  let as ← repeated p
  pure (a :: as)

def separated (p : Parser α) (between : Punctuator) : Parser (List α) := do
  let a ← p
  let as ← repeated (do punct between; p)
  pure (a :: as)

def between (opening closing : Punctuator) (depth : Nat) (inside : Nat → Parser α) : Parser α :=
  match depth with
  | 0 => fail
  | depth + 1 => do
    punct opening
    let a ← inside depth
    punct closing
    pure a

def read (p : Parser α) (text : String) : Except Position α :=
  let lexed := lex text
  match p lexed.lexemes with
  | .error (t :: _) => .error t.position
  | .error [] => .error lexed.stop
  | .ok (_, t :: _) => .error t.position
  | .ok (a, []) => if lexed.complete then .ok a else .error lexed.stop

end Parser

open GraphqlBindings.Language.Parser

def strictness (inner : Parser TypeRef) : Parser TypeRef := do
  let type ← inner
  let strict ← maybe (punct .bang)
  pure (if strict.isSome then .nonNull type else type)

def namedType : Parser TypeRef := do
  let n ← name
  pure (.named n)

def typeRef : Nat → Parser TypeRef
  | 0 => strictness namedType
  | depth + 1 => strictness (namedType.or (do
      punct .bracketOpen
      let item ← typeRef depth
      punct .bracketClose
      pure (.list item)))

end GraphqlBindings.Language

import Mathlib.Data.List.TakeWhile
import Mathlib.Tactic.ByContra
import Mathlib.Tactic.Lemma
import Mathlib.Tactic.SplitIfs
import GraphqlBindings.Language.Lexer

namespace GraphqlBindings.Language

open GraphqlBindings.Text

def IsIgnored (c : Char) : Prop :=
  c = ' ' ∨ c = ',' ∨ c = '\n' ∨ c = '\t' ∨ c = '\r' ∨ c = '\ufeff'

lemma isIgnored_blank : IsIgnored ' ' := .inl rfl

lemma isIgnored_lineFeed : IsIgnored '\n' := .inr (.inr (.inl rfl))

def EndsLine (c : Char) : Prop := c = '\n' ∨ c = '\r'

instance : DecidablePred EndsLine := fun c => inferInstanceAs (Decidable (c = '\n' ∨ c = '\r'))

def firstToken? (cs : List Char) : Option (Token × List Char) :=
  (takeToken cs).map fun t => (t.token, t.rest)

inductive Spells : List Char → List Token → Prop
  | nil : Spells [] []
  | ignored {c : Char} {cs : List Char} {ts : List Token} : IsIgnored c → Spells cs ts →
      Spells (c :: cs) ts
  | comment {line cs : List Char} {c : Char} {ts : List Token} : (∀ x ∈ line, ¬ EndsLine x) →
      EndsLine c → Spells cs ts → Spells ('#' :: line ++ c :: cs) ts
  | token {cs rest : List Char} {t : Token} {ts : List Token} :
      firstToken? cs = some (t, rest) → Spells rest ts → Spells cs (t :: ts)

def Delimits (cs : List Char) : Prop := ∀ c ∈ cs.head?, endsNumber c = true

lemma Delimits.append {cs ds : List Char} (hc : Delimits cs) (hd : Delimits ds) :
    Delimits (cs ++ ds) := by
  cases cs with
  | nil => exact hd
  | cons c cs => exact hc

lemma delimits_cons {c : Char} (h : endsNumber c = true) (cs : List Char) : Delimits (c :: cs) := by
  simpa [Delimits] using h

section FirstToken

lemma firstToken?_block (cs : List Char) :
    firstToken? ('"' :: '"' :: '"' :: cs) = (splitBlock false cs).map fun found =>
      (.string (.ofList (blockValue found.1)), found.2) := by
  rw [firstToken?, takeToken, takeBlock]
  split <;> next h => simp [h]

lemma firstToken?_string {cs : List Char} (h : ∀ rest, cs ≠ '"' :: '"' :: rest) :
    firstToken? ('"' :: cs) = (splitString false cs).bind fun found =>
      (unescape found.1).map fun value => (.string (.ofList value), found.2) := by
  rw [firstToken?, takeToken, takeString]
  · split <;> next hs => simp [hs, Function.comp_def]
  · simpa using h

lemma firstToken?_cons {c : Char} (hq : c ≠ '"') (hd : c ≠ '.') (cs : List Char) :
    firstToken? (c :: cs) =
      if isNameStart c then
        some (.name (.ofList (c :: cs.takeWhile isNameChar)), cs.dropWhile isNameChar)
      else if c = '-' ∨ isAsciiDigit c then
        (numberToken? (c :: cs.takeWhile (!endsNumber ·))).map fun token =>
          (token, cs.dropWhile (!endsNumber ·))
      else (Punctuator.ofChar? c).map fun p => (.punctuator p, cs) := by
  rw [firstToken?, takeToken]
  · split_ifs
    · rfl
    · simp [takeNumber, Function.comp_def]
    · simp [takeChar, Function.comp_def]
  all_goals
    intros
    contradiction

lemma firstToken?_name {c : Char} (h : isNameStart c) (cs : List Char) :
    firstToken? (c :: cs) =
      some (.name (.ofList (c :: cs.takeWhile isNameChar)), cs.dropWhile isNameChar) := by
  rw [firstToken?_cons, if_pos h] <;>
  · rintro rfl
    exact absurd h (by decide)

lemma firstToken?_punctuator {c : Char} {p : Punctuator} (h : Punctuator.ofChar? c = some p)
    (cs : List Char) : firstToken? (c :: cs) = some (.punctuator p, cs) := by
  unfold Punctuator.ofChar? at h
  split at h <;> first
    | cases h
      rfl
    | simp at h

lemma firstToken?_spread (cs : List Char) :
    firstToken? ('.' :: '.' :: '.' :: cs) = some (.punctuator .spread, cs) :=
  rfl

lemma exists_of_firstToken?_dot {cs : List Char} {found : Token × List Char}
    (h : firstToken? ('.' :: cs) = some found) : ∃ rest, cs = '.' :: '.' :: rest := by
  by_contra hn
  rw [firstToken?, takeToken] at h
  · simp [isNameStart, isAsciiLetter, isAsciiUpper, isAsciiLower, isAsciiDigit, takeChar,
      Punctuator.ofChar?] at h
  · simp
  · simp
  · intro rest _ hr
    exact hn ⟨rest, hr⟩

lemma splitString_append {escaped : Bool} {cs body rest : List Char}
    (h : splitString escaped cs = some (body, rest)) (more : List Char) :
    splitString escaped (cs ++ more) = some (body, rest ++ more) := by
  induction cs generalizing escaped body with
  | nil => simp [splitString] at h
  | cons c cs ih =>
    rw [splitString] at h
    rw [List.cons_append, splitString]
    split_ifs at h ⊢ with hq hl
    · simp_all
    · obtain ⟨⟨b, r⟩, hb, he⟩ := Option.map_eq_some_iff.mp h
      cases he
      rw [ih hb]
      rfl

lemma splitBlock_append {b : Bool} {cs body rest : List Char}
    (h : splitBlock b cs = some (body, rest)) (more : List Char) :
    splitBlock b (cs ++ more) = some (body, rest ++ more) := by
  fun_induction splitBlock b cs generalizing body with
  | case1 r ih =>
    obtain ⟨⟨b', r'⟩, hb, he⟩ := Option.map_eq_some_iff.mp h
    cases he
    simp [splitBlock, ih hb]
  | case2 => simp_all [splitBlock]
  | case3 b c r hq ih =>
    obtain ⟨⟨b', r'⟩, hb, he⟩ := Option.map_eq_some_iff.mp h
    cases he
    rw [List.cons_append, splitBlock, ih hb]
    · rfl
    · rintro after rfl ha
      cases r with
      | nil => simp [splitBlock] at hb
      | cons x r =>
        cases r with
        | nil => simp [splitBlock] at hb
        | cons y r =>
          simp only [List.cons_append, List.cons.injEq] at ha
          obtain ⟨rfl, rfl, rfl⟩ := ha
          exact hq r rfl rfl
  | case4 => simp at h

lemma span_append_of_head {p : Char → Bool} {more : List Char}
    (h : ∀ c ∈ more.head?, p c = false) (cs : List Char) :
    (cs ++ more).takeWhile p = cs.takeWhile p ∧
      (cs ++ more).dropWhile p = cs.dropWhile p ++ more := by
  induction cs with
  | nil => cases more <;> simp_all
  | cons c cs ih => by_cases hp : p c <;> simp [hp, ih]

lemma Delimits.not_isNameChar {cs : List Char} (h : Delimits cs) :
    ∀ c ∈ cs.head?, isNameChar c = false := by
  have hall : [' ', '\n', '\r', '\t', ',', '#', '!', '$', ':', '=', '@', '|', '&', '(', ')', '[', ']',
      '{', '}'].all (fun c => !isNameChar c) = true := by decide
  intro c hc
  simpa using List.all_eq_true.mp hall c (by simpa [endsNumber] using h c hc)

lemma firstToken?_append {cs rest more : List Char} {t : Token}
    (h : firstToken? cs = some (t, rest)) (hm : Delimits more) :
    firstToken? (cs ++ more) = some (t, rest ++ more) := by
  cases cs with
  | nil => simp [firstToken?, takeToken] at h
  | cons c cs =>
    by_cases hq : c = '"'
    · subst hq
      by_cases hb : ∃ inside, cs = '"' :: '"' :: inside
      · obtain ⟨inside, rfl⟩ := hb
        rw [firstToken?_block] at h
        obtain ⟨⟨body, r⟩, hs, he⟩ := Option.map_eq_some_iff.mp h
        cases he
        simp only [List.cons_append]
        rw [firstToken?_block, splitBlock_append hs]
        rfl
      · rw [firstToken?_string fun inside hi => hb ⟨inside, hi⟩] at h
        obtain ⟨⟨body, r⟩, hs, hv⟩ := Option.bind_eq_some_iff.mp h
        obtain ⟨value, hu, he⟩ := Option.map_eq_some_iff.mp hv
        cases he
        have hn : ∀ inside, cs ++ more ≠ '"' :: '"' :: inside := by
          rintro inside hi
          match cs with
          | [] => simp [splitString] at hs
          | [_] =>
            simp only [List.cons_append, List.nil_append, List.cons.injEq] at hi
            exact absurd (hm '"' (by simp [hi.2])) (by decide)
          | x :: y :: r =>
            simp only [List.cons_append, List.cons.injEq] at hi
            exact hb ⟨r, by rw [hi.1, hi.2.1]⟩
        rw [List.cons_append, firstToken?_string hn, splitString_append hs]
        simp [hu]
    · by_cases hdot : c = '.'
      · subst hdot
        obtain ⟨r, rfl⟩ := exists_of_firstToken?_dot h
        rw [firstToken?_spread] at h
        cases h
        rfl
      · have hname := span_append_of_head hm.not_isNameChar cs
        have hnumber : (∀ x ∈ more.head?, (!endsNumber x) = false) :=
          fun x hx => by simp [hm x hx]
        rw [firstToken?_cons hq hdot] at h
        rw [List.cons_append, firstToken?_cons hq hdot, hname.1, hname.2,
          (span_append_of_head hnumber cs).1, (span_append_of_head hnumber cs).2]
        split_ifs at h ⊢ with hs hn
        · cases h
          rfl
        · obtain ⟨token, ht, he⟩ := Option.map_eq_some_iff.mp h
          cases he
          rw [ht]
          rfl
        · obtain ⟨p, hp, he⟩ := Option.map_eq_some_iff.mp h
          cases he
          rw [hp]
          rfl

end FirstToken

section Lexing

lemma skipIgnored_ignored {c : Char} (h : IsIgnored c) (p : Position) (cs : List Char) :
    ∃ q, skipIgnored false p (c :: cs) = skipIgnored false q cs := by
  rw [skipIgnored]
  split_ifs <;> first
    | exact ⟨_, rfl⟩
    | simp_all [IsIgnored]

lemma skipIgnored_comment {line : List Char} {c : Char} (h : ∀ x ∈ line, ¬ EndsLine x)
    (hc : EndsLine c) (p : Position) (cs : List Char) :
    ∃ q, skipIgnored true p (line ++ c :: cs) = skipIgnored false q cs := by
  induction line with
  | nil => exact ⟨⟨p.line + 1, 1⟩, if_pos hc⟩
  | cons x line ih =>
    rw [List.forall_mem_cons] at h
    obtain ⟨q, hq⟩ := ih h.2
    exact ⟨q, (if_neg h.1).trans hq⟩

lemma firstToken?_head {c : Char} {cs : List Char} {found : Token × List Char}
    (h : firstToken? (c :: cs) = some found) : ¬ IsIgnored c ∧ c ≠ '#' := by
  suffices hn : ∀ x, IsIgnored x ∨ x = '#' → firstToken? (x :: cs) = none by
    constructor
    · intro hc
      simp [hn c (.inl hc)] at h
    · intro hc
      simp [hn c (.inr hc)] at h
  rintro x ((rfl | rfl | rfl | rfl | rfl | rfl) | rfl) <;> rfl

lemma skipIgnored_of_firstToken? {c : Char} {cs : List Char} {found : Token × List Char}
    (h : firstToken? (c :: cs) = some found) (p : Position) :
    skipIgnored false p (c :: cs) = (c :: cs, p) := by
  obtain ⟨hi, hc⟩ := firstToken?_head h
  simp only [IsIgnored, not_or] at hi
  simp [skipIgnored, hi, hc]

lemma lexFrom_congr {p q : Position} {cs ds : List Char}
    (h : skipIgnored false p cs = skipIgnored false q ds) : lexFrom p cs = lexFrom q ds := by
  rw [lexFrom, lexFrom.eq_1 q, h]

lemma lexFrom_token {cs rest : List Char} {t : Token} (h : firstToken? cs = some (t, rest))
    (p : Position) : ∃ q, lexFrom p cs =
      { lexFrom q rest with lexemes := ⟨t, p⟩ :: (lexFrom q rest).lexemes } := by
  cases cs with
  | nil => simp [firstToken?, takeToken] at h
  | cons c cs =>
    have hs := skipIgnored_of_firstToken? h p
    obtain ⟨taken, ht, he⟩ := Option.map_eq_some_iff.mp h
    cases he
    refine ⟨p.advance taken.piece, ?_⟩
    rw [lexFrom, hs]
    simp [ht]

end Lexing

def tokensOf (text : String) : List Token := (lex text).lexemes.map Lexeme.token

lemma Spells.lexFrom {cs : List Char} {ts : List Token} (h : Spells cs ts) (p : Position) :
    (lexFrom p cs).lexemes.map Lexeme.token = ts ∧ (lexFrom p cs).complete = true := by
  induction h generalizing p with
  | nil => simp [Language.lexFrom, skipIgnored]
  | ignored hc _ ih =>
    obtain ⟨q, hq⟩ := skipIgnored_ignored hc p _
    rw [lexFrom_congr hq]
    exact ih q
  | @comment line cs c ts hl hc _ ih =>
    obtain ⟨q, hq⟩ := skipIgnored_comment hl hc p cs
    rw [lexFrom_congr (p := p) (q := q) (by simpa [skipIgnored] using hq)]
    exact ih q
  | token ht _ ih =>
    obtain ⟨q, hq⟩ := lexFrom_token ht p
    rw [hq]
    simp [ih q]

lemma Spells.tokensOf {text : String} {ts : List Token} (h : Spells text.toList ts) :
    tokensOf text = ts :=
  (h.lexFrom .start).1

namespace Spells

variable {cs ds : List Char} {ts us : List Token}

lemma append (h : Spells cs ts) (hd : Delimits ds) (hs : Spells ds us) :
    Spells (cs ++ ds) (ts ++ us) := by
  induction h with
  | nil => exact hs
  | ignored hc _ ih => exact .ignored hc ih
  | comment hl hc _ ih =>
    rw [List.append_assoc, List.cons_append]
    exact .comment hl hc ih
  | token ht _ ih => exact .token (firstToken?_append ht hd) ih

lemma blanks {pre : List Char} (hp : ∀ c ∈ pre, IsIgnored c) (h : Spells cs ts) :
    Spells (pre ++ cs) ts := by
  induction pre with
  | nil => exact h
  | cons c pre ih =>
    rw [List.forall_mem_cons] at hp
    exact .ignored hp.1 (ih hp.2)

lemma punctuator {c : Char} {p : Punctuator} (hc : Punctuator.ofChar? c = some p)
    (h : Spells cs ts) : Spells (c :: cs) (.punctuator p :: ts) :=
  .token (firstToken?_punctuator hc cs) h

lemma string {body value : List Char} (hs : splitString false (body ++ ['"']) = some (body, []))
    (hu : unescape body = some value) :
    Spells ('"' :: body ++ ['"']) [.string (.ofList value)] := by
  have hw : ∀ rest, body ++ ['"'] ≠ '"' :: '"' :: rest := by
    intro rest hr
    cases body with
    | nil => simp at hr
    | cons c body =>
      simp only [List.cons_append, List.cons.injEq] at hr
      simp [hr.1, splitString] at hs
  have ht : firstToken? ('"' :: body ++ ['"']) = some (.string (.ofList value), []) := by
    rw [List.cons_append, firstToken?_string hw, hs]
    simp [hu]
  exact .token ht .nil

end Spells

def isName : List Char → Bool
  | [] => false
  | c :: cs => isNameStart c && cs.all isNameChar

def IsName (name : String) : Prop := isName name.toList = true

instance : DecidablePred IsName := fun name => inferInstanceAs (Decidable (isName name.toList = true))

lemma IsName.spells {name : String} (h : IsName name) : Spells name.toList [.name name] := by
  rw [IsName] at h
  cases hn : name.toList with
  | nil => simp [hn, isName] at h
  | cons c cs =>
    simp only [hn, isName, Bool.and_eq_true, List.all_eq_true] at h
    have ht : firstToken? (c :: cs) = some (.name name, []) := by
      rw [firstToken?_name h.1, List.takeWhile_eq_self_iff.mpr h.2,
        List.dropWhile_eq_nil_iff.mpr h.2, ← hn, String.ofList_toList]
    exact .token ht .nil

end GraphqlBindings.Language

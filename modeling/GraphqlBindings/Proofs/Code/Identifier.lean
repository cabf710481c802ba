import Mathlib.Tactic.ByContra
import Mathlib.Tactic.Lemma
import Mathlib.Tactic.SplitIfs
import GraphqlBindings.Naming.Identifier

/-! Words and identifiers of the generated code. Which characters beyond ASCII belong to words is
left open: everything holds for each choice of them. -/

namespace GraphqlBindings.Code

open GraphqlBindings.Text

/-- The characters beyond ASCII that words begin with, and those that they go on with. -/
structure Alphabet where
  begins : Char → Bool
  continues : Char → Bool

def Alphabet.ascii : Alphabet := ⟨fun _ => false, fun _ => false⟩

def isSpace (c : Char) : Bool :=
  (decide (9 ≤ c.toNat) && decide (c.toNat ≤ 13)) ||
    [0x20, 0x85, 0x200e, 0x200f, 0x2028, 0x2029].contains c.toNat

namespace Alphabet

variable (a : Alphabet)

def isWordStart (c : Char) : Bool :=
  if c.toNat < 128 then c == '_' || isAsciiLetter c else a.begins c && !isSpace c

def isWordChar (c : Char) : Bool :=
  if c.toNat < 128 then c == '_' || isAsciiLetter c || isAsciiDigit c else a.continues c

def isWord : List Char → Bool
  | [] => false
  | c :: cs => a.isWordStart c && cs.all a.isWordChar

def IsWord (name : String) : Prop := a.isWord name.toList = true

instance : DecidablePred a.IsWord := fun name =>
  inferInstanceAs (Decidable (a.isWord name.toList = true))

end Alphabet

def strictWords : List String :=
  ["as", "break", "const", "continue", "crate", "else", "enum", "extern", "false", "fn", "for",
    "if", "impl", "in", "let", "loop", "match", "mod", "move", "mut", "pub", "ref", "return",
    "self", "Self", "static", "struct", "super", "trait", "true", "type", "unsafe", "use", "where",
    "while"]

def editionWords : List String := ["async", "await", "dyn", "try", "gen"]

def futureWords : List String :=
  ["abstract", "become", "box", "do", "final", "macro", "override", "priv", "typeof", "unsized",
    "virtual", "yield"]

def reservedWords : List String := strictWords ++ editionWords ++ futureWords

def placeWords : List String := ["self", "Self", "super", "crate"]

structure Word where
  raw : Bool
  name : String
deriving DecidableEq, Repr

namespace Word

def text (w : Word) : String := if w.raw then "r#" ++ w.name else w.name

structure IsIdentifier (a : Alphabet) (reserved : List String) (w : Word) : Prop where
  isWord : a.IsWord w.name
  ne_underscore : w.name ≠ "_"
  allowed : w.name ∉ if w.raw then placeWords else reserved

end Word

section Marks

variable {a : Alphabet}

lemma isWordChar_hash : a.isWordChar '#' = false := rfl

lemma Alphabet.IsWord.hash_notMem {name : String} (h : a.IsWord name) : '#' ∉ name.toList := by
  intro hm
  rw [IsWord] at h
  cases hn : name.toList with
  | nil => simp [hn] at hm
  | cons c cs =>
    rw [hn, isWord, Bool.and_eq_true, List.all_eq_true] at h
    rcases List.mem_cons.mp (hn ▸ hm) with rfl | hm
    · exact absurd h.1 (by simp [isWordStart, isAsciiLetter, isAsciiUpper, isAsciiLower])
    · exact absurd (h.2 '#' hm) (by rw [isWordChar_hash]; simp)

lemma stripRawMark_text {w : Word} (h : a.IsWord w.name) : Naming.stripRawMark w.text = w.name := by
  rw [Word.text]
  split_ifs
  · simp [Naming.stripRawMark]
  · rw [Naming.stripRawMark]
    split
    · next rest hr =>
      refine absurd ?_ h.hash_notMem
      simp [hr]
    · rfl

lemma raw_of_text_eq {w v : Word} (hw : a.IsWord w.name)
    (h : w.text = "r#" ++ v.text) : w.raw = true ∧ v.raw = false ∧ w.name = v.name := by
  have hn : Naming.stripRawMark w.text = v.text := by
    rw [h]
    simp [Naming.stripRawMark]
  rw [stripRawMark_text hw] at hn
  have hv : v.raw = false := by
    by_contra hr
    rw [Bool.not_eq_false] at hr
    refine hw.hash_notMem ?_
    simp [hn, Word.text, hr]
  refine ⟨?_, hv, by simpa [Word.text, hv] using hn⟩
  by_contra hr
  refine hw.hash_notMem ?_
  have : w.name = "r#" ++ v.text := by simpa [Word.text, hr] using h
  simp [this]

end Marks

section Words

variable {a : Alphabet}

lemma Alphabet.IsWord.exists_cons {name : String} (h : a.IsWord name) :
    ∃ c cs, name.toList = c :: cs ∧ a.isWordStart c = true ∧
      ∀ x ∈ cs, a.isWordChar x = true := by
  rw [IsWord] at h
  cases hn : name.toList with
  | nil => simp [hn, isWord] at h
  | cons c cs =>
    rw [hn, isWord, Bool.and_eq_true, List.all_eq_true] at h
    exact ⟨c, cs, rfl, h⟩

lemma Alphabet.IsWord.of_ascii {name : String} (h : Alphabet.ascii.IsWord name) :
    a.IsWord name := by
  obtain ⟨c, cs, hn, hc, hcs⟩ := h.exists_cons
  have hchar : ∀ x, Alphabet.ascii.isWordChar x = true → a.isWordChar x = true := by
    intro x hx
    rw [isWordChar] at hx ⊢
    split_ifs at hx ⊢
    · exact hx
    · exact absurd hx Bool.false_ne_true
  have hstart : a.isWordStart c = true := by
    rw [isWordStart] at hc ⊢
    split_ifs at hc ⊢
    · exact hc
    · exact absurd hc Bool.false_ne_true
  rw [IsWord, hn, isWord, hstart, Bool.true_and, List.all_eq_true]
  exact fun x hx => hchar x (hcs x hx)

end Words

end GraphqlBindings.Code

import Mathlib.Tactic.Lemma
import Mathlib.Tactic.SplitIfs
import GraphqlBindings.Naming.Identifier

namespace GraphqlBindings.Naming

lemma exists_splitSeparators (cs : List Char) :
    ∃ piece pieces, splitSeparators cs = piece :: pieces := by
  cases cs with
  | nil => exact ⟨[], [], rfl⟩
  | cons c rest =>
    rw [splitSeparators]
    split_ifs
    · exact ⟨_, _, rfl⟩
    · split
      · exact ⟨_, _, rfl⟩
      · exact ⟨_, _, rfl⟩

lemma flatten_splitSeparators (cs : List Char) :
    (splitSeparators cs).flatten = cs.filter (!isSeparator ·) := by
  induction cs with
  | nil => rfl
  | cons c rest ih =>
    obtain ⟨piece, pieces, hs⟩ := exists_splitSeparators rest
    rw [hs, List.flatten_cons] at ih
    rw [splitSeparators, hs]
    split_ifs with hc
    · simp [hc, ← ih]
    · simp [hc, ← ih]

variable (n : Naming)

lemma splitPiece_spec (before : Char) (cs : List Char) :
    ∃ word words, n.splitPiece before cs = word :: words ∧ (word :: words).flatten = cs ∧
      [] ∉ words := by
  induction cs generalizing before with
  | nil => exact ⟨[], [], rfl, rfl, List.not_mem_nil⟩
  | cons c rest ih =>
    obtain ⟨word, words, hs, hf, hn⟩ := ih c
    rw [splitPiece, hs]
    dsimp only
    split_ifs
    · exact ⟨[], (c :: word) :: words, rfl, by simp [← hf], by simp [hn]⟩
    · exact ⟨c :: word, words, rfl, by simp [← hf], hn⟩

lemma flatten_wordsOfPiece (cs : List Char) : (n.wordsOfPiece cs).flatten = cs := by
  cases cs with
  | nil => rfl
  | cons c rest =>
    obtain ⟨word, words, hs, hf, _⟩ := n.splitPiece_spec c rest
    rw [wordsOfPiece, hs]
    split_ifs
    · simp
    · simp [← hf]

lemma nil_notMem_wordsOfPiece (cs : List Char) : [] ∉ n.wordsOfPiece cs := by
  cases cs with
  | nil => exact List.not_mem_nil
  | cons c rest =>
    obtain ⟨word, words, hs, _, hn⟩ := n.splitPiece_spec c rest
    rw [wordsOfPiece, hs]
    split_ifs
    · simp
    · simp [hn]

lemma flatten_words (name : String) :
    (n.words name).flatten = name.toList.filter (!isSeparator ·) := by
  rw [words, ← flatten_splitSeparators]
  induction splitSeparators name.toList with
  | nil => rfl
  | cons piece pieces ih => simp [ih, n.flatten_wordsOfPiece]

lemma nil_notMem_words (name : String) : [] ∉ n.words name := by
  intro h
  obtain ⟨piece, _, hw⟩ := List.mem_flatMap.mp h
  exact n.nil_notMem_wordsOfPiece piece hw

lemma mem_word {name : String} {word : List Char} (h : word ∈ n.words name) {c : Char}
    (hc : c ∈ word) : c ∈ name.toList ∧ isSeparator c = false := by
  have hm : c ∈ (n.words name).flatten := List.mem_flatten_of_mem h hc
  rw [n.flatten_words] at hm
  simpa using hm

end GraphqlBindings.Naming

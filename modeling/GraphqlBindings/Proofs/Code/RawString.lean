import Mathlib.Data.List.Infix
import Mathlib.Order.Bounds.Defs
import Mathlib.Order.MinMax
import Mathlib.Tactic.Lemma
import GraphqlBindings.Code.Client

/-! Raw strings are read up to the first quote that enough hashes follow. How many are enough is
known from the longest run of hashes behind a quote of the text. -/

namespace GraphqlBindings.Code

def hashes (n : Nat) : List Char := List.replicate n '#'

def fenced (n : Nat) (text : String) : String :=
  "r" ++ .ofList (hashes n) ++ "\"" ++ text ++ "\"" ++ .ofList (hashes n)

def untilFence (n : Nat) : List Char → Option (List Char × List Char)
  | [] => none
  | c :: rest =>
    if c = '"' ∧ (hashes n).isPrefixOf rest then some ([], rest.drop n)
    else (untilFence n rest).map fun found => (c :: found.1, found.2)

def takeRaw : List Char → Option (List Char × List Char)
  | 'r' :: rest =>
    match rest.dropWhile (· == '#') with
    | '"' :: body => untilFence (rest.takeWhile (· == '#')).length body
    | _ => none
  | _ => none

section Fences

variable {n : Nat} {c : Char} {cs rest : List Char}

lemma hashes_succ (n : Nat) : hashes (n + 1) = '#' :: hashes n := rfl

lemma hashes_prefix_cons (hn : 0 < n) :
    hashes n <+: c :: cs ↔ c = '#' ∧ hashes (n - 1) <+: cs := by
  obtain ⟨m, rfl⟩ := Nat.exists_eq_add_of_lt hn
  rw [Nat.zero_add, hashes_succ, List.cons_prefix_cons, Nat.add_sub_cancel, eq_comm]

lemma hashes_prefix_append (hc : c ≠ '#') :
    hashes n <+: cs ++ c :: rest ↔ hashes n <+: cs := by
  induction n generalizing cs with
  | zero => simp [hashes]
  | succ n ih =>
    cases cs with
    | nil => simp [hashes_succ, hc.symm]
    | cons d ds => simp only [List.cons_append, hashes_succ, List.cons_prefix_cons, ih]

lemma fence_infix_cons : '"' :: hashes n <:+: c :: cs ↔
    (c = '"' ∧ hashes n <+: cs) ∨ '"' :: hashes n <:+: cs := by
  rw [List.infix_cons_iff, List.cons_prefix_cons, eq_comm]

lemma untilFence_append : untilFence n (cs ++ '"' :: (hashes n ++ rest)) = some (cs, rest) ↔
    ¬ '"' :: hashes n <:+: cs := by
  induction cs with
  | nil => simp [untilFence, hashes]
  | cons c cs ih =>
    -- The quote behind the text cuts off every run in it.
    have hp : (hashes n).isPrefixOf (cs ++ '"' :: (hashes n ++ rest)) = true ↔ hashes n <+: cs := by
      rw [List.isPrefixOf_iff_prefix, hashes_prefix_append (by decide)]
    rw [List.cons_append, untilFence, fence_infix_cons]
    split_ifs with h
    · simp [h.1, hp.mp h.2]
    · rw [hp] at h
      simp only [h, false_or, ← ih]
      cases untilFence n (cs ++ '"' :: (hashes n ++ rest)) <;> simp [Prod.ext_iff]

lemma takeRaw_fenced_append {text : String} :
    takeRaw ((fenced n text).toList ++ rest) = some (text.toList, rest) ↔
      ¬ '"' :: hashes n <:+: text.toList := by
  have ht : (fenced n text).toList ++ rest =
      'r' :: (hashes n ++ '"' :: (text.toList ++ '"' :: (hashes n ++ rest))) := by
    simp [fenced]
  have hall : ∀ c ∈ hashes n, (c == '#') = true := by simp [hashes]
  have hread : takeRaw ((fenced n text).toList ++ rest) =
      untilFence n (text.toList ++ '"' :: (hashes n ++ rest)) := by
    rw [ht, takeRaw, List.dropWhile_append_of_pos hall, List.takeWhile_append_of_pos hall]
    simp [hashes]
  rw [hread, untilFence_append]

end Fences

section Longest

lemma longestFence_cons {run : Option Nat} {c : Char} {cs : List Char} (hq : c ≠ '"')
    (hh : c ≠ '#') : longestFence run (c :: cs) = longestFence none cs := by
  rw [longestFence]
  · exact hq
  · exact hh

lemma lt_longestFence_iff (k : Nat) (cs : List Char) :
    (k < longestFence none cs ↔ '"' :: hashes k <:+: cs) ∧ ∀ r ≤ k,
      (k < longestFence (some r) cs ↔ '"' :: hashes k <:+: cs ∨ hashes (k + 1 - r) <+: cs) := by
  induction cs with
  | nil =>
    refine ⟨by simp [longestFence], fun r hr => ?_⟩
    have hn : k + 1 - r ≠ 0 := by omega
    simp [longestFence, hashes, hn]
  | cons c rest ih =>
    obtain ⟨hnone, hsome⟩ := ih
    have hstop : ∀ r ≤ k, c ≠ '#' → ¬ hashes (k + 1 - r) <+: c :: rest := by
      intro r hr hc h
      exact hc ((hashes_prefix_cons (by omega)).mp h).1
    by_cases hq : c = '"'
    · subst hq
      -- A quote begins a run of its own, whatever was in front of it.
      have hone : ∀ run, k < longestFence run ('"' :: rest) ↔ '"' :: hashes k <:+: '"' :: rest := by
        intro run
        rw [longestFence, fence_infix_cons, lt_max_iff]
        rcases Nat.eq_zero_or_pos k with rfl | hk
        · simp [hashes]
        · rw [hsome 1 hk, Nat.add_sub_cancel]
          simp [show ¬ k < 1 by omega, or_comm]
      exact ⟨hone none, fun r hr => by simp [hone, hstop r hr (by decide)]⟩
    · by_cases hh : c = '#'
      · subst hh
        refine ⟨by simp [longestFence, hnone, fence_infix_cons], fun r hr => ?_⟩
        rw [longestFence, fence_infix_cons, lt_max_iff, hashes_prefix_cons (by omega)]
        rcases Nat.eq_or_lt_of_le hr with rfl | hr
        · simp [hashes]
        · rw [hsome (r + 1) hr]
          have he : k + 1 - r - 1 = k + 1 - (r + 1) := by omega
          simp [show ¬ k < r + 1 by omega, he]
      · refine ⟨?_, fun r hr => ?_⟩
        · simp [longestFence_cons hq hh, hnone, fence_infix_cons, hq]
        · simp [longestFence_cons hq hh, hnone, fence_infix_cons, hq, hstop r hr hh]

end Longest

/-- A raw string has the least number of hashes, one or more, with which it reads as its text and
nothing is left; and whatever stands behind it, it ends where it should. -/
theorem rawString_isLeast (text : String) :
    ∃ n, rawString text = fenced n text ∧
      IsLeast {n | 1 ≤ n ∧ takeRaw (fenced n text).toList = some (text.toList, [])} n ∧
      ∀ rest, takeRaw ((rawString text).toList ++ rest) = some (text.toList, rest) := by
  have hread : ∀ n rest, takeRaw ((fenced n text).toList ++ rest) = some (text.toList, rest) ↔
      longestFence none text.toList ≤ n := by
    intro n rest
    rw [takeRaw_fenced_append, ← not_lt, (lt_longestFence_iff n text.toList).1]
  have hall : ∀ n, takeRaw (fenced n text).toList = some (text.toList, []) ↔
      longestFence none text.toList ≤ n := by
    intro n
    rw [← hread n [], List.append_nil]
  refine ⟨max 1 (longestFence none text.toList), rfl, ⟨?_, ?_⟩, fun rest => ?_⟩
  · exact ⟨le_max_left .., (hall _).mpr (le_max_right ..)⟩
  · rintro n ⟨hn, h⟩
    exact max_le hn ((hall n).mp h)
  · exact (hread _ rest).mpr (le_max_right ..)

-- A hash behind a quote takes a fence of two.
example : rawString "say \"# x" = "r##\"say \"# x\"##" ∧
    takeRaw (fenced 1 "say \"# x").toList = some ("say ".toList, " x\"#".toList) := by
  decide

end GraphqlBindings.Code

import Mathlib.Tactic.Lemma
import Mathlib.Data.List.Basic
import GraphqlBindings.Text.Case
import GraphqlBindings.Text.Lines

namespace GraphqlBindings.Text

lemma isAsciiLower_iff (c : Char) : isAsciiLower c = true ↔ 97 ≤ c.toNat ∧ c.toNat ≤ 122 := by
  simp [isAsciiLower, Char.le_def, UInt32.le_iff_toNat_le]

lemma isAsciiUpper_iff (c : Char) : isAsciiUpper c = true ↔ 65 ≤ c.toNat ∧ c.toNat ≤ 90 := by
  simp [isAsciiUpper, Char.le_def, UInt32.le_iff_toNat_le]

lemma isAsciiDigit_iff (c : Char) : isAsciiDigit c = true ↔ 48 ≤ c.toNat ∧ c.toNat ≤ 57 := by
  simp [isAsciiDigit, Char.le_def, UInt32.le_iff_toNat_le]

lemma digit_of_mem_toDigits (n : Nat) : ∀ c ∈ Nat.toDigits 10 n, isAsciiDigit c = true := by
  intro c hc
  have hd := Nat.isDigit_of_mem_toDigits (by omega) (by omega) hc
  simpa [Char.isDigit, isAsciiDigit, Char.le_def] using hd

lemma toNat_ofNat_of_lt {n : Nat} (h : n < 128) : (Char.ofNat n).toNat = n := by
  have hv : n.isValidChar := .inl (by omega)
  rw [Char.ofNat, dif_pos hv]
  rfl

structure Unbroken (line : List Char) : Prop where
  no_lineFeed : '\n' ∉ line
  last_ne : line.getLast? ≠ some '\r'

lemma linesOfChars_append {line : List Char} (h : Unbroken line) (rest : List Char) :
    linesOfChars (line ++ '\n' :: rest) = line :: linesOfChars rest := by
  induction line with
  | nil => rw [List.nil_append, linesOfChars]
  | cons c line ih =>
    obtain ⟨hn, hl⟩ := h
    rw [List.mem_cons, not_or] at hn
    have hline : Unbroken line := by
      refine ⟨hn.2, fun he => hl ?_⟩
      rw [List.getLast?_cons, he]
      rfl
    rw [List.cons_append, linesOfChars, ih hline, consLine]
    · exact fun h => hn.1 h.symm
    · rintro more rfl he
      cases line with
      | nil => exact hl rfl
      | cons d line =>
        obtain rfl : d = '\n' := (List.cons.inj he).1
        exact hn.2 List.mem_cons_self

lemma lineFeed_notMem_lines (cs : List Char) : ∀ line ∈ linesOfChars cs, '\n' ∉ line := by
  fun_induction linesOfChars cs with
  | case1 => simp
  | case2 rest ih => simpa using ih
  | case3 rest ih => simpa using ih
  | case4 c rest hl hr ih =>
    have hc : '\n' ≠ c := fun he => hl he.symm
    cases hls : linesOfChars rest with
    | nil => simpa [consLine] using hc
    | cons first others =>
      rw [hls, List.forall_mem_cons] at ih
      rw [consLine, List.forall_mem_cons]
      exact ⟨by simp [hc, ih.1], ih.2⟩

lemma getLast?_trimEndChars (cs : List Char) : (trimEndChars cs).getLast? ≠ some '\r' := by
  rw [trimEndChars, List.getLast?_reverse]
  intro h
  have hb := List.head?_dropWhile_not isBlank cs.reverse
  rw [h] at hb
  exact absurd hb (by decide)

def bytes (s : String) : List UInt8 := s.toByteArray.data.toList

lemma bytes_eq (s : String) : bytes s = s.toList.flatMap String.utf8EncodeChar := by
  rw [bytes, ← String.utf8Encode_toList, List.utf8Encode]
  simp

lemma cons_lt {n m : Nat} {l k : List UInt8} (hm : m < 256) (hn : n ≤ m) (h : n = m → l < k) :
    UInt8.ofNat n :: l < UInt8.ofNat m :: k := by
  rw [List.cons_lt_cons_iff, UInt8.lt_iff_toNat_lt, UInt8.toNat_ofNat', UInt8.toNat_ofNat']
  by_cases he : n = m
  · exact Or.inr ⟨congrArg _ he, h he⟩
  · left
    omega

lemma encode_lt {c d : Char} (h : c < d) (x y : List UInt8) :
    String.utf8EncodeChar c ++ x < String.utf8EncodeChar d ++ y := by
  have hv : c.val.toNat < d.val.toNat := h
  have hd : d.val.toNat < 0x110000 := by
    rcases d.valid with hd | hd <;> omega
  simp only [String.utf8EncodeChar]
  generalize c.val.toNat = v at hv ⊢
  generalize d.val.toNat = w at hv hd ⊢
  split_ifs <;> try omega
  all_goals
    -- more bytes begin with a larger one; with as many of them there is a next one to look at
    apply cons_lt (by omega) (by omega)
    intro h₁
    try omega
  all_goals
    apply cons_lt (by omega) (by omega)
    intro h₂
    try omega
  all_goals
    apply cons_lt (by omega) (by omega)
    intro h₃
    try omega
  apply cons_lt (by omega) (by omega)
  omega

lemma flatMap_lt {cs ds : List Char} (h : cs < ds) :
    cs.flatMap String.utf8EncodeChar < ds.flatMap String.utf8EncodeChar := by
  induction cs generalizing ds with
  | nil =>
    cases ds with
    | nil => exact absurd h (List.lt_irrefl _)
    | cons d ds =>
      obtain ⟨b, bs, hb⟩ := List.exists_cons_of_ne_nil (String.utf8EncodeChar_ne_nil (c := d))
      simp [hb]
  | cons c cs ih =>
    cases ds with
    | nil => exact absurd h (List.not_lt_nil _)
    | cons d ds =>
      rw [List.flatMap_cons, List.flatMap_cons]
      rcases List.cons_lt_cons_iff.mp h with hlt | ⟨rfl, hlt⟩
      · exact encode_lt hlt _ _
      · exact List.append_left_lt (ih hlt)

theorem lt_iff_bytes {a b : String} : a < b ↔ bytes a < bytes b := by
  have key {a b : String} (h : a < b) : bytes a < bytes b := by
    rw [bytes_eq, bytes_eq]
    exact flatMap_lt (String.lt_iff.mp h)
  refine ⟨key, fun h => ?_⟩
  rcases Std.lt_trichotomy a b with hlt | rfl | hgt
  · exact hlt
  · exact absurd h (List.lt_irrefl _)
  · exact absurd (key hgt) (List.lt_asymm h)

end GraphqlBindings.Text

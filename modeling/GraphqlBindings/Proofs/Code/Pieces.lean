import Mathlib.Data.List.Chain
import Mathlib.Data.Nat.Digits.Lemmas
import GraphqlBindings.Proofs.Code.Source
import GraphqlBindings.Proofs.Lists

namespace GraphqlBindings.Code

open GraphqlBindings.Text

section Literals

lemma hexValue?_digitChar : ∀ d < 16,
    Language.hexValue? d.digitChar = some d ∧ d.digitChar ≠ '}' := by decide

lemma literalFrom_toDigits (n : Nat) {left : Nat} (h : (Nat.toDigits 16 n).length ≤ left)
    (rest : List Char) : literalFrom (.code left 0) (Nat.toDigits 16 n ++ rest) =
      literalFrom (.code (left - (Nat.toDigits 16 n).length) n) rest := by
  induction n using Nat.strongRecOn generalizing rest with
  | ind n ih =>
    by_cases hn : n < 16
    · obtain ⟨hd, hc⟩ := hexValue?_digitChar n hn
      rw [Nat.toDigits_of_lt_base hn] at h ⊢
      rw [List.length_singleton] at h ⊢
      simp only [List.singleton_append, literalFrom, if_neg hc, hd, Nat.mul_zero, Nat.zero_add,
        if_neg (show left ≠ 0 by omega)]
    · rw [Nat.toDigits_of_base_le (by omega) (by omega)] at h ⊢
      obtain ⟨hd, hc⟩ := hexValue?_digitChar (n % 16) (Nat.mod_lt _ (by omega))
      rw [List.length_append, List.length_singleton] at h
      rw [List.append_assoc, ih (n / 16) (by omega) (by omega)]
      have hleft : left - (Nat.toDigits 16 (n / 16)).length ≠ 0 := by omega
      simp only [List.singleton_append, literalFrom, if_neg hc, hd, if_neg hleft, Nat.div_add_mod,
        List.length_append, List.length_singleton, Nat.sub_sub]

lemma literalFrom_quoteChar (c : Char) (rest : List Char) :
    literalFrom .text (quoteChar c ++ rest) = (literalFrom .text rest).map (consChar c) := by
  unfold quoteChar
  split
  iterate 6 simp [literalFrom, escape?]
  next _ _ _ hr hq hb =>
  split_ifs
  · rw [List.singleton_append, literalFrom, if_neg hq, if_neg hb, if_neg hr]
  · have hlt : c.toNat < 16 ^ 6 := by
      have := c.valid
      simp only [UInt32.isValidChar, Nat.isValidChar, Char.toNat] at this ⊢
      omega
    have hl : (Nat.toDigits 16 c.toNat).length ≤ 6 :=
      (Nat.length_toDigits_le_iff (by omega) (by omega)).mpr hlt
    have hp : 0 < (Nat.toDigits 16 c.toNat).length := List.length_pos_iff.mpr Nat.toDigits_ne_nil
    have hv : c.toNat.isValidChar := c.valid
    have hs : literalFrom .text (['\\', 'u', '{'] ++ hexDigits c.toNat ++ ['}'] ++ rest) =
        literalFrom (.code 6 0) (Nat.toDigits 16 c.toNat ++ '}' :: rest) := by
      simp [literalFrom, hexDigits]
    rw [hs, literalFrom_toDigits _ hl, literalFrom, if_pos rfl, if_pos ⟨by omega, hv⟩,
      Char.ofNat_toNat]

lemma literalFrom_quoteChars (cs rest : List Char) :
    literalFrom .text (cs.flatMap quoteChar ++ '"' :: rest) = some (cs, rest) := by
  induction cs with
  | nil => simp [literalFrom]
  | cons c cs ih =>
    rw [List.flatMap_cons, List.append_assoc, literalFrom_quoteChar, ih]
    rfl

end Literals

variable {a : Alphabet}

namespace Token

def text : Token → List Char
  | word w => w.text.toList
  | literal text => quoteChars text.toList
  | lifetime name => '\'' :: name.toList
  | mark text => text.toList

def IsWritten (a : Alphabet) : Token → Prop
  | word w => a.IsWord w.name
  | literal _ => True
  | lifetime name => a.IsWord name
  | mark text => text.toList ∈ pairMarks ∨ ∃ c ∈ singleMarks, text.toList = [c]

instance : DecidablePred (IsWritten a)
  | word w => inferInstanceAs (Decidable (a.IsWord w.name))
  | literal _ => .isTrue trivial
  | lifetime name => inferInstanceAs (Decidable (a.IsWord name))
  | mark text =>
    have : Decidable (∃ c ∈ singleMarks, text.toList = [c]) := List.decidableBEx _ _
    inferInstanceAs (Decidable (text.toList ∈ pairMarks ∨ ∃ c ∈ singleMarks, text.toList = [c]))

lemma IsWritten.of_ascii {t : Token} (h : t.IsWritten .ascii) : t.IsWritten a := by
  cases t with
  | word w => exact Alphabet.IsWord.of_ascii h
  | lifetime name => exact Alphabet.IsWord.of_ascii h
  | literal text => exact h
  | mark text => exact h

def Stops (a : Alphabet) (t : Token) (rest : List Char) : Prop :=
  ∀ c ∈ rest.head?, match t with
    | word _ => a.isWordChar c = false ∧ c ∉ ['"', '\'', '#']
    | literal _ => a.isWordChar c = false
    | lifetime _ => a.isWordChar c = false ∧ c ≠ '\''
    | mark text => text.toList ++ [c] ∉ pairMarks

end Token

section Take

variable {rest : List Char}

lemma takeWord_append (raw : Bool) {c : Char} {cs : List Char}
    (hcs : ∀ x ∈ cs, a.isWordChar x = true)
    (hrest : (Token.word ⟨raw, .ofList (c :: cs)⟩).Stops a rest) :
    takeWord a raw c (cs ++ rest) = some (.word ⟨raw, .ofList (c :: cs)⟩, rest) := by
  obtain ⟨ht, hd⟩ := takeWhile_dropWhile_append hcs fun x hx => (hrest x hx).1
  have hq : rest.head?.any ['"', '\'', '#'].contains = false := by
    rw [← Bool.not_eq_true, Option.any_eq_true]
    rintro ⟨x, hx, hq⟩
    exact (hrest x hx).2 (List.contains_iff_mem.mp hq)
  simp [takeWord, ht, hd, hq]

lemma takeToken_wordStart {c : Char} {cs : List Char} (hc : a.isWordStart c = true)
    (hr : c = 'r' → cs.head? ≠ some '#') : takeToken a (c :: cs) = takeWord a false c cs := by
  have hne : ∀ x, a.isWordStart x = false → c ≠ x := by
    rintro x hx rfl
    simp [hx] at hc
  rw [takeToken, if_pos hc]
  · exact fun h => hne '"' rfl h
  · exact fun h => hne '\'' rfl h
  · rintro d more rfl rfl
    exact hr rfl rfl

lemma takeToken_mark {c : Char} {cs : List Char} (hc : a.isWordStart c = false) (hq : c ≠ '"')
    (hs : c ≠ '\'') : takeToken a (c :: cs) = takeMark c cs := by
  have hr : c ≠ 'r' := by
    rintro rfl
    exact absurd hc (by simp [Alphabet.isWordStart, isAsciiLetter, isAsciiLower])
  rw [takeToken, if_neg (by simp [hc])]
  · exact hq
  · exact hs
  · exact fun _ _ h => absurd h hr

lemma mark_begins {c : Char} (h : c ∈ '-' :: singleMarks) : a.isWordStart c = false ∧
    a.isWordChar c = false ∧ c ≠ '"' ∧ c ≠ '\'' ∧ isSpace c = false ∧ c ≠ '/' := by
  have hall : ('-' :: singleMarks).all (fun c => !(c == '_' || isAsciiLetter c || isAsciiDigit c) &&
      decide (c.toNat < 128) && c != '"' && c != '\'' && !isSpace c && c != '/') = true := by decide
  have hc := List.all_eq_true.mp hall c h
  simp only [Bool.and_eq_true, Bool.not_eq_true', decide_eq_true_eq, bne_iff_ne] at hc
  obtain ⟨⟨⟨⟨⟨hw, hlt⟩, hq⟩, hs⟩, hb⟩, hd⟩ := hc
  refine ⟨?_, by rw [Alphabet.isWordChar, if_pos hlt, hw], hq, hs, hb, hd⟩
  rw [Alphabet.isWordStart, if_pos hlt]
  exact (Bool.or_eq_false_iff.mp hw).1

lemma exists_of_mem_pairMarks {cs : List Char} (h : cs ∈ pairMarks) :
    ∃ c d, cs = [c, d] ∧ c ∈ '-' :: singleMarks := by
  simp only [pairMarks, List.mem_cons, List.not_mem_nil, or_false] at h
  rcases h with rfl | rfl | rfl <;> exact ⟨_, _, rfl, by decide⟩

lemma takeMark_single {c : Char} (hc : c ∈ singleMarks)
    (hrest : ∀ d ∈ rest.head?, [c, d] ∉ pairMarks) :
    takeMark c rest = some (.mark (.ofList [c]), rest) := by
  have hp : pairMarks.contains (c :: rest.take 1) = false := by
    rw [← Bool.not_eq_true, List.contains_iff_mem]
    cases rest with
    | nil => simp [pairMarks]
    | cons d more => exact hrest d rfl
  rw [takeMark, hp, List.contains_iff_mem.mpr hc]
  rfl

lemma takeToken_text {t : Token} (ht : t.IsWritten a) (hrest : t.Stops a rest) :
    takeToken a (t.text ++ rest) = some (t, rest) := by
  cases t with
  | word w =>
    obtain ⟨raw, name⟩ := w
    obtain ⟨c, cs, hn, hc, hcs⟩ := Alphabet.IsWord.exists_cons ht
    obtain rfl : name = .ofList (c :: cs) := by rw [← hn, String.ofList_toList]
    cases raw with
    | true =>
      have htext : (Token.word ⟨true, .ofList (c :: cs)⟩).text = 'r' :: '#' :: c :: cs := by
        simp [Token.text, Word.text]
      rw [htext, List.cons_append, List.cons_append, List.cons_append, takeToken, if_pos hc]
      exact takeWord_append true hcs hrest
    | false =>
      have htext : (Token.word ⟨false, .ofList (c :: cs)⟩).text = c :: cs := by
        simp [Token.text, Word.text]
      rw [htext, List.cons_append, takeToken_wordStart hc]
      · exact takeWord_append false hcs hrest
      · intro _ hh
        cases cs with
        | nil => exact absurd (hrest '#' (by simpa using hh)).2 (by simp)
        | cons d cs =>
          obtain rfl : d = '#' := by simpa using hh
          exact absurd (hcs '#' List.mem_cons_self) (by rw [isWordChar_hash]; simp)
  | literal text =>
    have htext : (Token.literal text).text ++ rest =
        '"' :: (text.toList.flatMap quoteChar ++ '"' :: rest) := by
      simp [Token.text, quoteChars]
    have hw : rest.head?.any a.isWordChar = false := by
      rw [← Bool.not_eq_true, Option.any_eq_true]
      rintro ⟨x, hx, hw⟩
      rw [hrest x hx] at hw
      exact absurd hw (by simp)
    rw [htext, takeToken, takeLiteral, literalFrom_quoteChars]
    simp [hw]
  | lifetime name =>
    obtain ⟨c, cs, hn, hc, hcs⟩ := Alphabet.IsWord.exists_cons ht
    obtain rfl : name = .ofList (c :: cs) := by rw [← hn, String.ofList_toList]
    obtain ⟨ht, hd⟩ := takeWhile_dropWhile_append hcs fun x hx => (hrest x hx).1
    have hq : rest.head? ≠ some '\'' := fun h => (hrest '\'' h).2 rfl
    have htext : (Token.lifetime (.ofList (c :: cs))).text = '\'' :: c :: cs := by
      simp [Token.text]
    rw [htext, List.cons_append, takeToken, List.cons_append, takeLifetime]
    simp [hc, ht, hd, hq]
  | mark text =>
    rw [Token.text]
    have htext : text = .ofList text.toList := String.ofList_toList.symm
    rcases ht with hm | ⟨c, hc, hm⟩
    · obtain ⟨c, d, hcd, hc⟩ := exists_of_mem_pairMarks hm
      rw [hcd] at hm htext ⊢
      obtain ⟨hw, -, hq, hs, -⟩ := mark_begins (a := a) hc
      rw [List.cons_append, takeToken_mark hw hq hs, takeMark, htext]
      simp [hm]
    · rw [hm] at htext ⊢
      obtain ⟨hw, -, hq, hs, -⟩ := mark_begins (a := a) (List.mem_cons_of_mem _ hc)
      rw [List.singleton_append, takeToken_mark hw hq hs, htext]
      refine takeMark_single hc fun d hd => ?_
      simpa [hm] using hrest d hd

lemma isWordStart_begins {c : Char} (h : a.isWordStart c = true) :
    isSpace c = false ∧ c ≠ '/' := by
  have hall : ∀ n < 128, (Char.ofNat n == '_' || isAsciiLetter (Char.ofNat n)) = true →
      isSpace (Char.ofNat n) = false ∧ Char.ofNat n ≠ '/' := by decide
  rw [Alphabet.isWordStart] at h
  split_ifs at h with hlt
  · have hc := hall c.toNat hlt
    rw [Char.ofNat_toNat] at hc
    exact hc h
  · rw [Bool.and_eq_true, Bool.not_eq_true'] at h
    refine ⟨h.2, ?_⟩
    rintro rfl
    exact hlt (by decide)

lemma Token.head_text {t : Token} (ht : t.IsWritten a) :
    ∃ c cs, t.text = c :: cs ∧ isSpace c = false ∧ c ≠ '/' := by
  cases t with
  | word w =>
    obtain ⟨c, cs, hn, hc, -⟩ := Alphabet.IsWord.exists_cons ht
    cases hr : w.raw with
    | true => exact ⟨'r', '#' :: w.name.toList, by simp [Token.text, Word.text, hr], by decide⟩
    | false => exact ⟨c, cs, by simp [Token.text, Word.text, hr, hn], isWordStart_begins hc⟩
  | literal text => exact ⟨'"', _, rfl, by decide⟩
  | lifetime name => exact ⟨'\'', _, rfl, by decide⟩
  | mark text =>
    rcases ht with hm | ⟨c, hc, hm⟩
    · obtain ⟨c, d, hcd, hc⟩ := exists_of_mem_pairMarks hm
      exact ⟨c, [d], hcd, (mark_begins (a := a) hc).2.2.2.2⟩
    · exact ⟨c, [], hm, (mark_begins (a := a) (List.mem_cons_of_mem _ hc)).2.2.2.2⟩

end Take

section Lex

lemma lexFrom_congr {cs ds : List Char} (h : skipBlank false cs = skipBlank false ds) :
    lexFrom a cs = lexFrom a ds := by
  rw [lexFrom, lexFrom, h]

lemma lexFrom_token {t : Token} {rest : List Char} (ht : t.IsWritten a) (hrest : t.Stops a rest) :
    lexFrom a (t.text ++ rest) = (lexFrom a rest).map (t :: ·) := by
  have htake := takeToken_text ht hrest
  obtain ⟨c, cs, htext, hs, hc⟩ := Token.head_text ht
  have hskip : skipBlank false (t.text ++ rest) = t.text ++ rest := by
    rw [htext, List.cons_append, skipBlank, if_neg (by simp [hs])]
    rintro _ rfl
    exact absurd rfl hc
  have hl : rest.length < (t.text ++ rest).length := by
    simp only [htext, List.length_append, List.length_cons]
    omega
  have hne : (t.text ++ rest).isEmpty = false := by simp [htext]
  rw [lexFrom]
  simp only [hskip, hne, htake, hl]
  rfl

lemma skipBlank_blanks {cs : List Char} (h : ∀ c ∈ cs, c = ' ' ∨ c = '\n') (rest : List Char) :
    skipBlank false (cs ++ rest) = skipBlank false rest := by
  induction cs with
  | nil => rfl
  | cons c cs ih =>
    rw [List.forall_mem_cons] at h
    rw [List.cons_append, ← ih h.2]
    rcases h.1 with rfl | rfl <;> rw [skipBlank] <;> first | rfl | simp

lemma skipBlank_comment {cs rest : List Char} (h : '\n' ∉ cs) (hr : ∀ c ∈ rest.head?, c = '\n') :
    skipBlank true (cs ++ rest) = skipBlank false rest := by
  induction cs with
  | nil =>
    cases rest with
    | nil => simp [skipBlank]
    | cons c rest =>
      obtain rfl : c = '\n' := hr c rfl
      rw [List.nil_append, skipBlank, skipBlank] <;> first | rfl | simp
  | cons c cs ih =>
    rw [List.mem_cons, not_or] at h
    have hc : (c != '\n') = true := by simpa using Ne.symm h.1
    rw [List.cons_append, skipBlank, hc, ih h.2]

end Lex

inductive Piece where
  | blank (text : List Char)
  | comment (text : List Char)
  | token (t : Token)

namespace Piece

def text : Piece → List Char
  | blank text => text
  | comment text => '/' :: '/' :: text
  | token t => t.text

def token? : Piece → Option Token
  | token t => some t
  | _ => none

def IsWritten (a : Alphabet) : Piece → Prop
  | blank text => text ≠ [] ∧ ∀ c ∈ text, c = ' ' ∨ c = '\n'
  | comment text => '\n' ∉ text ∧ '\r' ∉ text
  | token t => t.IsWritten a

instance : DecidablePred (IsWritten a)
  | blank text =>
    have : Decidable (∀ c ∈ text, c = ' ' ∨ c = '\n') := List.decidableBAll _ _
    inferInstanceAs (Decidable (text ≠ [] ∧ ∀ c ∈ text, c = ' ' ∨ c = '\n'))
  | comment text => inferInstanceAs (Decidable ('\n' ∉ text ∧ '\r' ∉ text))
  | token t => inferInstanceAs (Decidable (t.IsWritten a))

lemma IsWritten.of_ascii {p : Piece} (h : p.IsWritten .ascii) : p.IsWritten a := by
  cases p with
  | token t => exact Token.IsWritten.of_ascii h
  | _ => exact h

def apart : Piece → Piece → Bool
  | blank _, _ => true
  | comment _, blank text => text.head? == some '\n'
  | token _, blank _ => true
  | token (.mark m), token (.mark n) =>
    n.toList.head?.all fun c => !pairMarks.contains (m.toList ++ [c])
  | token (.mark _), token _ => true
  | token _, token (.mark n) => n != "#"
  | _, _ => false

end Piece

section Pieces

def piecesText (ps : List Piece) : List Char := ps.flatMap Piece.text

def piecesTokens (ps : List Piece) : List Token := ps.filterMap Piece.token?

structure Fit (a : Alphabet) (ps : List Piece) : Prop where
  written : ∀ p ∈ ps, p.IsWritten a
  apart : ps.IsChain fun p q => p.apart q = true

@[simp] lemma piecesText_nil : piecesText [] = [] := rfl

@[simp] lemma piecesText_cons (p : Piece) (ps : List Piece) :
    piecesText (p :: ps) = p.text ++ piecesText ps := rfl

@[simp] lemma piecesText_append (ps qs : List Piece) :
    piecesText (ps ++ qs) = piecesText ps ++ piecesText qs := List.flatMap_append

@[simp] lemma piecesTokens_append (ps qs : List Piece) :
    piecesTokens (ps ++ qs) = piecesTokens ps ++ piecesTokens qs := List.filterMap_append

lemma ends_pairMarks {cs : List Char} {c : Char} (h : cs ++ [c] ∈ pairMarks) :
    c = ':' ∨ c = '>' := by
  have hlast : (cs ++ [c]).getLast? = some c := List.getLast?_concat
  simp only [pairMarks, List.mem_cons, List.not_mem_nil, or_false] at h
  rcases h with h | h | h <;> rw [h] at hlast
  · exact .inl (Option.some.inj hlast).symm
  · exact .inr (Option.some.inj hlast).symm
  · exact .inr (Option.some.inj hlast).symm

lemma Token.head_mark {m : String} (h : (Token.mark m).IsWritten a) (hm : m ≠ "#") :
    ∃ c cs, m.toList = c :: cs ∧ c ∈ '-' :: singleMarks ∧ c ≠ '#' := by
  rcases h with h | ⟨c, hc, h⟩
  · obtain ⟨c, d, hcd, hc⟩ := exists_of_mem_pairMarks h
    refine ⟨c, [d], hcd, hc, ?_⟩
    rintro rfl
    simp [hcd, pairMarks] at h
  · refine ⟨c, [], h, List.mem_cons_of_mem _ hc, ?_⟩
    rintro rfl
    exact hm (String.toList_inj.mp h)

lemma Token.head_other {t : Token} (h : t.IsWritten a) (hm : ∀ m, t ≠ .mark m) :
    ∃ c cs, t.text = c :: cs ∧ c ≠ ':' ∧ c ≠ '>' := by
  cases t with
  | word w =>
    obtain ⟨c, cs, hn, hc, -⟩ := Alphabet.IsWord.exists_cons h
    cases hr : w.raw with
    | true => exact ⟨'r', '#' :: w.name.toList, by simp [text, Word.text, hr], by decide⟩
    | false =>
      refine ⟨c, cs, by simp [text, Word.text, hr, hn], ?_, ?_⟩ <;>
      · rintro rfl
        exact absurd hc Bool.false_ne_true
  | literal text => exact ⟨'"', _, rfl, by decide⟩
  | lifetime name => exact ⟨'\'', _, rfl, by decide⟩
  | mark m => exact absurd rfl (hm m)

lemma Token.stops_of_head {t : Token} {rest : List Char} {c : Char} {cs : List Char}
    (hc : rest = c :: cs) (hw : (∀ m, t ≠ .mark m) → a.isWordChar c = false ∧ c ∉ ['"', '\'', '#'])
    (hm : ∀ m, t = .mark m → m.toList ++ [c] ∉ pairMarks) : t.Stops a rest := by
  subst hc
  rintro d ⟨⟩
  cases t with
  | word w => exact hw (by simp)
  | literal text => exact (hw (by simp)).1
  | lifetime name =>
    obtain ⟨h1, h2⟩ := hw (by simp)
    exact ⟨h1, fun h => h2 (by simp [h])⟩
  | mark m => exact hm m rfl

lemma stops_of_apart {t : Token} {q : Piece} (hq : q.IsWritten a)
    (h : Piece.apart (.token t) q = true) (rest : List Char) :
    t.Stops a (q.text ++ rest) := by
  cases q with
  | blank text =>
    obtain ⟨c, cs, rfl⟩ := List.exists_cons_of_ne_nil hq.1
    rcases hq.2 c List.mem_cons_self with rfl | rfl
    all_goals
      refine Token.stops_of_head rfl (fun _ => ⟨rfl, by decide⟩) fun m _ hm => ?_
      rcases ends_pairMarks hm with h | h <;> simp at h
  | comment text => cases t <;> simp [Piece.apart] at h
  | token u =>
    have hq : u.IsWritten a := hq
    rw [Piece.text]
    by_cases hu : ∃ n, u = .mark n
    · obtain ⟨n, rfl⟩ := hu
      by_cases ht : ∃ m, t = .mark m
      · obtain ⟨m, rfl⟩ := ht
        obtain ⟨c, cs, hn, -⟩ := Token.head_text hq
        refine Token.stops_of_head (by rw [hn]; rfl) (fun h => absurd rfl (h m)) fun m' hm' => ?_
        obtain rfl := Token.mark.inj hm'
        simpa [Piece.apart, show n.toList = c :: cs from hn] using h
      · have hn : n ≠ "#" := by
          cases t <;> simp_all [Piece.apart]
        obtain ⟨c, cs, hc, hm, hh⟩ := Token.head_mark hq hn
        obtain ⟨-, hw, hd, hs, -⟩ := mark_begins (a := a) hm
        refine Token.stops_of_head (by rw [Token.text, hc]; rfl) (fun _ => ⟨hw, by simp_all⟩) ?_
        exact fun m hm => absurd ⟨m, hm⟩ ht
    · rw [not_exists] at hu
      obtain ⟨c, cs, hc, h1, h2⟩ := Token.head_other hq hu
      obtain ⟨m, rfl⟩ : ∃ m, t = .mark m := by
        cases t <;> cases u <;> simp_all [Piece.apart]
      refine Token.stops_of_head (by rw [hc]; rfl) (fun h => absurd rfl (h m)) fun m' _ hm => ?_
      rcases ends_pairMarks hm with h | h
      · exact h1 h
      · exact h2 h

lemma lexFrom_pieces {ps : List Piece} (h : Fit a ps) :
    lexFrom a (piecesText ps) = some (piecesTokens ps) := by
  induction ps with
  | nil => simp [piecesText, piecesTokens, lexFrom, skipBlank]
  | cons p ps ih =>
    obtain ⟨hw, hc⟩ := h
    rw [List.forall_mem_cons] at hw
    rw [List.isChain_cons] at hc
    have ih := ih ⟨hw.2, hc.2⟩
    rw [piecesText_cons]
    cases p with
    | blank text =>
      rw [Piece.text, lexFrom_congr (skipBlank_blanks hw.1.2 _)]
      exact ih
    | comment text =>
      have hline : ∀ c ∈ (piecesText ps).head?, c = '\n' := by
        cases ps with
        | nil => simp
        | cons q ps =>
          have hq := hc.1 q rfl
          cases q with
          | blank text =>
            obtain ⟨c, cs, rfl⟩ := List.exists_cons_of_ne_nil (hw.2 _ List.mem_cons_self).1
            rintro d ⟨⟩
            simpa [Piece.apart] using hq
          | comment text => simp [Piece.apart] at hq
          | token t => simp [Piece.apart] at hq
      -- what ends the comment is a line feed, which the next piece begins with
      have hskip : skipBlank false ('/' :: '/' :: text ++ piecesText ps) =
          skipBlank false (piecesText ps) := by
        rw [List.cons_append, List.cons_append, skipBlank, skipBlank_comment hw.1.1 hline]
      rw [Piece.text, lexFrom_congr hskip]
      exact ih
    | token t =>
      have hstops : t.Stops a (piecesText ps) := by
        cases ps with
        | nil => simp [Token.Stops]
        | cons q ps => exact stops_of_apart (hw.2 q List.mem_cons_self) (hc.1 q rfl) _
      rw [Piece.text, lexFrom_token hw.1 hstops, ih]
      rfl

end Pieces

end GraphqlBindings.Code

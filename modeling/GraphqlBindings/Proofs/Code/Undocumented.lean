import GraphqlBindings.Proofs.Code.Pieces
import GraphqlBindings.Proofs.Text

namespace GraphqlBindings.Code

open GraphqlBindings.Text

def isDocLine (line : List Char) : Bool := ['/', '/', '/'].isPrefixOf (line.dropWhile isSpace)

def dropDocs (cs : List Char) : List Char :=
  ((linesOfChars cs).filter fun line => !isDocLine line).flatMap (· ++ ['\n'])

def withoutDocs (text : String) : String := .ofList (dropDocs text.toList)

section Lines

def Leaves (text code : List Char) : Prop := ∀ rest, dropDocs (text ++ rest) = code ++ dropDocs rest

lemma Leaves.nil : Leaves [] [] := fun _ => rfl

lemma Leaves.append {s t c d : List Char} (hs : Leaves s c) (ht : Leaves t d) :
    Leaves (s ++ t) (c ++ d) := by
  intro rest
  rw [List.append_assoc, hs, ht, List.append_assoc]

lemma leaves_line {line : List Char} (h : Unbroken line) (hd : isDocLine line = false) :
    Leaves (line ++ ['\n']) (line ++ ['\n']) := by
  intro rest
  rw [List.append_assoc, List.singleton_append, dropDocs, linesOfChars_append h,
    List.filter_cons_of_pos (by simp [hd]), List.flatMap_cons]
  rfl

lemma leaves_doc {line : List Char} (h : Unbroken line) (hd : isDocLine line = true) :
    Leaves (line ++ ['\n']) [] := by
  intro rest
  rw [List.append_assoc, List.singleton_append, dropDocs, linesOfChars_append h,
    List.filter_cons_of_neg (by simp [hd])]
  rfl

lemma leaves_markedLine {indent : List Char} (line : List Char) (hi : ∀ c ∈ indent, c = ' ')
    (hn : '\n' ∉ line) (hl : line.getLast? ≠ some '\r') :
    Leaves (indent ++ '/' :: '/' :: '/' :: line ++ ['\n']) [] := by
  apply leaves_doc
  · constructor
    · have hin : '\n' ∉ indent := fun h => absurd (hi _ h) (by decide)
      simp [hin, hn]
    · rw [List.getLast?_append]
      cases line with
      | nil => simp
      | cons c line => simpa using hl
  · have hs : ∀ c ∈ indent, isSpace c = true := by
      intro c hc
      rw [hi c hc]
      decide
    rw [isDocLine, List.dropWhile_append_of_pos hs]
    rfl

lemma leaves_markedLines {indent : String} (hi : ∀ c ∈ indent.toList, c = ' ') {ls : List String}
    (hls : ∀ line ∈ ls, '\n' ∉ line.toList) : Leaves (markedLines indent "///" ls).toList [] := by
  induction ls with
  | nil => exact .nil
  | cons line ls ih =>
    rw [List.forall_mem_cons] at hls
    have hn : '\n' ∉ (trimEnd line).toList := by
      intro hm
      rw [trimEnd, String.toList_ofList, trimEndChars, List.mem_reverse] at hm
      exact hls.1 (List.mem_reverse.mp ((List.dropWhile_suffix _).subset hm))
    have hl : (trimEnd line).toList.getLast? ≠ some '\r' := by
      rw [trimEnd, String.toList_ofList]
      exact getLast?_trimEndChars _
    have hempty := (leaves_markedLine [] hi (by simp) (by simp)).append (ih hls.2)
    have hfull : Leaves (indent.toList ++ '/' :: '/' :: '/' :: ' ' :: (trimEnd line).toList ++
        ['\n'] ++ (markedLines indent "///" ls).toList) [] := by
      refine (leaves_markedLine _ hi (by simpa using hn) ?_).append (ih hls.2)
      rw [List.getLast?_cons]
      cases h : (trimEnd line).toList.getLast? with
      | none => simp
      | some c =>
        rw [h] at hl
        simpa using hl
    simp only [markedLines, String.toList_join, List.map_cons, List.flatMap_cons] at hempty hfull ⊢
    split_ifs
    · simpa using hempty
    · simpa using hfull

lemma leaves_docComment {indent : String} (hi : ∀ c ∈ indent.toList, c = ' ')
    (doc : Option String) : Leaves (docComment indent doc).toList [] := by
  cases doc with
  | none => exact .nil
  | some text =>
    apply leaves_markedLines hi
    intro line hm
    obtain ⟨cs, hcs, rfl⟩ := List.mem_map.mp hm
    rw [String.toList_ofList]
    exact lineFeed_notMem_lines _ cs hcs

end Lines

section Says

variable {a : Alphabet}

def Piece.IsFlat : Piece → Prop
  | blank text => '\n' ∉ text
  | comment text => text.head?.any (· != '/') = true
  | token _ => True

instance : DecidablePred Piece.IsFlat
  | .blank text => inferInstanceAs (Decidable ('\n' ∉ text))
  | .comment text => inferInstanceAs (Decidable (text.head?.any (· != '/') = true))
  | .token _ => .isTrue trivial

structure Line (a : Alphabet) (ps : List Piece) : Prop extends Fit a ps where
  flat : ∀ p ∈ ps, p.IsFlat

lemma isSome_hexValue? {n : Nat} : ∀ c ∈ Nat.toDigits 16 n, (Language.hexValue? c).isSome := by
  induction n using Nat.strongRecOn with
  | ind n ih =>
    by_cases hn : n < 16
    · rw [Nat.toDigits_of_lt_base hn]
      simp [(hexValue?_digitChar n hn).1]
    · have hd := (hexValue?_digitChar (n % 16) (Nat.mod_lt _ (by omega))).1
      rw [Nat.toDigits_of_base_le (by omega) (by omega), List.forall_mem_append]
      exact ⟨ih _ (by omega), by simp [hd]⟩

def IsBreak (c : Char) : Prop := c = '\n' ∨ c = '\r'

lemma IsBreak.notMem_quoteChar {b : Char} (hb : IsBreak b) (c : Char) : b ∉ quoteChar c := by
  unfold quoteChar
  split
  iterate 6 rcases hb with rfl | rfl <;> simp
  next _ _ hn hr _ _ =>
  split_ifs
  · rw [List.mem_singleton]
    rintro rfl
    exact hb.elim hn hr
  · have hd : b ∉ hexDigits c.toNat := by
      intro hm
      have := isSome_hexValue? b hm
      rcases hb with rfl | rfl <;> exact absurd this (by decide)
    rcases hb with rfl | rfl <;> simpa using hd

lemma IsBreak.notMem_word {b : Char} (hb : IsBreak b) {name : String} (h : a.IsWord name) :
    b ∉ name.toList := by
  obtain ⟨c, cs, hn, hc, hcs⟩ := h.exists_cons
  have hb : a.isWordStart b = false ∧ a.isWordChar b = false := by
    rcases hb with rfl | rfl <;> exact ⟨rfl, rfl⟩
  rw [hn, List.mem_cons]
  rintro (rfl | hm)
  · simp [hc] at hb
  · simp [hcs b hm] at hb

lemma IsBreak.notMem_token {b : Char} (hb : IsBreak b) {t : Token} (ht : t.IsWritten a) :
    b ∉ t.text := by
  cases t with
  | word w =>
    have hn := hb.notMem_word ht
    rw [Token.text, Word.text]
    split_ifs
    · rcases hb with rfl | rfl <;> simpa using hn
    · exact hn
  | literal text =>
    have hq : b ∉ text.toList.flatMap quoteChar := by
      rw [List.mem_flatMap]
      rintro ⟨c, _, hm⟩
      exact hb.notMem_quoteChar c hm
    rcases hb with rfl | rfl <;> simpa [Token.text, quoteChars] using hq
  | lifetime name =>
    have hn := hb.notMem_word ht
    rcases hb with rfl | rfl <;> simpa [Token.text] using hn
  | mark m =>
    have hm : ∀ c ∈ singleMarks, ¬ IsBreak c := by
      simp [singleMarks, IsBreak]
    have hp : ∀ cs ∈ pairMarks, ∀ c ∈ cs, ¬ IsBreak c := by
      simp [pairMarks, IsBreak]
    intro hmem
    rcases ht with h | ⟨c, hc, h⟩
    · exact hp _ h b hmem hb
    · rw [Token.text, h, List.mem_singleton] at hmem
      exact hm c hc (hmem ▸ hb)

variable {ps : List Piece}

lemma Line.unbroken (h : Line a ps) : Unbroken (piecesText ps) := by
  have hbreak : ∀ b, IsBreak b → b ∉ piecesText ps := by
    intro b hb hm
    obtain ⟨p, hp, hm⟩ := List.mem_flatMap.mp hm
    have hw := h.written p hp
    cases p with
    | blank text =>
      rcases hb with rfl | rfl
      · exact h.flat _ hp hm
      · exact absurd (hw.2 _ hm) (by decide)
    | comment text =>
      rcases hb with rfl | rfl
      · exact hw.1 (by simpa [Piece.text] using hm)
      · exact hw.2 (by simpa [Piece.text] using hm)
    | token t => exact hb.notMem_token hw hm
  refine ⟨hbreak _ (.inl rfl), fun hl => hbreak _ (.inr rfl) ?_⟩
  exact List.mem_of_getLast? hl

lemma Line.tail {p : Piece} (h : Line a (p :: ps)) : Line a ps where
  written := fun q hq => h.written q (List.mem_cons_of_mem _ hq)
  apart := h.apart.tail
  flat := fun q hq => h.flat q (List.mem_cons_of_mem _ hq)

lemma Line.append {qs : List Piece} (h : Line a ps) (h' : Line a qs)
    (hj : ∀ p ∈ ps.getLast?, ∀ q ∈ qs.head?, p.apart q = true) : Line a (ps ++ qs) where
  written := List.forall_mem_append.mpr ⟨h.written, h'.written⟩
  apart := List.isChain_append.mpr ⟨h.apart, h'.apart, hj⟩
  flat := List.forall_mem_append.mpr ⟨h.flat, h'.flat⟩

lemma Line.not_doc (h : Line a ps) : isDocLine (piecesText ps) = false := by
  induction ps with
  | nil => rfl
  | cons p ps ih =>
    have hw := h.written p List.mem_cons_self
    rw [isDocLine, piecesText_cons]
    cases p with
    | blank text =>
      have hs : ∀ c ∈ text, isSpace c = true := by
        intro c hc
        rcases hw.2 c hc with rfl | rfl <;> decide
      rw [Piece.text, List.dropWhile_append_of_pos hs]
      exact ih h.tail
    | comment text =>
      obtain ⟨c, cs, rfl, hc⟩ : ∃ c cs, text = c :: cs ∧ c ≠ '/' := by
        have hf := h.flat _ List.mem_cons_self
        cases text with
        | nil => simp [Piece.IsFlat] at hf
        | cons c cs => exact ⟨c, cs, rfl, by simpa [Piece.IsFlat] using hf⟩
      have hs : isSpace '/' = false := by decide
      simp [Piece.text, hs, List.isPrefixOf, Ne.symm hc]
    | token t =>
      obtain ⟨c, cs, ht, hs, hc⟩ := Token.head_text hw
      rw [Piece.text, ht]
      simp [hs, List.isPrefixOf, Ne.symm hc]

def linesText (ls : List (List Piece)) : List Char := ls.flatMap fun ps => piecesText ps ++ ['\n']

lemma fit_lineFeed (h : Fit a ps) : Fit a (ps ++ [.blank ['\n']]) := by
  refine ⟨List.forall_mem_append.mpr ⟨h.written, by simp [Piece.IsWritten]⟩, ?_⟩
  refine List.isChain_append.mpr ⟨h.apart, .singleton _, fun p _ q hq => ?_⟩
  obtain rfl : .blank ['\n'] = q := by simpa using hq
  cases p with
  | token t => cases t <;> rfl
  | _ => rfl

lemma fit_lines {ls : List (List Piece)} (h : ∀ ps ∈ ls, Line a ps) :
    Fit a (ls.flatMap fun ps => ps ++ [.blank ['\n']]) := by
  induction ls with
  | nil => exact ⟨by simp, .nil⟩
  | cons ps ls ih =>
    rw [List.forall_mem_cons] at h
    have hps := fit_lineFeed h.1.toFit
    have ih := ih h.2
    rw [List.flatMap_cons]
    refine ⟨List.forall_mem_append.mpr ⟨hps.written, ih.written⟩, ?_⟩
    refine List.isChain_append.mpr ⟨hps.apart, ih.apart, fun p hp q _ => ?_⟩
    obtain rfl : .blank ['\n'] = p := by simpa using hp
    rfl

lemma lexFrom_linesText {ls : List (List Piece)} (h : ∀ ps ∈ ls, Line a ps) :
    lexFrom a (linesText ls) = some (ls.flatMap piecesTokens) := by
  have htext : piecesText (ls.flatMap fun ps => ps ++ [.blank ['\n']]) = linesText ls := by
    simp [piecesText, linesText, List.flatMap_assoc, Piece.text]
  have htokens : piecesTokens (ls.flatMap fun ps => ps ++ [.blank ['\n']]) =
      ls.flatMap piecesTokens := by
    have hblank : [Piece.blank ['\n']].filterMap Piece.token? = [] := rfl
    simp only [piecesTokens, List.filterMap_flatMap, List.filterMap_append, hblank,
      List.append_nil]
    rfl
  rw [← htext, lexFrom_pieces (fit_lines h), htokens]

def IsClosed (ps : List Piece) : Prop :=
  (∀ p ∈ ps, p.IsWritten .ascii) ∧ (ps.IsChain fun p q => p.apart q = true) ∧ ∀ p ∈ ps, p.IsFlat

instance : DecidablePred IsClosed := fun _ => inferInstanceAs (Decidable (_ ∧ _ ∧ _))

lemma IsClosed.line (h : IsClosed ps) : Line a ps :=
  ⟨⟨fun p hp => (h.1 p hp).of_ascii, h.2.1⟩, h.2.2⟩

def Says (a : Alphabet) (text bare : String) (ts : List Token) : Prop :=
  ∃ ls : List (List Piece), (∀ ps ∈ ls, Line a ps) ∧ Leaves text.toList (linesText ls) ∧
    Leaves bare.toList (linesText ls) ∧ ls.flatMap piecesTokens = ts

lemma Says.nil : Says a "" "" [] := ⟨[], by simp, .nil, .nil, rfl⟩

lemma Says.append {s t u v : String} {ts us : List Token} (hs : Says a s t ts)
    (hu : Says a u v us) : Says a (s ++ u) (t ++ v) (ts ++ us) := by
  obtain ⟨ls, hl, hs, ht, rfl⟩ := hs
  obtain ⟨ms, hm, hu, hv, rfl⟩ := hu
  refine ⟨ls ++ ms, List.forall_mem_append.mpr ⟨hl, hm⟩, ?_, ?_, List.flatMap_append⟩
  · rw [linesText, List.flatMap_append, String.toList_append]
    exact hs.append hu
  · rw [linesText, List.flatMap_append, String.toList_append]
    exact ht.append hv

lemma says_line {text : String} {ts : List Token} (h : Line a ps)
    (ht : text.toList = piecesText ps ++ ['\n']) (hts : piecesTokens ps = ts) :
    Says a text text ts := by
  have hl : Leaves text.toList (linesText [ps]) := by
    rw [ht, linesText, List.flatMap_singleton]
    exact leaves_line h.unbroken h.not_doc
  exact ⟨[ps], by simpa using h, hl, hl, by simpa using hts⟩

lemma says_docComment (indent : String) (hi : ∀ c ∈ indent.toList, c = ' ') (doc : Option String) :
    Says a (docComment indent doc) (docComment indent none) [] :=
  ⟨[], by simp, leaves_docComment hi doc, .nil, rfl⟩

lemma Says.lexFrom {text bare : String} {ts : List Token} (h : Says a text bare ts) :
    lexFrom a (withoutDocs text).toList = some ts ∧ withoutDocs text = withoutDocs bare := by
  obtain ⟨ls, hl, ht, hb, rfl⟩ := h
  have hd : dropDocs text.toList = linesText ls := by
    simpa [dropDocs, linesOfChars] using ht []
  have hd' : dropDocs bare.toList = linesText ls := by
    simpa [dropDocs, linesOfChars] using hb []
  rw [withoutDocs, withoutDocs, String.toList_ofList, hd, hd']
  exact ⟨lexFrom_linesText hl, rfl⟩

end Says

end GraphqlBindings.Code

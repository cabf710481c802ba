import GraphqlBindings.Proofs.Code.Restated
import GraphqlBindings.Proofs.Code.Undocumented

namespace GraphqlBindings.Code

open GraphqlBindings.Text

variable {a : Alphabet} {reserved : List String}

namespace Piece

abbrev plain (name : String) : Piece := .token (.plain name)

abbrev mark (m : String) : Piece := .token (.mark m)

def indent (n : Nat) : Piece := .blank (List.replicate n ' ')

end Piece

section Lines

variable {ps qs : List Piece}

lemma line_word {w : Word} (h : a.IsWord w.name) : Line a [.token (.word w)] :=
  ⟨⟨by simpa [Piece.IsWritten, Token.IsWritten] using h, .singleton _⟩, by simp [Piece.IsFlat]⟩

lemma line_literal (text : String) : Line a [.token (.literal text)] :=
  ⟨⟨by simp [Piece.IsWritten, Token.IsWritten], .singleton _⟩, by simp [Piece.IsFlat]⟩

lemma IsClosed.word {w : Word} (h : IsClosed (ps ++ [.plain "name"] ++ qs)) (hw : a.IsWord w.name) :
    Line a (ps ++ [.token (.word w)] ++ qs) := by
  have hl : ∀ p, Piece.apart p (.token (.word w)) = Piece.apart p (.plain "name") := by
    rintro (_ | _ | _ | _ | _ | _) <;> rfl
  have hr : Piece.apart (.token (.word w)) = Piece.apart (.plain "name") := by
    funext p
    rcases p with _ | _ | _ | _ | _ | _ <;> rfl
  obtain ⟨⟨hwritten, hchain⟩, hflat⟩ := h.line (a := a)
  refine ⟨⟨?_, ?_⟩, ?_⟩
  · simp only [List.forall_mem_append, List.forall_mem_singleton] at hwritten ⊢
    exact ⟨⟨hwritten.1.1, hw⟩, hwritten.2⟩
  · simp only [List.isChain_append, List.getLast?_concat, List.head?_singleton] at hchain ⊢
    obtain ⟨⟨hps, -, hp⟩, hqs, hq⟩ := hchain
    refine ⟨⟨hps, .singleton _, ?_⟩, hqs, ?_⟩
    · rintro p hpm _ ⟨⟩
      rw [hl]
      exact hp p hpm _ rfl
    · rintro _ ⟨⟩ q hqm
      rw [hr]
      exact hq _ rfl q hqm
  · simp only [List.forall_mem_append, List.forall_mem_singleton] at hflat ⊢
    exact ⟨⟨hflat.1.1, trivial⟩, hflat.2⟩

@[simp] lemma piecesText_tokens (ts : List Token) :
    piecesText (ts.map .token) = ts.flatMap Token.text := by
  simp [piecesText, List.flatMap_map, Piece.text]

@[simp] lemma piecesTokens_tokens (ts : List Token) : piecesTokens (ts.map .token) = ts := by
  simp [piecesTokens, List.filterMap_map, Function.comp_def, Piece.token?]

end Lines

section Types

lemma isWord_wrapper {name : String} {wrap : CodeType → CodeType}
    (h : wrapper? name = some wrap) : a.IsWord name ∧ ∀ type, (wrap type).text =
      name ++ "<" ++ type.text ++ ">" := by
  unfold wrapper? at h
  split at h
  iterate 3 cases h; exact ⟨.of_ascii (by decide), fun _ => rfl⟩
  cases h

lemma line_segments {ws : List Word} (h : ∀ w ∈ ws, w.IsSegment a reserved) :
    Line a ((segmentTokens ws).map .token) := by
  induction ws with
  | nil => exact ⟨⟨by simp [segmentTokens], .nil⟩, by simp [segmentTokens]⟩
  | cons w ws ih =>
    rw [List.forall_mem_cons] at h
    have hone : Line a ([.mark "::"] ++ [.token (.word w)]) :=
      (IsClosed.line (by decide)).append (line_word h.1.isWord)
        (by simp [Piece.apart])
    have := hone.append (ih h.2) (by cases ws <;> simp [segmentTokens, Piece.apart])
    simpa [segmentTokens] using this

lemma line_path {first : Option Word} {more : List Word}
    (hf : ∀ w ∈ first, w.IsSegment a reserved) (hm : ∀ w ∈ more, w.IsSegment a reserved) :
    Line a ((pathTokens first more).map .token) := by
  have hs := line_segments hm
  cases first with
  | none => exact hs
  | some w =>
    have := (line_word (hf w rfl).isWord).append hs
      (by cases more <;> simp [segmentTokens, Piece.apart])
    simpa [pathTokens] using this

lemma pathText_toList (first : Option Word) (more : List Word) :
    (pathText first more).toList = (pathTokens first more).flatMap Token.text := by
  have hs : (String.join (more.map fun w => "::" ++ w.text)).toList =
      (segmentTokens more).flatMap Token.text := by
    simp [segmentTokens, List.flatMap_assoc, List.flatMap_map, Token.text]
  rw [pathText, String.toList_append, hs]
  cases first <;> simp [pathTokens, Token.text]

def Token.IsTypeHead (t : Token) : Prop := (∃ w, t = .word w) ∨ t = .mark "::"

def Token.IsTypeLast (t : Token) : Prop := (∃ w, t = .word w) ∨ t = .mark ">"

structure TypeLine (a : Alphabet) (type : CodeType) (ts : List Token) : Prop where
  line : Line a (ts.map .token)
  text : type.text.toList = ts.flatMap Token.text
  head : ∃ t, ts.head? = some t ∧ t.IsTypeHead
  last : ∃ t, ts.getLast? = some t ∧ t.IsTypeLast

lemma TypeLine.between {type : CodeType} {ts : List Token} (h : TypeLine a type ts)
    {front : List Piece} (hf : Line a front)
    (hl : ∀ p ∈ front.getLast?, ∀ t : Token, t.IsTypeHead → p.apart (.token t) = true) {m : String}
    (hm : m ∈ [">", ",", ";"]) : Line a (front ++ ts.map .token ++ [.mark m]) := by
  simp only [List.mem_cons, List.not_mem_nil, or_false] at hm
  have hmark : Line a [.mark m] := by
    rcases hm with rfl | rfl | rfl <;> exact IsClosed.line (by decide)
  obtain ⟨first, hfirst, hhead⟩ := h.head
  obtain ⟨last, hlast, htype⟩ := h.last
  refine (hf.append h.line ?_).append hmark ?_
  · intro p hp q hq
    obtain rfl : .token first = q := by simpa [hfirst] using hq
    exact hl p hp first hhead
  · intro p hp q hq
    obtain rfl : .token last = p := by simpa [List.getLast?_append, hlast] using hp
    obtain rfl : .mark m = q := by simpa using hq
    rcases htype with ⟨w, rfl⟩ | rfl <;> rcases hm with rfl | rfl | rfl <;>
      simp [Piece.apart, pairMarks]

lemma TypeTokens.typeLine {type : CodeType} {ts : List Token} (h : TypeTokens a reserved type ts) :
    TypeLine a type ts := by
  induction h with
  | @path first more hn hf hm =>
    refine ⟨line_path hf hm, pathText_toList first more, ?_, ?_⟩
    · cases first with
      | some w => exact ⟨_, rfl, .inl ⟨w, rfl⟩⟩
      | none =>
        obtain ⟨w, ws, rfl⟩ := List.exists_cons_of_ne_nil (hn.resolve_left (by simp))
        exact ⟨_, rfl, .inr rfl⟩
    · rcases List.eq_nil_or_concat more with rfl | ⟨ws, w, rfl⟩
      · obtain ⟨w, rfl⟩ := Option.isSome_iff_exists.mp (hn.resolve_right (by simp))
        exact ⟨_, rfl, .inl ⟨w, rfl⟩⟩
      · refine ⟨.word w, ?_, .inl ⟨w, rfl⟩⟩
        simp [pathTokens, segmentTokens, List.getLast?_append]
  | @wrapped name wrap type ts hw ht ih =>
    obtain ⟨hword, htext⟩ := isWord_wrapper (a := a) hw
    refine ⟨?_, ?_, ⟨_, rfl, .inl ⟨_, rfl⟩⟩, ⟨.mark ">", by simp [List.getLast?_cons], .inr rfl⟩⟩
    · have hopen : Line a ([.plain name] ++ [.mark "<"]) :=
        (line_word hword).append (IsClosed.line (by decide))
          (by simp [Piece.apart])
      have := ih.between hopen (m := ">") (by
        rintro _ ⟨⟩ t (⟨w, rfl⟩ | rfl) <;> rfl) (by simp)
      simpa using this
    · rw [htext]
      simp [ih.text, Token.text, Word.text]

end Types

section Rows

variable {w v : Word} {type : CodeType} {ts : List Token}

abbrev Plain (a : Alphabet) (text : String) (ts : List Token) : Prop :=
  Says a text text ts

lemma plain_closed {text : String} (ps : List Piece) (h : IsClosed ps)
    (ht : text.toList = piecesText ps ++ ['\n']) : Plain a text (piecesTokens ps) :=
  says_line h.line ht rfl

lemma plain_blank : Plain a "\n" [] := plain_closed [] (by decide) (by decide)

lemma plain_word {before after : String} (ps qs : List Piece) (hw : a.IsWord w.name)
    (h : IsClosed (ps ++ [.plain "name"] ++ qs)) (hb : before.toList = piecesText ps)
    (ha : after.toList = piecesText qs ++ ['\n']) :
    Plain a (before ++ w.text ++ after) (piecesTokens ps ++ .word w :: piecesTokens qs) := by
  refine says_line (h.word hw) ?_ ?_
  · simp [hb, ha, Piece.text, Token.text]
  · rw [List.append_assoc, piecesTokens_append]
    rfl

lemma plain_type {before between after : String} {m : String} (ps qs : List Piece)
    (hw : a.IsWord w.name) (ht : TypeLine a type ts)
    (h : IsClosed (ps ++ [.plain "name"] ++ (qs ++ [.indent 1]))) (hm : m ∈ [">", ",", ";"])
    (hb : before.toList = piecesText ps) (hi : between.toList = piecesText (qs ++ [.indent 1]))
    (ha : after.toList = m.toList ++ ['\n']) :
    Plain a (before ++ w.text ++ between ++ type.text ++ after)
      (piecesTokens ps ++ .word w :: piecesTokens qs ++ ts ++ [.mark m]) := by
  have hline := ht.between (h.word hw) (m := m) (by
    intro p hp _ _
    obtain rfl : Piece.indent 1 = p := by
      rw [← List.append_assoc, List.getLast?_concat] at hp
      exact Option.some.inj hp
    rfl) hm
  refine says_line hline ?_ ?_
  · simp [hb, hi, ha, ht.text, Piece.text, Token.text]
  · simp only [piecesTokens_append, piecesTokens_tokens]
    simp [piecesTokens, Piece.token?, Piece.indent]

lemma plain_rename (text : String) :
    Plain a ("    #[serde(rename = " ++ quote text ++ ")]\n") (renameAttribute text).tokens := by
  have hfront : Line a [.indent 4, .mark "#", .mark "[", .plain "serde", .mark "(", .plain "rename",
    .indent 1, .mark "=", .indent 1] := IsClosed.line (by decide)
  have hback : Line a [.mark ")", .mark "]"] := IsClosed.line (by decide)
  have hline := (hfront.append (line_literal text) (by rintro _ ⟨⟩ _ ⟨⟩; rfl)).append hback
    (by rintro _ ⟨⟩ _ ⟨⟩; rfl)
  exact says_line hline (by simp [Piece.text, Token.text, Word.text, quote, Piece.indent]) rfl

lemma plain_option :
    Plain a "    #[serde(default, skip_serializing_if = \"Option::is_none\")]\n"
      optionAttribute.tokens :=
  plain_closed [.indent 4, .mark "#", .mark "[", .plain "serde", .mark "(", .plain "default",
    .mark ",", .indent 1, .plain "skip_serializing_if", .indent 1, .mark "=", .indent 1,
    .token (.literal "Option::is_none"), .mark ")", .mark "]"] (by decide) (by decide)

def derivePieces (traits : List String) : List Piece :=
  [.mark "#", .mark "[", .plain "derive", .mark "("] ++
    [.mark ",", .indent 1].intercalate (traits.map fun name => [.plain name]) ++
    [.mark ")", .mark "]"]

lemma plain_fieldTraits :
    Plain a "#[derive(Debug, Clone, PartialEq, Serialize, Deserialize)]\n"
      (deriveAttribute fieldTraits).tokens :=
  plain_closed (derivePieces fieldTraits) (by decide) (by decide)

lemma plain_variantTraits :
    Plain a "#[derive(Debug, Clone, Copy, PartialEq, Eq, Hash, Serialize, Deserialize)]\n"
      (deriveAttribute variantTraits).tokens :=
  plain_closed (derivePieces variantTraits) (by decide) (by decide)

lemma plain_arm (hw : a.IsWord w.name) (hv : a.IsWord v.name) (text : String) :
    Plain a ("            " ++ w.text ++ "::" ++ v.text ++ " => " ++ quote text ++ ",\n")
      (armTokens ⟨w, v, text⟩) := by
  have howner : Line a ([.indent 12] ++ [.token (.word w)] ++ [.mark "::"]) :=
    IsClosed.word (by decide) hw
  have hvariant : Line a ([] ++ [.token (.word v)] ++ [.indent 1, .mark "=>", .indent 1]) :=
    IsClosed.word (by decide) hv
  have hcomma : Line a [.mark ","] := IsClosed.line (by decide)
  have hline := ((howner.append hvariant (by rintro _ ⟨⟩ _ ⟨⟩; rfl)).append (line_literal text)
    (by rintro _ ⟨⟩ _ ⟨⟩; rfl)).append hcomma (by rintro _ ⟨⟩ _ ⟨⟩; rfl)
  exact says_line hline (by simp [Piece.text, Token.text, Piece.indent, quote]) rfl

lemma plain_valueComment : Plain a "    /// graphql name of the value\n" [] := by
  have htext : "    /// graphql name of the value\n" =
      docComment "    " (some "graphql name of the value") := by decide
  have hl : Leaves (docComment "    " (some "graphql name of the value")).toList [] :=
    leaves_docComment (by simp) _
  rw [Plain, htext]
  exact ⟨[], by simp, hl, hl, rfl⟩

lemma plain_textsHead :
    Plain a ("    pub fn as_str(&self) -> &'static str \x7b\n" ++ "        match *self \x7b\n")
      textsHead := by
  have hfn : Plain a "    pub fn as_str(&self) -> &'static str \x7b\n" _ :=
    plain_closed [.indent 4, .plain "pub", .indent 1, .plain "fn", .indent 1, .plain "as_str",
      .mark "(", .mark "&", .plain "self", .mark ")", .indent 1, .mark "->", .indent 1, .mark "&",
      .token (.lifetime "static"), .indent 1, .plain "str", .indent 1, .mark "\x7b"] (by decide)
      (by decide)
  have hmatch : Plain a "        match *self \x7b\n" _ :=
    plain_closed [.indent 8, .plain "match", .indent 1, .mark "*", .plain "self", .indent 1,
      .mark "\x7b"] (by decide) (by decide)
  exact hfn.append hmatch

lemma plain_close : Plain a "\x7d\n" [.mark "\x7d"] :=
  plain_closed [.mark "\x7d"] (by decide) (by decide)

lemma plain_blockEnd : Plain a "\x7d\n\n" [.mark "\x7d"] := by
  have hall := (plain_close (a := a)).append plain_blank
  have htext : "\x7d\n" ++ "\n" = "\x7d\n\n" := by decide
  rwa [htext] at hall

lemma plain_textsTail :
    Plain a "        \x7d\n    \x7d\n\x7d\n" [.mark "\x7d", .mark "\x7d", .mark "\x7d"] := by
  have hmatch : Plain a "        \x7d\n" [.mark "\x7d"] :=
    plain_closed [.indent 8, .mark "\x7d"] (by decide) (by decide)
  have hfn : Plain a "    \x7d\n" [.mark "\x7d"] :=
    plain_closed [.indent 4, .mark "\x7d"] (by decide) (by decide)
  have hall := hmatch.append (hfn.append plain_close)
  have htext : "        \x7d\n" ++ ("    \x7d\n" ++ "\x7d\n") =
      "        \x7d\n    \x7d\n\x7d\n" := by decide
  rwa [htext] at hall

lemma plain_package {package : String} (h : IsIdentifier a reserved package) :
    Plain a ("//! generated types for the \x60" ++ package ++ "\x60 service. do not edit.\n\n")
      [] := by
  obtain ⟨w, rfl, hw⟩ := h
  have hbreak : ∀ b, IsBreak b → b ∉ w.text.toList := fun b hb =>
    hb.notMem_token (t := .word w) hw.isWord
  have hline : Line a [.comment ("! generated types for the \x60".toList ++ w.text.toList ++
      "\x60 service. do not edit.".toList)] := by
    have hn := hbreak '\n' (.inl rfl)
    have hr := hbreak '\r' (.inr rfl)
    exact ⟨⟨by simp [Piece.IsWritten, hn, hr], .singleton _⟩, by simp [Piece.IsFlat]⟩
  have hrow : Plain a ("//! generated types for the \x60" ++ w.text ++
      "\x60 service. do not edit.\n") [] :=
    says_line hline (by simp [Piece.text]) rfl
  have hall := hrow.append plain_blank
  have htext : "\x60 service. do not edit.\n" ++ "\n" = "\x60 service. do not edit.\n\n" := by
    decide
  rwa [String.append_assoc, htext] at hall

lemma plain_setting :
    Plain a "#![allow(clippy::all)]\n\n"
      (.mark "#" :: .mark "!" :: lintSetting.tokens.tail) := by
  have hrow : Plain a "#![allow(clippy::all)]\n" _ :=
    plain_closed [.mark "#", .mark "!", .mark "[", .plain "allow", .mark "(", .plain "clippy",
      .mark "::", .plain "all", .mark ")", .mark "]"] (by decide) (by decide)
  have hall := hrow.append plain_blank
  have htext : "#![allow(clippy::all)]\n" ++ "\n" = "#![allow(clippy::all)]\n\n" := by decide
  rwa [htext] at hall

lemma plain_import :
    Plain a "use serde::\x7bDeserialize, Serialize\x7d;\n"
      (.plain "use" :: (serdeImport ++ [.mark ";"])) :=
  plain_closed [.plain "use", .indent 1, .plain "serde", .mark "::", .mark "\x7b",
    .plain "Deserialize", .mark ",", .indent 1, .plain "Serialize", .mark "\x7d", .mark ";"]
    (by decide) (by decide)

end Rows

end GraphqlBindings.Code

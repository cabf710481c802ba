import Mathlib.Data.List.Forall2
import GraphqlBindings.Proofs.Code.Source

namespace GraphqlBindings.Code

namespace Reader

variable {α β : Type} {ts us rest : List Token}

lemma bind_of {p : Reader α} {x : α} (h : p ts = some (x, rest)) (f : α → Reader β) :
    (p >>= f) ts = f x rest := by
  simp [bind, StateT.bind, h]

@[simp] lemma token_cons (t : Token) (rest : List Token) :
    token t (t :: rest) = some ((), rest) := by
  simp [token]

@[simp] lemma mark_cons (text : String) (rest : List Token) :
    mark text (.mark text :: rest) = some ((), rest) := token_cons _ _

@[simp] lemma keyword_cons (name : String) (rest : List Token) :
    keyword name (.word ⟨false, name⟩ :: rest) = some ((), rest) := token_cons _ _

lemma tokens_append (ts rest : List Token) : tokens ts (ts ++ rest) = some ((), rest) := by
  induction ts with
  | nil => rfl
  | cons t ts ih =>
    rw [tokens, List.cons_append, bind_of (token_cons t _)]
    exact ih

def ReadsMany (stop : List Token → Option (List Token)) (p : Reader α) (ts : List Token)
    (xs : List α) : Prop :=
  ∀ rest ys left, many stop p rest = some (ys, left) →
    many stop p (ts ++ rest) = some (xs ++ ys, left)

variable {stop : List Token → Option (List Token)} {p : Reader α} {xs ys : List α}

lemma ReadsMany.nil : ReadsMany stop p [] [] := fun _ _ _ h => h

lemma ReadsMany.append (h : ReadsMany stop p ts xs) (h' : ReadsMany stop p us ys) :
    ReadsMany stop p (ts ++ us) (xs ++ ys) := by
  intro rest zs left hr
  rw [List.append_assoc, List.append_assoc]
  exact h _ _ _ (h' _ _ _ hr)

lemma readsMany_one {x : α} (hn : ts ≠ []) (hs : ∀ rest, stop (ts ++ rest) = none)
    (h : ∀ rest, p (ts ++ rest) = some (x, rest)) : ReadsMany stop p ts [x] := by
  intro rest ys left hr
  have hl : rest.length < (ts ++ rest).length := by
    have := List.length_pos_iff.mpr hn
    rw [List.length_append]
    omega
  rw [many]
  simp only [hs, h, hl, hr]
  rfl

lemma ReadsMany.many (h : ReadsMany stop p ts xs) {left : List Token} (hs : stop rest = some left) :
    Reader.many stop p (ts ++ rest) = some (xs, left) := by
  have hend : Reader.many stop p rest = some ([], left) := by
    rw [Reader.many]
    simp only [hs]
  simpa using h rest [] left hend

end Reader

open Reader

section Attributes

variable {rest : List Token}

def Token.IsPlain (t : Token) : Prop := ∀ m ∈ ["(", ")", "[", "]", "\x7b", "\x7d", ","], t ≠ .mark m

def argumentTokens (args : List (List Token)) : List Token := [.mark ","].intercalate args

def Attribute.tokens (b : Attribute) : List Token :=
  [.mark "#", .mark "[", .word b.name, .mark "("] ++ argumentTokens b.arguments ++
    [.mark ")", .mark "]"]

structure Attribute.IsPlain (b : Attribute) : Prop where
  arguments_ne_nil : b.arguments ≠ []
  plain : ∀ argument ∈ b.arguments, ∀ t ∈ argument, t.IsPlain

lemma arguments_append {argument : List Token} (h : ∀ t ∈ argument, t.IsPlain) {ts : List Token}
    {first : List Token} {more : List (List Token)}
    (hts : arguments ts = some (first :: more, rest)) :
    arguments (argument ++ ts) = some ((argument ++ first) :: more, rest) := by
  induction argument with
  | nil => exact hts
  | cons t argument ih =>
    rw [List.forall_mem_cons] at h
    have hb : (["(", "[", "]", "\x7b", "\x7d"].any fun bracket => decide (t = .mark bracket)) =
        false := by
      rw [List.any_eq_false]
      intro m hm
      have := h.1 m (by simp at hm ⊢; tauto)
      simpa using this
    rw [List.cons_append, arguments, if_neg (h.1 ")" (by simp)), if_neg (h.1 "," (by simp)), hb,
      ih h.2]
    rfl

lemma arguments_argumentTokens {args : List (List Token)} (hn : args ≠ [])
    (h : ∀ argument ∈ args, ∀ t ∈ argument, t.IsPlain) (rest : List Token) :
    arguments (argumentTokens args ++ .mark ")" :: rest) = some (args, rest) := by
  have hend : arguments (.mark ")" :: rest) = some ([[]], rest) := by simp [arguments]
  induction args with
  | nil => exact absurd rfl hn
  | cons argument args ih =>
    rw [List.forall_mem_cons] at h
    cases args with
    | nil =>
      have := arguments_append h.1 hend
      simpa [argumentTokens, List.intercalate] using this
    | cons next args =>
      have hcomma : arguments (.mark "," :: (argumentTokens (next :: args) ++ .mark ")" :: rest)) =
          some ([] :: next :: args, rest) := by
        rw [arguments, if_neg (by simp), if_pos rfl, ih (by simp) h.2]
        rfl
      have := arguments_append h.1 hcomma
      simpa [argumentTokens, List.intercalate] using this

lemma attributeBody_append {b : Attribute} (h : b.IsPlain) (rest : List Token) :
    attributeBody (.mark "[" :: .word b.name :: .mark "(" ::
      (argumentTokens b.arguments ++ .mark ")" :: .mark "]" :: rest)) = some (b, rest) := by
  rw [attributeBody, bind_of (mark_cons _ _), bind_of (show word _ = some (b.name, _) from rfl),
    bind_of (mark_cons _ _),
    bind_of (arguments_argumentTokens h.arguments_ne_nil h.plain _), bind_of (mark_cons _ _)]
  rfl

lemma attributes_append {bs : List Attribute} (h : ∀ b ∈ bs, b.IsPlain)
    (hr : rest.head? ≠ some (.mark "#")) :
    attributes (bs.flatMap Attribute.tokens ++ rest) = some (bs, rest) := by
  have hone : ∀ b ∈ bs, ∀ rest, (mark "#" >>= fun _ => attributeBody) (b.tokens ++ rest) =
      some (b, rest) := by
    intro b hb rest
    have hb := attributeBody_append (h b hb) rest
    simpa [Attribute.tokens, bind_of (mark_cons "#" _)] using hb
  refine ReadsMany.many ?_ ?_
  · clear hr h
    induction bs with
    | nil => exact .nil
    | cons b bs ih =>
      rw [List.forall_mem_cons] at hone
      exact (readsMany_one (by simp [Attribute.tokens]) (fun _ => rfl) hone.1).append (ih hone.2)
  · cases rest with
    | nil => rfl
    | cons t rest =>
      have ht : (.mark "#" == t) = false := by
        rw [beq_eq_false_iff_ne]
        rintro rfl
        exact hr rfl
      simp [unlessAhead, List.isPrefixOf, ht]

end Attributes

section Words

variable {a : Alphabet} {reserved : List String} {rest : List Token}

lemma Word.IsIdentifier.isFree {w : Word} (h : w.IsIdentifier a reserved) :
    w.isFree reserved = true := by
  rw [Word.isFree, Bool.and_eq_true, bne_iff_ne, Bool.not_eq_true', ← Bool.not_eq_true,
    List.contains_iff_mem]
  exact ⟨h.ne_underscore, h.allowed⟩

lemma identifier_cons {w : Word} (h : w.IsIdentifier a reserved) (rest : List Token) :
    identifier reserved (.word w :: rest) = some (w, rest) := by
  rw [identifier, bind_of (show word _ = some (w, rest) from rfl), if_pos h.isFree]
  rfl

def Word.IsSegment (a : Alphabet) (reserved : List String) (w : Word) : Prop :=
  w.IsIdentifier a reserved ∨ w.raw = false ∧ w.name ∈ placeWords

lemma Word.IsSegment.isSegment {w : Word} (h : w.IsSegment a reserved) :
    w.isSegment reserved = true := by
  rw [Word.isSegment, Bool.or_eq_true]
  refine h.imp Word.IsIdentifier.isFree ?_
  rintro ⟨hr, hp⟩
  simp [hr, hp]

lemma Word.IsSegment.isWord {w : Word} (h : w.IsSegment a reserved) : a.IsWord w.name := by
  rcases h with h | ⟨-, hp⟩
  · exact h.isWord
  · have hall : ∀ name ∈ placeWords, Alphabet.ascii.IsWord name := by decide
    exact (hall _ hp).of_ascii

end Words

section Types

variable {a : Alphabet} {reserved : List String} {rest : List Token}

def segmentTokens (ws : List Word) : List Token := ws.flatMap fun w => [.mark "::", .word w]

def pathTokens (first : Option Word) (more : List Word) : List Token :=
  first.toList.map .word ++ segmentTokens more

inductive TypeTokens (a : Alphabet) (reserved : List String) : CodeType → List Token → Prop
  | path {first : Option Word} {more : List Word} : (first.isSome ∨ more ≠ []) →
      (∀ w ∈ first, w.IsSegment a reserved) → (∀ w ∈ more, w.IsSegment a reserved) →
      TypeTokens a reserved (.named (pathText first more)) (pathTokens first more)
  | wrapped {name : String} {wrap : CodeType → CodeType} {type : CodeType} {ts : List Token} :
      wrapper? name = some wrap → TypeTokens a reserved type ts →
      TypeTokens a reserved (wrap type)
        (.word ⟨false, name⟩ :: .mark "<" :: (ts ++ [.mark ">"]))

def EndsType (rest : List Token) : Prop := ∃ m more, rest = .mark m :: more ∧ m ≠ "::" ∧ m ≠ "<"

lemma segments_append {ws : List Word} (h : ∀ w ∈ ws, w.IsSegment a reserved)
    (hr : EndsType rest) : segments reserved (segmentTokens ws ++ rest) = (ws, rest) := by
  obtain ⟨m, more, rfl, hm, -⟩ := hr
  induction ws with
  | nil =>
    rw [segmentTokens, List.flatMap_nil, List.nil_append]
    cases more with
    | nil => rfl
    | cons t more => cases t <;> simp [segments, hm]
  | cons w ws ih =>
    rw [List.forall_mem_cons] at h
    have ih := ih h.2
    simp only [segmentTokens, List.flatMap_cons, List.cons_append, List.nil_append] at ih ⊢
    rw [segments, if_pos ⟨rfl, h.1.isSegment⟩, ih]

lemma path_append {first : Option Word} {more : List Word} (hn : first.isSome ∨ more ≠ [])
    (hf : ∀ w ∈ first, w.IsSegment a reserved) (hm : ∀ w ∈ more, w.IsSegment a reserved)
    (hr : EndsType rest) :
    path reserved (pathTokens first more ++ rest) = some (pathText first more, rest) := by
  have hs := segments_append hm hr
  cases first with
  | some w =>
    have ht : pathTokens (some w) more ++ rest = .word w :: (segmentTokens more ++ rest) := rfl
    rw [ht, path, if_pos (hf w rfl).isSegment, hs]
  | none =>
    obtain ⟨v, vs, rfl⟩ := List.exists_cons_of_ne_nil (hn.resolve_left (by simp))
    have ht : pathTokens none (v :: vs) ++ rest = segmentTokens (v :: vs) ++ rest := rfl
    rw [ht, path, hs]
    · rfl
    · simp [segmentTokens]

lemma type_append {t : CodeType} {ts : List Token} (h : TypeTokens a reserved t ts)
    (hr : EndsType rest) : type reserved (ts ++ rest) = some (t, rest) := by
  induction h generalizing rest with
  | @path first more hn hf hm =>
    have hpath := path_append hn hf hm hr
    -- a wrapper begins with a word too: the mark behind it tells them apart
    have hmark : ∃ m us, segmentTokens more ++ rest = .mark m :: us ∧ m ≠ "<" := by
      obtain ⟨m, us, rfl, -, hne⟩ := hr
      cases more with
      | nil => exact ⟨m, us, rfl, hne⟩
      | cons v vs => exact ⟨"::", _, rfl, by decide⟩
    obtain ⟨m, us, he, hne⟩ := hmark
    cases first with
    | some w =>
      have ht : pathTokens (some w) more ++ rest = .word w :: .mark m :: us := congrArg _ he
      rw [ht] at hpath ⊢
      rw [type, if_neg hne, hpath]
      rfl
    | none =>
      have ht : pathTokens none more ++ rest = .mark m :: us := he
      rw [ht] at hpath ⊢
      rw [type, hpath]
      · rfl
      · simp
  | @wrapped name wrap inner ts hw ht ih =>
    have hclose : EndsType (.mark ">" :: rest) := ⟨">", rest, rfl, by decide, by decide⟩
    have ih := ih hclose
    rw [List.cons_append, List.cons_append, List.append_assoc, List.singleton_append, type,
      if_pos rfl]
    simp [Word.text, hw, ih]

end Types

section Items

variable {a : Alphabet} {reserved : List String} {ts rest : List Token}

abbrev Token.plain (name : String) : Token := .word ⟨false, name⟩

def fieldTokens (r : Field) (ts : List Token) : List Token :=
  r.attributes.flatMap Attribute.tokens ++
    [.plain "pub", .word r.name, .mark ":"] ++ ts ++ [.mark ","]

def choiceTokens (c : Choice) : List Token :=
  c.attributes.flatMap Attribute.tokens ++ [.word c.name, .mark ","]

def armTokens (m : Arm) : List Token :=
  [.word m.owner, .mark "::", .word m.variant, .mark "=>", .literal m.text, .mark ","]

def aliasTokens (name : Word) (ts : List Token) : List Token :=
  [.plain "pub", .plain "type", .word name, .mark "="] ++ ts ++ [.mark ";"]

def blockTokens (kind : String) (bs : List Attribute) (name : Word) (body : List Token) :
    List Token :=
  bs.flatMap Attribute.tokens ++ [.plain "pub", .plain kind, .word name, .mark "\x7b"] ++ body ++
    [.mark "\x7d"]

def textsTokens (owner : Word) (body : List Token) : List Token :=
  [.plain "impl", .word owner, .mark "\x7b"] ++ textsHead ++ body ++
    [.mark "\x7d", .mark "\x7d", .mark "\x7d"]

lemma endsType_mark {m : String} (h : m ≠ "::") (h' : m ≠ "<") (rest : List Token) :
    EndsType (.mark m :: rest) := ⟨m, rest, rfl, h, h'⟩

lemma field_append {r : Field} (hb : ∀ b ∈ r.attributes, b.IsPlain)
    (hn : r.name.IsIdentifier a reserved) (ht : TypeTokens a reserved r.type ts)
    (rest : List Token) : field reserved (fieldTokens r ts ++ rest) = some (r, rest) := by
  have he : fieldTokens r ts ++ rest = r.attributes.flatMap Attribute.tokens ++
      (.plain "pub" :: .word r.name :: .mark ":" :: (ts ++ .mark "," :: rest)) := by
    simp [fieldTokens]
  rw [he, field, bind_of (attributes_append hb (by simp)), bind_of (keyword_cons _ _),
    bind_of (identifier_cons hn _), bind_of (mark_cons _ _),
    bind_of (type_append ht (endsType_mark (by decide) (by decide) _)), bind_of (mark_cons _ _)]
  rfl

lemma choice_append {c : Choice} (hb : ∀ b ∈ c.attributes, b.IsPlain)
    (hn : c.name.IsIdentifier a reserved) (rest : List Token) :
    choice reserved (choiceTokens c ++ rest) = some (c, rest) := by
  have he : choiceTokens c ++ rest = c.attributes.flatMap Attribute.tokens ++
      (.word c.name :: .mark "," :: rest) := by
    simp [choiceTokens]
  rw [he, choice, bind_of (attributes_append hb (by simp)), bind_of (identifier_cons hn _),
    bind_of (mark_cons _ _)]
  rfl

lemma arm_append {m : Arm} (ho : m.owner.IsIdentifier a reserved)
    (hv : m.variant.IsIdentifier a reserved) (rest : List Token) :
    arm reserved (armTokens m ++ rest) = some (m, rest) := by
  rw [armTokens, List.cons_append, List.cons_append, List.cons_append, List.cons_append,
    List.cons_append, List.cons_append, List.nil_append, arm, bind_of (identifier_cons ho _),
    bind_of (mark_cons _ _), bind_of (identifier_cons hv _), bind_of (mark_cons _ _),
    bind_of (show literal _ = some (m.text, _) from rfl), bind_of (mark_cons _ _)]
  rfl

lemma or_left {α : Type} {p q : Reader α} {r : α × List Token} (h : p ts = some r) :
    Reader.or p q ts = some r := by
  rw [Reader.or, h]
  rfl

lemma or_right {α : Type} {p q : Reader α} (h : p ts = none) : Reader.or p q ts = q ts := by
  rw [Reader.or, h]
  rfl

lemma item_alias {name : Word} {t : CodeType} (hn : name.IsIdentifier a reserved)
    (ht : TypeTokens a reserved t ts) (rest : List Token) :
    item reserved (aliasTokens name ts ++ rest) = some (.alias [] name t, rest) := by
  have he : aliasTokens name ts ++ rest = .plain "pub" :: .plain "type" :: .word name ::
      .mark "=" :: (ts ++ .mark ";" :: rest) := by
    simp [aliasTokens]
  have hread : aliasItem reserved [] (aliasTokens name ts ++ rest) =
      some (.alias [] name t, rest) := by
    rw [he, aliasItem, bind_of (keyword_cons _ _), bind_of (keyword_cons _ _),
      bind_of (identifier_cons hn _), bind_of (mark_cons _ _),
      bind_of (type_append ht (endsType_mark (by decide) (by decide) _)),
      bind_of (mark_cons _ _)]
    rfl
  have hb : attributes (aliasTokens name ts ++ rest) = some ([], aliasTokens name ts ++ rest) :=
    attributes_append (List.forall_mem_nil _) (by simp)
  rw [item, bind_of hb]
  exact or_left (or_left hread)

section Kinds

variable {bs : List Attribute} {name : String}

lemma aliasItem_eq_none (h : name ≠ "type") (ts : List Token) :
    aliasItem reserved bs (.plain "pub" :: .plain name :: ts) = none := by
  simp [aliasItem, keyword, token, bind, StateT.bind, h]

lemma structItem_eq_none (h : name ≠ "struct") (ts : List Token) :
    structItem reserved bs (.plain "pub" :: .plain name :: ts) = none := by
  simp [structItem, keyword, token, bind, StateT.bind, h]

lemma declared_eq_none (h : name ≠ "pub") (ts : List Token) :
    Reader.or (aliasItem reserved bs) (Reader.or (structItem reserved bs) (enumItem reserved bs))
      (.plain name :: ts) = none := by
  simp [Reader.or, aliasItem, structItem, enumItem, keyword, token, bind, StateT.bind, h]

end Kinds

lemma item_declared {bs : List Attribute} (hb : ∀ b ∈ bs, b.IsPlain) {us : List Token}
    (hu : us.head? ≠ some (.mark "#")) {r : Item × List Token}
    (h : Reader.or (aliasItem reserved bs) (Reader.or (structItem reserved bs)
      (enumItem reserved bs)) us = some r) :
    item reserved (bs.flatMap Attribute.tokens ++ us) = some r := by
  rw [item, bind_of (attributes_append hb hu)]
  split_ifs
  · exact or_left h
  · exact h

lemma item_struct {bs : List Attribute} {name : Word} {fields : List Field}
    (hb : ∀ b ∈ bs, b.IsPlain) (hn : name.IsIdentifier a reserved)
    (hf : ReadsMany (atMark "\x7d") (field reserved) ts fields) (rest : List Token) :
    item reserved (blockTokens "struct" bs name ts ++ rest) =
      some (.struct bs name fields, rest) := by
  have he : blockTokens "struct" bs name ts ++ rest = bs.flatMap Attribute.tokens ++
      (.plain "pub" :: .plain "struct" :: .word name :: .mark "\x7b" ::
        (ts ++ .mark "\x7d" :: rest)) := by
    simp [blockTokens]
  rw [he]
  have hmany : many (atMark "\x7d") (field reserved) (ts ++ .mark "\x7d" :: rest) =
      some (fields, rest) := hf.many rfl
  refine item_declared hb (by simp) ?_
  rw [or_right (aliasItem_eq_none (by decide) _)]
  apply or_left
  rw [structItem, bind_of (keyword_cons _ _), bind_of (keyword_cons _ _),
    bind_of (identifier_cons hn _), bind_of (mark_cons _ _), bind_of hmany]
  rfl

lemma item_enum {bs : List Attribute} {name : Word} {choices : List Choice}
    (hb : ∀ b ∈ bs, b.IsPlain) (hn : name.IsIdentifier a reserved)
    (hc : ReadsMany (atMark "\x7d") (choice reserved) ts choices) (rest : List Token) :
    item reserved (blockTokens "enum" bs name ts ++ rest) =
      some (.enum bs name choices, rest) := by
  have he : blockTokens "enum" bs name ts ++ rest = bs.flatMap Attribute.tokens ++
      (.plain "pub" :: .plain "enum" :: .word name :: .mark "\x7b" ::
        (ts ++ .mark "\x7d" :: rest)) := by
    simp [blockTokens]
  rw [he]
  have hmany : many (atMark "\x7d") (choice reserved) (ts ++ .mark "\x7d" :: rest) =
      some (choices, rest) := hc.many rfl
  refine item_declared hb (by simp) ?_
  rw [or_right (aliasItem_eq_none (by decide) _), or_right (structItem_eq_none (by decide) _),
    enumItem,
    bind_of (keyword_cons _ _), bind_of (keyword_cons _ _), bind_of (identifier_cons hn _),
    bind_of (mark_cons _ _), bind_of hmany]
  rfl

lemma item_texts {owner : Word} {arms : List Arm} (ho : owner.IsIdentifier a reserved)
    (hm : ReadsMany (atMark "\x7d") (arm reserved) ts arms) (rest : List Token) :
    item reserved (textsTokens owner ts ++ rest) = some (.texts owner arms, rest) := by
  have he : textsTokens owner ts ++ rest = .plain "impl" :: .word owner :: .mark "\x7b" ::
      (textsHead ++ (ts ++ .mark "\x7d" :: .mark "\x7d" :: .mark "\x7d" :: rest)) := by
    simp [textsTokens]
  have hb : attributes (textsTokens owner ts ++ rest) = some ([], textsTokens owner ts ++ rest) :=
    attributes_append (List.forall_mem_nil _) (by simp)
  have hmany : many (atMark "\x7d") (arm reserved)
      (ts ++ .mark "\x7d" :: .mark "\x7d" :: .mark "\x7d" :: rest) =
      some (arms, .mark "\x7d" :: .mark "\x7d" :: rest) := hm.many rfl
  rw [item, bind_of hb, he]
  refine (or_right (declared_eq_none (by decide) _)).trans (or_left ?_)
  · rw [textsItem, bind_of (keyword_cons _ _), bind_of (identifier_cons ho _),
      bind_of (mark_cons _ _), bind_of (tokens_append _ _), bind_of hmany,
      bind_of (mark_cons _ _), bind_of (mark_cons _ _)]
    rfl

lemma atMark_of_head {m : String} (h : ts.head? ≠ some (.mark m)) : atMark m ts = none := if_neg h

lemma readsMany_field {r : Field} (hb : ∀ b ∈ r.attributes, b.IsPlain)
    (hn : r.name.IsIdentifier a reserved) (ht : TypeTokens a reserved r.type ts) :
    ReadsMany (atMark "\x7d") (field reserved) (fieldTokens r ts) [r] := by
  refine readsMany_one (by simp [fieldTokens]) (fun rest => atMark_of_head ?_)
    (field_append hb hn ht)
  cases hr : r.attributes <;> simp [fieldTokens, hr, Attribute.tokens]

lemma readsMany_choice {c : Choice} (hb : ∀ b ∈ c.attributes, b.IsPlain)
    (hn : c.name.IsIdentifier a reserved) :
    ReadsMany (atMark "\x7d") (choice reserved) (choiceTokens c) [c] := by
  refine readsMany_one (by simp [choiceTokens]) (fun rest => atMark_of_head ?_)
    (choice_append hb hn)
  cases hc : c.attributes <;> simp [choiceTokens, hc, Attribute.tokens]

lemma readsMany_arm {m : Arm} (ho : m.owner.IsIdentifier a reserved)
    (hv : m.variant.IsIdentifier a reserved) :
    ReadsMany (atMark "\x7d") (arm reserved) (armTokens m) [m] :=
  readsMany_one (by simp [armTokens]) (fun _ => rfl) (arm_append ho hv)

lemma readsMany_item {x : Item} (hn : ts ≠ [])
    (h : ∀ rest, item reserved (ts ++ rest) = some (x, rest)) :
    ReadsMany atEnd (item reserved) ts [x] := by
  refine readsMany_one hn (fun rest => ?_) h
  cases ts with
  | nil => exact absurd rfl hn
  | cons => rfl

lemma item_import {path : List Token} (h : .mark ";" ∉ path) (rest : List Token) :
    item reserved (.plain "use" :: (path ++ .mark ";" :: rest)) = some (.imported path, rest) := by
  have hpath : ReadsMany (atMark ";") (fun ts => ts.head?.map fun t => (t, ts.tail)) path path := by
    induction path with
    | nil => exact .nil
    | cons t path ih =>
      rw [List.mem_cons, not_or] at h
      have hone : ReadsMany (atMark ";") (fun ts => ts.head?.map fun t => (t, ts.tail)) [t] [t] :=
        readsMany_one (by simp) (fun _ => atMark_of_head (by simpa using Ne.symm h.1)) fun _ => rfl
      exact hone.append (ih h.2)
  have hmany : many (atMark ";") (fun ts => ts.head?.map fun t => (t, ts.tail))
      (path ++ .mark ";" :: rest) = some (path, rest) := hpath.many rfl
  have hb : attributes (.plain "use" :: (path ++ .mark ";" :: rest)) =
      some ([], .plain "use" :: (path ++ .mark ";" :: rest)) :=
    attributes_append (List.forall_mem_nil _) (by simp)
  rw [item, bind_of hb]
  refine (or_right (declared_eq_none (by decide) _)).trans ((or_right ?_).trans ?_)
  · simp [textsItem, keyword, token, bind, StateT.bind]
  · rw [importItem, bind_of (keyword_cons _ _), bind_of hmany]
    rfl

lemma items_append {b : Attribute} (hb : b.IsPlain) {found : List Item}
    (h : ReadsMany atEnd (item reserved) ts found) (ht : ts.head? ≠ some (.mark "#")) :
    items reserved (.mark "#" :: .mark "!" :: (b.tokens.tail ++ ts)) =
      some (.setting b :: found) := by
  have hone : ReadsMany (unlessAhead [.mark "#", .mark "!"]) setting
      (.mark "#" :: .mark "!" :: b.tokens.tail) [.setting b] := by
    refine readsMany_one (by simp) (fun _ => rfl) fun rest => ?_
    have hbody := attributeBody_append hb rest
    rw [List.cons_append, List.cons_append, setting, bind_of (mark_cons _ _),
      bind_of (mark_cons _ _), bind_of (by simpa [Attribute.tokens] using hbody)]
    rfl
  have hstop : unlessAhead [.mark "#", .mark "!"] ts = some ts := by
    rw [unlessAhead, if_neg]
    cases ts with
    | nil => simp
    | cons t ts =>
      have ht : .mark "#" ≠ t := fun he => ht (by rw [he]; rfl)
      simp [List.isPrefixOf, ht]
  have hsettings := hone.many hstop
  have hitems : many atEnd (item reserved) ts = some (found, []) := by
    simpa using h.many (show atEnd [] = some [] from rfl)
  rw [List.cons_append, List.cons_append] at hsettings
  rw [items, hsettings]
  simp [hitems]

end Items

end GraphqlBindings.Code

import Mathlib.Data.List.Forall2
import Mathlib.Tactic.Lemma
import GraphqlBindings.Language.TypeSystem
import GraphqlBindings.Proofs.Language.Spelling

namespace GraphqlBindings.Language

namespace Parser

variable {α β : Type}

def Reads (p : Parser α) (ts : List Token) (a : α) (rest : List Token) : Prop :=
  ∀ ls : List Lexeme, ls.map Lexeme.token = ts →
    ∃ left : List Lexeme, left.map Lexeme.token = rest ∧ p ls = .ok (a, left)

def Refuses (p : Parser α) (ts : List Token) : Prop :=
  ∀ ls : List Lexeme, ls.map Lexeme.token = ts → p ls = .error ls

lemma Reads.unique {p : Parser α} {ts rest rest' : List Token} {a b : α} (ha : Reads p ts a rest)
    (hb : Reads p ts b rest') : a = b := by
  have ht : (ts.map fun t => Lexeme.mk t .start).map Lexeme.token = ts := by
    rw [List.map_map]
    exact List.map_id ts
  obtain ⟨left, _, hl⟩ := ha _ ht
  obtain ⟨left', _, hl'⟩ := hb _ ht
  rw [hl] at hl'
  cases hl'
  rfl

section Sequence

variable {p : Parser α} {f : α → Parser β} {a : α} {b : β} {ts us rest : List Token}

lemma reads_pure (a : α) (ts : List Token) : Reads (pure a) ts a ts :=
  fun ls hl => ⟨ls, hl, rfl⟩

lemma Reads.bind (hp : Reads p ts a us) (hf : Reads (f a) us b rest) :
    Reads (p >>= f) ts b rest := by
  intro ls hl
  obtain ⟨mid, hm, hpm⟩ := hp ls hl
  obtain ⟨left, hr, hfr⟩ := hf mid hm
  refine ⟨left, hr, ?_⟩
  change (p ls >>= fun found => f found.1 found.2) = _
  rw [hpm]
  exact hfr

lemma Reads.map {g : α → β} (hp : Reads p ts a rest) :
    Reads (p >>= fun x => pure (g x)) ts (g a) rest :=
  hp.bind (reads_pure _ _)

lemma Refuses.bind (hp : Refuses p ts) : Refuses (p >>= f) ts := by
  intro ls hl
  change (p ls >>= fun found => f found.1 found.2) = _
  rw [hp ls hl]
  rfl

lemma Refuses.here {f : Position → Parser β} (h : ∀ position, Refuses (f position) ts) :
    Refuses (Parser.here >>= f) ts := by
  intro ls hl
  exact h _ ls hl

end Sequence

section Tokens

lemma reads_head {p : Parser α} {t : Token} {a : α}
    (h : ∀ position left, p (⟨t, position⟩ :: left) = .ok (a, left)) (rest : List Token) :
    Reads p (t :: rest) a rest := by
  intro ls hl
  obtain ⟨⟨_, position⟩, left, rfl, rfl, hr⟩ := List.map_eq_cons_iff.mp hl
  exact ⟨left, hr, h position left⟩

lemma reads_punct (q : Punctuator) : ∀ rest, Reads (punct q) (.punctuator q :: rest) () rest :=
  reads_head fun _ _ => if_pos rfl

lemma reads_name (n : String) : ∀ rest, Reads name (.name n :: rest) n rest :=
  reads_head fun _ _ => rfl

lemma reads_word (w : String) : ∀ rest, Reads (word w) (.name w :: rest) () rest :=
  reads_head fun _ _ => if_pos rfl

lemma refuses_punct {q : Punctuator} {ts : List Token}
    (h : ts.head? ≠ some (.punctuator q)) : Refuses (punct q) ts := by
  rintro (_ | ⟨⟨t, position⟩, left⟩) rfl
  · rfl
  · cases t with
    | punctuator p => exact if_neg fun hp => h (by simp [hp])
    | _ => rfl

lemma refuses_name {ts : List Token} (h : ∀ n, ts.head? ≠ some (.name n)) :
    Refuses name ts := by
  rintro (_ | ⟨⟨t, position⟩, left⟩) rfl
  · rfl
  · cases t with
    | name n => exact absurd rfl (h n)
    | _ => rfl

lemma refuses_word {w : String} {ts : List Token} (h : ts.head? ≠ some (.name w)) :
    Refuses (word w) ts := by
  rintro (_ | ⟨⟨t, position⟩, left⟩) rfl
  · rfl
  · cases t with
    | name n => exact if_neg fun hn => h (by simp [hn])
    | _ => rfl

lemma refuses_string {ts : List Token} (h : ∀ s, ts.head? ≠ some (.string s)) :
    Refuses string ts := by
  rintro (_ | ⟨⟨t, position⟩, left⟩) rfl
  · rfl
  · cases t with
    | string s => exact absurd rfl (h s)
    | _ => rfl

end Tokens

section Choice

variable {p q : Parser α} {a : α} {ts rest : List Token}

lemma Reads.or_left (hp : Reads p ts a rest) : Reads (p.or q) ts a rest := by
  intro ls hl
  obtain ⟨left, hr, hpl⟩ := hp ls hl
  exact ⟨left, hr, by rw [Parser.or, hpl]⟩

lemma Refuses.or_eq (hp : Refuses p ts) {ls : List Lexeme} (hl : ls.map Lexeme.token = ts) :
    p.or q ls = q ls := by
  rw [Parser.or, hp ls hl]
  exact if_neg (Nat.lt_irrefl _)

lemma Reads.or_right (hp : Refuses p ts) (hq : Reads q ts a rest) : Reads (p.or q) ts a rest := by
  intro ls hl
  rw [hp.or_eq hl]
  exact hq ls hl

lemma Refuses.or (hp : Refuses p ts) (hq : Refuses q ts) : Refuses (p.or q) ts := by
  intro ls hl
  rw [hp.or_eq hl]
  exact hq ls hl

lemma Reads.maybe (hp : Reads p ts a rest) : Reads (maybe p) ts (some a) rest :=
  hp.map.or_left

lemma Refuses.maybe (hp : Refuses p ts) : Reads (maybe p) ts none ts :=
  Reads.or_right hp.bind (reads_pure none ts)

lemma Refuses.maybe_bind {f : Option α → Parser β} (hp : Refuses p ts)
    (hf : Refuses (f none) ts) : Refuses (Parser.maybe p >>= f) ts := by
  intro ls hl
  have hm : Parser.maybe p ls = .ok (none, ls) := hp.bind.or_eq hl
  change (Parser.maybe p ls >>= fun found => f found.1 found.2) = _
  rw [hm]
  exact hf ls hl

end Choice

section Repetition

variable {p : Parser α} {a : α} {as : List α} {ts us rest : List Token}

lemma Refuses.repeated (hp : Refuses p ts) : Reads (repeated p) ts [] ts := by
  intro ls hl
  refine ⟨ls, hl, ?_⟩
  rw [Parser.repeated, hp ls hl]
  exact if_neg (Nat.lt_irrefl _)

lemma Reads.repeated_cons (hp : Reads p ts a us) (hl : us.length < ts.length)
    (hs : Reads (repeated p) us as rest) : Reads (repeated p) ts (a :: as) rest := by
  intro ls hls
  obtain ⟨mid, hm, hpm⟩ := hp ls hls
  obtain ⟨left, hr, hsr⟩ := hs mid hm
  refine ⟨left, hr, ?_⟩
  have hlt : mid.length < ls.length := by
    have hlm := congrArg List.length hm
    have hlt := congrArg List.length hls
    rw [List.length_map] at hlm hlt
    omega
  rw [Parser.repeated, hpm]
  simp only [hlt, dite_true, hsr]

lemma Reads.repeated1 (hp : Reads p ts a us) (hs : Reads (repeated p) us as rest) :
    Reads (repeated1 p) ts (a :: as) rest :=
  hp.bind hs.map

structure ReadsItem (Follows : List Token → Prop) (p : Parser α) (ts : List Token) (a : α) :
    Prop where
  ne_nil : ts ≠ []
  follows : ∀ more, Follows (ts ++ more)
  reads : ∀ more, Follows more → Reads p (ts ++ more) a more

section Items

variable {Follows : List Token → Prop} {items : List (List Token)}

lemma follows_flatten (h : List.Forall₂ (ReadsItem Follows p) items as) (hr : Follows rest) :
    Follows (items.flatten ++ rest) := by
  cases h with
  | nil => exact hr
  | cons hi _ =>
    rw [List.flatten_cons, List.append_assoc]
    exact hi.follows _

lemma reads_repeated (h : List.Forall₂ (ReadsItem Follows p) items as) (hr : Follows rest)
    (hp : Refuses p rest) : Reads (repeated p) (items.flatten ++ rest) as rest := by
  induction h with
  | nil => exact hp.repeated
  | cons hi hs ih =>
    rw [List.flatten_cons, List.append_assoc]
    apply (hi.reads _ (follows_flatten hs hr)).repeated_cons _ ih
    have := List.length_pos_iff.mpr hi.ne_nil
    simp only [List.length_append]
    omega

lemma reads_repeated1 (h : List.Forall₂ (ReadsItem Follows p) items as) (hr : Follows rest)
    (hp : Refuses p rest) (hn : items ≠ []) :
    Reads (repeated1 p) (items.flatten ++ rest) as rest := by
  cases h with
  | nil => exact absurd rfl hn
  | cons hi hs =>
    rw [List.flatten_cons, List.append_assoc]
    exact (hi.reads _ (follows_flatten hs hr)).repeated1 (reads_repeated hs hr hp)

end Items

def separatedNames (q : Punctuator) : List String → List Token
  | [] => []
  | n :: ns => .name n :: ns.flatMap fun m => [.punctuator q, .name m]

lemma reads_separated {q : Punctuator} (n : String) (ns : List String)
    (hr : rest.head? ≠ some (.punctuator q)) :
    Reads (separated name q) (separatedNames q (n :: ns) ++ rest) (n :: ns) rest := by
  have hi : List.Forall₂ (ReadsItem (fun _ => True) (do punct q; name))
      (ns.map fun m => [.punctuator q, .name m]) ns := by
    rw [List.forall₂_map_left_iff, List.forall₂_same]
    exact fun m _ => ⟨by simp, fun _ => trivial,
      fun more _ => (reads_punct q _).bind (reads_name m more)⟩
  exact (reads_name n _).bind (reads_repeated hi trivial (refuses_punct hr).bind).map

end Repetition

section Brackets

variable {o c : Punctuator} {d : Nat} {inside : Nat → Parser α} {a : α} {ts rest : List Token}

lemma Reads.between (h : Reads (inside d) ts a (.punctuator c :: rest)) :
    Reads (between o c (d + 1) inside) (.punctuator o :: ts) a rest :=
  (reads_punct o ts).bind (h.bind ((reads_punct c rest).bind (reads_pure a rest)))

lemma refuses_between (h : ts.head? ≠ some (.punctuator o)) :
    Refuses (between o c d inside) ts := by
  cases d with
  | zero => exact fun _ _ => rfl
  | succ d => exact (refuses_punct h).bind

def blockTokens (o c : Punctuator) (items : List (List Token)) : List Token :=
  if items.isEmpty then [] else .punctuator o :: items.flatten ++ [.punctuator c]

lemma reads_block {Follows : List Token → Prop} {items : List (List Token)} {as : List α}
    (h : List.Forall₂ (ReadsItem Follows (inside d)) items as)
    (hc : Follows (.punctuator c :: rest)) (hp : Refuses (inside d) (.punctuator c :: rest))
    (hr : rest.head? ≠ some (.punctuator o)) :
    Reads (block o c (d + 1) inside) (blockTokens o c items ++ rest) as rest := by
  by_cases hn : items = []
  · subst hn
    cases h
    exact (refuses_between hr).maybe.map
  · have hb : Reads (between o c (d + 1) fun d => repeated1 (inside d))
        (.punctuator o :: (items.flatten ++ .punctuator c :: rest)) as rest :=
      (reads_repeated1 h hc hp hn).between
    have hm : blockTokens o c items ++ rest =
        .punctuator o :: (items.flatten ++ .punctuator c :: rest) := by
      simp [blockTokens, hn]
    rw [hm]
    exact hb.maybe.map

end Brackets

lemma read_eq_ok {p : Parser α} {text : String} {ts : List Token} {a : α}
    (hs : Spells text.toList ts) (hp : Reads p ts a []) : p.read text = .ok a := by
  obtain ⟨ht, hc⟩ := hs.lexFrom .start
  obtain ⟨left, hl, hr⟩ := hp (lex text).lexemes ht
  rw [List.map_eq_nil_iff] at hl
  subst hl
  rw [read, hr]
  exact if_pos hc

lemma exists_read_error {p : Parser α} {text : String} (h : Refuses p (tokensOf text)) :
    ∃ position, p.read text = .error position := by
  rw [read, h (lex text).lexemes rfl]
  cases (lex text).lexemes with
  | nil => exact ⟨_, rfl⟩
  | cons l ls => exact ⟨_, rfl⟩

end Parser

end GraphqlBindings.Language

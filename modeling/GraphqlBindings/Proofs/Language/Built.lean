import GraphqlBindings.Language.Document
import GraphqlBindings.Proofs.Keyed
import GraphqlBindings.Proofs.Language.Spelling

/-! What parsers build from the tokens of a text. Each leaves an end of those tokens, so that what
holds of them holds wherever a parser goes on. -/

namespace GraphqlBindings.Language

section Tokens

lemma firstToken?_ne_name {c : Char} (hs : ¬ isNameStart c = true) (cs rest : List Char)
    (name : String) : firstToken? (c :: cs) ≠ some (.name name, rest) := by
  intro h
  by_cases hq : c = '"'
  · subst hq
    by_cases hb : ∃ inside, cs = '"' :: '"' :: inside
    · obtain ⟨inside, rfl⟩ := hb
      rw [firstToken?_block] at h
      simp at h
    · rw [firstToken?_string fun inside hi => hb ⟨inside, hi⟩] at h
      simp [Option.bind_eq_some_iff] at h
  · by_cases hdot : c = '.'
    · subst hdot
      obtain ⟨r, rfl⟩ := exists_of_firstToken?_dot h
      cases h
    · rw [firstToken?_cons hq hdot, if_neg hs] at h
      split_ifs at h
      · simp only [numberToken?] at h
        split_ifs at h <;> simp at h
      · simp at h

lemma isName_of_firstToken? {cs rest : List Char} {name : String}
    (h : firstToken? cs = some (.name name, rest)) : IsName name := by
  cases cs with
  | nil => simp [firstToken?, takeToken] at h
  | cons c cs =>
    by_cases hs : isNameStart c = true
    · rw [firstToken?_name hs, Option.some.injEq, Prod.mk.injEq, Token.name.injEq] at h
      rw [IsName, ← h.1, String.toList_ofList, isName, hs, Bool.true_and, List.all_takeWhile]
    · exact absurd h (firstToken?_ne_name hs cs rest name)

lemma isName_of_mem_lexemes {source name : String} {l : Lexeme} (hl : l ∈ (lex source).lexemes)
    (ht : l.token = .name name) : IsName name := by
  rw [lex] at hl
  generalize Position.start = p at hl
  generalize source.toList = cs at hl
  fun_induction lexFrom p cs with
  | case1 => cases hl
  | case2 => cases hl
  | case3 p cs c rest q _ t htake later ih =>
    rcases List.mem_cons.mp hl with rfl | hl
    · have hf : firstToken? (c :: rest) = some (t.token, t.rest) := by
        rw [firstToken?, htake]
        rfl
      exact isName_of_firstToken? (hf.trans (by rw [← ht]))
    · exact ih hl

end Tokens

namespace Parser

variable {α β : Type} {source : String}

def Ensures (source : String) (p : Parser α) (P : α → Prop) : Prop :=
  ∀ ls a rest, ls <:+ (lex source).lexemes → p ls = .ok (a, rest) →
    P a ∧ rest <:+ (lex source).lexemes

section Combinators

variable {p q : Parser α} {f : α → Parser β} {P : α → Prop} {Q : β → Prop}

lemma ensures_pure {a : α} (h : P a) : Ensures source (pure a) P := by
  rintro ls b rest hls he
  cases he
  exact ⟨h, hls⟩

lemma Ensures.bind (hp : Ensures source p P) (hf : ∀ a, P a → Ensures source (f a) Q) :
    Ensures source (p >>= f) Q := by
  intro ls b rest hls he
  change (p ls >>= fun found => f found.1 found.2) = _ at he
  cases hpl : p ls with
  | error left =>
    rw [hpl] at he
    cases he
  | ok found =>
    rw [hpl] at he
    obtain ⟨ha, hrest⟩ := hp ls found.1 found.2 hls hpl
    exact hf found.1 ha found.2 b rest hrest he

lemma Ensures.or (hp : Ensures source p P) (hq : Ensures source q P) :
    Ensures source (p.or q) P := by
  intro ls a rest hls he
  rw [Parser.or] at he
  cases hpl : p ls with
  | error left =>
    rw [hpl] at he
    dsimp only at he
    split_ifs at he
    exact hq ls a rest hls he
  | ok found =>
    rw [hpl] at he
    cases he
    exact hp ls _ _ hls hpl

lemma Ensures.maybe (hp : Ensures source p P) : Ensures source (maybe p) fun o => ∀ a ∈ o, P a :=
  (hp.bind fun a ha => ensures_pure (by simpa using ha)).or (ensures_pure (by simp))

lemma Ensures.repeated (hp : Ensures source p P) :
    Ensures source (repeated p) fun as => ∀ a ∈ as, P a := by
  intro ls as rest hls he
  fun_induction Parser.repeated p ls generalizing as rest with
  | case1 => cases he
  | case2 =>
    cases he
    exact ⟨by simp, hls⟩
  | case3 => cases he
  | case4 ls a mid hpl _ more left hmore ih =>
    obtain ⟨ha, hmid⟩ := hp ls a mid hls hpl
    obtain ⟨has, hleft⟩ := ih more left hmid hmore
    cases he
    exact ⟨List.forall_mem_cons.mpr ⟨ha, has⟩, hleft⟩
  | case5 ls a mid hpl _ =>
    obtain ⟨ha, hmid⟩ := hp ls a mid hls hpl
    cases he
    exact ⟨by simpa using ha, hmid⟩

lemma Ensures.repeated1 (hp : Ensures source p P) :
    Ensures source (repeated1 p) fun as => ∀ a ∈ as, P a :=
  hp.bind fun _ ha => hp.repeated.bind fun _ has =>
    ensures_pure (List.forall_mem_cons.mpr ⟨ha, has⟩)

lemma ensures_here : Ensures source here fun _ => True := by
  rintro ls a rest hls he
  cases he
  exact ⟨trivial, hls⟩

lemma ensures_head {p : Parser α} (h : ∀ ls a rest, p ls = .ok (a, rest) → ∃ l, ls = l :: rest ∧
    (l ∈ (lex source).lexemes → P a)) : Ensures source p P := by
  intro ls a rest hls he
  obtain ⟨l, rfl, hl⟩ := h ls a rest he
  exact ⟨hl (hls.subset List.mem_cons_self), (List.suffix_cons l rest).trans hls⟩

lemma ensures_punct (q : Punctuator) : Ensures source (punct q) fun _ => True :=
  ensures_head fun ls a rest he => by
    unfold punct at he
    split at he
    · split_ifs at he
      cases he
      exact ⟨_, rfl, fun _ => trivial⟩
    · cases he

lemma ensures_word (w : String) : Ensures source (word w) fun _ => True :=
  ensures_head fun ls a rest he => by
    unfold word at he
    split at he
    · split_ifs at he
      cases he
      exact ⟨_, rfl, fun _ => trivial⟩
    · cases he

lemma ensures_name : Ensures source name IsName :=
  ensures_head fun ls a rest he => by
    unfold name at he
    split at he
    · cases he
      exact ⟨_, rfl, fun hl => isName_of_mem_lexemes hl rfl⟩
    · cases he

lemma Ensures.between {o c : Punctuator} {inside : Nat → Parser α}
    (h : ∀ d, Ensures source (inside d) P) (d : Nat) :
    Ensures source (between o c d inside) P := by
  cases d with
  | zero => exact fun _ _ _ _ he => by cases he
  | succ d =>
    exact (ensures_punct o).bind fun _ _ => (h d).bind fun _ ha =>
      (ensures_punct c).bind fun _ _ => ensures_pure ha

end Combinators

end Parser

open GraphqlBindings.Language.Parser

section Constants

variable {source : String}

inductive Value.Built : Value → Prop
  | int (n : Int) : Built (.int n)
  | float (b : Decimal.Binary64) : Built (.float b)
  | string (s : String) : Built (.string s)
  | bool (b : Bool) : Built (.bool b)
  | null : Built .null
  | enumName {name : String} : IsName name → Value.ofName name = .enumName name →
      Built (.enumName name)
  | list {items : List Value} : (∀ v ∈ items, Built v) → Built (.list items)
  | object {fields : List (String × Value)} : Keyed.Sorted fields → (∀ f ∈ fields, IsName f.1) →
      (∀ f ∈ fields, Built f.2) → Built (.object fields)

lemma Value.built_ofName {name : String} (h : IsName name) : (Value.ofName name).Built := by
  by_cases he : Value.ofName name = .enumName name
  · rw [he]
    exact .enumName h he
  · unfold Value.ofName at he ⊢
    split at he
    · exact .bool true
    · exact .bool false
    · exact .null
    · exact absurd rfl he

lemma ensures_simple (withVariables : Bool) : Ensures source (Value.simple withVariables)
    fun v => withVariables = false → v.Built := by
  intro ls v rest hls he
  unfold Value.simple at he
  split at he
  · next n _ more =>
    cases he
    have hn := isName_of_mem_lexemes (hls.subset List.mem_cons_self) rfl
    exact ⟨fun _ => Value.built_ofName hn, (List.suffix_cons _ _).trans hls⟩
  · cases he
    exact ⟨fun _ => .int _, (List.suffix_cons _ _).trans hls⟩
  · cases he
    exact ⟨fun _ => .float _, (List.suffix_cons _ _).trans hls⟩
  · cases he
    exact ⟨fun _ => .string _, (List.suffix_cons _ _).trans hls⟩
  · split_ifs at he with hv
    have hp : Ensures source (do pure (.variable (← name)) : Parser Value)
        fun v => withVariables = false → v.Built :=
      ensures_name.bind fun _ _ => ensures_pure (by simp [hv])
    exact hp _ v rest ((List.suffix_cons _ _).trans hls) he
  · cases he

lemma ensures_field {p : Parser Value} {P : Value → Prop} (h : Ensures source p P) :
    Ensures source (Value.field p) fun f => IsName f.1 ∧ P f.2 :=
  ensures_name.bind fun _ hn => (ensures_punct _).bind fun _ _ => h.bind fun _ hv =>
    ensures_pure ⟨hn, hv⟩

lemma ensures_value (withVariables : Bool) (d : Nat) : Ensures source
    (Value.parser withVariables d) fun v => withVariables = false → v.Built := by
  -- What brackets hold is read with one bracket less.
  induction d with
  | zero => exact ensures_simple withVariables
  | succ d ih =>
    refine (ensures_simple withVariables).or (.or ?_ ?_)
    · exact (ensures_punct _).bind fun _ _ => ih.repeated.bind fun items hi =>
        (ensures_punct _).bind fun _ _ => ensures_pure fun hc => .list fun v hv => hi v hv hc
    · refine (ensures_punct _).bind fun _ _ => (ensures_field ih).repeated.bind fun fields hf =>
        (ensures_punct _).bind fun _ _ => ensures_pure fun hc => ?_
      exact .object (Keyed.sorted_ofList fields) (fun f h => (hf f (Keyed.mem_of_mem_ofList h)).1)
        fun f h => (hf f (Keyed.mem_of_mem_ofList h)).2 hc

def Value.IsRead (v : Value) : Prop :=
  ∃ source d ls rest, ls <:+ (lex source).lexemes ∧ Value.parser false d ls = .ok (v, rest)

lemma Value.IsRead.built {v : Value} (h : v.IsRead) : v.Built := by
  obtain ⟨_, d, ls, rest, hls, he⟩ := h
  exact (ensures_value false d ls v rest hls he).1 rfl

lemma ensures_isRead (d : Nat) : Ensures source (Value.parser false d) Value.IsRead :=
  fun ls v rest hls he =>
    ⟨⟨source, d, ls, rest, hls, he⟩, (ensures_value false d ls v rest hls he).2⟩

end Constants

section Documents

variable {source : String}

lemma ensures_typeRef (d : Nat) : Ensures source (typeRef d) fun _ => True := by
  have hstrict : ∀ {p : Parser TypeRef}, Ensures source p (fun _ => True) →
      Ensures source (strictness p) fun _ => True := fun hp =>
    hp.bind fun _ _ => (ensures_punct _).maybe.bind fun _ _ => ensures_pure trivial
  have hname : Ensures source namedType fun _ => True :=
    ensures_name.bind fun _ _ => ensures_pure trivial
  induction d with
  | zero => exact hstrict hname
  | succ d ih =>
    exact hstrict (hname.or ((ensures_punct _).bind fun _ _ => ih.bind fun _ _ =>
      (ensures_punct _).bind fun _ _ => ensures_pure trivial))

lemma ensures_arguments (d : Nat) : Ensures source (arguments d) fun _ => True :=
  (Ensures.between (fun d => (ensures_field (ensures_value true d)).repeated1) d).maybe.bind
    fun _ _ => ensures_pure trivial

lemma ensures_directives (d : Nat) : Ensures source (directives d) fun _ => True := by
  have hd : Ensures source (do
      punct .at
      let n ← name
      let args ← arguments d
      pure (⟨n, args⟩ : Directive)) fun _ => True :=
    (ensures_punct _).bind fun _ _ => ensures_name.bind fun _ _ =>
      (ensures_arguments d).bind fun _ _ => ensures_pure trivial
  exact fun ls ds rest hls he => ⟨trivial, (hd.repeated ls ds rest hls he).2⟩

lemma ensures_selections (d : Nat) : Ensures source (selections d) fun _ => True := by
  induction d with
  | zero => exact fun _ _ _ _ he => by cases he
  | succ d ih =>
    have hfield : Ensures source (fieldSelection d (selections d)) fun _ => True :=
      ensures_here.bind fun _ _ => ensures_name.bind fun _ _ =>
        ((ensures_punct _).bind fun _ _ => ensures_name).maybe.bind fun _ _ =>
          (ensures_arguments d).bind fun _ _ => (ensures_directives d).bind fun _ _ =>
            ih.maybe.bind fun _ _ => ensures_pure trivial
    have hinline : Ensures source (inlineFragment d (selections d)) fun _ => True :=
      ((ensures_word _).bind fun _ _ => ensures_name).maybe.bind fun _ _ =>
        (ensures_directives d).bind fun _ _ => ih.bind fun _ _ => ensures_pure trivial
    have hspread : Ensures source (fragmentSpread d) fun _ => True :=
      ensures_name.bind fun _ _ => (ensures_directives d).bind fun _ _ => ensures_pure trivial
    exact (ensures_punct _).bind fun _ _ =>
      (hfield.or ((ensures_punct _).bind fun _ _ => hinline.or hspread)).repeated1.bind
        fun _ _ => (ensures_punct _).bind fun _ _ => ensures_pure trivial

lemma ensures_variableDefinition (d : Nat) : Ensures source (variableDefinition d)
    fun x => ∀ v ∈ x.default, v.IsRead :=
  ensures_here.bind fun _ _ => (ensures_punct _).bind fun _ _ => ensures_name.bind fun _ _ =>
    (ensures_punct _).bind fun _ _ => (ensures_typeRef d).bind fun _ _ =>
      ((ensures_punct _).bind fun _ _ => ensures_isRead d).maybe.bind fun _ hv => ensures_pure hv

def Definition.HasReadDefaults : Definition → Prop
  | .operation o => ∀ x ∈ o.vars, ∀ v ∈ x.default, v.IsRead
  | _ => True

lemma ensures_operation (d : Nat) (kind : OperationKind) :
    Ensures source (operation d kind) Definition.HasReadDefaults := by
  refine ensures_here.bind fun _ _ => (ensures_word _).bind fun _ _ =>
    ensures_name.maybe.bind fun _ _ =>
      (Ensures.between (fun d => (ensures_variableDefinition d).repeated1) d).maybe.bind
        fun vars hv => (ensures_directives d).bind fun _ _ => (ensures_selections d).bind
          fun _ _ => ensures_pure ?_
  cases vars with
  | none => exact fun x hx => by cases hx
  | some vars => exact hv vars rfl

lemma ensures_definition (d : Nat) :
    Ensures source (definition d) Definition.HasReadDefaults := by
  have hanonymous : Ensures source (anonymous d) Definition.HasReadDefaults :=
    ensures_here.bind fun _ _ => (ensures_selections d).bind fun _ _ => ensures_pure trivial
  have hfragment : Ensures source (fragment d) Definition.HasReadDefaults :=
    (ensures_word _).bind fun _ _ => ensures_name.bind fun _ _ => (ensures_word _).bind
      fun _ _ => ensures_name.bind fun _ _ => (ensures_directives d).bind fun _ _ =>
        (ensures_selections d).bind fun _ _ => ensures_pure trivial
  exact hanonymous.or ((ensures_operation d .query).or ((ensures_operation d .mutation).or
    ((ensures_operation d .subscription).or hfragment)))

lemma isRead_of_read {document : Document} (h : Document.read source = .ok document)
    {o : OperationDefinition} (ho : .operation o ∈ document.definitions) {x : VariableDefinition}
    (hx : x ∈ o.vars) {v : Value} (hv : x.default = some v) : v.IsRead := by
  have hd : Ensures source Document.parser fun document =>
      ∀ d ∈ document.definitions, d.HasReadDefaults :=
    (ensures_definition bracketLimit).repeated1.bind fun _ hds => ensures_pure hds
  rw [Document.read, Parser.read] at h
  cases hp : Document.parser (lex source).lexemes with
  | error left => cases left <;> simp [hp] at h
  | ok found =>
    obtain ⟨found, left⟩ := found
    cases left with
    | cons l left => simp [hp] at h
    | nil =>
      simp only [hp] at h
      split_ifs at h
      cases h
      exact (hd _ _ _ (List.suffix_refl _) hp).1 _ ho x hx v hv

end Documents

end GraphqlBindings.Language

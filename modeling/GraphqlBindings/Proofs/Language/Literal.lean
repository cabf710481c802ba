import GraphqlBindings.Proofs.Language.Reads

namespace GraphqlBindings

namespace TypeRef

open GraphqlBindings.Language

def tokens : TypeRef → List Token
  | named n => [.name n]
  | list inner => .punctuator .bracketOpen :: inner.tokens ++ [.punctuator .bracketClose]
  | nonNull inner => inner.tokens ++ [.punctuator .bang]

def brackets : TypeRef → Nat
  | named _ => 0
  | list inner => inner.brackets + 1
  | nonNull inner => inner.brackets

def Proper : TypeRef → Prop
  | named n => IsName n
  | list inner => inner.Proper
  | nonNull inner => inner.isNonNull = false ∧ inner.Proper

instance decidableProper : (r : TypeRef) → Decidable r.Proper
  | named n => inferInstanceAs (Decidable (IsName n))
  | list inner => inner.decidableProper
  | nonNull inner => @instDecidableAnd _ _ _ inner.decidableProper

end TypeRef

namespace Language

open GraphqlBindings.Language.Parser

section Reference

variable {d : Nat} {r : TypeRef} {rest : List Token}

def bareType : Nat → Parser TypeRef
  | 0 => namedType
  | d + 1 => namedType.or (do
      punct .bracketOpen
      let item ← typeRef d
      punct .bracketClose
      pure (.list item))

lemma typeRef_eq (d : Nat) : typeRef d = strictness (bareType d) := by
  cases d <;> rfl

lemma reads_typeRef_bare (h : Reads (bareType d) (r.tokens ++ rest) r rest)
    (hr : rest.head? ≠ some (.punctuator .bang)) :
    Reads (typeRef d) (r.tokens ++ rest) r rest := by
  rw [typeRef_eq]
  exact h.bind (refuses_punct hr).maybe.map

lemma reads_typeRef_nonNull
    (h : Reads (bareType d) (r.tokens ++ .punctuator .bang :: rest) r (.punctuator .bang :: rest)) :
    Reads (typeRef d) ((TypeRef.nonNull r).tokens ++ rest) (.nonNull r) rest := by
  rw [typeRef_eq, TypeRef.tokens, List.append_assoc]
  exact h.bind (reads_punct .bang rest).maybe.map

lemma reads_bareType_list
    (h : Reads (typeRef d) (r.tokens ++ .punctuator .bracketClose :: rest) r
      (.punctuator .bracketClose :: rest)) :
    Reads (bareType (d + 1)) ((TypeRef.list r).tokens ++ rest) (.list r) rest := by
  have hn : Refuses namedType ((TypeRef.list r).tokens ++ rest) :=
    (refuses_name (by simp [TypeRef.tokens])).bind
  apply Reads.or_right hn
  simp only [TypeRef.tokens, List.cons_append, List.append_assoc]
  exact (reads_punct .bracketOpen _).bind (h.bind (reads_punct .bracketClose rest).map)

lemma reads_reference (r : TypeRef) :
    (∀ d rest, r.brackets ≤ d → r.Proper → r.isNonNull = false →
      Reads (bareType d) (r.tokens ++ rest) r rest) ∧
    ∀ d rest, r.brackets ≤ d → r.Proper → rest.head? ≠ some (.punctuator .bang) →
      Reads (typeRef d) (r.tokens ++ rest) r rest := by
  induction r with
  | named n =>
    have hb : ∀ d rest, Reads (bareType d) ((TypeRef.named n).tokens ++ rest) (.named n) rest := by
      intro d rest
      cases d with
      | zero => exact (reads_name n rest).map
      | succ d => exact (reads_name n rest).map.or_left
    exact ⟨fun d rest _ _ _ => hb d rest, fun d rest _ _ hr => reads_typeRef_bare (hb d rest) hr⟩
  | list inner ih =>
    have hb : ∀ d rest, inner.brackets + 1 ≤ d → inner.Proper →
        Reads (bareType d) ((TypeRef.list inner).tokens ++ rest) (.list inner) rest := by
      intro d rest hd hp
      obtain ⟨d, rfl⟩ := Nat.exists_eq_succ_of_ne_zero (Nat.ne_zero_of_lt hd)
      exact reads_bareType_list (ih.2 d _ (Nat.le_of_succ_le_succ hd) hp (by simp))
    exact ⟨fun d rest hd hp _ => hb d rest hd hp,
      fun d rest hd hp hr => reads_typeRef_bare (hb d rest hd hp) hr⟩
  | nonNull inner ih =>
    exact ⟨fun _ _ _ _ hn => absurd hn (by simp [TypeRef.isNonNull]),
      fun d rest hd hp _ => reads_typeRef_nonNull (ih.1 d _ hd hp.2 hp.1)⟩

lemma reads_typeRef (hd : r.brackets ≤ d) (hp : r.Proper)
    (hr : rest.head? ≠ some (.punctuator .bang)) :
    Reads (typeRef d) (r.tokens ++ rest) r rest :=
  (reads_reference r).2 d rest hd hp hr

end Reference

inductive Constant : Nat → List Token → Value → Prop
  | name {d : Nat} (n : String) : Constant d [.name n] (.ofName n)
  | int {d : Nat} (n : Int) : Constant d [.int n] (.int n)
  | float {d : Nat} (b : Decimal.Binary64) : Constant d [.float b] (.float b)
  | string {d : Nat} (s : String) : Constant d [.string s] (.string s)
  | list {d : Nat} {items : List (List Token × Value)} :
      (∀ item ∈ items, Constant d item.1 item.2) →
      Constant (d + 1)
        (.punctuator .bracketOpen :: items.flatMap (·.1) ++ [.punctuator .bracketClose])
        (.list (items.map (·.2)))
  | object {d : Nat} {fields : List (String × List Token × Value)} :
      (∀ field ∈ fields, Constant d field.2.1 field.2.2) →
      Constant (d + 1)
        (.punctuator .braceOpen ::
          fields.flatMap (fun f => .name f.1 :: .punctuator .colon :: f.2.1) ++
          [.punctuator .braceClose])
        (.object (Keyed.ofList (fields.map fun f => (f.1, f.2.2))))

def IsLiteral (d : Nat) (text : String) (v : Value) : Prop :=
  ∃ ts, Spells text.toList ts ∧ Constant d ts v

lemma IsLiteral.spells {d : Nat} {text : String} {v : Value} (h : IsLiteral d text v) :
    Spells text.toList (tokensOf text) := by
  obtain ⟨ts, hs, _⟩ := h
  rwa [hs.tokensOf]

section Constant

variable {d : Nat} {ts rest : List Token} {v : Value}

lemma Constant.ne_nil (h : Constant d ts v) : ts ≠ [] := by
  cases h <;> simp

lemma reads_value_head {b : Bool} {t : Token}
    (h : ∀ position left, Value.simple b (⟨t, position⟩ :: left) = .ok (v, left)) :
    Reads (Value.parser b d) (t :: rest) v rest := by
  cases d with
  | zero => exact reads_head h rest
  | succ d => exact (reads_head h rest).or_left

lemma refuses_simple {q : Punctuator} : Refuses (Value.simple false) (.punctuator q :: rest) := by
  intro ls hl
  obtain ⟨⟨t, position⟩, left, rfl, rfl, hr⟩ := List.map_eq_cons_iff.mp hl
  cases q <;> rfl

lemma refuses_constant {q : Punctuator} (hl : q ≠ .bracketOpen) (ho : q ≠ .braceOpen) :
    Refuses (Value.parser false d) (.punctuator q :: rest) := by
  cases d with
  | zero => exact refuses_simple
  | succ d =>
    apply refuses_simple.or
    apply Refuses.or
    · exact (refuses_punct (by simpa using hl)).bind
    · exact (refuses_punct (by simpa using ho)).bind

lemma Constant.reads (h : Constant d ts v) (rest : List Token) :
    Reads (Value.parser false d) (ts ++ rest) v rest := by
  induction h generalizing rest with
  | name n => exact reads_value_head fun _ _ => rfl
  | int n => exact reads_value_head fun _ _ => rfl
  | float b => exact reads_value_head fun _ _ => rfl
  | string s => exact reads_value_head fun _ _ => rfl
  | @list d items hi ih =>
    have hs : List.Forall₂ (ReadsItem (fun _ => True) (Value.parser false d))
        (items.map (·.1)) (items.map (·.2)) := by
      rw [List.forall₂_map_left_iff, List.forall₂_map_right_iff, List.forall₂_same]
      exact fun item hm => ⟨(hi item hm).ne_nil, fun _ => trivial, fun more _ => ih item hm more⟩
    have hclose : Refuses (Value.parser false d) (.punctuator .bracketClose :: rest) :=
      refuses_constant (by simp) (by simp)
    simp only [List.cons_append, List.append_assoc]
    apply Reads.or_right refuses_simple
    apply Reads.or_left
    apply (reads_punct .bracketOpen _).bind
    exact (reads_repeated hs trivial hclose).bind (reads_punct .bracketClose rest).map
  | @object d fields hf ih =>
    have hs : List.Forall₂ (ReadsItem (fun _ => True) (Value.field (Value.parser false d)))
        (fields.map fun f => .name f.1 :: .punctuator .colon :: f.2.1)
        (fields.map fun f => (f.1, f.2.2)) := by
      rw [List.forall₂_map_left_iff, List.forall₂_map_right_iff, List.forall₂_same]
      exact fun field hm => ⟨by simp, fun _ => trivial, fun more _ =>
        (reads_name _ _).bind ((reads_punct .colon _).bind (ih field hm more).map)⟩
    have hclose : Refuses (Value.field (Value.parser false d)) (.punctuator .braceClose :: rest) :=
      (refuses_name (by simp)).bind
    simp only [List.cons_append, List.append_assoc]
    apply Reads.or_right refuses_simple
    apply Reads.or_right (refuses_punct (by simp)).bind
    apply (reads_punct .braceOpen _).bind
    exact (reads_repeated hs trivial hclose).bind (reads_punct .braceClose rest).map

lemma Constant.mono {e : Nat} (h : Constant d ts v) (hd : d ≤ e) : Constant e ts v := by
  induction h generalizing e with
  | name n => exact .name n
  | int n => exact .int n
  | float b => exact .float b
  | string s => exact .string s
  | list _ ih =>
    obtain ⟨e, rfl⟩ := Nat.exists_eq_succ_of_ne_zero (Nat.ne_zero_of_lt hd)
    exact .list fun item hm => ih item hm (Nat.le_of_succ_le_succ hd)
  | object _ ih =>
    obtain ⟨e, rfl⟩ := Nat.exists_eq_succ_of_ne_zero (Nat.ne_zero_of_lt hd)
    exact .object fun field hm => ih field hm (Nat.le_of_succ_le_succ hd)

lemma Constant.unique {e : Nat} {w : Value} (hv : Constant d ts v) (hw : Constant e ts w) :
    v = w :=
  ((hv.mono (Nat.le_max_left d e)).reads []).unique ((hw.mono (Nat.le_max_right d e)).reads [])

lemma IsLiteral.unique {e : Nat} {text : String} {w : Value} (hv : IsLiteral d text v)
    (hw : IsLiteral e text w) : v = w := by
  obtain ⟨ts, hs, hc⟩ := hv
  obtain ⟨ts', hs', hc'⟩ := hw
  obtain rfl : ts = ts' := hs.tokensOf.symm.trans hs'.tokensOf
  exact hc.unique hc'

end Constant

end Language

end GraphqlBindings

import GraphqlBindings.Operation.Resolve
import GraphqlBindings.Proofs.Sdl.Tokens

/-! No text is both: what can be read as a schema is no document with operations. The first token
tells them apart. -/

namespace GraphqlBindings

namespace Sdl

open GraphqlBindings.Language GraphqlBindings.Language.Parser
open GraphqlBindings.Text

section Blank

variable {c : Char} {cs : List Char}

lemma firstToken?_blank (h : isBlank c) : firstToken? (c :: cs) = none := by
  have hne {d : Char} (hd : isBlank d = false) : c ≠ d := by
    rintro rfl
    simp [hd] at h
  have hcode : c.toNat ≤ 32 ∨ 133 ≤ c.toNat := by
    simp only [isBlank, Bool.or_eq_true, Bool.and_eq_true, decide_eq_true_eq, beq_iff_eq] at h
    omega
  have hstart : isNameStart c = false := by
    have hu : c ≠ '_' := hne (by decide)
    simp only [isNameStart, isAsciiLetter, isAsciiUpper, isAsciiLower, Char.le_def,
      UInt32.le_iff_toNat_le, Bool.or_eq_false_iff, Bool.and_eq_false_iff, decide_eq_false_iff_not,
      beq_eq_false_iff_ne]
    change c ≠ '_' ∧ (¬ 65 ≤ c.toNat ∨ ¬ c.toNat ≤ 90) ∧ (¬ 97 ≤ c.toNat ∨ ¬ c.toNat ≤ 122)
    exact ⟨hu, by omega, by omega⟩
  have hdigit : isAsciiDigit c = false := by
    simp only [isAsciiDigit, Char.le_def, UInt32.le_iff_toNat_le, Bool.and_eq_false_iff,
      decide_eq_false_iff_not]
    change ¬ 48 ≤ c.toNat ∨ ¬ c.toNat ≤ 57
    omega
  have hp : Punctuator.ofChar? c = none := by
    unfold Punctuator.ofChar?
    split <;> first
      | rfl
      | exact absurd rfl (hne (by decide))
  rw [firstToken?_cons (hne (by decide)) (hne (by decide)), hstart, hdigit, hp]
  simp [hne (d := '-') (by decide)]

lemma skipIgnored_blank (h : ∀ c ∈ cs, isBlank c) (p : Position) :
    ∀ c ∈ (skipIgnored false p cs).1, isBlank c := by
  induction cs generalizing p with
  | nil => simp [skipIgnored]
  | cons c rest ih =>
    have hc : isBlank c := h c (by simp)
    have hr := ih fun c hc => h c (List.mem_cons_of_mem _ hc)
    have hn : c ≠ '#' := by
      rintro rfl
      exact absurd hc (by decide)
    rw [skipIgnored]
    simp only [hn, if_false, Bool.false_eq_true]
    split_ifs
    all_goals first
      | exact hr _
      | exact h

lemma tokensOf_blank {text : String} (h : isBlankText text) : tokensOf text = [] := by
  have hs := skipIgnored_blank (List.all_eq_true.mp h) .start
  rw [tokensOf, lex, lexFrom]
  split
  · rfl
  · next c rest q hq =>
    rw [hq] at hs
    have ht : firstToken? (c :: rest) = none := firstToken?_blank (hs c (by simp))
    rw [firstToken?, Option.map_eq_none_iff] at ht
    simp [ht]

end Blank

section Documents

variable {ts : List Token} {d : Nat} {text : String}

def documentWords : List String := ["query", "mutation", "subscription", "fragment"]

lemma refuses_definition (hb : ts.head? ≠ some (.punctuator .braceOpen))
    (hw : ∀ w ∈ documentWords, ts.head? ≠ some (.name w)) : Refuses (definition d) ts := by
  have hselections : Refuses (selections d) ts := by
    cases d with
    | zero => exact fun _ _ => rfl
    | succ d => exact (refuses_punct hb).bind
  have hoperation (kind : OperationKind) : Refuses (Language.operation d kind) ts :=
    Refuses.here fun _ => (refuses_word (hw _ (by cases kind <;> decide))).bind
  apply (Refuses.here fun _ => hselections.bind).or
  exact (hoperation .query).or <| (hoperation .mutation).or <| (hoperation .subscription).or
    (refuses_word (hw "fragment" (by decide))).bind

theorem not_document_of_check (h : Sdl.check text = .ok ()) :
    ∃ position, Document.read text = .error position := by
  apply exists_read_error
  suffices hd : (tokensOf text).head? ≠ some (.punctuator .braceOpen) ∧
      ∀ w ∈ documentWords, (tokensOf text).head? ≠ some (.name w) from
    ((refuses_definition hd.1 hd.2).bind).bind
  by_contra hd
  have hne : tokensOf text ≠ [] := fun hn => hd (by simp [hn])
  have hblank : isBlankText text = false := by
    rw [← Bool.not_eq_true]
    exact fun hb => hne (tokensOf_blank hb)
  have hschema : Refuses (typeSystemDefinition bracketLimit) (tokensOf text) := by
    have hwords : ∀ w ∈ definitionWords, ∀ v ∈ documentWords, w ≠ v := by decide
    refine refuses_typeSystemDefinition (fun w hw hn => hd ?_) fun s hs => hd (by simp [hs])
    exact ⟨by simp [hn], fun v hv => by simpa [hn] using hwords w hw v hv⟩
  obtain ⟨position, he⟩ := exists_read_error hschema.bind.bind
  rw [Sdl.check, hblank, SchemaText.read, SchemaText.parser, repeated1, he] at h
  cases h

lemma ofText_error_of_check (h : Sdl.check text = .ok ()) (s : Schema) (path : String) :
    ∃ position, Operation.ofText s path text = .error (.unreadable position) := by
  obtain ⟨position, hp⟩ := not_document_of_check h
  exact ⟨position, by rw [Operation.ofText, hp]⟩

end Documents

end Sdl

end GraphqlBindings

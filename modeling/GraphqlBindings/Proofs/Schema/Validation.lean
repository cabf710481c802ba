import GraphqlBindings.Proofs.Lists
import GraphqlBindings.Schema.Introspection
import GraphqlBindings.Schema.Validation

namespace GraphqlBindings.Schema

lemma firstRepeated?_eq_none {seen names : List String} :
    firstRepeated? seen names = none ↔ names.Nodup ∧ ∀ name ∈ names, name ∉ seen := by
  induction names generalizing seen with
  | nil => simp [firstRepeated?]
  | cons name rest ih =>
    rw [firstRepeated?, List.nodup_cons, List.forall_mem_cons]
    by_cases h : name ∈ seen
    · simp [h]
    · simp only [List.contains_eq_mem, h, decide_false, Bool.false_eq_true, if_false, ih,
        List.mem_cons, not_or]
      constructor
      · rintro ⟨hd, hs⟩
        exact ⟨⟨fun hm => (hs name hm).1 rfl, hd⟩, not_false, fun n hn => (hs n hn).2⟩
      · rintro ⟨⟨hm, hd⟩, _, hs⟩
        exact ⟨hd, fun n hn => ⟨fun he => hm (he ▸ hn), hs n hn⟩⟩

variable {s : Schema}

lemma fault?_eq_none (h : s.validate = .ok ()) : s.fault? = none := by
  unfold validate at h
  split at h
  · simp at h
  · next hf => exact hf

lemma repetition?_eq_none_iff : s.repetition? = none ↔
    s.index.eraseDups.length = s.types.length ∨ (s.types.map SchemaType.name).Nodup := by
  rw [repetition?]
  split
  · next hl => simp [hl]
  · next hl => simp [hl, firstRepeated?_eq_none]

lemma nodup_of_validate (hi : s.index = s.types.map SchemaType.name)
    (h : s.validate = .ok ()) : (s.types.map SchemaType.name).Nodup := by
  have hf := fault?_eq_none h
  rw [fault?, Option.or_eq_none_iff, Option.or_eq_none_iff, repetition?_eq_none_iff] at hf
  obtain ⟨⟨hl | hd, _⟩, _⟩ := hf
  · rw [hi, ← List.length_map (f := SchemaType.name)] at hl
    exact nodup_of_length_eraseDups hl
  · exact hd

lemma isNamed_of_validate (h : s.validate = .ok ()) {t : SchemaType} (ht : t ∈ s.types) :
    t.kind.isNamed = true := by
  have hf := fault?_eq_none h
  rw [fault?, Option.or_eq_none_iff, Option.or_eq_none_iff, List.findSome?_eq_none_iff] at hf
  have := hf.1.2 t ht
  unfold typeFault? at this
  split at this
  · next hk => exact hk
  · simp at this

lemma index_of_decode {raw : Json} (h : Introspection.decode raw = .ok s) :
    s.index = s.types.map SchemaType.name := by
  unfold Introspection.decode at h
  split at h
  · obtain ⟨r, -, h⟩ := bind_eq_ok.mp h
    obtain ⟨⟨⟩, -, h⟩ := bind_eq_ok.mp h
    obtain ⟨query, -, h⟩ := bind_eq_ok.mp h
    obtain ⟨mutation, -, h⟩ := bind_eq_ok.mp h
    obtain ⟨subscription, -, h⟩ := bind_eq_ok.mp h
    obtain ⟨types, -, h⟩ := bind_eq_ok.mp h
    obtain ⟨directives, -, h⟩ := bind_eq_ok.mp h
    obtain rfl := Except.ok.inj h
    rfl
  · simp at h

end GraphqlBindings.Schema

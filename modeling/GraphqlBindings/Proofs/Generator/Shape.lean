import GraphqlBindings.Generator.Basic
import GraphqlBindings.Proofs.Code.Reading
import GraphqlBindings.Proofs.Operation.Results

namespace GraphqlBindings

open Operation (compositeType?)

lemma reads_shape {model : List Declaration} {s : Schema} {base : CodeType}
    {selections : List Selection} (r : TypeRef)
    (hb : ∀ j, j ≠ .null → IsValue s (.named r.baseName) selections j → TypeReads model base j) :
    (∀ j, IsValue s r selections j → TypeReads model (r.shape base false) j) ∧
      ∀ j, j ≠ .null → IsValue s r selections j →
        TypeReads model (r.requiredShape base false) j := by
  induction r with
  | named name =>
    have hr : ∀ j, j ≠ .null → IsValue s (.named name) selections j →
        TypeReads model ((TypeRef.named name).requiredShape base false) j := by
      simpa [TypeRef.requiredShape, TypeRef.baseName] using hb
    refine ⟨fun j hv => ?_, hr⟩
    rw [TypeRef.shape]
    by_cases hj : j = .null
    · exact hj ▸ .absent _
    · exact .present (hr j hj hv)
  | list r ih =>
    have hr : ∀ j, j ≠ .null → IsValue s (.list r) selections j →
        TypeReads model ((TypeRef.list r).requiredShape base false) j := by
      intro j hj hv
      rw [TypeRef.requiredShape]
      cases hv with
      | null => exact absurd rfl hj
      | list hitems => exact .vec fun item hm => (ih hb).1 item (hitems item hm)
    refine ⟨fun j hv => ?_, hr⟩
    rw [TypeRef.shape]
    by_cases hj : j = .null
    · exact hj ▸ .absent _
    · exact .present (hr j hj hv)
  | nonNull r ih =>
    have hr : ∀ j, IsValue s (.nonNull r) selections j →
        TypeReads model (r.requiredShape base false) j := by
      intro j hv
      cases hv with
      | null h => simp [TypeRef.isNonNull] at h
      | nonNull hj hv => exact (ih hb).2 j hj hv
    rw [TypeRef.shape, TypeRef.requiredShape]
    exact ⟨hr, fun j _ => hr j⟩

lemma reads_leaf_shape {model : List Declaration} {s : Schema} {base : CodeType}
    {selections : List Selection} {r : TypeRef} (hc : compositeType? s r.baseName = none)
    (hb : ∀ j, IsLeafValue s r.baseName j → TypeReads model base j) {j : Json}
    (hj : IsValue s r selections j) : TypeReads model (r.shape base false) j := by
  refine (reads_shape r fun j hn hv => ?_).1 j hj
  cases hv with
  | null => exact absurd rfl hn
  | leaf hl => exact hb j hl
  | composite hs _ => simp [hc] at hs

lemma reads_composite_shape {model : List Declaration} {s : Schema} {base : CodeType}
    {selections : List Selection} {r : TypeRef} {target : SchemaType}
    (hs : ∀ t ∈ s.types, isBuiltinScalar t.name = true → t.kind = .scalar)
    (hc : compositeType? s r.baseName = some target)
    (hb : ∀ j, IsResult s target selections j → TypeReads model base j) {j : Json}
    (hj : IsValue s r selections j) : TypeReads model (r.shape base false) j := by
  refine (reads_shape r fun j hn hv => ?_).1 j hj
  cases hv with
  | null => exact absurd rfl hn
  | leaf hl =>
    have := hl.not_composite hs
    simp [hc] at this
  | composite hc' hr =>
    obtain rfl := Option.some.inj (hc.symm.trans hc')
    exact hb j hr

end GraphqlBindings

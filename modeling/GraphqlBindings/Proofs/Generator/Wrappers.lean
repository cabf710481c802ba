import Mathlib.Tactic.Lemma
import GraphqlBindings.Generator.Basic

/-! The wrappers of a type reference and those of its shape. The shape tells which positions may be
null and where lists are, so that the reference can be read back from it, but for non-null wrappers
that are repeated. -/

namespace GraphqlBindings

namespace TypeRef

def bare : TypeRef → TypeRef
  | nonNull inner => inner.bare
  | r => r

def collapsed : TypeRef → TypeRef
  | named name => named name
  | list inner => list inner.collapsed
  | nonNull inner => nonNull inner.collapsed.bare

def withBase (base : String) : TypeRef → TypeRef
  | named _ => named base
  | list inner => list (inner.withBase base)
  | nonNull inner => nonNull (inner.withBase base)

def hasList : TypeRef → Bool
  | named _ => false
  | list _ => true
  | nonNull inner => inner.hasList

end TypeRef

namespace CodeType

def required? : CodeType → Option TypeRef
  | named name | boxed (named name) => some (.named name)
  | vec (option inner) => inner.required?.map .list
  | vec inner => inner.required?.map fun r => .list (.nonNull r)
  | _ => none

def reference? : CodeType → Option TypeRef
  | option inner => inner.required?
  | type => type.required?.map .nonNull

def OptionsApart : CodeType → Prop
  | named _ => True
  | option inner => inner.isOption = false ∧ inner.OptionsApart
  | vec inner | boxed inner => inner.OptionsApart

def boxes : CodeType → List CodeType
  | named _ => []
  | option inner | vec inner => inner.boxes
  | boxed inner => inner :: inner.boxes

lemma reference?_of_required {type : CodeType} (h : type.isOption = false) :
    type.reference? = type.required?.map .nonNull := by
  cases type with
  | option inner => simp [isOption] at h
  | _ => rfl

lemma required?_vec (type : CodeType) : (vec type).required? = type.reference?.map .list := by
  cases type with
  | option inner => rfl
  | _ => simp [required?, reference?, Option.map_map, Function.comp_def]

end CodeType

namespace TypeRef

section Base

variable (base : String) (r : TypeRef)

@[simp] lemma bare_bare : r.bare.bare = r.bare := by
  induction r with
  | nonNull inner ih => exact ih
  | _ => rfl

lemma bare_withBase : (r.withBase base).bare = r.bare.withBase base := by
  induction r with
  | nonNull inner ih => exact ih
  | _ => rfl

lemma collapsed_withBase : (r.withBase base).collapsed = r.collapsed.withBase base := by
  induction r with
  | named name => rfl
  | list inner ih => simp [withBase, collapsed, ih]
  | nonNull inner ih => simp [withBase, collapsed, ih, bare_withBase]

@[simp] lemma withBase_withBase (first : String) :
    (r.withBase first).withBase base = r.withBase base := by
  induction r <;> simp_all [withBase]

@[simp] lemma withBase_baseName : r.withBase r.baseName = r := by
  induction r <;> simp_all [withBase, baseName]

@[simp] lemma baseName_withBase : (r.withBase base).baseName = base := by
  induction r <;> simp_all [withBase, baseName]

end Base

section Shape

variable (r : TypeRef)

lemma shape_eq (base : CodeType) (boxed : Bool) : r.shape base boxed =
    if r.isNonNull then r.requiredShape base boxed else .option (r.requiredShape base boxed) := by
  cases r <;> simp [shape, requiredShape, isNonNull]

variable {base : CodeType} (boxed : Bool)

lemma isOption_requiredShape (hb : base.isOption = false) (r : TypeRef) :
    (r.requiredShape base boxed).isOption = false := by
  induction r with
  | named name =>
    cases boxed with
    | false => simpa [requiredShape] using hb
    | true => simp [requiredShape, CodeType.isOption]
  | list r _ => simp [requiredShape, CodeType.isOption]
  | nonNull r ih => simpa [requiredShape] using ih

lemma isOption_shape (hb : base.isOption = false) (r : TypeRef) :
    (r.shape base boxed).isOption = !r.isNonNull := by
  rw [shape_eq]
  split
  · next hn => rw [isOption_requiredShape boxed hb, hn, Bool.not_true]
  · next hn => simp [hn, CodeType.isOption]

end Shape

section Reading

variable {base : String}

lemma collapsed_of_isNonNull {r : TypeRef} (h : r.isNonNull = true) :
    r.collapsed = .nonNull r.collapsed.bare := by
  cases r with
  | nonNull inner => simp [collapsed, bare]
  | _ => simp [isNonNull] at h

lemma collapsed_of_nullable {r : TypeRef} (h : r.isNonNull = false) :
    r.collapsed = r.collapsed.bare := by
  cases r with
  | nonNull inner => simp [isNonNull] at h
  | _ => rfl

lemma reference?_shape_of_required {r : TypeRef} {boxed : Bool} (h : (r.requiredShape
    (.named base) boxed).required? = some (r.collapsed.bare.withBase base)) :
    (r.shape (.named base) boxed).reference? = some (r.collapsed.withBase base) := by
  rw [shape_eq]
  split
  · next hn =>
    rw [CodeType.reference?_of_required (isOption_requiredShape boxed rfl r), h]
    conv => rhs; rw [collapsed_of_isNonNull hn]
    rfl
  · next hn => rw [CodeType.reference?, h, ← collapsed_of_nullable (by simpa using hn)]

lemma required?_requiredShape (r : TypeRef) (boxed : Bool) :
    (r.requiredShape (.named base) boxed).required? = some (r.collapsed.bare.withBase base) := by
  induction r generalizing boxed with
  | named name =>
    cases boxed <;> simp [requiredShape, CodeType.required?, collapsed, bare, withBase]
  | list inner ih =>
    rw [requiredShape, CodeType.required?_vec, reference?_shape_of_required (ih false)]
    rfl
  | nonNull inner ih =>
    rw [requiredShape, ih]
    simp [collapsed, bare]

lemma optionsApart_shape_of_required {r : TypeRef} {boxed : Bool}
    (h : (r.requiredShape (.named base) boxed).OptionsApart) :
    (r.shape (.named base) boxed).OptionsApart := by
  rw [shape_eq]
  split
  · exact h
  · exact ⟨isOption_requiredShape boxed rfl r, h⟩

lemma optionsApart_requiredShape (r : TypeRef) (boxed : Bool) :
    (r.requiredShape (.named base) boxed).OptionsApart := by
  induction r generalizing boxed with
  | named name => cases boxed <;> simp [requiredShape, CodeType.OptionsApart]
  | list inner ih =>
    rw [requiredShape]
    exact optionsApart_shape_of_required (ih false)
  | nonNull inner ih =>
    rw [requiredShape]
    exact ih boxed

lemma boxes_shape (r : TypeRef) (boxed : Bool) :
    (r.shape (.named base) boxed).boxes = (r.requiredShape (.named base) boxed).boxes := by
  rw [shape_eq]
  split <;> rfl

lemma boxes_requiredShape (r : TypeRef) (boxed : Bool) :
    (r.requiredShape (.named base) boxed).boxes =
      if boxed = true ∧ r.hasList = false then [.named base] else [] := by
  induction r generalizing boxed with
  | named name => cases boxed <;> simp [requiredShape, CodeType.boxes, hasList]
  | list inner ih => simp [requiredShape, CodeType.boxes, boxes_shape, ih, hasList]
  | nonNull inner ih =>
    rw [requiredShape, ih]
    rfl

end Reading

/-- A shape is read back as the reference around its base, but for repeated non-null wrappers. No
option is directly in another one, and one box is around the base where it is asked for and there
is no list. So references of one shape differ in repeated wrappers and their own name only. -/
theorem shape_read_back (r : TypeRef) (base : String) (boxed : Bool) :
    (r.shape (.named base) boxed).reference? = some (r.withBase base).collapsed ∧
      (r.shape (.named base) boxed).OptionsApart ∧
      (r.shape (.named base) boxed).boxes =
        (if boxed = true ∧ r.hasList = false then [.named base] else []) ∧
      ∀ (r' : TypeRef) (base' : String) (boxed' : Bool),
        r'.shape (.named base') boxed' = r.shape (.named base) boxed →
          base' = base ∧ (r'.withBase r.baseName).collapsed = r.collapsed := by
  have hread : ∀ (r : TypeRef) base boxed,
      (r.shape (.named base) boxed).reference? = some (r.collapsed.withBase base) :=
    fun r base boxed => reference?_shape_of_required (required?_requiredShape r boxed)
  refine ⟨by rw [hread, collapsed_withBase],
    optionsApart_shape_of_required (optionsApart_requiredShape r boxed),
    by rw [boxes_shape, boxes_requiredShape], fun r' base' boxed' h => ?_⟩
  have hsame : r'.collapsed.withBase base' = r.collapsed.withBase base := by
    rw [← Option.some.injEq, ← hread r' base' boxed', ← hread r base boxed, h]
  constructor
  · rw [← baseName_withBase base' r'.collapsed, hsame, baseName_withBase]
  · have hbase := congrArg (withBase r.baseName) hsame
    rwa [withBase_withBase, withBase_withBase, ← collapsed_withBase, ← collapsed_withBase,
      withBase_baseName] at hbase

end TypeRef

end GraphqlBindings

import GraphqlBindings.Proofs.Schema.Sound
import GraphqlBindings.Schema.Edit

/-! Schemas that are edited after they were read. The check compares the number of types with that
of the names that were read, and looks for repeated names only where they differ: types that are
added do not take a name twice, but a type that is renamed may. -/

namespace GraphqlBindings

namespace Schema

def Edit.isPush : Edit → Bool
  | push _ => true
  | _ => false

def Edit.isRemoval : Edit → Bool
  | remove _ => true
  | _ => false

lemma index_edits (s : Schema) (edits : List Edit) : (edits.foldl edit s).index = s.index := by
  induction edits generalizing s with
  | nil => rfl
  | cons e rest ih => rw [List.foldl_cons, ih, index_edit]

lemma length_edit {e : Edit} (h : e.isRemoval = false) (s : Schema) :
    (s.edit e).types.length = s.types.length + if e.isPush then 1 else 0 := by
  cases e with
  | rename position name => exact List.length_modify ..
  | setKind position kind => exact List.length_modify ..
  | remove position => simp [Edit.isRemoval] at h
  | push type => simp [edit, Edit.isPush]
  | reverse => exact List.length_reverse
  | setRoot kind name => cases kind <;> rfl

lemma length_edits {edits : List Edit} (h : ∀ e ∈ edits, e.isRemoval = false) (s : Schema) :
    (edits.foldl edit s).types.length = s.types.length + edits.countP Edit.isPush := by
  induction edits generalizing s with
  | nil => rfl
  | cons e rest ih =>
    rw [List.forall_mem_cons] at h
    rw [List.foldl_cons, ih h.2, length_edit h.1, List.countP_cons]
    omega

variable {raw : Json} {s : Schema}

/-- Of an edited schema, the check accepts what has distinct names, and also what has as many types
as there were names when it was read. -/
theorem validate_edits_iff (h : Introspection.decode raw = .ok s) (edits : List Edit) :
    (edits.foldl edit s).validate = .ok () ↔
      ((s.types.map SchemaType.name).eraseDups.length = (edits.foldl edit s).types.length ∨
        ((edits.foldl edit s).types.map SchemaType.name).Nodup) ∧
      (edits.foldl edit s).Coherent := by
  rw [validate_ok_iff_coherent, index_edits, index_of_decode h]

theorem sound_of_validate_pushes (h : Introspection.decode raw = .ok s) (hs : s.validate = .ok ())
    {edits : List Edit} (hr : ∀ e ∈ edits, e.isRemoval = false) (hp : ∃ e ∈ edits, e.isPush = true)
    (hv : (edits.foldl edit s).validate = .ok ()) : (edits.foldl edit s).Sound := by
  obtain ⟨hl | hd, hc⟩ := (validate_edits_iff h edits).mp hv
  · have hd := nodup_of_validate (index_of_decode h) hs
    rw [eraseDups_of_nodup hd, List.length_map, length_edits hr] at hl
    have := List.countP_pos_iff.mpr hp
    omega
  · exact sound_iff.mpr ⟨hd, hc⟩

theorem validate_kept_iff (h : Introspection.decode raw = .ok s) (hs : s.validate = .ok ())
    {edits : List Edit} (hr : ∀ e ∈ edits, e.isRemoval = false)
    (hp : ∀ e ∈ edits, e.isPush = false) :
    (edits.foldl edit s).validate = .ok () ↔ (edits.foldl edit s).Coherent := by
  have hd := nodup_of_validate (index_of_decode h) hs
  have hn : edits.countP Edit.isPush = 0 := List.countP_eq_zero.mpr (by simpa using hp)
  rw [validate_edits_iff h, length_edits hr, hn, eraseDups_of_nodup hd, List.length_map]
  simp

theorem repeated_declarations (h : Introspection.decode raw = .ok s) (hs : s.validate = .ok ())
    {edits : List Edit} (hr : ∀ e ∈ edits, e.isRemoval = false)
    (hp : ∀ e ∈ edits, e.isPush = false) (hc : (edits.foldl edit s).Coherent)
    (hn : ¬ ((edits.foldl edit s).userTypes.map SchemaType.name).Nodup) :
    (edits.foldl edit s).validate = .ok () ∧
      ∀ g : Generator, g.schema = edits.foldl edit s →
        ∃ decls, g.schemaTypes = .ok decls ∧ ¬ (decls.map Declaration.name).Nodup := by
  refine ⟨(validate_kept_iff h hs hr hp).mpr hc, fun g hg => ?_⟩
  obtain ⟨decls, hdecls⟩ := Generator.schemaTypes_isOk fun t ht =>
    mem_namedKinds.mp (hc.kinds t (hg ▸ ht))
  refine ⟨decls, hdecls, fun hd => hn ?_⟩
  rw [Generator.map_name_of_schemaTypes hdecls, hg] at hd
  exact hd.of_map

section Calendar

def calendarResult : Json :=
  .object [("__schema", .object [("queryType", .object [("name", .string "Query")]),
    ("types", .array [
      .object [("kind", .string "OBJECT"), ("name", .string "Query"), ("fields", .array [
        .object [("name", .string "day"), ("type", namedJson "SCALAR" "Date")]])],
      .object [("kind", .string "SCALAR"), ("name", .string "Date")],
      .object [("kind", .string "SCALAR"), ("name", .string "Time")]])])]

def calendarSchema : Schema := .ofTypes (some "Query") none none
  [⟨.object, "Query", none, [⟨"day", none, [], .named "Date", false, none⟩], [], [], [], []⟩,
    ⟨.scalar, "Date", none, [], [], [], [], []⟩, ⟨.scalar, "Time", none, [], [], [], [], []⟩] []

theorem renamed_calendar_accepted :
    Introspection.decode calendarResult = .ok calendarSchema ∧
      let edited := [Edit.rename 2 "Date"].foldl edit calendarSchema
      let declared : Declaration := ⟨"Date2", none, .alias (.named "String")⟩
      edited.types.map SchemaType.name = ["Query", "Date", "Date"] ∧ edited.validate = .ok () ∧
        (Generator.ofSchema "shop" edited ⟨true⟩).schemaTypes = .ok [declared, declared] := by
  refine ⟨rfl, rfl, rfl, ?_⟩
  let edited := [Edit.rename 2 "Date"].foldl edit calendarSchema
  let scope := NameScope.empty.insert (Naming.clientName ⟨true⟩ "shop")
  have hsorted : edited.userTypes = edited.types.filter edited.isUserType :=
    List.mergeSort_of_pairwise (by decide +kernel)
  have hnames : Generator.nameTypes ⟨true⟩ scope [] (edited.types.filter edited.isUserType) =
      (⟨["Date2", "Date", "ShopClient"]⟩, [("Date", "Date2"), ("Date", "Date")]) := by
    decide +kernel
  have hg : Generator.ofSchema "shop" edited ⟨true⟩ =
      ⟨edited, ⟨true⟩, ⟨["Date2", "Date", "ShopClient"]⟩, ⟨clientMethodNames.reverse⟩,
        [("Date", "Date2"), ("Date", "Date")]⟩ := by
    rw [Generator.ofSchema, hsorted, hnames]
  change (Generator.ofSchema "shop" edited ⟨true⟩).schemaTypes = _
  rw [hg, Generator.schemaTypes, hsorted]
  rfl

end Calendar

end Schema

end GraphqlBindings

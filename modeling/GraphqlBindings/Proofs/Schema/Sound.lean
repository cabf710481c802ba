import GraphqlBindings.Proofs.Generator.Declared
import GraphqlBindings.Proofs.Schema.SameTypes

/-! Sound schemas, said without an index and without an order of checking. They are the schemas
that the check accepts, and each of them can be written and declared. -/

namespace GraphqlBindings

inductive SchemaType.Refers (t : SchemaType) : TypeRef → Prop
  | field {f : SchemaField} : f ∈ t.fields → t.Refers f.type
  | argument {f : SchemaField} {a : InputValue} : f ∈ t.fields → a ∈ f.args → t.Refers a.type
  | inputField {f : InputValue} : f ∈ t.inputFields → t.Refers f.type
  | interface {r : TypeRef} : r ∈ t.interfaces → t.Refers r
  | possibleType {r : TypeRef} : r ∈ t.possibleTypes → t.Refers r

lemma SchemaType.mem_references {t : SchemaType} {r : TypeRef} :
    r ∈ t.references ↔ t.Refers r := by
  simp only [references, List.mem_append, List.mem_flatMap, List.mem_cons, List.mem_map]
  constructor
  · rintro (((⟨f, hf, rfl | ⟨a, ha, rfl⟩⟩ | ⟨f, hf, rfl⟩) | hr) | hr)
    · exact .field hf
    · exact .argument hf ha
    · exact .inputField hf
    · exact .interface hr
    · exact .possibleType hr
  · intro h
    cases h with
    | field hf => exact .inl (.inl (.inl ⟨_, hf, .inl rfl⟩))
    | argument hf ha => exact .inl (.inl (.inl ⟨_, hf, .inr ⟨_, ha, rfl⟩⟩))
    | inputField hf => exact .inl (.inl (.inr ⟨_, hf, rfl⟩))
    | interface hr => exact .inl (.inr hr)
    | possibleType hr => exact .inr hr

def namedKinds : List TypeKind := [.scalar, .object, .interface, .union, .enumeration, .inputObject]

lemma mem_namedKinds {kind : TypeKind} : kind ∈ namedKinds ↔ kind.isNamed = true := by
  cases kind <;> simp [namedKinds, TypeKind.isNamed]

namespace Schema

def HasType (s : Schema) (name : String) : Prop := ∃ t ∈ s.types, t.name = name

structure Sound (s : Schema) : Prop where
  distinct : (s.types.map SchemaType.name).Nodup
  kinds : ∀ t ∈ s.types, t.kind ∈ namedKinds
  references : ∀ t ∈ s.types, ∀ r, t.Refers r → r.baseName ∈ builtinScalars ∨ s.HasType r.baseName
  roots : ∀ kind name, s.rootName? kind = some name → s.HasType name

structure Coherent (s : Schema) : Prop where
  kinds : ∀ t ∈ s.types, t.kind ∈ namedKinds
  references : ∀ t ∈ s.types, ∀ r, t.Refers r → r.baseName ∈ builtinScalars ∨ s.HasType r.baseName
  roots : ∀ kind name, s.rootName? kind = some name → s.HasType name

variable {s : Schema}

lemma sound_iff : s.Sound ↔ (s.types.map SchemaType.name).Nodup ∧ s.Coherent :=
  ⟨fun h => ⟨h.distinct, h.kinds, h.references, h.roots⟩,
    fun ⟨hd, hk, ht, hr⟩ => ⟨hd, hk, ht, hr⟩⟩

lemma isSome_get?_iff {name : String} : (s.get? name).isSome ↔ s.HasType name := by
  constructor
  · intro h
    obtain ⟨t, ht⟩ := Option.isSome_iff_exists.mp h
    exact ⟨t, get?_mem ht⟩
  · rintro ⟨t, ht, rfl⟩
    exact get?_isSome ht

lemma resolves_iff {name : String} :
    s.resolves name = true ↔ name ∈ builtinScalars ∨ s.HasType name := by
  rw [resolves, Bool.or_eq_true, isSome_get?_iff, isBuiltinScalar, List.contains_iff_mem]

lemma typeFault?_eq_none_iff {t : SchemaType} : s.typeFault? t = none ↔ t.kind ∈ namedKinds ∧
    ∀ r, t.Refers r → r.baseName ∈ builtinScalars ∨ s.HasType r.baseName := by
  rw [typeFault?, mem_namedKinds]
  split_ifs with hk
  · simp [hk, resolves_iff, SchemaType.mem_references]
  · simp [hk]

lemma rootFault?_eq_none_iff : s.rootFault? = none ↔
    ∀ kind name, s.rootName? kind = some name → s.HasType name := by
  have hmem : ∀ name, name ∈ s.rootNames ↔ ∃ kind, s.rootName? kind = some name := by
    intro name
    simp only [rootNames, List.mem_filterMap, List.mem_cons, List.not_mem_nil, or_false, id]
    constructor
    · rintro ⟨_, rfl | rfl | rfl, h⟩
      · exact ⟨.query, h⟩
      · exact ⟨.mutation, h⟩
      · exact ⟨.subscription, h⟩
    · rintro ⟨kind, h⟩
      cases kind
      · exact ⟨_, .inl rfl, h⟩
      · exact ⟨_, .inr (.inl rfl), h⟩
      · exact ⟨_, .inr (.inr rfl), h⟩
  rw [rootFault?, Option.map_eq_none_iff, List.find?_eq_none]
  simp only [hmem, Bool.not_eq_true, Option.isNone_eq_false_iff, isSome_get?_iff]
  constructor
  · intro h kind name hn
    exact h name ⟨kind, hn⟩
  · rintro h name ⟨kind, hn⟩
    exact h kind name hn

lemma validate_ok_iff_coherent : s.validate = .ok () ↔
    (s.index.eraseDups.length = s.types.length ∨ (s.types.map SchemaType.name).Nodup) ∧
      s.Coherent := by
  have ht : s.types.findSome? s.typeFault? = none ↔ ∀ t ∈ s.types, t.kind ∈ namedKinds ∧
      ∀ r, t.Refers r → r.baseName ∈ builtinScalars ∨ s.HasType r.baseName := by
    simp only [List.findSome?_eq_none_iff, typeFault?_eq_none_iff]
  rw [validate_eq_ok_iff, fault?, Option.or_eq_none_iff, Option.or_eq_none_iff,
    repetition?_eq_none_iff, ht, rootFault?_eq_none_iff, and_assoc]
  refine and_congr_right fun _ => ⟨?_, ?_⟩
  · rintro ⟨ht, hr⟩
    exact ⟨fun t hm => (ht t hm).1, fun t hm => (ht t hm).2, hr⟩
  · rintro ⟨hk, ht, hr⟩
    exact ⟨fun t hm => ⟨hk t hm, ht t hm⟩, hr⟩

lemma validate_ok_iff_sound (hi : s.index = s.types.map SchemaType.name) :
    s.validate = .ok () ↔ s.Sound := by
  rw [sound_iff]
  constructor
  · intro h
    exact ⟨nodup_of_validate hi h, (validate_ok_iff_coherent.mp h).2⟩
  · rintro ⟨hd, hc⟩
    exact validate_ok_iff_coherent.mpr ⟨.inr hd, hc⟩

lemma type_isOk {t : SchemaType} (h : t.kind.isNamed = true) : ∃ text, Sdl.type t = .ok text := by
  cases hk : t.kind <;> simp only [hk, TypeKind.isNamed, Bool.false_eq_true] at h <;>
    exact ⟨_, by rw [Sdl.type, hk]; rfl⟩

lemma Sound.render_isOk (h : s.Sound) : ∃ text, Sdl.render s = .ok text := by
  have hb : ∃ blocks, s.userTypes.mapM Sdl.type = .ok blocks := by
    apply mapM_isOk
    intro t ht
    exact type_isOk (mem_namedKinds.mp (h.kinds t (mem_userTypes.mp ht).1))
  obtain ⟨blocks, hb⟩ := hb
  exact ⟨_, bind_eq_ok.mpr ⟨blocks, hb, rfl⟩⟩

/-- A schema that has been read is accepted exactly if it is sound, and then it can be written and
declared, whatever names a service has given before. -/
theorem validate_isOk_iff (raw : Json) (s : Schema) (h : Introspection.decode raw = .ok s) :
    (s.validate = .ok () ↔ s.Sound) ∧
      (s.validate = .ok () → (∃ text, Sdl.render s = .ok text) ∧
        ∀ g : Generator, g.schema = s → ∃ decls, g.schemaTypes = .ok decls) := by
  have hv := validate_ok_iff_sound (index_of_decode h)
  refine ⟨hv, fun hok => ?_⟩
  have hs := hv.mp hok
  refine ⟨hs.render_isOk, ?_⟩
  rintro g rfl
  exact Generator.schemaTypes_isOk fun t ht => mem_namedKinds.mp (hs.kinds t ht)

section Shelf

def namedJson (kind name : String) : Json :=
  .object [("kind", .string kind), ("name", .string name)]

def shelfResult : Json :=
  .object [("data", .object [("__schema", .object [
    ("queryType", .object [("name", .string "Shelf")]),
    ("types", .array [
      .object [("kind", .string "OBJECT"), ("name", .string "Shelf"), ("fields", .array [
        .object [("name", .string "find"), ("type", namedJson "UNION" "Found"), ("args", .array [
          .object [("name", .string "by"), ("type", namedJson "INPUT_OBJECT" "Search")]])]])],
      .object [("kind", .string "INPUT_OBJECT"), ("name", .string "Search"),
        ("inputFields", .array [
          .object [("name", .string "title"), ("type", namedJson "SCALAR" "String")]])],
      .object [("kind", .string "UNION"), ("name", .string "Found"),
        ("possibleTypes", .array [namedJson "OBJECT" "Book"])],
      .object [("kind", .string "OBJECT"), ("name", .string "Book"),
        ("interfaces", .array [namedJson "INTERFACE" "Titled"]), ("fields", .array [
          .object [("name", .string "title"), ("type", namedJson "SCALAR" "String")]])],
      .object [("kind", .string "INTERFACE"), ("name", .string "Titled"), ("fields", .array [
        .object [("name", .string "title"), ("type", namedJson "SCALAR" "String")]])]])])])]

def titleField : SchemaField := ⟨"title", none, [], .named "String", false, none⟩

def shelfSchema : Schema := .ofTypes (some "Shelf") none none
  [⟨.object, "Shelf", none, [⟨"find", none, [⟨"by", none, .named "Search", none⟩],
      .named "Found", false, none⟩], [], [], [], []⟩,
    ⟨.inputObject, "Search", none, [], [⟨"title", none, .named "String", none⟩], [], [], []⟩,
    ⟨.union, "Found", none, [], [], [], [], [.named "Book"]⟩,
    ⟨.object, "Book", none, [titleField], [], [.named "Titled"], [], []⟩,
    ⟨.interface, "Titled", none, [titleField], [], [], [], []⟩] []

theorem validate_isOk_iff_shelf :
    Introspection.decode shelfResult = .ok shelfSchema ∧ shelfSchema.Sound ∧
      (∃ text, Sdl.render shelfSchema = .ok text) ∧
      ∃ decls, (Generator.ofSchema "shop" shelfSchema ⟨true⟩).schemaTypes = .ok decls := by
  have hraw : Introspection.decode shelfResult = .ok shelfSchema := rfl
  have hvalid : shelfSchema.validate = .ok () := rfl
  obtain ⟨hsound, hlater⟩ := validate_isOk_iff shelfResult shelfSchema hraw
  obtain ⟨htext, hdecls⟩ := hlater hvalid
  exact ⟨hraw, hsound.mp hvalid, htext, hdecls _ rfl⟩

end Shelf

end Schema

end GraphqlBindings

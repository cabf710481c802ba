import GraphqlBindings.Proofs.Schema.Decoding

namespace GraphqlBindings

namespace TypeKind

def spellings : List String :=
  ["SCALAR", "OBJECT", "INTERFACE", "UNION", "ENUM", "INPUT_OBJECT", "LIST", "NON_NULL"]

def Spelt : TypeKind → Prop
  | unknown text => text ∉ spellings
  | _ => True

lemma ofText_text {kind : TypeKind} (h : kind.Spelt) : ofText kind.text = kind := by
  cases kind with
  | unknown text =>
    simp only [Spelt, spellings, List.mem_cons, List.not_mem_nil, or_false, not_or] at h
    unfold ofText
    split <;> simp_all [TypeKind.text]
  | _ => rfl

end TypeKind

namespace Introspection

open Json (Distinct IsRecord slot? slot?_of_member?)
open Json.Record (Defaults Given)

def Absent (m : Option Json) : Prop := m = none ∨ m = some .null

def IsWrapper (kind : String) : Prop := kind = "LIST" ∨ kind = "NON_NULL"

section Values

variable {α : Type}

def WritesText (value : Option String) (m : Option Json) : Prop :=
  match value with
  | some t => m = some (.string t)
  | none => Absent m

def WritesFlag (value : Bool) (m : Option Json) : Prop :=
  m = some (.bool value) ∨ value = false ∧ m = none

def WritesList (writes : α → Json → Prop) (xs : List α) (m : Option Json) : Prop :=
  (∃ items, m = some (.array items) ∧ List.Forall₂ writes xs items) ∨ xs = [] ∧ Absent m

/-- A wrapper has its type inside and a name or none, a leaf has a name and nothing inside. Any kind
that is no wrapper's may stand on a leaf. -/
inductive WritesRef : TypeRef → Json → Prop
  | named {j : Json} {kind name : String} (hk : j.member? "kind" = some (.string kind))
      (hw : ¬ IsWrapper kind) (hn : j.member? "name" = some (.string name))
      (ho : Absent (j.member? "ofType")) : WritesRef (.named name) j
  | list {j inner : Json} {name : Option String} {r : TypeRef}
      (hk : j.member? "kind" = some (.string "LIST")) (hn : WritesText name (j.member? "name"))
      (ho : j.member? "ofType" = some inner) (hr : WritesRef r inner) : WritesRef (.list r) j
  | nonNull {j inner : Json} {name : Option String} {r : TypeRef}
      (hk : j.member? "kind" = some (.string "NON_NULL")) (hn : WritesText name (j.member? "name"))
      (ho : j.member? "ofType" = some inner) (hr : WritesRef r inner) : WritesRef (.nonNull r) j

end Values

section Records

structure WritesInputValue (v : InputValue) (j : Json) : Prop where
  name : j.member? "name" = some (.string v.name)
  description : WritesText v.description (j.member? "description")
  type : ∃ t, j.member? "type" = some t ∧ WritesRef v.type t
  default : WritesText v.default (j.member? "defaultValue")

structure WritesField (f : SchemaField) (j : Json) : Prop where
  name : j.member? "name" = some (.string f.name)
  description : WritesText f.description (j.member? "description")
  args : WritesList WritesInputValue f.args (j.member? "args")
  type : ∃ t, j.member? "type" = some t ∧ WritesRef f.type t
  isDeprecated : WritesFlag f.isDeprecated (j.member? "isDeprecated")
  deprecationReason : WritesText f.deprecationReason (j.member? "deprecationReason")

structure WritesEnumValue (v : EnumValue) (j : Json) : Prop where
  name : j.member? "name" = some (.string v.name)
  description : WritesText v.description (j.member? "description")
  isDeprecated : WritesFlag v.isDeprecated (j.member? "isDeprecated")
  deprecationReason : WritesText v.deprecationReason (j.member? "deprecationReason")

structure WritesType (t : SchemaType) (j : Json) : Prop where
  spelt : t.kind.Spelt
  kind : j.member? "kind" = some (.string t.kind.text)
  name : j.member? "name" = some (.string t.name)
  description : WritesText t.description (j.member? "description")
  fields : WritesList WritesField t.fields (j.member? "fields")
  inputFields : WritesList WritesInputValue t.inputFields (j.member? "inputFields")
  interfaces : WritesList WritesRef t.interfaces (j.member? "interfaces")
  enumValues : WritesList WritesEnumValue t.enumValues (j.member? "enumValues")
  possibleTypes : WritesList WritesRef t.possibleTypes (j.member? "possibleTypes")

structure WritesDirective (d : SchemaDirective) (j : Json) : Prop where
  name : j.member? "name" = some (.string d.name)
  description : WritesText d.description (j.member? "description")
  locations : WritesList (fun text item => item = .string text) d.locations (j.member? "locations")
  args : WritesList WritesInputValue d.args (j.member? "args")

def WritesRoot (name : Option String) (m : Option Json) : Prop :=
  match name with
  | some n => ∃ j, m = some j ∧ j.member? "name" = some (.string n)
  | none => Absent m

structure WritesSchema (s : Schema) (j : Json) : Prop where
  queryType : WritesRoot s.queryType (j.member? "queryType")
  mutationType : WritesRoot s.mutationType (j.member? "mutationType")
  subscriptionType : WritesRoot s.subscriptionType (j.member? "subscriptionType")
  types : ∃ items, j.member? "types" = some (.array items) ∧
    List.Forall₂ WritesType s.types items
  directives : WritesList WritesDirective s.directives (j.member? "directives")

def Payload (j payload : Json) : Prop :=
  j.member? "data" = some payload ∨ j.member? "data" = none ∧ payload = j

def WritesResult (s : Schema) (j : Json) : Prop :=
  ∃ payload value, Payload j payload ∧ payload.member? "__schema" = some value ∧
    WritesSchema s value

end Records

section Reads

variable {α : Type} {j : Json} {m : Option Json}

lemma WritesText.reads {value : Option String} (h : WritesText value m) :
    Defaults none optionalText m value := by
  cases value with
  | some t => exact Or.inr ⟨_, h, rfl⟩
  | none => exact h.imp (fun hm => ⟨hm, rfl⟩) fun hm => ⟨_, hm, rfl⟩

lemma WritesFlag.reads {value : Bool} (h : WritesFlag value m) : Defaults false flag m value := by
  rcases h with hm | ⟨rfl, hm⟩
  · exact Or.inr ⟨_, hm, rfl⟩
  · exact Or.inl ⟨hm, rfl⟩

lemma forall₂_reads {writes : α → Json → Prop} {decode : Json → Decoded α} {xs : List α}
    {items : List Json} (h : List.Forall₂ writes xs items) (hd : Distinct (.array items))
    (hr : ∀ x item, writes x item → item.Distinct → decode item = .ok x) :
    listOf decode (.array items) = .ok xs := by
  refine listOf_eq_ok.mpr ⟨items, rfl, ?_⟩
  rw [Json.distinct_array] at hd
  induction h with
  | nil => exact .nil
  | cons hw _ ih =>
    rw [List.forall_mem_cons] at hd
    exact .cons (hr _ _ hw hd.1) (ih hd.2)

lemma WritesList.reads {writes : α → Json → Prop} {decode : Json → Decoded α} {xs : List α}
    {key : String} (h : WritesList writes xs (j.member? key)) (hd : j.Distinct)
    (hr : ∀ x item, writes x item → item.Distinct → decode item = .ok x) :
    Defaults [] (optionalListOf decode) (j.member? key) xs := by
  rcases h with ⟨items, hm, hw⟩ | ⟨rfl, hm | hm⟩
  · exact Or.inr ⟨_, hm, optionalListOf_eq_ok.mpr (Or.inr (forall₂_reads hw (hd.member? hm) hr))⟩
  · exact Or.inl ⟨hm, rfl⟩
  · exact Or.inr ⟨_, hm, rfl⟩

lemma isWrapper_of_ofText {kind : String}
    (h : TypeKind.ofText kind = .list ∨ TypeKind.ofText kind = .nonNull) : IsWrapper kind := by
  unfold TypeKind.ofText at h
  split at h <;> simp_all [IsWrapper]

lemma typeRef_eq_ok {kind : String} {name : Option String} {inner : Option WrittenRef}
    {r : TypeRef} : (WrittenRef.mk kind name inner).typeRef = .ok r ↔
      (kind = "LIST" ∧ ∃ i t, inner = some i ∧ i.typeRef = .ok t ∧ .list t = r) ∨
      (kind = "NON_NULL" ∧ ∃ i t, inner = some i ∧ i.typeRef = .ok t ∧ .nonNull t = r) ∨
      (¬ IsWrapper kind ∧ ∃ n, name = some n ∧ .named n = r) := by
  by_cases hw : IsWrapper kind
  · rcases hw with rfl | rfl <;> rw [WrittenRef.typeRef.eq_def] <;> cases inner <;>
      simp [TypeKind.ofText, IsWrapper, bind_eq_ok, pure, Except.pure]
  · have hl : kind ≠ "LIST" := fun h => hw (Or.inl h)
    have hn : kind ≠ "NON_NULL" := fun h => hw (Or.inr h)
    rw [WrittenRef.typeRef.eq_def]
    dsimp only
    split
    · next h => exact absurd (isWrapper_of_ofText (Or.inl h)) hw
    · next h => exact absurd (isWrapper_of_ofText (Or.inr h)) hw
    · cases name <;> simp [hl, hn, hw]

lemma ofJson_wrapper {kind : String} {name : Option String} {inner : Json} {w : WrittenRef}
    (hd : j.Distinct) (hk : j.member? "kind" = some (.string kind))
    (hn : WritesText name (j.member? "name")) (ho : j.member? "ofType" = some inner)
    (hw : WrittenRef.ofJson inner = .ok w) :
    WrittenRef.ofJson j = .ok (.mk kind name (some w)) := by
  obtain ⟨hrecord, he⟩ := slot?_of_member? hk refFields
  refine (ofJson_eq_ok hd).mpr ⟨hrecord, ?_⟩
  simp only [he]
  exact ⟨⟨_, hk, rfl⟩, hn.reads, Or.inr ⟨_, ho, ofOptional_eq_ok.mpr (Or.inr ⟨w, hw, rfl⟩)⟩⟩

lemma WritesRef.reads {r : TypeRef} (h : WritesRef r j) (hd : j.Distinct) :
    typeRef j = .ok r := by
  suffices ∃ w, WrittenRef.ofJson j = .ok w ∧ w.typeRef = .ok r from bind_eq_ok.mpr this
  induction h with
  | @named j kind name hk hw hn ho =>
    obtain ⟨hrecord, he⟩ := slot?_of_member? hk refFields
    refine ⟨.mk kind (some name) none, (ofJson_eq_ok hd).mpr ⟨hrecord, ?_⟩,
      typeRef_eq_ok.mpr (Or.inr (Or.inr ⟨hw, name, rfl, rfl⟩))⟩
    simp only [he]
    exact ⟨⟨_, hk, rfl⟩, Or.inr ⟨_, hn, rfl⟩, ho.imp (fun hm => ⟨hm, rfl⟩) fun hm => ⟨_, hm, rfl⟩⟩
  | @list j inner name r hk hn ho _ ih =>
    obtain ⟨w, hw, ht⟩ := ih (hd.member? ho)
    exact ⟨.mk "LIST" name (some w), ofJson_wrapper hd hk hn ho hw,
      typeRef_eq_ok.mpr (Or.inl ⟨rfl, w, r, rfl, ht, rfl⟩)⟩
  | @nonNull j inner name r hk hn ho _ ih =>
    obtain ⟨w, hw, ht⟩ := ih (hd.member? ho)
    exact ⟨.mk "NON_NULL" name (some w), ofJson_wrapper hd hk hn ho hw,
      typeRef_eq_ok.mpr (Or.inr (Or.inl ⟨rfl, w, r, rfl, ht, rfl⟩))⟩

lemma WritesInputValue.reads {v : InputValue} (h : WritesInputValue v j) (hd : j.Distinct) :
    inputValue j = .ok v := by
  obtain ⟨hrecord, he⟩ := slot?_of_member? h.name inputValueFields
  obtain ⟨t, ht, hr⟩ := h.type
  refine inputValue_eq_ok.mpr ⟨hrecord, ?_⟩
  simp only [he]
  exact ⟨⟨_, h.name, rfl⟩, h.description.reads, ⟨t, ht, hr.reads (hd.member? ht)⟩, h.default.reads⟩

lemma WritesField.reads {f : SchemaField} (h : WritesField f j) (hd : j.Distinct) :
    field j = .ok f := by
  obtain ⟨hrecord, he⟩ := slot?_of_member? h.name fieldFields
  obtain ⟨t, ht, hr⟩ := h.type
  refine field_eq_ok.mpr ⟨hrecord, ?_⟩
  simp only [he]
  exact ⟨⟨_, h.name, rfl⟩, h.description.reads,
    h.args.reads hd fun _ _ => WritesInputValue.reads, ⟨t, ht, hr.reads (hd.member? ht)⟩,
    h.isDeprecated.reads, h.deprecationReason.reads⟩

lemma WritesEnumValue.reads {v : EnumValue} (h : WritesEnumValue v j) : enumValue j = .ok v := by
  obtain ⟨hrecord, he⟩ := slot?_of_member? h.name enumValueFields
  refine enumValue_eq_ok.mpr ⟨hrecord, ?_⟩
  simp only [he]
  exact ⟨⟨_, h.name, rfl⟩, h.description.reads, h.isDeprecated.reads, h.deprecationReason.reads⟩

lemma WritesType.reads {t : SchemaType} (h : WritesType t j) (hd : j.Distinct) :
    type j = .ok t := by
  obtain ⟨hrecord, he⟩ := slot?_of_member? h.name typeFields
  refine type_eq_ok.mpr ⟨hrecord, ?_⟩
  simp only [he]
  exact ⟨⟨_, ⟨_, h.kind, rfl⟩, TypeKind.ofText_text h.spelt⟩, ⟨_, h.name, rfl⟩,
    h.description.reads, h.fields.reads hd fun _ _ => WritesField.reads,
    h.inputFields.reads hd fun _ _ => WritesInputValue.reads,
    h.interfaces.reads hd fun _ _ => WritesRef.reads,
    h.enumValues.reads hd fun _ _ hw _ => hw.reads,
    h.possibleTypes.reads hd fun _ _ => WritesRef.reads⟩

lemma WritesDirective.reads {d : SchemaDirective} (h : WritesDirective d j) (hd : j.Distinct) :
    directive j = .ok d := by
  obtain ⟨hrecord, he⟩ := slot?_of_member? h.name directiveFields
  refine directive_eq_ok.mpr ⟨hrecord, ?_⟩
  simp only [he]
  exact ⟨⟨_, h.name, rfl⟩, h.description.reads,
    h.locations.reads hd fun text item hi _ => hi ▸ rfl,
    h.args.reads hd fun _ _ => WritesInputValue.reads⟩

lemma WritesRoot.reads {name : Option String} (h : WritesRoot name m) :
    Defaults none optionalRoot m name := by
  cases name with
  | none => exact h.imp (fun hm => ⟨hm, rfl⟩) fun hm => ⟨_, hm, rfl⟩
  | some n =>
    obtain ⟨j, hm, hn⟩ := h
    obtain ⟨hrecord, he⟩ := slot?_of_member? hn rootFields
    refine Or.inr ⟨j, hm, optionalRoot_eq_ok.mpr (Or.inr ⟨n, root_eq_ok.mpr ⟨hrecord, ?_⟩, rfl⟩)⟩
    exact ⟨_, (he _).trans hn, rfl⟩

lemma WritesSchema.reads {s : Schema} (h : WritesSchema s j) (hd : j.Distinct) :
    schema j = .ok { s with index := s.types.map SchemaType.name } := by
  obtain ⟨items, hi, ht⟩ := h.types
  obtain ⟨hrecord, he⟩ := slot?_of_member? hi schemaFields
  refine schema_eq_ok.mpr ⟨hrecord, ?_⟩
  simp only [he]
  exact ⟨h.queryType.reads, h.mutationType.reads, h.subscriptionType.reads,
    ⟨_, hi, forall₂_reads ht (hd.member? hi) fun _ _ => WritesType.reads⟩,
    h.directives.reads hd fun _ _ => WritesDirective.reads, trivial⟩

lemma decode_of_payload {payload value : Json} (hp : Payload j payload)
    (hs : payload.member? "__schema" = some value) : decode j = schema value := by
  rcases hp with hd | ⟨hd, rfl⟩ <;> simp [decode, hd, hs]

lemma Payload.distinct {payload : Json} (hp : Payload j payload) (hd : j.Distinct) :
    payload.Distinct := by
  rcases hp with hm | ⟨-, rfl⟩
  · exact hd.member? hm
  · exact hd

lemma WritesResult.reads {s : Schema} (h : WritesResult s j) (hd : j.Distinct) :
    decode j = .ok { s with index := s.types.map SchemaType.name } := by
  obtain ⟨payload, value, hp, hv, hs⟩ := h
  rw [decode_of_payload hp hv]
  exact hs.reads ((hp.distinct hd).member? hv)

end Reads

section Encode

def encodeRef : TypeRef → Json
  | .named name => .object [("kind", .string "SCALAR"), ("name", .string name), ("ofType", .null)]
  | .list r => .object [("kind", .string "LIST"), ("name", .null), ("ofType", encodeRef r)]
  | .nonNull r => .object [("kind", .string "NON_NULL"), ("name", .null), ("ofType", encodeRef r)]

def encodeInputValue (v : InputValue) : Json :=
  .object [("name", .string v.name), ("description", .ofOption v.description),
    ("type", encodeRef v.type), ("defaultValue", .ofOption v.default)]

def encodeField (f : SchemaField) : Json :=
  .object [("name", .string f.name), ("description", .ofOption f.description),
    ("args", .array (f.args.map encodeInputValue)), ("type", encodeRef f.type),
    ("isDeprecated", .bool f.isDeprecated), ("deprecationReason", .ofOption f.deprecationReason)]

def encodeEnumValue (v : EnumValue) : Json :=
  .object [("name", .string v.name), ("description", .ofOption v.description),
    ("isDeprecated", .bool v.isDeprecated), ("deprecationReason", .ofOption v.deprecationReason)]

def encodeType (t : SchemaType) : Json :=
  .object [("kind", .string t.kind.text), ("name", .string t.name),
    ("description", .ofOption t.description), ("fields", .array (t.fields.map encodeField)),
    ("inputFields", .array (t.inputFields.map encodeInputValue)),
    ("interfaces", .array (t.interfaces.map encodeRef)),
    ("enumValues", .array (t.enumValues.map encodeEnumValue)),
    ("possibleTypes", .array (t.possibleTypes.map encodeRef))]

def encodeDirective (d : SchemaDirective) : Json :=
  .object [("name", .string d.name), ("description", .ofOption d.description),
    ("locations", .array (d.locations.map .string)), ("args", .array (d.args.map encodeInputValue))]

def encodeRoot : Option String → Json
  | some name => .object [("name", .string name)]
  | none => .null

def encode (s : Schema) : Json :=
  .object [("__schema", .object [("queryType", encodeRoot s.queryType),
    ("mutationType", encodeRoot s.mutationType),
    ("subscriptionType", encodeRoot s.subscriptionType),
    ("types", .array (s.types.map encodeType)),
    ("directives", .array (s.directives.map encodeDirective))])]

section Lemmas

variable {α : Type}

lemma writesText_ofOption (value : Option String) : WritesText value (some (.ofOption value)) := by
  cases value with
  | none => exact Or.inr rfl
  | some t => rfl

lemma writesFlag_bool (value : Bool) : WritesFlag value (some (.bool value)) := Or.inl rfl

lemma forall₂_map_encode {writes : α → Json → Prop} {encode : α → Json} {xs : List α}
    (h : ∀ x ∈ xs, writes x (encode x)) : List.Forall₂ writes xs (xs.map encode) := by
  rw [List.forall₂_map_right_iff, List.forall₂_same]
  exact h

lemma writesList_map {writes : α → Json → Prop} {encode : α → Json}
    (h : ∀ x, writes x (encode x)) (xs : List α) :
    WritesList writes xs (some (.array (xs.map encode))) :=
  Or.inl ⟨_, rfl, forall₂_map_encode fun x _ => h x⟩

end Lemmas

lemma writes_encodeRef (r : TypeRef) : WritesRef r (encodeRef r) := by
  induction r with
  | named name => exact .named rfl (by simp [IsWrapper]) rfl (Or.inr rfl)
  | list r ih => exact @WritesRef.list _ _ none _ rfl (Or.inr rfl) rfl ih
  | nonNull r ih => exact @WritesRef.nonNull _ _ none _ rfl (Or.inr rfl) rfl ih

lemma distinct_encodeRef (r : TypeRef) : (encodeRef r).Distinct := by
  induction r <;> simp_all [encodeRef]

lemma writes_encodeInputValue (v : InputValue) : WritesInputValue v (encodeInputValue v) :=
  ⟨rfl, writesText_ofOption _, ⟨_, rfl, writes_encodeRef _⟩, writesText_ofOption _⟩

lemma writes_encodeField (f : SchemaField) : WritesField f (encodeField f) :=
  ⟨rfl, writesText_ofOption _, writesList_map writes_encodeInputValue _,
    ⟨_, rfl, writes_encodeRef _⟩, writesFlag_bool _, writesText_ofOption _⟩

lemma writes_encodeEnumValue (v : EnumValue) : WritesEnumValue v (encodeEnumValue v) :=
  ⟨rfl, writesText_ofOption _, writesFlag_bool _, writesText_ofOption _⟩

lemma writes_encodeType {t : SchemaType} (h : t.kind.Spelt) : WritesType t (encodeType t) :=
  ⟨h, rfl, rfl, writesText_ofOption _, writesList_map writes_encodeField _,
    writesList_map writes_encodeInputValue _, writesList_map writes_encodeRef _,
    writesList_map writes_encodeEnumValue _, writesList_map writes_encodeRef _⟩

lemma writes_encodeDirective (d : SchemaDirective) : WritesDirective d (encodeDirective d) :=
  ⟨rfl, writesText_ofOption _,
    @writesList_map _ (fun text item => item = .string text) .string (fun _ => rfl) _,
    writesList_map writes_encodeInputValue _⟩

lemma writes_encodeRoot (name : Option String) : WritesRoot name (some (encodeRoot name)) := by
  cases name with
  | none => exact Or.inr rfl
  | some n => exact ⟨_, rfl, rfl⟩

lemma writes_encode {s : Schema} (h : ∀ t ∈ s.types, t.kind.Spelt) : WritesResult s (encode s) :=
  ⟨encode s, _, Or.inr ⟨rfl, rfl⟩, rfl, writes_encodeRoot _, writes_encodeRoot _,
    writes_encodeRoot _, ⟨_, rfl, forall₂_map_encode fun t ht => writes_encodeType (h t ht)⟩,
    writesList_map writes_encodeDirective _⟩

lemma distinct_encode (s : Schema) : (encode s).Distinct := by
  have hroot (name) : (encodeRoot name).Distinct := by cases name <;> simp [encodeRoot]
  simp [encode, hroot, encodeType, encodeField, encodeInputValue, encodeEnumValue, encodeDirective,
    distinct_encodeRef]

end Encode

end Introspection

end GraphqlBindings

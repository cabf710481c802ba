import GraphqlBindings.Proofs.Schema.Written

/-! Reading a schema undoes writing it, and a schema that is read has no broken reference: every
wrapper among those it keeps has something inside, and every leaf a name. -/

namespace GraphqlBindings.Introspection

open Json (Distinct slot?)
open Json.Record (Defaults Given)

inductive BrokenRef : Json → Prop
  | noInner {j : Json} {kind : String} (hk : j.slot? refFields "kind" = some (.string kind))
      (hw : IsWrapper kind) (ho : Absent (j.slot? refFields "ofType")) : BrokenRef j
  | noName {j : Json} {kind : String} (hk : j.slot? refFields "kind" = some (.string kind))
      (hw : ¬ IsWrapper kind) (hn : Absent (j.slot? refFields "name")) : BrokenRef j
  | inside {j inner : Json} {kind : String} (hk : j.slot? refFields "kind" = some (.string kind))
      (hw : IsWrapper kind) (ho : j.slot? refFields "ofType" = some inner)
      (hb : BrokenRef inner) : BrokenRef j

section Keeps

def Lists (fields : List String) (name : String) (j item : Json) : Prop :=
  ∃ items, j.slot? fields name = some (.array items) ∧ item ∈ items

def InputValueKeeps (j r : Json) : Prop := j.slot? inputValueFields "type" = some r

def FieldKeeps (j r : Json) : Prop :=
  j.slot? fieldFields "type" = some r ∨
    ∃ arg, Lists fieldFields "args" j arg ∧ InputValueKeeps arg r

def TypeKeeps (j r : Json) : Prop :=
  (∃ f, Lists typeFields "fields" j f ∧ FieldKeeps f r) ∨
    (∃ v, Lists typeFields "inputFields" j v ∧ InputValueKeeps v r) ∨
    Lists typeFields "interfaces" j r ∨ Lists typeFields "possibleTypes" j r

def DirectiveKeeps (j r : Json) : Prop :=
  ∃ arg, Lists directiveFields "args" j arg ∧ InputValueKeeps arg r

def SchemaKeeps (j r : Json) : Prop :=
  (∃ t, Lists schemaFields "types" j t ∧ TypeKeeps t r) ∨
    ∃ d, Lists schemaFields "directives" j d ∧ DirectiveKeeps d r

def ResultKeeps (j r : Json) : Prop :=
  ∃ payload value, Payload j payload ∧ payload.member? "__schema" = some value ∧
    SchemaKeeps value r

end Keeps

section Broken

variable {α : Type} {j r : Json} {m : Option Json}

lemma Absent.eq_none {decode : Json → Decoded (Option α)} {a : Option α} (h : Absent m)
    (hd : Defaults none decode m a) (hnull : decode .null = .ok none) : a = none := by
  rcases h with rfl | rfl <;> simp_all [eq_comm]

lemma typeRef_ok {kind : String} {t : TypeRef} (ht : typeRef j = .ok t) (hd : j.Distinct)
    (hk : j.slot? refFields "kind" = some (.string kind)) :
    ∃ name inner, Defaults none optionalText (j.slot? refFields "name") name ∧
      Defaults none WrittenRef.ofOptional (j.slot? refFields "ofType") inner ∧
      (WrittenRef.mk kind name inner).typeRef = .ok t := by
  obtain ⟨⟨kind', name, inner⟩, hj, ht⟩ := bind_eq_ok.mp ht
  obtain ⟨-, ⟨v, hv, hkind⟩, hname, hinner⟩ := (ofJson_eq_ok hd).mp hj
  obtain rfl := Option.some.inj (hk.symm.trans hv)
  obtain rfl := Except.ok.inj hkind
  exact ⟨name, inner, hname, hinner, ht⟩

lemma BrokenRef.not_ok (h : BrokenRef j) (hd : j.Distinct) {t : TypeRef} :
    typeRef j ≠ .ok t := by
  intro ht
  -- down the chain: what is inside a wrapper that is read is read itself, as some other reference
  induction h generalizing t with
  | noInner hk hw ho =>
    obtain ⟨name, inner, -, hinner, ht⟩ := typeRef_ok ht hd hk
    obtain rfl := ho.eq_none hinner rfl
    rcases typeRef_eq_ok.mp ht with ⟨-, i, t, hi, -⟩ | ⟨-, i, t, hi, -⟩ | ⟨hn, -⟩
    · cases hi
    · cases hi
    · exact hn hw
  | noName hk hw hn =>
    obtain ⟨name, inner, hname, -, ht⟩ := typeRef_ok ht hd hk
    obtain rfl := hn.eq_none hname rfl
    rcases typeRef_eq_ok.mp ht with ⟨hl, -⟩ | ⟨hl, -⟩ | ⟨-, n, hn, -⟩
    · exact hw (Or.inl hl)
    · exact hw (Or.inr hl)
    · cases hn
  | inside hk hw ho _ ih =>
    obtain ⟨name, inner, -, hinner, ht⟩ := typeRef_ok ht hd hk
    have hin : ∃ i t, inner = some i ∧ i.typeRef = .ok t := by
      rcases typeRef_eq_ok.mp ht with ⟨-, i, t, hi, ht, -⟩ | ⟨-, i, t, hi, ht, -⟩ | ⟨hn, -⟩
      · exact ⟨i, t, hi, ht⟩
      · exact ⟨i, t, hi, ht⟩
      · exact absurd hw hn
    obtain ⟨i, t, rfl, hit⟩ := hin
    rw [ho, Json.Record.defaults_some] at hinner
    obtain ⟨-, he⟩ | ⟨w, hj, he⟩ := ofOptional_eq_ok.mp hinner
    · cases he
    · obtain rfl := Option.some.inj he
      exact ih (hd.slot? ho) (bind_eq_ok.mpr ⟨i, hj, hit⟩)

lemma exists_of_listOf {decode : Json → Decoded α} {xs : List α} {items : List Json} {item : Json}
    (h : listOf decode (.array items) = .ok xs) (hi : item ∈ items) :
    ∃ x, decode item = .ok x := by
  obtain ⟨_, he, hf⟩ := listOf_eq_ok.mp h
  obtain rfl := Json.array.inj he
  obtain ⟨i, hl, rfl⟩ := List.mem_iff_getElem.mp hi
  exact ⟨_, hf.get hl (hf.length_eq ▸ hl)⟩

lemma exists_of_lists {fields : List String} {name : String} {decode : Json → Decoded α}
    {xs : List α} {item : Json} (hl : Lists fields name j item) (hd : j.Distinct)
    (h : Defaults [] (optionalListOf decode) (j.slot? fields name) xs) :
    item.Distinct ∧ ∃ x, decode item = .ok x := by
  obtain ⟨items, he, hi⟩ := hl
  refine ⟨Json.distinct_array.mp (hd.slot? he) item hi, ?_⟩
  rw [he, Json.Record.defaults_some] at h
  obtain ⟨hn, -⟩ | h := optionalListOf_eq_ok.mp h
  · cases hn
  · exact exists_of_listOf h hi

lemma not_broken_inputValue {v : InputValue} (h : inputValue j = .ok v) (hd : j.Distinct)
    (hk : InputValueKeeps j r) : ¬ BrokenRef r := by
  intro hb
  obtain ⟨-, -, -, ht, -⟩ := inputValue_eq_ok.mp h
  rw [InputValueKeeps] at hk
  rw [hk, Json.Record.given_some] at ht
  exact hb.not_ok (hd.slot? hk) ht

lemma not_broken_arg {fields : List String} {name : String} {args : List InputValue}
    {arg : Json} (hd : j.Distinct)
    (h : Defaults [] (optionalListOf inputValue) (j.slot? fields name) args)
    (hl : Lists fields name j arg) (hk : InputValueKeeps arg r) : ¬ BrokenRef r := by
  obtain ⟨hdistinct, v, hv⟩ := exists_of_lists hl hd h
  exact not_broken_inputValue hv hdistinct hk

lemma not_broken_field {f : SchemaField} (h : field j = .ok f) (hd : j.Distinct)
    (hk : FieldKeeps j r) : ¬ BrokenRef r := by
  obtain ⟨-, -, -, hargs, ht, -⟩ := field_eq_ok.mp h
  rcases hk with hk | ⟨arg, hl, hk⟩
  · rw [hk, Json.Record.given_some] at ht
    exact fun hb => hb.not_ok (hd.slot? hk) ht
  · exact not_broken_arg hd hargs hl hk

lemma not_broken_type {t : SchemaType} (h : type j = .ok t) (hd : j.Distinct)
    (hk : TypeKeeps j r) : ¬ BrokenRef r := by
  obtain ⟨-, -, -, -, hfields, hinputs, hinterfaces, -, hpossible⟩ := type_eq_ok.mp h
  rcases hk with ⟨f, hl, hk⟩ | ⟨v, hl, hk⟩ | hl | hl
  · obtain ⟨hdistinct, f, hf⟩ := exists_of_lists hl hd hfields
    exact not_broken_field hf hdistinct hk
  · exact not_broken_arg hd hinputs hl hk
  · obtain ⟨hdistinct, t, ht⟩ := exists_of_lists hl hd hinterfaces
    exact fun hb => hb.not_ok hdistinct ht
  · obtain ⟨hdistinct, t, ht⟩ := exists_of_lists hl hd hpossible
    exact fun hb => hb.not_ok hdistinct ht

lemma not_broken_schema {s : Schema} (h : schema j = .ok s) (hd : j.Distinct)
    (hk : SchemaKeeps j r) : ¬ BrokenRef r := by
  obtain ⟨-, -, -, -, htypes, hdirectives, -⟩ := schema_eq_ok.mp h
  rcases hk with ⟨t, ⟨items, he, hi⟩, hk⟩ | ⟨d, hl, arg, harg, hk⟩
  · rw [he, Json.Record.given_some] at htypes
    obtain ⟨t, ht⟩ := exists_of_listOf htypes hi
    exact not_broken_type ht (Json.distinct_array.mp (hd.slot? he) _ hi) hk
  · obtain ⟨hdistinct, d, hd⟩ := exists_of_lists hl hd hdirectives
    obtain ⟨-, -, -, -, hargs⟩ := directive_eq_ok.mp hd
    exact not_broken_arg hdistinct hargs harg hk

end Broken

/-- Every schema can be written, and whatever way it is written in, it is read again: the same
roots, types and directives in the same order, and an index of its names. If a reference that a
result keeps is broken, the result is not read. -/
theorem decode_inverts :
    (∀ s : Schema, (∀ t ∈ s.types, t.kind.Spelt) → ∃ j, j.Distinct ∧ WritesResult s j) ∧
    (∀ (s : Schema) (j : Json), j.Distinct → WritesResult s j →
      decode j = .ok { s with index := s.types.map SchemaType.name }) ∧
    ∀ j r : Json, j.Distinct → ResultKeeps j r → BrokenRef r →
      ∃ fault, decode j = .error fault := by
  refine ⟨fun s hs => ⟨encode s, distinct_encode s, writes_encode hs⟩,
    fun s j hd hw => hw.reads hd, fun j r hd hk hb => ?_⟩
  cases hj : decode j with
  | error fault => exact ⟨fault, rfl⟩
  | ok s =>
    obtain ⟨payload, value, hp, hv, hk⟩ := hk
    rw [decode_of_payload hp hv] at hj
    exact absurd hb (not_broken_schema hj ((hp.distinct hd).member? hv) hk)

section Dates

def datesSchema : Schema := .ofTypes (some "Query") none none
  [⟨.object, "Query", none, [⟨"dates", none, [], .nonNull (.list (.named "Date")), false, none⟩],
      [], [], [], []⟩,
    ⟨.unknown "CUSTOM", "Date", some "a day", [], [], [], [], []⟩] []

def datesReply (type : Json) : Json :=
  .object [("extensions", .null), ("data", .object [("__schema", .object
    [("types", .array
      [.object [("name", .string "Query"), ("args", .bool true), ("kind", .string "OBJECT"),
          ("fields", .array [.object [("type", type), ("args", .null), ("name", .string "dates")]]),
          ("interfaces", .array [])],
        .object [("description", .string "a day"), ("kind", .string "CUSTOM"),
          ("name", .string "Date"), ("fields", .null)]]),
      ("mutationType", .null), ("queryType", .object [("name", .string "Query")])])])]

def datesType : Json :=
  .object [("ofType", .object [("ofType", .object [("name", .string "Date"),
    ("kind", .string "CUSTOM")]), ("kind", .string "LIST")]), ("kind", .string "NON_NULL"),
    ("name", .null)]

def brokenDatesType : Json :=
  .object [("kind", .string "NON_NULL"), ("ofType", .object [("kind", .string "LIST"),
    ("name", .string "Date"), ("ofType", .null)])]

lemma writes_datesReply : WritesResult datesSchema (datesReply datesType) := by
  have ht : WritesRef (.nonNull (.list (.named "Date"))) datesType :=
    @WritesRef.nonNull _ _ none _ rfl (Or.inr rfl) rfl
      (@WritesRef.list _ _ none _ rfl (Or.inl rfl) rfl
        (.named rfl (by simp [IsWrapper]) rfl (Or.inl rfl)))
  refine ⟨_, _, Or.inl rfl, rfl, ⟨_, rfl, rfl⟩, Or.inr rfl, Or.inl rfl, ⟨_, rfl, ?_⟩,
    Or.inr ⟨rfl, Or.inl rfl⟩⟩
  refine .cons ⟨trivial, rfl, rfl, Or.inl rfl, Or.inl ⟨_, rfl, ?_⟩, Or.inr ⟨rfl, Or.inl rfl⟩,
    Or.inl ⟨[], rfl, .nil⟩, Or.inr ⟨rfl, Or.inl rfl⟩, Or.inr ⟨rfl, Or.inl rfl⟩⟩ (.cons ?_ .nil)
  · exact .cons ⟨rfl, Or.inl rfl, Or.inr ⟨rfl, Or.inr rfl⟩, ⟨_, rfl, ht⟩, Or.inr ⟨rfl, rfl⟩,
      Or.inl rfl⟩ .nil
  · have hspelt : (TypeKind.unknown "CUSTOM").Spelt := by
      simp [TypeKind.Spelt, TypeKind.spellings]
    exact ⟨hspelt, rfl, rfl, rfl, Or.inr ⟨rfl, Or.inr rfl⟩, Or.inr ⟨rfl, Or.inl rfl⟩,
      Or.inr ⟨rfl, Or.inl rfl⟩, Or.inr ⟨rfl, Or.inl rfl⟩, Or.inr ⟨rfl, Or.inl rfl⟩⟩

lemma distinct_datesReply {type : Json} (h : type.Distinct) : (datesReply type).Distinct := by
  simp [datesReply, h]

theorem decode_inverts_dates :
    (∃ j, j.Distinct ∧ WritesResult datesSchema j) ∧
    ((datesReply datesType).Distinct ∧ WritesResult datesSchema (datesReply datesType) ∧
      decode (datesReply datesType) = .ok datesSchema) ∧
    ((datesReply brokenDatesType).Distinct ∧
      ResultKeeps (datesReply brokenDatesType) brokenDatesType ∧ BrokenRef brokenDatesType ∧
      ∃ fault, decode (datesReply brokenDatesType) = .error fault) := by
  have hspelt : ∀ t ∈ datesSchema.types, t.kind.Spelt := by
    simp [datesSchema, Schema.ofTypes, TypeKind.Spelt, TypeKind.spellings]
  have hd : (datesReply datesType).Distinct := distinct_datesReply (by simp [datesType])
  have hd' : (datesReply brokenDatesType).Distinct :=
    distinct_datesReply (by simp [brokenDatesType])
  have hk : ResultKeeps (datesReply brokenDatesType) brokenDatesType :=
    ⟨_, _, Or.inl rfl, rfl, Or.inl ⟨_, ⟨_, rfl, List.mem_cons_self⟩,
      Or.inl ⟨_, ⟨_, rfl, List.mem_cons_self⟩, Or.inl rfl⟩⟩⟩
  have hb : BrokenRef brokenDatesType :=
    .inside rfl (Or.inr rfl) rfl (.noInner rfl (Or.inl rfl) (Or.inr rfl))
  obtain ⟨hwrite, hread, hbroken⟩ := decode_inverts
  exact ⟨hwrite datesSchema hspelt, ⟨hd, writes_datesReply, hread _ _ hd writes_datesReply⟩,
    hd', hk, hb, hbroken _ _ hd' hk hb⟩

end Dates

end GraphqlBindings.Introspection

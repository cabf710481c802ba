import Mathlib.Data.List.Forall2
import GraphqlBindings.Schema.Introspection
import GraphqlBindings.Proofs.Json.Record

namespace GraphqlBindings.Introspection

open Json (Distinct IsRecord slot?)
open Json.Record (Defaults Given check_of_none defaulting_eq_ok exists_of? fault? isRecord_of?
  required_eq_ok surplus_of_check)

variable {j : Json}

section Lists

variable {α : Type} {decode : Json → Decoded α} {xs : List α}

lemma listOf_eq_ok : listOf decode j = .ok xs ↔
    ∃ items, j = .array items ∧ List.Forall₂ (fun item x => decode item = .ok x) items xs := by
  cases j with
  | array items =>
    have hm : items.map decode = xs.map .ok ↔
        List.Forall₂ (fun item x => decode item = .ok x) items xs := by
      rw [← List.forall₂_eq_eq_eq, List.forall₂_map_left_iff, List.forall₂_map_right_iff]
    simp [listOf, mapM_eq_ok_iff, hm]
  | _ => simp [listOf]

lemma optionalListOf_eq_ok : optionalListOf decode j = .ok xs ↔
    j = .null ∧ [] = xs ∨ listOf decode j = .ok xs := by
  cases j <;> simp [optionalListOf, listOf]

end Lists

section Refs

def refFields : List String := ["kind", "name", "ofType"]

lemma finish_eq_ok {p : PartialRef} {kind : String} {name : Option String}
    {inner : Option WrittenRef} :
    p.finish = .ok (.mk kind name inner) ↔ p = ⟨some kind, name, inner⟩ := by
  obtain ⟨_ | kind', name', inner'⟩ := p <;> simp [PartialRef.finish]

lemma ofOptional_eq_ok {written : Option WrittenRef} : WrittenRef.ofOptional j = .ok written ↔
    j = .null ∧ written = none ∨ ∃ w, WrittenRef.ofJson j = .ok w ∧ written = some w := by
  have hsome (p : Decoded PartialRef) :
      (do return some (← (← p).finish)) = (.ok written : Decoded (Option WrittenRef)) ↔
        ∃ w, (do (← p).finish) = .ok w ∧ written = some w := by
    cases p with
    | error fault => simp [bind, Except.bind]
    | ok p => cases hw : p.finish <;> simp [bind, Except.bind, pure, Except.pure, hw, eq_comm]
  cases j with
  | null => simp [WrittenRef.ofOptional, WrittenRef.ofJson, eq_comm]
  | object members => simpa [WrittenRef.ofOptional, WrittenRef.ofJson] using hsome _
  | array items => simpa [WrittenRef.ofOptional, WrittenRef.ofJson] using hsome _
  | _ => simp [WrittenRef.ofOptional, WrittenRef.ofJson]

lemma ofMembers_eq_ok {members : List (String × Json)} (hd : (members.map Prod.fst).Nodup)
    {p q : PartialRef} : WrittenRef.ofMembers p members = .ok q ↔
      Defaults p.kind (fun v => some <$> text v) (members.lookup "kind") q.kind ∧
      Defaults p.name optionalText (members.lookup "name") q.name ∧
      Defaults p.inner WrittenRef.ofOptional (members.lookup "ofType") q.inner := by
  induction members generalizing p with
  | nil =>
    obtain ⟨kind, name, inner⟩ := p
    obtain ⟨kind', name', inner'⟩ := q
    simp [WrittenRef.ofMembers]
  | cons m rest ih =>
    obtain ⟨key, value⟩ := m
    rw [List.map_cons, List.nodup_cons] at hd
    have habsent : rest.lookup key = none := lookup_eq_none_of_not_mem hd.1
    have hother {name : String} (hne : key ≠ name) :
        ((key, value) :: rest).lookup name = rest.lookup name := by
      rw [List.lookup_cons, beq_eq_false_iff_ne.mpr hne.symm]
    rw [WrittenRef.ofMembers]
    split_ifs with hk hn ho
    · subst hk
      have hname := hother (show "kind" ≠ "name" by decide)
      have hinner := hother (show "kind" ≠ "ofType" by decide)
      cases ht : text value <;>
        simp [bind, Except.bind, ih hd.2, habsent, hname, hinner, ht]
    · subst hn
      have hkind := hother (show "name" ≠ "kind" by decide)
      have hinner := hother (show "name" ≠ "ofType" by decide)
      cases ht : optionalText value <;>
        simp [bind, Except.bind, ih hd.2, habsent, hkind, hinner, ht]
    · subst ho
      have hkind := hother (show "ofType" ≠ "kind" by decide)
      have hname := hother (show "ofType" ≠ "name" by decide)
      cases ht : WrittenRef.ofOptional value <;>
        simp [bind, Except.bind, ih hd.2, habsent, hkind, hname, ht]
    · rw [hother hk, hother hn, hother ho, ih hd.2]

lemma ofJson_eq_ok (hd : Distinct j) {kind : String} {name : Option String}
    {inner : Option WrittenRef} : WrittenRef.ofJson j = .ok (.mk kind name inner) ↔
      IsRecord refFields j ∧ Given text (j.slot? refFields "kind") kind ∧
      Defaults none optionalText (j.slot? refFields "name") name ∧
      Defaults none WrittenRef.ofOptional (j.slot? refFields "ofType") inner := by
  cases hd with
  | @object members hk hm =>
    have hkind : Defaults none (fun v => some <$> text v) (members.lookup "kind") (some kind) ↔
        Given text (members.lookup "kind") kind := by
      cases members.lookup "kind" with
      | none => simp
      | some v => cases ht : text v <;> simp [ht]
    simp [WrittenRef.ofJson, bind_eq_ok, ofMembers_eq_ok hk, finish_eq_ok, IsRecord, slot?,
      PartialRef.empty, hkind]
  | @array items hi =>
    rcases items with _ | ⟨kind, _ | ⟨name, _ | ⟨inner, _ | ⟨more, rest⟩⟩⟩⟩
    · simp [WrittenRef.ofJson, WrittenRef.ofItems, PartialRef.empty, PartialRef.finish, slot?,
        refFields, bind, Except.bind]
    · simp [WrittenRef.ofJson, WrittenRef.ofItems, bind_eq_ok, finish_eq_ok, IsRecord, slot?,
        refFields, List.lookup_cons]
    · simp [WrittenRef.ofJson, WrittenRef.ofItems, bind_eq_ok, finish_eq_ok, IsRecord, slot?,
        refFields, List.lookup_cons]
    · simp [WrittenRef.ofJson, WrittenRef.ofItems, bind_eq_ok, finish_eq_ok, IsRecord, slot?,
        refFields, List.lookup_cons]
    · simp [WrittenRef.ofJson, WrittenRef.ofItems, IsRecord, refFields, bind, Except.bind]
  | _ => simp [WrittenRef.ofJson, IsRecord]

end Refs

section Records

lemma record_eq_ok {fields : List String} {r : Json.Record} :
    record fields j = .ok r ↔ Json.Record.of? fields j = some r := by
  rw [record]
  cases Json.Record.of? fields j <;> simp

def inputValueFields : List String := ["name", "description", "type", "defaultValue"]

lemma inputValue_eq_ok {v : InputValue} : inputValue j = .ok v ↔ IsRecord inputValueFields j ∧
    Given text (j.slot? inputValueFields "name") v.name ∧
    Defaults none optionalText (j.slot? inputValueFields "description") v.description ∧
    Given typeRef (j.slot? inputValueFields "type") v.type ∧
    Defaults none optionalText (j.slot? inputValueFields "defaultValue") v.default := by
  constructor
  · intro h
    simp only [inputValue, bind_eq_ok, record_eq_ok] at h
    obtain ⟨r, hrecord, _, hc, name, hn, description, hd, type, ht, default, hv, h⟩ := h
    obtain rfl := Except.ok.inj h
    exact ⟨isRecord_of? hrecord (surplus_of_check hc),
      (required_eq_ok .shape hrecord (by decide)).mp hn,
      (defaulting_eq_ok hrecord (by decide)).mp hd,
      (required_eq_ok .shape hrecord (by decide)).mp ht,
      (defaulting_eq_ok hrecord (by decide)).mp hv⟩
  · rintro ⟨hrecord, hn, hd, ht, hv⟩
    obtain ⟨r, hread, hsurplus⟩ := exists_of? hrecord
    rw [← required_eq_ok .shape hread (by decide)] at hn ht
    rw [← defaulting_eq_ok hread (by decide)] at hd hv
    refine bind_eq_ok.mpr ⟨r, record_eq_ok.mpr hread, ?_⟩
    simp only [hn, hd, ht, hv]
    exact bind_eq_ok.mpr ⟨(), check_of_none hsurplus (by simp [fault?]), rfl⟩

def fieldFields : List String := ["name", "description", "args", "type", "isDeprecated",
  "deprecationReason"]

lemma field_eq_ok {f : SchemaField} : field j = .ok f ↔ IsRecord fieldFields j ∧
    Given text (j.slot? fieldFields "name") f.name ∧
    Defaults none optionalText (j.slot? fieldFields "description") f.description ∧
    Defaults [] (optionalListOf inputValue) (j.slot? fieldFields "args") f.args ∧
    Given typeRef (j.slot? fieldFields "type") f.type ∧
    Defaults false flag (j.slot? fieldFields "isDeprecated") f.isDeprecated ∧
    Defaults none optionalText (j.slot? fieldFields "deprecationReason") f.deprecationReason := by
  constructor
  · intro h
    simp only [field, bind_eq_ok, record_eq_ok] at h
    obtain ⟨r, hrecord, _, hc, name, hn, description, hd, args, ha, type, ht, isDeprecated, hf,
      deprecationReason, hr, h⟩ := h
    obtain rfl := Except.ok.inj h
    exact ⟨isRecord_of? hrecord (surplus_of_check hc),
      (required_eq_ok .shape hrecord (by decide)).mp hn,
      (defaulting_eq_ok hrecord (by decide)).mp hd,
      (defaulting_eq_ok hrecord (by decide)).mp ha,
      (required_eq_ok .shape hrecord (by decide)).mp ht,
      (defaulting_eq_ok hrecord (by decide)).mp hf,
      (defaulting_eq_ok hrecord (by decide)).mp hr⟩
  · rintro ⟨hrecord, hn, hd, ha, ht, hf, hr⟩
    obtain ⟨r, hread, hsurplus⟩ := exists_of? hrecord
    rw [← required_eq_ok .shape hread (by decide)] at hn ht
    rw [← defaulting_eq_ok hread (by decide)] at hd ha hf hr
    refine bind_eq_ok.mpr ⟨r, record_eq_ok.mpr hread, ?_⟩
    simp only [hn, hd, ha, ht, hf, hr]
    exact bind_eq_ok.mpr ⟨(), check_of_none hsurplus (by simp [fault?]), rfl⟩

def enumValueFields : List String := ["name", "description", "isDeprecated", "deprecationReason"]

lemma enumValue_eq_ok {v : EnumValue} : enumValue j = .ok v ↔ IsRecord enumValueFields j ∧
    Given text (j.slot? enumValueFields "name") v.name ∧
    Defaults none optionalText (j.slot? enumValueFields "description") v.description ∧
    Defaults false flag (j.slot? enumValueFields "isDeprecated") v.isDeprecated ∧
    Defaults none optionalText (j.slot? enumValueFields "deprecationReason")
      v.deprecationReason := by
  constructor
  · intro h
    simp only [enumValue, bind_eq_ok, record_eq_ok] at h
    obtain ⟨r, hrecord, _, hc, name, hn, description, hd, isDeprecated, hf, deprecationReason, hr,
      h⟩ := h
    obtain rfl := Except.ok.inj h
    exact ⟨isRecord_of? hrecord (surplus_of_check hc),
      (required_eq_ok .shape hrecord (by decide)).mp hn,
      (defaulting_eq_ok hrecord (by decide)).mp hd,
      (defaulting_eq_ok hrecord (by decide)).mp hf,
      (defaulting_eq_ok hrecord (by decide)).mp hr⟩
  · rintro ⟨hrecord, hn, hd, hf, hr⟩
    obtain ⟨r, hread, hsurplus⟩ := exists_of? hrecord
    rw [← required_eq_ok .shape hread (by decide)] at hn
    rw [← defaulting_eq_ok hread (by decide)] at hd hf hr
    refine bind_eq_ok.mpr ⟨r, record_eq_ok.mpr hread, ?_⟩
    simp only [hn, hd, hf, hr]
    exact bind_eq_ok.mpr ⟨(), check_of_none hsurplus (by simp [fault?]), rfl⟩

def typeFields : List String := ["kind", "name", "description", "fields", "inputFields",
  "interfaces", "enumValues", "possibleTypes"]

lemma type_eq_ok {t : SchemaType} : type j = .ok t ↔ IsRecord typeFields j ∧
    (∃ kind, Given text (j.slot? typeFields "kind") kind ∧ .ofText kind = t.kind) ∧
    Given text (j.slot? typeFields "name") t.name ∧
    Defaults none optionalText (j.slot? typeFields "description") t.description ∧
    Defaults [] (optionalListOf field) (j.slot? typeFields "fields") t.fields ∧
    Defaults [] (optionalListOf inputValue) (j.slot? typeFields "inputFields") t.inputFields ∧
    Defaults [] (optionalListOf typeRef) (j.slot? typeFields "interfaces") t.interfaces ∧
    Defaults [] (optionalListOf enumValue) (j.slot? typeFields "enumValues") t.enumValues ∧
    Defaults [] (optionalListOf typeRef) (j.slot? typeFields "possibleTypes") t.possibleTypes := by
  constructor
  · intro h
    simp only [type, bind_eq_ok, record_eq_ok] at h
    obtain ⟨r, hrecord, _, hc, kind, hk, name, hn, description, hd, fields, hfs, inputFields, his,
      interfaces, hin, enumValues, hvs, possibleTypes, hps, h⟩ := h
    obtain rfl := Except.ok.inj h
    exact ⟨isRecord_of? hrecord (surplus_of_check hc),
      ⟨_, (required_eq_ok .shape hrecord (by decide)).mp hk, rfl⟩,
      (required_eq_ok .shape hrecord (by decide)).mp hn,
      (defaulting_eq_ok hrecord (by decide)).mp hd,
      (defaulting_eq_ok hrecord (by decide)).mp hfs,
      (defaulting_eq_ok hrecord (by decide)).mp his,
      (defaulting_eq_ok hrecord (by decide)).mp hin,
      (defaulting_eq_ok hrecord (by decide)).mp hvs,
      (defaulting_eq_ok hrecord (by decide)).mp hps⟩
  · rintro ⟨hrecord, ⟨kind, hk, hkind⟩, hn, hd, hfs, his, hin, hvs, hps⟩
    obtain ⟨r, hread, hsurplus⟩ := exists_of? hrecord
    rw [← required_eq_ok .shape hread (by decide)] at hk hn
    rw [← defaulting_eq_ok hread (by decide)] at hd hfs his hin hvs hps
    refine bind_eq_ok.mpr ⟨r, record_eq_ok.mpr hread, ?_⟩
    simp only [hk, hn, hd, hfs, his, hin, hvs, hps]
    refine bind_eq_ok.mpr ⟨(), check_of_none hsurplus (by simp [fault?]), ?_⟩
    exact congrArg Except.ok (by rw [hkind])

def directiveFields : List String := ["name", "description", "locations", "args"]

lemma directive_eq_ok {d : SchemaDirective} : directive j = .ok d ↔ IsRecord directiveFields j ∧
    Given text (j.slot? directiveFields "name") d.name ∧
    Defaults none optionalText (j.slot? directiveFields "description") d.description ∧
    Defaults [] (optionalListOf text) (j.slot? directiveFields "locations") d.locations ∧
    Defaults [] (optionalListOf inputValue) (j.slot? directiveFields "args") d.args := by
  constructor
  · intro h
    simp only [directive, bind_eq_ok, record_eq_ok] at h
    obtain ⟨r, hrecord, _, hc, name, hn, description, hd, locations, hl, args, ha, h⟩ := h
    obtain rfl := Except.ok.inj h
    exact ⟨isRecord_of? hrecord (surplus_of_check hc),
      (required_eq_ok .shape hrecord (by decide)).mp hn,
      (defaulting_eq_ok hrecord (by decide)).mp hd,
      (defaulting_eq_ok hrecord (by decide)).mp hl,
      (defaulting_eq_ok hrecord (by decide)).mp ha⟩
  · rintro ⟨hrecord, hn, hd, hl, ha⟩
    obtain ⟨r, hread, hsurplus⟩ := exists_of? hrecord
    rw [← required_eq_ok .shape hread (by decide)] at hn
    rw [← defaulting_eq_ok hread (by decide)] at hd hl ha
    refine bind_eq_ok.mpr ⟨r, record_eq_ok.mpr hread, ?_⟩
    simp only [hn, hd, hl, ha]
    exact bind_eq_ok.mpr ⟨(), check_of_none hsurplus (by simp [fault?]), rfl⟩

def rootFields : List String := ["name"]

lemma root_eq_ok {name : String} : root j = .ok name ↔ IsRecord rootFields j ∧
    Given text (j.slot? rootFields "name") name := by
  constructor
  · intro h
    simp only [root, bind_eq_ok, record_eq_ok] at h
    obtain ⟨r, hr, _, hc, hn⟩ := h
    exact ⟨isRecord_of? hr (surplus_of_check hc),
      (required_eq_ok .shape hr (by decide)).mp hn⟩
  · rintro ⟨hrecord, hn⟩
    obtain ⟨r, hread, hsurplus⟩ := exists_of? hrecord
    rw [← required_eq_ok .shape hread (by decide)] at hn
    refine bind_eq_ok.mpr ⟨r, record_eq_ok.mpr hread, ?_⟩
    simp only [hn]
    exact bind_eq_ok.mpr ⟨(), check_of_none hsurplus (by simp [fault?]), rfl⟩

lemma optionalRoot_eq_ok {name : Option String} : optionalRoot j = .ok name ↔
    j = .null ∧ none = name ∨ ∃ n, root j = .ok n ∧ some n = name := by
  cases j with
  | null => simp [optionalRoot, root, record, Json.Record.of?, bind, Except.bind]
  | _ =>
    rw [optionalRoot]
    · simp [bind_eq_ok, pure, Except.pure]
    · simp

def schemaFields : List String := ["queryType", "mutationType", "subscriptionType", "types",
  "directives"]

lemma schema_eq_ok {s : Schema} : schema j = .ok s ↔ IsRecord schemaFields j ∧
    Defaults none optionalRoot (j.slot? schemaFields "queryType") s.queryType ∧
    Defaults none optionalRoot (j.slot? schemaFields "mutationType") s.mutationType ∧
    Defaults none optionalRoot (j.slot? schemaFields "subscriptionType") s.subscriptionType ∧
    Given (listOf type) (j.slot? schemaFields "types") s.types ∧
    Defaults [] (optionalListOf directive) (j.slot? schemaFields "directives") s.directives ∧
    s.types.map SchemaType.name = s.index := by
  constructor
  · intro h
    simp only [schema, bind_eq_ok, record_eq_ok] at h
    obtain ⟨r, hrecord, _, hc, queryType, hq, mutationType, hm, subscriptionType, hs, types, hts,
      directives, hds, h⟩ := h
    obtain rfl := Except.ok.inj h
    exact ⟨isRecord_of? hrecord (surplus_of_check hc),
      (defaulting_eq_ok hrecord (by decide)).mp hq,
      (defaulting_eq_ok hrecord (by decide)).mp hm,
      (defaulting_eq_ok hrecord (by decide)).mp hs,
      (required_eq_ok .shape hrecord (by decide)).mp hts,
      (defaulting_eq_ok hrecord (by decide)).mp hds,
      rfl⟩
  · rintro ⟨hrecord, hq, hm, hs, hts, hds, hi⟩
    obtain ⟨r, hread, hsurplus⟩ := exists_of? hrecord
    rw [← required_eq_ok .shape hread (by decide)] at hts
    rw [← defaulting_eq_ok hread (by decide)] at hq hm hs hds
    refine bind_eq_ok.mpr ⟨r, record_eq_ok.mpr hread, ?_⟩
    simp only [hq, hm, hs, hts, hds]
    refine bind_eq_ok.mpr ⟨(), check_of_none hsurplus (by simp [fault?]), ?_⟩
    exact congrArg Except.ok (by rw [Schema.ofTypes, hi])

end Records

end GraphqlBindings.Introspection

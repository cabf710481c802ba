import GraphqlBindings.Code.Declaration
import GraphqlBindings.Json.Basic
import GraphqlBindings.Proofs.Keyed

namespace GraphqlBindings

inductive CodeValue where
  | text (text : String)
  | integer (n : Int64)
  | double (x : Decimal.Binary64)
  | bool (b : Bool)
  | any (j : Json)
  | absent
  | present (value : CodeValue)
  | vec (items : List CodeValue)
  | boxed (value : CodeValue)
  | variant (variant : Variant)
  | record (fields : List (FieldDeclaration × CodeValue))

def CodeValue.isAbsent : CodeValue → Bool
  | absent => true
  | _ => false

namespace FieldDeclaration

def rename? (f : FieldDeclaration) : Option String :=
  if Naming.stripRawMark f.ident = f.key then none else some f.key

def writtenKey (f : FieldDeclaration) : String := f.rename?.getD (Naming.stripRawMark f.ident)

lemma writtenKey_eq (f : FieldDeclaration) : f.writtenKey = f.key := by
  unfold writtenKey rename?
  split
  · next h => exact h
  · rfl

def skips (f : FieldDeclaration) (v : CodeValue) : Bool := f.type.isOption && v.isAbsent

end FieldDeclaration

namespace CodeValue

mutual

def json : CodeValue → Json
  | .text s => .string s
  | .integer n => .integer n.toInt
  | .double x => if x.isInfinite then .null else .number (.double x)
  | .bool b => .bool b
  | .any j => j
  | .absent => .null
  | .present v => v.json
  | .vec items => .array (jsonItems items)
  | .boxed v => v.json
  | .variant v => .string v.value
  | .record fields => Json.objectOf (jsonMembers fields)

def jsonItems : List CodeValue → List Json
  | [] => []
  | v :: rest => v.json :: jsonItems rest

def jsonMembers : List (FieldDeclaration × CodeValue) → List (String × Json)
  | [] => []
  | (f, v) :: rest =>
    if f.skips v then jsonMembers rest else (f.writtenKey, v.json) :: jsonMembers rest

end

end CodeValue

inductive ForeignValue : String → CodeValue → Prop
  | text (s : String) : ForeignValue "String" (.text s)
  | integer (n : Int64) : ForeignValue "i64" (.integer n)
  | double (x : Decimal.Binary64) : x.isInfinite = false → ForeignValue "f64" (.double x)
  | bool (b : Bool) : ForeignValue "bool" (.bool b)
  | any (j : Json) : ForeignValue "serde_json::Value" (.any j)

mutual

inductive HasType (model : List Declaration) : CodeType → CodeValue → Prop
  | declared {name : String} {d : Declaration} {v : CodeValue} :
      model.find? (fun d => d.name == name) = some d → HasBody model d.body v →
      HasType model (.named name) v
  | foreign {name : String} {v : CodeValue} : name ∉ model.map Declaration.name →
      ForeignValue name v → HasType model (.named name) v
  | absent (type : CodeType) : HasType model (.option type) .absent
  | present {type : CodeType} {v : CodeValue} : HasType model type v →
      HasType model (.option type) (.present v)
  | vec {type : CodeType} {items : List CodeValue} : (∀ v ∈ items, HasType model type v) →
      HasType model (.vec type) (.vec items)
  | boxed {type : CodeType} {v : CodeValue} : HasType model type v →
      HasType model (.boxed type) (.boxed v)

inductive HasBody (model : List Declaration) : DeclarationBody → CodeValue → Prop
  | alias {type : CodeType} {v : CodeValue} : HasType model type v → HasBody model (.alias type) v
  | variants {variants : List Variant} {v : Variant} : v ∈ variants →
      HasBody model (.variants variants) (.variant v)
  | fields {entries : List (FieldDeclaration × CodeValue)} :
      (∀ e ∈ entries, HasType model e.1.type e.2) →
      HasBody model (.fields (entries.map Prod.fst)) (.record entries)

end

def TypeWrites (model : List Declaration) (type : CodeType) (j : Json) : Prop :=
  ∃ v, HasType model type v ∧ v.json = j

def BodyWrites (model : List Declaration) (body : DeclarationBody) (j : Json) : Prop :=
  ∃ v, HasBody model body v ∧ v.json = j

def CodeType.present : CodeType → CodeType
  | option inner => inner
  | type => type

section Types

variable {model : List Declaration} {type : CodeType} {name : String} {j : Json}

lemma typeWrites_option_iff :
    TypeWrites model (.option type) j ↔ j = .null ∨ TypeWrites model type j := by
  constructor
  · rintro ⟨v, hv, rfl⟩
    cases hv with
    | absent => exact Or.inl (by rw [CodeValue.json])
    | present hv => exact Or.inr ⟨_, hv, by rw [CodeValue.json]⟩
  · rintro (rfl | ⟨v, hv, rfl⟩)
    · exact ⟨.absent, .absent type, by rw [CodeValue.json]⟩
    · exact ⟨.present v, .present hv, by rw [CodeValue.json]⟩

lemma typeWrites_boxed_iff : TypeWrites model (.boxed type) j ↔ TypeWrites model type j := by
  constructor
  · rintro ⟨v, hv, rfl⟩
    cases hv with
    | boxed hv => exact ⟨_, hv, by rw [CodeValue.json]⟩
  · rintro ⟨v, hv, rfl⟩
    exact ⟨.boxed v, .boxed hv, by rw [CodeValue.json]⟩

lemma mem_jsonItems {items : List CodeValue} :
    j ∈ CodeValue.jsonItems items ↔ ∃ v ∈ items, v.json = j := by
  induction items with
  | nil => simp [CodeValue.jsonItems]
  | cons v rest ih => simp [CodeValue.jsonItems, ih, eq_comm]

lemma exists_jsonItems {items : List Json} (h : ∀ j ∈ items, TypeWrites model type j) :
    ∃ values, (∀ v ∈ values, HasType model type v) ∧ CodeValue.jsonItems values = items := by
  induction items with
  | nil => exact ⟨[], by simp [CodeValue.jsonItems]⟩
  | cons j rest ih =>
    obtain ⟨⟨v, hv, rfl⟩, hr⟩ := List.forall_mem_cons.mp h
    obtain ⟨values, hvalues, rfl⟩ := ih hr
    exact ⟨v :: values, List.forall_mem_cons.mpr ⟨hv, hvalues⟩, by rw [CodeValue.jsonItems]⟩

lemma typeWrites_vec_iff : TypeWrites model (.vec type) j ↔
    ∃ items, j = .array items ∧ ∀ item ∈ items, TypeWrites model type item := by
  constructor
  · rintro ⟨v, hv, rfl⟩
    cases hv with
    | vec hitems =>
      refine ⟨_, by rw [CodeValue.json], fun item hm => ?_⟩
      obtain ⟨v, hv, rfl⟩ := mem_jsonItems.mp hm
      exact ⟨v, hitems v hv, rfl⟩
  · rintro ⟨items, rfl, hitems⟩
    obtain ⟨values, hvalues, rfl⟩ := exists_jsonItems hitems
    exact ⟨.vec values, .vec hvalues, by rw [CodeValue.json]⟩

lemma typeWrites_foreign_iff (hn : name ∉ model.map Declaration.name) :
    TypeWrites model (.named name) j ↔ ∃ v, ForeignValue name v ∧ v.json = j := by
  constructor
  · rintro ⟨v, hv, rfl⟩
    cases hv with
    | declared hd =>
      refine absurd (List.mem_map.mpr ⟨_, List.mem_of_find?_eq_some hd, ?_⟩) hn
      simpa using List.find?_some hd
    | foreign _ hf => exact ⟨v, hf, rfl⟩
  · rintro ⟨v, hf, rfl⟩
    exact ⟨v, .foreign hn hf, rfl⟩

lemma typeWrites_declared_iff {d : Declaration}
    (hu : ∀ d ∈ model, ∀ e ∈ model, d.name = e.name → d = e) (hd : d ∈ model) :
    TypeWrites model (.named d.name) j ↔ BodyWrites model d.body j := by
  constructor
  · rintro ⟨v, hv, rfl⟩
    cases hv with
    | @declared _ e _ he hb =>
      have hn : e.name = d.name := by simpa using List.find?_some he
      exact ⟨v, hu e (List.mem_of_find?_eq_some he) d hd hn ▸ hb, rfl⟩
    | foreign hn => exact absurd (List.mem_map_of_mem hd) hn
  · rintro ⟨v, hb, rfl⟩
    obtain ⟨e, he⟩ : ∃ e, model.find? (fun e => e.name == d.name) = some e := by
      rw [← Option.isSome_iff_exists, List.find?_isSome]
      exact ⟨d, hd, by simp⟩
    have hn : e.name = d.name := by simpa using List.find?_some he
    obtain rfl := hu e (List.mem_of_find?_eq_some he) d hd hn
    exact ⟨v, .declared he hb, rfl⟩

lemma bodyWrites_alias_iff : BodyWrites model (.alias type) j ↔ TypeWrites model type j := by
  constructor
  · rintro ⟨v, hv, rfl⟩
    cases hv with
    | «alias» hv => exact ⟨v, hv, rfl⟩
  · rintro ⟨v, hv, rfl⟩
    exact ⟨v, .alias hv, rfl⟩

lemma bodyWrites_variants_iff {variants : List Variant} :
    BodyWrites model (.variants variants) j ↔
      ∃ value ∈ variants.map Variant.value, j = .string value := by
  constructor
  · rintro ⟨v, hv, rfl⟩
    cases hv with
    | variants hv => exact ⟨_, List.mem_map_of_mem hv, by rw [CodeValue.json]⟩
  · rintro ⟨value, hm, rfl⟩
    obtain ⟨v, hv, rfl⟩ := List.mem_map.mp hm
    exact ⟨.variant v, .variants hv, by rw [CodeValue.json]⟩

end Types

section Fields

variable {model : List Declaration}

lemma FieldDeclaration.isOption_of_skips {f : FieldDeclaration} {v : CodeValue}
    (h : f.skips v = true) : f.type.isOption = true := by
  rw [skips, Bool.and_eq_true] at h
  exact h.1

lemma typeWrites_present_iff {f : FieldDeclaration} {j : Json} :
    TypeWrites model f.type.present j ↔
      ∃ v, HasType model f.type v ∧ f.skips v = false ∧ v.json = j := by
  unfold FieldDeclaration.skips
  cases f.type with
  | option type =>
    constructor
    · rintro ⟨v, hv, rfl⟩
      exact ⟨.present v, .present hv, rfl, by rw [CodeValue.json]⟩
    · rintro ⟨v, hv, hs, rfl⟩
      cases hv with
      | absent => simp [CodeType.isOption, CodeValue.isAbsent] at hs
      | present hv => exact ⟨_, hv, by rw [CodeValue.json]⟩
  | _ => simp [CodeType.present, CodeType.isOption, TypeWrites]

lemma exists_skipped {f : FieldDeclaration} (h : f.type.isOption = true) :
    ∃ v, HasType model f.type v ∧ f.skips v = true := by
  unfold FieldDeclaration.skips
  cases ht : f.type with
  | option type => exact ⟨.absent, .absent type, rfl⟩
  | _ => simp [ht, CodeType.isOption] at h

lemma mem_jsonMembers {entries : List (FieldDeclaration × CodeValue)} {m : String × Json} :
    m ∈ CodeValue.jsonMembers entries ↔
      ∃ e ∈ entries, e.1.skips e.2 = false ∧ m = (e.1.key, e.2.json) := by
  induction entries with
  | nil => simp [CodeValue.jsonMembers]
  | cons e rest ih =>
    obtain ⟨f, v⟩ := e
    rw [CodeValue.jsonMembers]
    split
    · next hs => simp [ih, hs]
    · next hs => simp [ih, hs, FieldDeclaration.writtenKey_eq]

lemma nodup_jsonMembers {entries : List (FieldDeclaration × CodeValue)}
    (hd : ((entries.map Prod.fst).map FieldDeclaration.key).Nodup) :
    ((CodeValue.jsonMembers entries).map Prod.fst).Nodup := by
  suffices h : ((CodeValue.jsonMembers entries).map Prod.fst).Sublist
      ((entries.map Prod.fst).map FieldDeclaration.key) from h.nodup hd
  clear hd
  induction entries with
  | nil => simp [CodeValue.jsonMembers]
  | cons e rest ih =>
    obtain ⟨f, v⟩ := e
    rw [CodeValue.jsonMembers]
    split
    · exact ih.cons _
    · simpa [FieldDeclaration.writtenKey_eq] using ih

lemma exists_entries {P : FieldDeclaration → CodeValue → Prop} {fields : List FieldDeclaration}
    (h : ∀ f ∈ fields, ∃ v, P f v) :
    ∃ entries : List (FieldDeclaration × CodeValue),
      entries.map Prod.fst = fields ∧ ∀ e ∈ entries, P e.1 e.2 := by
  induction fields with
  | nil => exact ⟨[], by simp⟩
  | cons f rest ih =>
    obtain ⟨⟨v, hv⟩, hr⟩ := List.forall_mem_cons.mp h
    obtain ⟨entries, rfl, he⟩ := ih hr
    exact ⟨(f, v) :: entries, rfl, List.forall_mem_cons.mpr ⟨hv, he⟩⟩

lemma bodyWrites_fields_iff {fields : List FieldDeclaration} {j : Json}
    (hd : (fields.map FieldDeclaration.key).Nodup) :
    BodyWrites model (.fields fields) j ↔ ∃ members, j = .object members ∧
      Keyed.Sorted members ∧
      (∀ m ∈ members, ∃ f ∈ fields, f.key = m.1 ∧ TypeWrites model f.type.present m.2) ∧
      ∀ f ∈ fields, f.type.isOption = false → f.key ∈ members.map Prod.fst := by
  constructor
  · rintro ⟨v, hv, rfl⟩
    cases hv with
    | @fields entries htyped =>
      have hn := nodup_jsonMembers hd
      refine ⟨_, by rw [CodeValue.json]; rfl, Keyed.sorted_ofList _, fun m hm => ?_, ?_⟩
      · rw [Keyed.mem_ofList hn, mem_jsonMembers] at hm
        obtain ⟨e, he, hs, rfl⟩ := hm
        exact ⟨e.1, List.mem_map_of_mem he, rfl,
          typeWrites_present_iff.mpr ⟨e.2, htyped e he, hs, rfl⟩⟩
      · intro f hf ho
        obtain ⟨e, he, rfl⟩ := List.mem_map.mp hf
        have hs : e.1.skips e.2 = false := by
          rw [← Bool.not_eq_true]
          intro hs
          simp [FieldDeclaration.isOption_of_skips hs] at ho
        have hm : (e.1.key, e.2.json) ∈ CodeValue.jsonMembers entries :=
          mem_jsonMembers.mpr ⟨e, he, hs, rfl⟩
        exact List.mem_map_of_mem (f := Prod.fst) ((Keyed.mem_ofList hn).mpr hm)
  · rintro ⟨members, rfl, hsorted, hmembers, hrequired⟩
    have hchoice : ∀ f ∈ fields, ∃ v, HasType model f.type v ∧
        if f.skips v then f.key ∉ members.map Prod.fst else (f.key, v.json) ∈ members := by
      intro f hf
      by_cases hk : f.key ∈ members.map Prod.fst
      · obtain ⟨⟨k, x⟩, hm, (rfl : k = f.key)⟩ := List.mem_map.mp hk
        obtain ⟨f', hf', hkey, hw⟩ := hmembers _ hm
        obtain rfl := List.inj_on_of_nodup_map hd hf' hf hkey
        obtain ⟨v, hv, hs, rfl⟩ := typeWrites_present_iff.mp hw
        exact ⟨v, hv, by simpa [hs] using hm⟩
      · have ho : f.type.isOption = true := by
          by_contra ho
          exact hk (hrequired f hf (by simpa using ho))
        obtain ⟨v, hv, hs⟩ : ∃ v, HasType model f.type v ∧ f.skips v = true := exists_skipped ho
        exact ⟨v, hv, by simpa [hs] using hk⟩
    obtain ⟨entries, rfl, he⟩ := exists_entries hchoice
    refine ⟨.record entries, .fields fun e hm => (he e hm).1, ?_⟩
    have hn := nodup_jsonMembers hd
    rw [CodeValue.json, Json.objectOf, Json.object.injEq]
    refine (Keyed.sorted_ofList _).eq_of_mem_iff hsorted fun m => ?_
    rw [Keyed.mem_ofList hn, mem_jsonMembers]
    constructor
    · rintro ⟨e, hm, hs, rfl⟩
      simpa [hs] using (he e hm).2
    · intro hm
      obtain ⟨f, hf, hkey, _⟩ := hmembers m hm
      obtain ⟨e, hem, rfl⟩ := List.mem_map.mp hf
      have hc := (he e hem).2
      have hk : e.1.key ∈ members.map Prod.fst := hkey ▸ List.mem_map_of_mem hm
      split at hc
      · exact absurd hk hc
      · next hs =>
        refine ⟨e, hem, by simpa using hs, ?_⟩
        exact List.inj_on_of_nodup_map hsorted.nodup_keys hm hc hkey.symm

end Fields

end GraphqlBindings

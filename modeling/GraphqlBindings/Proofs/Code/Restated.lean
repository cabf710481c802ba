import GraphqlBindings.Proofs.Code.Grammar
import GraphqlBindings.Proofs.Code.Reading
import GraphqlBindings.Proofs.Lists

namespace GraphqlBindings

section Undocumented

def FieldDeclaration.undocumented (f : FieldDeclaration) : FieldDeclaration :=
  ⟨f.ident, f.key, f.type, none⟩

def Variant.undocumented (v : Variant) : Variant := ⟨v.ident, v.value, none⟩

def Declaration.undocumented (d : Declaration) : Declaration :=
  ⟨d.name, none, match d.body with
    | .alias type => .alias type
    | .variants variants => .variants (variants.map Variant.undocumented)
    | .fields fields => .fields (fields.map FieldDeclaration.undocumented)⟩

def Model.undocumented (m : Model) : Model :=
  ⟨m.package, m.declarations.map Declaration.undocumented⟩

end Undocumented

def Declaration.members (d : Declaration) : List String :=
  match d.body with
  | .alias _ => []
  | .variants variants => variants.map Variant.ident
  | .fields fields => fields.map FieldDeclaration.ident

namespace Code

section Names

variable (a : Alphabet) (reserved : List String)

def IsIdentifier (text : String) : Prop := ∃ w : Word, w.text = text ∧ w.IsIdentifier a reserved

def IsPath (text : String) : Prop :=
  ∃ (first : Option Word) (more : List Word), pathText first more = text ∧
    (first.isSome ∨ more ≠ []) ∧ (∀ w ∈ first, w.IsSegment a reserved) ∧
    ∀ w ∈ more, w.IsSegment a reserved

structure IsNamed (m : Model) : Prop where
  package : IsIdentifier a reserved m.package
  names : ∀ d ∈ m.declarations, IsIdentifier a reserved d.name
  members : ∀ d ∈ m.declarations, ∀ ident ∈ d.members, IsIdentifier a reserved ident
  types : ∀ d ∈ m.declarations, ∀ type ∈ d.types, IsPath a reserved type.base

variable {a} {reserved}

lemma IsIdentifier.isPath {text : String} (h : IsIdentifier a reserved text) :
    IsPath a reserved text := by
  obtain ⟨w, rfl, hw⟩ := h
  refine ⟨some w, [], by simp [pathText], .inl rfl, ?_, by simp⟩
  rintro _ ⟨⟩
  exact .inl hw

lemma IsPath.typeTokens {type : CodeType} (h : IsPath a reserved type.base) :
    ∃ ts, TypeTokens a reserved type ts := by
  induction type with
  | named name =>
    obtain ⟨first, more, rfl, hn, hf, hm⟩ := h
    exact ⟨_, .path hn hf hm⟩
  | option inner ih =>
    obtain ⟨ts, ht⟩ := ih h
    exact ⟨_, .wrapped (show wrapper? "Option" = some .option from rfl) ht⟩
  | vec inner ih =>
    obtain ⟨ts, ht⟩ := ih h
    exact ⟨_, .wrapped (show wrapper? "Vec" = some .vec from rfl) ht⟩
  | boxed inner ih =>
    obtain ⟨ts, ht⟩ := ih h
    exact ⟨_, .wrapped (show wrapper? "Box" = some .boxed from rfl) ht⟩

end Names

section Serde

structure Serde where
  rename : Option String
  byDefault : Bool
  skipIf : Option String
deriving DecidableEq, Repr

def Serde.add (s : Serde) : List Token → Option Serde
  | [.word ⟨false, "rename"⟩, .mark "=", .literal text] =>
    if s.rename.isSome then none else some { s with rename := some text }
  | [.word ⟨false, "default"⟩] => if s.byDefault then none else some { s with byDefault := true }
  | [.word ⟨false, "skip_serializing_if"⟩, .mark "=", .literal text] =>
    if s.skipIf.isSome then none else some { s with skipIf := some text }
  | _ => none

def serde? (bs : List Attribute) : Option Serde :=
  if bs.all fun b => b.name = ⟨false, "serde"⟩ then
    (bs.flatMap Attribute.arguments).foldlM Serde.add ⟨none, false, none⟩
  else none

def Serde.key (s : Serde) (name : Word) : String := s.rename.getD name.name

end Serde

section Restated

def Derives (bs : List Attribute) : Prop :=
  ∃ traits, bs = [⟨⟨false, "derive"⟩, traits⟩] ∧ [.plain "Serialize"] ∈ traits ∧
    [.plain "Deserialize"] ∈ traits

structure RestatesField (f : FieldDeclaration) (r : Field) : Prop where
  name : r.name.text = f.ident
  type : r.type = f.type
  serde : ∃ s, serde? r.attributes = some s ∧ s.key r.name = f.key ∧
    s.byDefault = f.type.isOption ∧
    s.skipIf = if f.type.isOption then some "Option::is_none" else none

structure RestatesVariant (v : Variant) (c : Choice) : Prop where
  name : c.name.text = v.ident
  serde : serde? c.attributes = some ⟨some v.value, false, none⟩

structure RestatesArm (owner : Word) (v : Variant) (m : Arm) : Prop where
  owner : m.owner = owner
  variant : m.variant.text = v.ident
  text : m.text = v.value

/-- The items that say what a declaration says, but for its documentation. -/
inductive Restates : Declaration → List Item → Prop
  | alias (name : Word) (doc : Option String) (type : CodeType) :
      Restates ⟨name.text, doc, .alias type⟩ [.alias [] name type]
  | fields {bs : List Attribute} {fields : List FieldDeclaration} {rs : List Field} (name : Word)
      (doc : Option String) : Derives bs → List.Forall₂ RestatesField fields rs →
      Restates ⟨name.text, doc, .fields fields⟩ [.struct bs name rs]
  | variants {bs : List Attribute} {variants : List Variant} {choices : List Choice}
      {arms : List Arm} (name : Word) (doc : Option String) : Derives bs →
      List.Forall₂ RestatesVariant variants choices →
      List.Forall₂ (RestatesArm name) variants arms →
      Restates ⟨name.text, doc, .variants variants⟩ [.enum bs name choices, .texts name arms]

lemma RestatesField.unique {f g : FieldDeclaration} {r : Field} (hf : RestatesField f r)
    (hg : RestatesField g r) : f.undocumented = g.undocumented := by
  obtain ⟨s, hs, hk, -⟩ := hf.serde
  obtain ⟨t, ht, hk', -⟩ := hg.serde
  obtain rfl : s = t := Option.some.inj (hs.symm.trans ht)
  rw [FieldDeclaration.undocumented, FieldDeclaration.undocumented, ← hf.name, ← hg.name, ← hf.type,
    ← hg.type, ← hk, ← hk']

lemma RestatesVariant.unique {u v : Variant} {c : Choice} (hu : RestatesVariant u c)
    (hv : RestatesVariant v c) : u.undocumented = v.undocumented := by
  have hvalue : u.value = v.value := by
    simpa using hu.serde.symm.trans hv.serde
  rw [Variant.undocumented, Variant.undocumented, ← hu.name, ← hv.name, hvalue]

lemma Restates.unique {d e : Declaration} {found : List Item} (hd : Restates d found)
    (he : Restates e found) : d.undocumented = e.undocumented := by
  cases hd with
  | «alias» name doc type =>
    cases he
    rfl
  | fields name doc _ hf =>
    cases he with
    | fields _ _ _ hf' =>
      exact congrArg (fun fields => (⟨name.text, none, .fields fields⟩ : Declaration))
        (map_eq_of_forall₂ hf hf' RestatesField.unique)
  | variants name doc _ hv =>
    cases he with
    | variants _ _ _ hv' =>
      exact congrArg (fun variants => (⟨name.text, none, .variants variants⟩ : Declaration))
        (map_eq_of_forall₂ hv hv' RestatesVariant.unique)

lemma Restates.append_inj {d e : Declaration} {found others more rest : List Item}
    (hd : Restates d found) (he : Restates e others) (h : found ++ more = others ++ rest) :
    found = others ∧ more = rest := by
  cases hd <;> cases he <;> simp_all

lemma undocumented_eq_of_restated {ds es : List Declaration} {found others : List (List Item)}
    (hd : List.Forall₂ Restates ds found) (he : List.Forall₂ Restates es others)
    (h : found.flatten = others.flatten) :
    ds.map Declaration.undocumented = es.map Declaration.undocumented := by
  induction hd generalizing es others with
  | nil =>
    cases he with
    | nil => rfl
    | cons hx _ => cases hx <;> simp at h
  | cons hx _ ih =>
    cases he with
    | nil => cases hx <;> simp at h
    | cons hy he =>
      rw [List.flatten_cons, List.flatten_cons] at h
      obtain ⟨rfl, hmore⟩ := hx.append_inj hy h
      rw [List.map_cons, List.map_cons, hx.unique hy, ih he hmore]

end Restated

section Attributes

def lintSetting : Attribute :=
  ⟨⟨false, "allow"⟩, [[.plain "clippy", .mark "::", .plain "all"]]⟩

def serdeImport : List Token :=
  [.plain "serde", .mark "::", .mark "\x7b", .plain "Deserialize", .mark ",", .plain "Serialize",
    .mark "\x7d"]

def renameAttribute (text : String) : Attribute :=
  ⟨⟨false, "serde"⟩, [[.plain "rename", .mark "=", .literal text]]⟩

def optionAttribute : Attribute :=
  ⟨⟨false, "serde"⟩, [[.plain "default"],
    [.plain "skip_serializing_if", .mark "=", .literal "Option::is_none"]]⟩

def deriveAttribute (traits : List String) : Attribute :=
  ⟨⟨false, "derive"⟩, traits.map fun name => [.plain name]⟩

def fieldTraits : List String := ["Debug", "Clone", "PartialEq", "Serialize", "Deserialize"]

def variantTraits : List String :=
  ["Debug", "Clone", "Copy", "PartialEq", "Eq", "Hash", "Serialize", "Deserialize"]

lemma isPlain_lintSetting : lintSetting.IsPlain :=
  ⟨by simp [lintSetting], by simp [lintSetting, Token.IsPlain]⟩

lemma isPlain_renameAttribute (text : String) : (renameAttribute text).IsPlain :=
  ⟨by simp [renameAttribute], by simp [renameAttribute, Token.IsPlain]⟩

lemma isPlain_optionAttribute : optionAttribute.IsPlain :=
  ⟨by simp [optionAttribute], by simp [optionAttribute, Token.IsPlain]⟩

lemma isPlain_deriveAttribute {traits : List String} (h : traits ≠ []) :
    (deriveAttribute traits).IsPlain :=
  ⟨by simpa [deriveAttribute] using h, by simp [deriveAttribute, Token.IsPlain]⟩

lemma derives_deriveAttribute {traits : List String} (h : "Serialize" ∈ traits)
    (h' : "Deserialize" ∈ traits) : Derives [deriveAttribute traits] :=
  ⟨_, rfl, List.mem_map.mpr ⟨_, h, rfl⟩, List.mem_map.mpr ⟨_, h', rfl⟩⟩

def fieldAttributes (f : FieldDeclaration) : List Attribute :=
  (if Naming.stripRawMark f.ident = f.key then [] else [renameAttribute f.key]) ++
    if f.type.isOption then [optionAttribute] else []

lemma isPlain_fieldAttributes (f : FieldDeclaration) : ∀ b ∈ fieldAttributes f, b.IsPlain := by
  rw [fieldAttributes, List.forall_mem_append]
  constructor
  · split_ifs
    · simp
    · simpa using isPlain_renameAttribute f.key
  · split_ifs
    · simpa using isPlain_optionAttribute
    · simp

lemma restatesField_written {a : Alphabet} {f : FieldDeclaration} {w : Word} (hw : a.IsWord w.name)
    (hn : w.text = f.ident) : RestatesField f ⟨fieldAttributes f, w, f.type⟩ := by
  refine ⟨hn, rfl, ?_⟩
  have hkey : Naming.stripRawMark f.ident = w.name := hn ▸ stripRawMark_text hw
  by_cases hk : w.name = f.key <;> cases ho : f.type.isOption
  all_goals
    refine ⟨_, by simp only [fieldAttributes, hkey, hk, ho]; rfl, ?_⟩
    simp [Serde.key, hk]

end Attributes

end Code

end GraphqlBindings

import GraphqlBindings.Proofs.Language.Literal
import GraphqlBindings.Proofs.Lists
import GraphqlBindings.Schema.Sdl

namespace GraphqlBindings

open GraphqlBindings.Language

namespace Sdl

open GraphqlBindings.Language.Parser

def defaultTokens (v : InputValue) : List Token :=
  match v.default with
  | some text => .punctuator .equals :: tokensOf text
  | none => []

def inputValueTokens (v : InputValue) : List Token :=
  .name v.name :: .punctuator .colon :: v.type.tokens ++ defaultTokens v

def argumentTokens (args : List InputValue) : List Token :=
  blockTokens .parenOpen .parenClose (args.map inputValueTokens)

def reasonTokens (reason : String) : List Token :=
  if reason.isEmpty then []
  else [.punctuator .parenOpen, .name "reason", .punctuator .colon, .string reason,
    .punctuator .parenClose]

def deprecationTokens (f : SchemaField) : List Token :=
  if f.isDeprecated then
    .punctuator .at :: .name "deprecated" :: reasonTokens (f.deprecationReason.getD "")
  else []

def fieldTokens (f : SchemaField) : List Token :=
  .name f.name :: argumentTokens f.args ++ .punctuator .colon :: f.type.tokens ++
    deprecationTokens f

def implementsTokens (interfaces : List TypeRef) : List Token :=
  if interfaces.isEmpty then []
  else .name "implements" :: separatedNames .amp (interfaces.map TypeRef.baseName)

def memberTokens (types : List TypeRef) : List Token :=
  if types.isEmpty then []
  else .punctuator .equals :: separatedNames .bar (types.map TypeRef.baseName)

def fieldBlockTokens (fields : List SchemaField) : List Token :=
  blockTokens .braceOpen .braceClose (fields.map fieldTokens)

def typeTokens (t : SchemaType) : List Token :=
  match t.kind with
  | .scalar => [.name "scalar", .name t.name]
  | .object =>
    .name "type" :: .name t.name :: implementsTokens t.interfaces ++ fieldBlockTokens t.fields
  | .interface =>
    .name "interface" :: .name t.name :: implementsTokens t.interfaces ++ fieldBlockTokens t.fields
  | .inputObject =>
    .name "input" :: .name t.name ::
      blockTokens .braceOpen .braceClose (t.inputFields.map inputValueTokens)
  | .enumeration =>
    .name "enum" :: .name t.name ::
      blockTokens .braceOpen .braceClose (t.enumValues.map fun v => [.name v.name])
  | .union => .name "union" :: .name t.name :: memberTokens t.possibleTypes
  | .list | .nonNull | .unknown _ => []

end Sdl

structure InputValue.WellFormed (d : Nat) (v : InputValue) : Prop where
  name : IsName v.name
  type : v.type.Proper
  brackets : v.type.brackets ≤ d
  default : ∀ text ∈ v.default, ∃ value, IsLiteral d text value

structure SchemaField.WellFormed (d : Nat) (f : SchemaField) : Prop where
  name : IsName f.name
  args : ∀ a ∈ f.args, a.WellFormed (d - 1)
  type : f.type.Proper
  brackets : f.type.brackets ≤ d

structure SchemaType.WellFormed (t : SchemaType) : Prop where
  kind : t.kind.isNamed = true
  name : IsName t.name
  interfaces : ∀ r ∈ t.interfaces, IsName r.baseName
  members : ∀ r ∈ t.possibleTypes, IsName r.baseName
  fields : ∀ f ∈ t.fields, f.WellFormed (bracketLimit - 1)
  inputFields : ∀ v ∈ t.inputFields, v.WellFormed (bracketLimit - 1)
  enumValues : ∀ v ∈ t.enumValues, IsName v.name

structure InputValue.Describes (v : InputValue) (definition : InputValueDefinition) : Prop where
  name : definition.name = v.name
  type : definition.type = v.type
  default : Option.Rel (fun text value => ∃ d, IsLiteral d text value) v.default definition.default
  plain : definition.description = none ∧ definition.directives = []

def SchemaField.deprecations (f : SchemaField) : List Directive :=
  let reason := f.deprecationReason.getD ""
  let arguments := if reason.isEmpty then [] else [("reason", .string reason)]
  if f.isDeprecated then [⟨"deprecated", arguments⟩] else []

structure SchemaField.Describes (f : SchemaField) (definition : FieldDefinition) : Prop where
  name : definition.name = f.name
  arguments : List.Forall₂ InputValue.Describes f.args definition.arguments
  type : definition.type = f.type
  directives : definition.directives = f.deprecations
  plain : definition.description = none

inductive SchemaType.DescribesBody (t : SchemaType) : TypeBody → Prop
  | scalar : t.kind = .scalar → t.DescribesBody .scalar
  | object {fields : List FieldDefinition} : t.kind = .object →
      List.Forall₂ SchemaField.Describes t.fields fields →
      t.DescribesBody (.object (t.interfaces.map TypeRef.baseName) fields)
  | interface {fields : List FieldDefinition} : t.kind = .interface →
      List.Forall₂ SchemaField.Describes t.fields fields →
      t.DescribesBody (.interface (t.interfaces.map TypeRef.baseName) fields)
  | union : t.kind = .union →
      t.DescribesBody (.union (t.possibleTypes.map TypeRef.baseName))
  | enumeration : t.kind = .enumeration →
      t.DescribesBody (.enumeration (t.enumValues.map fun v => ⟨none, v.name, []⟩))
  | input {fields : List InputValueDefinition} : t.kind = .inputObject →
      List.Forall₂ InputValue.Describes t.inputFields fields → t.DescribesBody (.input fields)

inductive SchemaType.Describes (t : SchemaType) : TypeSystemDefinition → Prop
  | type {body : TypeBody} : t.DescribesBody body → t.Describes (.type ⟨none, t.name, [], body⟩)

namespace Sdl

open GraphqlBindings.Language.Parser

def EndsItem (ts : List Token) : Prop :=
  ∀ t ∈ ts.head?, (∃ n, t = .name n) ∨ t = .punctuator .parenClose ∨ t = .punctuator .braceClose

def EndsType (ts : List Token) : Prop := ∀ t ∈ ts.head?, ∃ n, n ≠ "implements" ∧ t = .name n

section Following

variable {ts : List Token} {q : Punctuator}

lemma EndsItem.head_ne (h : EndsItem ts) (hp : q ≠ .parenClose) (hb : q ≠ .braceClose) :
    ts.head? ≠ some (.punctuator q) := by
  intro ht
  rcases h _ ht with ⟨n, hn⟩ | hn | hn
  · cases hn
  · exact hp (by simpa using hn)
  · exact hb (by simpa using hn)

lemma endsItem_name (n : String) (ts : List Token) : EndsItem (.name n :: ts) := by
  simp [EndsItem]

lemma EndsType.head_ne (h : EndsType ts) : ts.head? ≠ some (.punctuator q) := by
  intro ht
  obtain ⟨n, _, hn⟩ := h _ ht
  cases hn

lemma EndsType.head_ne_implements (h : EndsType ts) : ts.head? ≠ some (.name "implements") := by
  intro ht
  obtain ⟨n, hi, hn⟩ := h _ ht
  exact hi (by simpa using hn.symm)

lemma head_blockTokens {o c : Punctuator} {items : List (List Token)} {t : Token}
    (ho : t ≠ .punctuator o) (h : ts.head? ≠ some t) :
    (blockTokens o c items ++ ts).head? ≠ some t := by
  rw [blockTokens]
  split_ifs
  · exact h
  · simpa using ho.symm

end Following

section InputValue

variable {d : Nat} {v : InputValue} {more : List Token}

lemma reads_no_directives (h : more.head? ≠ some (.punctuator .at)) :
    Reads (directives d) more [] more :=
  (refuses_punct h).bind.repeated

lemma exists_reads_default (h : ∀ text ∈ v.default, ∃ value, IsLiteral d text value) :
    ∃ value, Option.Rel (fun text value => ∃ d, IsLiteral d text value) v.default value ∧
      ∀ more, EndsItem more → Reads (defaultValue d) (defaultTokens v ++ more) value more := by
  cases hv : v.default with
  | none =>
    refine ⟨none, .none, fun more hm => ?_⟩
    rw [defaultTokens, hv]
    exact (refuses_punct (hm.head_ne (by decide) (by decide))).bind.maybe
  | some text =>
    obtain ⟨value, hl⟩ := h text hv
    obtain ⟨ts, hs, hc⟩ := hl
    refine ⟨some value, .some ⟨d, ts, hs, hc⟩, fun more _ => ?_⟩
    rw [defaultTokens, hv]
    dsimp only
    rw [hs.tokensOf, List.cons_append]
    exact ((reads_punct .equals _).bind (hc.reads more)).maybe

lemma exists_reads_inputValue (h : v.WellFormed d) :
    ∃ definition, v.Describes definition ∧
      ReadsItem EndsItem (inputValueDefinition d) (inputValueTokens v) definition := by
  obtain ⟨value, hv, hread⟩ := exists_reads_default h.default
  refine ⟨⟨none, v.name, v.type, value, []⟩, ⟨rfl, rfl, hv, rfl, rfl⟩, by simp [inputValueTokens],
    fun _ => endsItem_name _ _, fun more hm => ?_⟩
  have hb : (defaultTokens v ++ more).head? ≠ some (.punctuator .bang) := by
    rw [defaultTokens]
    split
    · simp
    · exact hm.head_ne (by decide) (by decide)
  simp only [inputValueTokens, List.cons_append, List.append_assoc]
  apply (refuses_string (by simp)).maybe.bind
  apply (reads_name _ _).bind
  apply (reads_punct .colon _).bind
  apply (reads_typeRef h.brackets h.type hb).bind
  apply (hread more hm).bind
  exact (reads_no_directives (hm.head_ne (by decide) (by decide))).map

lemma exists_reads_inputValues {vs : List InputValue} (h : ∀ v ∈ vs, v.WellFormed d) :
    ∃ definitions, List.Forall₂ InputValue.Describes vs definitions ∧
      List.Forall₂ (ReadsItem EndsItem (inputValueDefinition d)) (vs.map inputValueTokens)
        definitions := by
  obtain ⟨definitions, hd, hr⟩ := exists_forall₂ fun v hv => exists_reads_inputValue (h v hv)
  exact ⟨definitions, hd, List.forall₂_map_left_iff.mpr hr⟩

lemma refuses_inputValue {q : Punctuator} {rest : List Token} :
    Refuses (inputValueDefinition d) (.punctuator q :: rest) :=
  (refuses_string (by simp)).maybe_bind (refuses_name (by simp)).bind

end InputValue

section Field

variable {d : Nat} {f : SchemaField} {more : List Token}

lemma exists_reads_arguments {args : List InputValue} (h : ∀ a ∈ args, a.WellFormed d) :
    ∃ definitions, List.Forall₂ InputValue.Describes args definitions ∧
      ∀ more, Reads (argumentDefinitions (d + 1))
        (argumentTokens args ++ .punctuator .colon :: more) definitions
        (.punctuator .colon :: more) := by
  obtain ⟨definitions, hd, hr⟩ := exists_reads_inputValues h
  refine ⟨definitions, hd, fun more => ?_⟩
  exact reads_block hr (by simp [EndsItem]) refuses_inputValue (by simp)

lemma reads_reason (reason : String) (hm : more.head? ≠ some (.punctuator .parenOpen)) :
    Reads (Language.arguments (d + 1)) (reasonTokens reason ++ more)
      (if reason.isEmpty then [] else [("reason", Value.string reason)]) more := by
  rw [reasonTokens]
  split_ifs
  · exact (refuses_between hm).maybe.map
  · have hv : Reads (argument d)
        (.name "reason" :: .punctuator .colon :: .string reason :: .punctuator .parenClose :: more)
        ("reason", .string reason) (.punctuator .parenClose :: more) :=
      (reads_name _ _).bind ((reads_punct .colon _).bind (reads_value_head fun _ _ => rfl).map)
    have hc : Refuses (argument d) (.punctuator .parenClose :: more) :=
      (refuses_name (by simp)).bind
    exact (hv.repeated1 hc.repeated).between.maybe.map

lemma reads_deprecations (f : SchemaField) (hm : EndsItem more) :
    Reads (directives (d + 1)) (deprecationTokens f ++ more) f.deprecations more := by
  have hat : more.head? ≠ some (.punctuator .at) := hm.head_ne (by decide) (by decide)
  have hparen : more.head? ≠ some (.punctuator .parenOpen) := hm.head_ne (by decide) (by decide)
  by_cases hd : f.isDeprecated
  · simp only [deprecationTokens, SchemaField.deprecations, hd, if_true, List.cons_append]
    apply Reads.repeated_cons _ _ (reads_no_directives hat)
    · apply (reads_punct .at _).bind
      apply (reads_name _ _).bind
      exact (reads_reason _ hparen).map
    · simp only [List.length_cons, List.length_append]
      omega
  · simp only [deprecationTokens, SchemaField.deprecations, hd]
    exact reads_no_directives hat

lemma exists_reads_field (h : f.WellFormed (d + 1)) :
    ∃ definition, f.Describes definition ∧
      ReadsItem EndsItem (fieldDefinition (d + 1)) (fieldTokens f) definition := by
  obtain ⟨arguments, ha, hread⟩ := exists_reads_arguments h.args
  refine ⟨⟨none, f.name, arguments, f.type, f.deprecations⟩, ⟨rfl, ha, rfl, rfl, rfl⟩,
    by simp [fieldTokens], fun _ => endsItem_name _ _, fun more hm => ?_⟩
  have hb : (deprecationTokens f ++ more).head? ≠ some (.punctuator .bang) := by
    rw [deprecationTokens]
    split_ifs
    · simp
    · exact hm.head_ne (by decide) (by decide)
  simp only [fieldTokens, List.cons_append, List.append_assoc]
  apply (refuses_string (by simp)).maybe.bind
  apply (reads_name _ _).bind
  apply (hread _).bind
  apply (reads_punct .colon _).bind
  apply (reads_typeRef h.brackets h.type hb).bind
  exact (reads_deprecations f hm).map

end Field

section Definition

variable {d : Nat} {n : String} {ts more : List Token}

lemma reads_implements {interfaces : List TypeRef}
    (hi : more.head? ≠ some (.name "implements")) (ha : more.head? ≠ some (.punctuator .amp)) :
    Reads implementsInterfaces (implementsTokens interfaces ++ more)
      (interfaces.map TypeRef.baseName) more := by
  cases interfaces with
  | nil => exact (refuses_word hi).bind.maybe.map
  | cons r rs =>
    have hs : Reads (do word "implements"; let _ ← maybe (punct .amp); separated name .amp)
        (implementsTokens (r :: rs) ++ more) ((r :: rs).map TypeRef.baseName) more := by
      apply (reads_word "implements" _).bind
      apply (refuses_punct (by simp [separatedNames])).maybe.bind
      exact reads_separated _ _ ha
    exact hs.maybe.map

lemma exists_reads_fieldBlock {fields : List SchemaField}
    (h : ∀ f ∈ fields, f.WellFormed (d + 1)) :
    ∃ definitions, List.Forall₂ SchemaField.Describes fields definitions ∧
      ∀ more, more.head? ≠ some (.punctuator .braceOpen) →
        Reads (fieldBlock (d + 2)) (fieldBlockTokens fields ++ more) definitions more := by
  obtain ⟨definitions, hd, hr⟩ := exists_forall₂ fun f hf => exists_reads_field (h f hf)
  refine ⟨definitions, hd, fun more hm => ?_⟩
  exact reads_block (List.forall₂_map_left_iff.mpr hr) (by simp [EndsItem])
    ((refuses_string (by simp)).maybe_bind (refuses_name (by simp)).bind) hm

lemma exists_reads_composite (w : String) (body : List String → List FieldDefinition → TypeBody)
    (interfaces : List TypeRef) {fields : List SchemaField}
    (h : ∀ f ∈ fields, f.WellFormed (d + 1)) :
    ∃ definitions, List.Forall₂ SchemaField.Describes fields definitions ∧
      ∀ more, EndsType more →
        Reads (do
            word w
            let n ← name
            let interfaces ← implementsInterfaces
            let dirs ← directives (d + 2)
            let fields ← fieldBlock (d + 2)
            pure (⟨none, n, dirs, body interfaces fields⟩ : TypeDefinition))
          (.name w :: .name n :: implementsTokens interfaces ++ fieldBlockTokens fields ++ more)
          ⟨none, n, [], body (interfaces.map TypeRef.baseName) definitions⟩ more := by
  obtain ⟨definitions, hd, hr⟩ := exists_reads_fieldBlock h
  refine ⟨definitions, hd, fun more hm => ?_⟩
  simp only [List.cons_append, List.append_assoc]
  apply (reads_word w _).bind
  apply (reads_name n _).bind
  apply (reads_implements (head_blockTokens (by simp) hm.head_ne_implements)
    (head_blockTokens (by simp) hm.head_ne)).bind
  apply (reads_no_directives (head_blockTokens (by simp) hm.head_ne)).bind
  exact (hr more hm.head_ne).map

lemma exists_reads_members (types : List TypeRef) (hm : EndsType more) :
    ∃ members : Option (List String), members.getD [] = types.map TypeRef.baseName ∧
      Reads (maybe (do punct .equals; let _ ← maybe (punct .bar); separated name .bar))
        (memberTokens types ++ more) members more := by
  cases types with
  | nil => exact ⟨none, rfl, (refuses_punct hm.head_ne).bind.maybe⟩
  | cons r rs =>
    refine ⟨some ((r :: rs).map TypeRef.baseName), rfl, Reads.maybe ?_⟩
    apply (reads_punct .equals _).bind
    apply (refuses_punct (by simp [separatedNames])).maybe.bind
    exact reads_separated _ _ hm.head_ne

lemma readsItem_enumValue (v : EnumValue) :
    ReadsItem EndsItem (enumValueDefinition d) [.name v.name] ⟨none, v.name, []⟩ := by
  refine ⟨by simp, fun _ => endsItem_name _ _, fun more hm => ?_⟩
  apply (refuses_string (by simp)).maybe.bind
  apply (reads_name _ _).bind
  exact (reads_no_directives (hm.head_ne (by decide) (by decide))).map

lemma reads_enumValues (values : List EnumValue)
    (hm : more.head? ≠ some (.punctuator .braceOpen)) :
    Reads (Language.block .braceOpen .braceClose (d + 1) enumValueDefinition)
      (blockTokens .braceOpen .braceClose (values.map fun v => [.name v.name]) ++ more)
      (values.map fun v => ⟨none, v.name, []⟩) more := by
  have hv : List.Forall₂ (ReadsItem EndsItem (enumValueDefinition d))
      (values.map fun v => [.name v.name]) (values.map fun v => ⟨none, v.name, []⟩) := by
    rw [List.forall₂_map_left_iff, List.forall₂_map_right_iff, List.forall₂_same]
    exact fun v _ => readsItem_enumValue v
  exact reads_block hv (by simp [EndsItem])
    ((refuses_string (by simp)).maybe_bind (refuses_name (by simp)).bind) hm

lemma reads_typeSystemDefinition {w : String} {dirs : List Directive} {body : TypeBody}
    (h : Reads (typeDefinition d) (.name w :: ts) ⟨none, n, dirs, body⟩ more)
    (hs : w ≠ "schema") (he : w ≠ "extend") :
    Reads (typeSystemDefinition d) (.name w :: ts) (.type ⟨none, n, dirs, body⟩) more := by
  have hschema : Refuses (schemaDefinition d) (.name w :: ts) := by
    intro ls hl
    exact (refuses_word (by simpa using hs)).bind ls hl
  have hextend : Refuses (typeExtension d) (.name w :: ts) :=
    (refuses_word (by simpa using he)).bind
  apply Reads.or_right hschema
  apply Reads.or_right hextend
  apply (refuses_string (by simp)).maybe.bind
  exact h.map.or_left

lemma exists_reads_definition {t : SchemaType} (h : t.WellFormed) :
    ∃ body, t.DescribesBody body ∧ ∀ more, EndsType more →
      Reads (typeSystemDefinition bracketLimit) (typeTokens t ++ more)
        (.type ⟨none, t.name, [], body⟩) more := by
  have hkind := h.kind
  cases hk : t.kind with
  | scalar =>
    refine ⟨.scalar, .scalar hk, fun more hm => ?_⟩
    rw [typeTokens, hk]
    apply reads_typeSystemDefinition _ (by decide) (by decide)
    apply Reads.or_left
    apply (reads_word "scalar" _).bind
    apply (reads_name t.name _).bind
    exact (reads_no_directives hm.head_ne).map
  | object =>
    obtain ⟨fields, hf, hr⟩ := exists_reads_composite (n := t.name) "type" .object t.interfaces
      h.fields
    refine ⟨_, .object hk hf, fun more hm => ?_⟩
    rw [typeTokens, hk]
    apply reads_typeSystemDefinition _ (by decide) (by decide)
    apply Reads.or_right (refuses_word (by simp)).bind
    exact (hr more hm).or_left
  | interface =>
    obtain ⟨fields, hf, hr⟩ := exists_reads_composite (n := t.name) "interface" .interface
      t.interfaces h.fields
    refine ⟨_, .interface hk hf, fun more hm => ?_⟩
    rw [typeTokens, hk]
    apply reads_typeSystemDefinition _ (by decide) (by decide)
    apply Reads.or_right (refuses_word (by simp)).bind
    apply Reads.or_right (refuses_word (by simp)).bind
    exact (hr more hm).or_left
  | union =>
    refine ⟨_, .union hk, fun more hm => ?_⟩
    rw [typeTokens, hk]
    apply reads_typeSystemDefinition _ (by decide) (by decide)
    apply Reads.or_right (refuses_word (by simp)).bind
    apply Reads.or_right (refuses_word (by simp)).bind
    apply Reads.or_right (refuses_word (by simp)).bind
    apply Reads.or_left
    apply (reads_word "union" _).bind
    apply (reads_name t.name _).bind
    obtain ⟨members, hms, hr⟩ := exists_reads_members t.possibleTypes hm
    have hat : (memberTokens t.possibleTypes ++ more).head? ≠ some (.punctuator .at) := by
      rw [memberTokens]
      split_ifs
      · exact hm.head_ne
      · simp
    rw [← hms]
    exact (reads_no_directives hat).bind hr.map
  | enumeration =>
    refine ⟨_, .enumeration hk, fun more hm => ?_⟩
    rw [typeTokens, hk]
    apply reads_typeSystemDefinition _ (by decide) (by decide)
    apply Reads.or_right (refuses_word (by simp)).bind
    apply Reads.or_right (refuses_word (by simp)).bind
    apply Reads.or_right (refuses_word (by simp)).bind
    apply Reads.or_right (refuses_word (by simp)).bind
    apply Reads.or_left
    apply (reads_word "enum" _).bind
    apply (reads_name t.name _).bind
    apply (reads_no_directives (head_blockTokens (by simp) hm.head_ne)).bind
    exact (reads_enumValues t.enumValues hm.head_ne).map
  | inputObject =>
    obtain ⟨fields, hf, hr⟩ := exists_reads_inputValues h.inputFields
    refine ⟨_, .input hk hf, fun more hm => ?_⟩
    rw [typeTokens, hk]
    apply reads_typeSystemDefinition _ (by decide) (by decide)
    apply Reads.or_right (refuses_word (by simp)).bind
    apply Reads.or_right (refuses_word (by simp)).bind
    apply Reads.or_right (refuses_word (by simp)).bind
    apply Reads.or_right (refuses_word (by simp)).bind
    apply Reads.or_right (refuses_word (by simp)).bind
    apply (reads_word "input" _).bind
    apply (reads_name t.name _).bind
    apply (reads_no_directives (head_blockTokens (by simp) hm.head_ne)).bind
    exact (reads_block hr (by simp [EndsItem]) refuses_inputValue hm.head_ne).map
  | list | nonNull | unknown text => simp [hk, TypeKind.isNamed] at hkind

lemma exists_typeTokens_eq_cons {t : SchemaType} (h : t.kind.isNamed = true) :
    ∃ w rest, w ≠ "implements" ∧ typeTokens t = .name w :: rest := by
  rw [typeTokens]
  cases hk : t.kind with
  | list | nonNull | unknown text => simp [hk, TypeKind.isNamed] at h
  | _ => exact ⟨_, _, by decide, rfl⟩

lemma exists_readsItem_definition {t : SchemaType} (h : t.WellFormed) :
    ∃ definition, t.Describes definition ∧
      ReadsItem EndsType (typeSystemDefinition bracketLimit) (typeTokens t) definition := by
  obtain ⟨body, hb, hr⟩ := exists_reads_definition h
  obtain ⟨w, rest, hw, ht⟩ := exists_typeTokens_eq_cons h.kind
  refine ⟨.type ⟨none, t.name, [], body⟩, .type hb, by simp [ht], fun more => ?_, hr⟩
  simp [ht, EndsType, hw]

def definitionWords : List String :=
  ["schema", "extend", "scalar", "type", "interface", "union", "enum", "input", "directive"]

lemma refuses_typeSystemDefinition (hw : ∀ w ∈ definitionWords, ts.head? ≠ some (.name w))
    (hs : ∀ s, ts.head? ≠ some (.string s)) : Refuses (typeSystemDefinition d) ts := by
  have hword {w : String} (h : w ∈ definitionWords) : Refuses (word w) ts := refuses_word (hw w h)
  have hschema : Refuses (schemaDefinition d) ts := fun ls hl =>
    (@hword "schema" (by decide)).bind ls hl
  have htype : Refuses (typeDefinition d) ts :=
    (hword (by decide)).bind.or <| (hword (by decide)).bind.or <| (hword (by decide)).bind.or <|
      (hword (by decide)).bind.or <| (hword (by decide)).bind.or (hword (by decide)).bind
  apply hschema.or
  apply (hword (by decide)).bind.or
  exact (refuses_string hs).maybe_bind (htype.bind.or (hword (by decide)).bind)

lemma exists_reads_schemaText {types : List SchemaType} (h : ∀ t ∈ types, t.WellFormed)
    (hn : types ≠ []) :
    ∃ definitions, List.Forall₂ SchemaType.Describes types definitions ∧
      Reads SchemaText.parser (types.flatMap typeTokens) ⟨definitions⟩ [] := by
  obtain ⟨definitions, hd, hr⟩ := exists_forall₂ fun t ht => exists_readsItem_definition (h t ht)
  refine ⟨definitions, hd, ?_⟩
  have hend : Refuses (typeSystemDefinition bracketLimit) [] :=
    refuses_typeSystemDefinition (by simp) (by simp)
  have hs := reads_repeated1 (List.forall₂_map_left_iff.mpr hr) (by simp [EndsType]) hend
    (by simpa using hn)
  rw [List.append_nil] at hs
  exact hs.map

end Definition

end Sdl

end GraphqlBindings

import GraphqlBindings.Proofs.Code.Reading
import GraphqlBindings.Proofs.Generator.Names

namespace GraphqlBindings.Generator

lemma namedType_cases (g : Generator) (name : String) :
    (∃ n ∈ foreignTypes, g.namedType name = .named n) ∨
      ∃ ident, g.typeName? name = some ident ∧ g.namedType name = .named ident := by
  unfold namedType
  split_ifs
  · exact Or.inl ⟨"String", by decide, rfl⟩
  · exact Or.inl ⟨"i64", by decide, rfl⟩
  · exact Or.inl ⟨"f64", by decide, rfl⟩
  · exact Or.inl ⟨"bool", by decide, rfl⟩
  · cases ht : g.typeName? name with
    | some ident => exact Or.inr ⟨ident, rfl, rfl⟩
    | none => exact Or.inl ⟨"serde_json::Value", by decide, rfl⟩

section Fields

variable (g : Generator)

lemma schemaFields_type (scope : NameScope) (fs : List SchemaField) {f : FieldDeclaration}
    (h : f ∈ g.schemaFields scope fs) : ∃ r, f.type = g.schemaFieldType r := by
  induction fs generalizing scope with
  | nil => simp [schemaFields] at h
  | cons first rest ih =>
    rcases List.mem_cons.mp h with rfl | h
    · exact ⟨first.type, rfl⟩
    · exact ih _ h

lemma inputFields_type (scope : NameScope) (fs : List InputValue) {f : FieldDeclaration}
    (h : f ∈ g.inputFields scope fs) : ∃ r, f.type = g.schemaFieldType r := by
  induction fs generalizing scope with
  | nil => simp [inputFields] at h
  | cons first rest ih =>
    rcases List.mem_cons.mp h with rfl | h
    · exact ⟨first.type, rfl⟩
    · exact ih _ h

lemma variableFields_type (scope : NameScope) (vars : List Variable) {f : FieldDeclaration}
    (h : f ∈ g.variableFields scope vars) :
    ∃ r : TypeRef, f.type = r.shape (g.namedType r.baseName) false := by
  induction vars generalizing scope with
  | nil => simp [variableFields] at h
  | cons first rest ih =>
    rcases List.mem_cons.mp h with rfl | h
    · exact ⟨first.type, rfl⟩
    · exact ih _ h

end Fields

def isLeaf (t : SchemaType) : Prop := t.kind = .scalar ∨ t.kind = .enumeration

lemma schemaType_ok {g : Generator} {t : SchemaType} {d : Declaration}
    (h : g.schemaType t = .ok d) :
    d.name = (g.typeName? t.name).getD (g.naming.typeIdent t.name) ∧
      g.schemaTypeBody t = .ok d.body := by
  obtain ⟨body, hb, h⟩ := bind_eq_ok.mp h
  obtain rfl := Except.ok.inj h
  exact ⟨rfl, hb⟩

lemma schemaType_types {g : Generator} {t : SchemaType} {d : Declaration}
    (h : g.schemaType t = .ok d) {type : CodeType} (ht : type ∈ d.types) :
    type = .named "String" ∨ ¬ isLeaf t ∧ ∃ r, type = g.schemaFieldType r := by
  obtain ⟨-, hb⟩ := schemaType_ok h
  unfold schemaTypeBody at hb
  unfold Declaration.types at ht
  split at hb <;> simp only [Except.ok.injEq, reduceCtorEq] at hb <;> rw [← hb] at ht
  · exact Or.inl (by simpa using ht)
  · simp at ht
  · next hk =>
    obtain ⟨f, hf, rfl⟩ := List.mem_map.mp ht
    exact Or.inr ⟨by simp [isLeaf, hk], g.schemaFields_type _ _ hf⟩
  · next hk =>
    obtain ⟨f, hf, rfl⟩ := List.mem_map.mp ht
    exact Or.inr ⟨by simp [isLeaf, hk], g.schemaFields_type _ _ hf⟩
  · next hk =>
    obtain ⟨f, hf, rfl⟩ := List.mem_map.mp ht
    exact Or.inr ⟨by simp [isLeaf, hk], g.inputFields_type _ _ hf⟩
  · simp at ht

lemma isNamed_of_schemaType {g : Generator} {t : SchemaType} {d : Declaration}
    (h : g.schemaType t = .ok d) : t.kind.isNamed = true := by
  obtain ⟨-, hb⟩ := schemaType_ok h
  unfold schemaTypeBody at hb
  split at hb <;> simp_all [TypeKind.isNamed]

lemma schemaTypes_isOk {g : Generator} (h : ∀ t ∈ g.schema.types, t.kind.isNamed = true) :
    ∃ decls, g.schemaTypes = .ok decls := by
  refine mapM_isOk fun t ht => ?_
  have hk := h t (Schema.mem_userTypes.mp ht).1
  obtain ⟨body, hb⟩ : ∃ body, g.schemaTypeBody t = .ok body := by
    unfold schemaTypeBody
    cases hkind : t.kind <;> simp_all [TypeKind.isNamed]
  exact ⟨_, bind_eq_ok.mpr ⟨body, hb, rfl⟩⟩

lemma map_name_of_schemaTypes {g : Generator} {decls : List Declaration}
    (h : g.schemaTypes = .ok decls) : decls.map Declaration.name =
      (g.schema.userTypes.map SchemaType.name).map fun name =>
        (g.typeName? name).getD (g.naming.typeIdent name) := by
  rw [schemaTypes, mapM_eq_ok_iff] at h
  generalize g.schema.userTypes = ts at h
  induction ts generalizing decls with
  | nil => simp_all
  | cons t rest ih =>
    cases decls with
    | nil => simp at h
    | cons d ds =>
      rw [List.map_cons, List.map_cons, List.cons_eq_cons] at h
      rw [List.map_cons, (schemaType_ok h.1).1, ih h.2, List.map_cons, List.map_cons]

section Accounts

variable {package : String} {schema : Schema} {naming : Naming} {g : Generator}
  {earlier : List OperationTypes}

lemma Accounts.typeName?_eq_some (h : Accounts package schema naming g earlier)
    (hd : (schema.types.map SchemaType.name).Nodup) {t : SchemaType} (ht : t ∈ schema.userTypes) :
    ∃ ident ∈ g.schemaNames, g.typeName? t.name = some ident := by
  have hm : g.typeName? t.name ∈ g.schemaNames.map some :=
    h.map_typeName? hd ▸ List.mem_map_of_mem (f := fun t => g.typeName? t.name) ht
  obtain ⟨ident, hi, he⟩ := List.mem_map.mp hm
  exact ⟨ident, hi, he.symm⟩

lemma Accounts.of_typeName? (h : Accounts package schema naming g earlier) {name ident : String}
    (ht : g.typeName? name = some ident) :
    ident ∈ g.schemaNames ∧ ∃ t ∈ schema.userTypes, t.name = name := by
  have hm : (name, ident) ∈ g.idents := by
    obtain ⟨before, behind, he, _⟩ := List.lookup_eq_some_iff.mp ht
    simp [he]
  constructor
  · exact List.mem_reverse.mpr (List.mem_map_of_mem hm)
  · have hf : name ∈ g.idents.map Prod.fst := List.mem_map_of_mem hm
    rw [h.idents_fst, List.mem_reverse] at hf
    exact List.mem_map.mp hf

variable {decls : List Declaration}

lemma Accounts.schemaTypes_eq (h : Accounts package schema naming g earlier)
    (hs : g.schemaTypes = .ok decls) : schema.userTypes.map g.schemaType = decls.map .ok := by
  rw [schemaTypes, mapM_eq_ok_iff, h.schema_eq] at hs
  exact hs

lemma Accounts.exists_declaration (h : Accounts package schema naming g earlier)
    (hs : g.schemaTypes = .ok decls) {t : SchemaType} (ht : t ∈ schema.userTypes) :
    ∃ d ∈ decls, g.schemaType t = .ok d := by
  have hm : g.schemaType t ∈ decls.map .ok :=
    h.schemaTypes_eq hs ▸ List.mem_map_of_mem ht
  obtain ⟨d, hd, he⟩ := List.mem_map.mp hm
  exact ⟨d, hd, he.symm⟩

lemma Accounts.exists_userType (h : Accounts package schema naming g earlier)
    (hs : g.schemaTypes = .ok decls) {d : Declaration} (hm : d ∈ decls) :
    ∃ t ∈ schema.userTypes, g.schemaType t = .ok d := by
  have hm : .ok d ∈ schema.userTypes.map g.schemaType :=
    (h.schemaTypes_eq hs).symm ▸ List.mem_map_of_mem hm
  exact List.mem_map.mp hm

lemma Accounts.map_name_schemaTypes (h : Accounts package schema naming g earlier)
    (hd : (schema.types.map SchemaType.name).Nodup) (hs : g.schemaTypes = .ok decls) :
    decls.map Declaration.name = g.schemaNames := by
  refine List.map_injective_iff.mpr (fun _ _ => Option.some.inj) ?_
  rw [map_name_of_schemaTypes hs, h.schema_eq, List.map_map, List.map_map, ← h.map_typeName? hd]
  refine List.map_congr_left fun t ht => ?_
  obtain ⟨ident, _, hi⟩ := h.typeName?_eq_some hd ht
  simp [hi]

end Accounts

end GraphqlBindings.Generator

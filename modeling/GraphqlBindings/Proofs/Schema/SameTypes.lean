import GraphqlBindings.Operation.Resolve
import GraphqlBindings.Proofs.Schema.Lookup
import GraphqlBindings.Proofs.Schema.Validation
import GraphqlBindings.Schema.Sdl

/-! A schema stands for the set of its types: the order in which they are listed and an index that
is out of date make no difference to what is found, checked, written or resolved. -/

namespace GraphqlBindings

namespace Schema

/-- Two schemas with the same root names and the same types, each under a name of its own. Nothing
is asked of the two indices. -/
structure SameTypes (s s' : Schema) : Prop where
  queryType : s'.queryType = s.queryType
  mutationType : s'.mutationType = s.mutationType
  subscriptionType : s'.subscriptionType = s.subscriptionType
  mem_types : ∀ t, t ∈ s'.types ↔ t ∈ s.types
  nodup : (s.types.map SchemaType.name).Nodup
  nodup' : (s'.types.map SchemaType.name).Nodup

namespace SameTypes

variable {s s' : Schema}

lemma get? (h : s.SameTypes s') (name : String) : s'.get? name = s.get? name := by
  ext t
  rw [get?_eq_some_iff h.nodup, get?_eq_some_iff h.nodup', h.mem_types]

lemma rootName? (h : s.SameTypes s') (kind : OperationKind) :
    s'.rootName? kind = s.rootName? kind := by
  cases kind
  · exact h.queryType
  · exact h.mutationType
  · exact h.subscriptionType

lemma rootNames (h : s.SameTypes s') : s'.rootNames = s.rootNames := by
  rw [Schema.rootNames, Schema.rootNames, h.queryType, h.mutationType, h.subscriptionType]

lemma isRoot (h : s.SameTypes s') (name : String) : s'.isRoot name = s.isRoot name := by
  rw [Schema.isRoot, Schema.isRoot, h.rootNames]

lemma isUserType (h : s.SameTypes s') (t : SchemaType) : s'.isUserType t = s.isUserType t := by
  rw [Schema.isUserType, Schema.isUserType, h.isRoot]

lemma userTypes_perm (h : s.SameTypes s') : s'.userTypes.Perm s.userTypes := by
  refine (List.perm_ext_iff_of_nodup (s'.nodup_userTypes h.nodup').of_map
    (s.nodup_userTypes h.nodup).of_map).mpr fun t => ?_
  rw [mem_userTypes, mem_userTypes, h.mem_types, h.isUserType]

lemma userTypes (h : s.SameTypes s') : s'.userTypes = s.userTypes := by
  refine h.userTypes_perm.eq_of_pairwise (fun a b ha hb hab hba => ?_) s'.pairwise_userTypes
    s.pairwise_userTypes
  have ha' : a ∈ s.types := (h.mem_types a).mp (mem_userTypes.mp ha).1
  exact eq_of_name_eq h.nodup ha' (mem_userTypes.mp hb).1 (String.le_antisymm hab hba)

end SameTypes

section Verdict

variable {s s' : Schema}

lemma repetition?_eq_none (h : (s.types.map SchemaType.name).Nodup) : s.repetition? = none :=
  repetition?_eq_none_iff.mpr (.inr h)

lemma SameTypes.resolves (h : s.SameTypes s') (name : String) :
    s'.resolves name = s.resolves name := by
  rw [Schema.resolves, Schema.resolves, h.get?]

lemma SameTypes.typeFault? (h : s.SameTypes s') (t : SchemaType) :
    s'.typeFault? t = s.typeFault? t := by
  simp only [Schema.typeFault?, h.resolves]

lemma SameTypes.rootFault? (h : s.SameTypes s') : s'.rootFault? = s.rootFault? := by
  simp only [Schema.rootFault?, h.rootNames, h.get?]

lemma validate_eq_ok_iff : s.validate = .ok () ↔ s.fault? = none := by
  rw [validate]
  cases s.fault? <;> simp

lemma SameTypes.validate (h : s.SameTypes s') : s'.validate = .ok () ↔ s.validate = .ok () := by
  simp only [validate_eq_ok_iff, fault?, repetition?_eq_none h.nodup, repetition?_eq_none h.nodup',
    Option.or_eq_none_iff, List.findSome?_eq_none_iff, h.mem_types, h.typeFault?, h.rootFault?]

lemma SameTypes.render (h : s.SameTypes s') : Sdl.render s' = Sdl.render s := by
  rw [Sdl.render, Sdl.render, h.userTypes]

end Verdict

end Schema

namespace Operation

variable {s s' : Schema}

section

variable (h : s.SameTypes s')
include h

lemma isInputType_sameTypes (name : String) : isInputType s' name = isInputType s name := by
  rw [isInputType, isInputType, h.get?]

lemma compositeType?_sameTypes (name : String) : compositeType? s' name = compositeType? s name := by
  rw [compositeType?, compositeType?, h.get?]

lemma rootType?_sameTypes (kind : OperationKind) : rootType? s' kind = rootType? s kind := by
  rw [rootType?, rootType?, h.rootName?, funext h.get?]

lemma resolveVariable_sameTypes : resolveVariable s' = resolveVariable s := by
  funext v
  rw [resolveVariable, resolveVariable, isInputType_sameTypes h]

end

mutual

lemma resolveSelection_sameTypes (h : s.SameTypes s') :
    ∀ (parent : SchemaType) (written : Language.Selection),
    resolveSelection s' parent written = resolveSelection s parent written
  | parent, .field position label name arguments directives inner => by
    rw [resolveSelection, resolveSelection]
    cases parent.field? name with
    | none => rfl
    | some field =>
      simp only [compositeType?_sameTypes h]
      cases compositeType? s field.type.baseName with
      | none => cases inner <;> rfl
      | some target =>
        cases inner with
        | nil => rfl
        | cons first rest =>
          simp only [resolveSelection_sameTypes h target first,
            resolveSelections_sameTypes h target rest]
  | _, .inlineFragment .. => by rw [resolveSelection, resolveSelection]
  | _, .fragmentSpread .. => by rw [resolveSelection, resolveSelection]

lemma resolveSelections_sameTypes (h : s.SameTypes s') :
    ∀ (parent : SchemaType) (written : List Language.Selection),
    resolveSelections s' parent written = resolveSelections s parent written
  | _, [] => by rw [resolveSelections, resolveSelections]
  | parent, first :: rest => by
    rw [resolveSelections, resolveSelections, resolveSelection_sameTypes h parent first,
      resolveSelections_sameTypes h parent rest]

end

variable (h : s.SameTypes s')
include h

lemma resolve_sameTypes (path source : String) (earlier : List String)
    (d : Language.OperationDefinition) :
    resolve s' path source earlier d = resolve s path source earlier d := by
  simp only [resolve, rootType?_sameTypes h, resolveVariable_sameTypes h,
    resolveSelections_sameTypes h]

lemma resolveAll_sameTypes (path source : String) (earlier : List String)
    (ds : List Language.Definition) :
    resolveAll s' path source earlier ds = resolveAll s path source earlier ds := by
  induction ds generalizing earlier with
  | nil => rfl
  | cons d rest ih =>
    cases d with
    | selections position selections => rfl
    | operation d => simp only [resolveAll, resolve_sameTypes h, ih]
    | fragment name condition directives selections => exact ih earlier

lemma ofText_sameTypes (path source : String) : ofText s' path source = ofText s path source := by
  simp only [ofText, ofDocument, resolveAll_sameTypes h]

end Operation

end GraphqlBindings

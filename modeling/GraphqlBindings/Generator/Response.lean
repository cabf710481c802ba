import GraphqlBindings.Operation.Resolve

/-!
Responses: the fields of one level stand under their response keys, and repeated selections of a
key are merged into one. Selections through fragments have no place in a response.
-/

namespace GraphqlBindings

inductive Construct where
  | inlineFragment (condition : Option String)
  | fragmentSpread (name : String)
  | keyConflict (key first second : String)
deriving DecidableEq, Repr, Inhabited

def Construct.text : Construct → String
  | inlineFragment none => "inline fragment"
  | inlineFragment (some condition) => "inline fragment on " ++ condition
  | fragmentSpread name => "fragment spread ..." ++ name
  | keyConflict key first second =>
    "response key " ++ key ++ " selects both " ++ first ++ " and " ++ second

mutual

def Selection.fragment? : Selection → Option Construct
  | .field _ _ _ selections => firstFragment? selections
  | .inlineFragment condition => some (.inlineFragment condition)
  | .fragmentSpread name => some (.fragmentSpread name)

def firstFragment? : List Selection → Option Construct
  | [] => none
  | s :: rest => s.fragment?.or (firstFragment? rest)

end

mutual

def Selection.size : Selection → Nat
  | .field _ _ _ selections => selectionsSize selections + 1
  | .inlineFragment _ => 0
  | .fragmentSpread _ => 0

def selectionsSize : List Selection → Nat
  | [] => 0
  | s :: rest => s.size + selectionsSize rest

end

theorem selectionsSize_append (a b : List Selection) :
    selectionsSize (a ++ b) = selectionsSize a + selectionsSize b := by
  induction a with
  | nil => simp [selectionsSize]
  | cons s rest ih => simp [selectionsSize, ih, Nat.add_assoc]

structure KeyGroup where
  key : String
  name : String
  definition : SchemaField
  selections : List Selection
deriving Repr, Inhabited

def groupsSize : List KeyGroup → Nat
  | [] => 0
  | g :: rest => selectionsSize g.selections + 1 + groupsSize rest

def addField (new : KeyGroup) : List KeyGroup → Except Construct (List KeyGroup)
  | [] => .ok [new]
  | g :: rest =>
    if g.key = new.key then
      if g.name = new.name then
        .ok ({ g with selections := g.selections ++ new.selections } :: rest)
      else .error (.keyConflict g.key g.name new.name)
    else match addField new rest with
      | .ok rest => .ok (g :: rest)
      | .error construct => .error construct

theorem groupsSize_addField {new : KeyGroup} {groups result : List KeyGroup}
    (h : addField new groups = .ok result) :
    groupsSize result ≤ groupsSize groups + (selectionsSize new.selections + 1) := by
  induction groups generalizing result with
  | nil =>
    simp only [addField, Except.ok.injEq] at h
    simp [← h, groupsSize]
  | cons g rest ih =>
    simp only [addField] at h
    split at h
    · split at h
      · simp only [Except.ok.injEq] at h
        simp only [← h, groupsSize, selectionsSize_append]
        omega
      · simp at h
    · split at h
      · next r hr =>
        have := ih hr
        simp only [Except.ok.injEq] at h
        simp only [← h, groupsSize]
        omega
      · simp at h

def groupFields (groups : List KeyGroup) : List Selection → Except Construct (List KeyGroup)
  | [] => .ok groups
  | .field label name definition selections :: rest =>
    match addField ⟨responseKey label name, name, definition, selections⟩ groups with
    | .ok groups => groupFields groups rest
    | .error construct => .error construct
  | .inlineFragment _ :: rest => groupFields groups rest
  | .fragmentSpread _ :: rest => groupFields groups rest

theorem groupsSize_groupFields {groups result : List KeyGroup} {selections : List Selection}
    (h : groupFields groups selections = .ok result) :
    groupsSize result ≤ groupsSize groups + selectionsSize selections := by
  induction selections generalizing groups with
  | nil =>
    simp only [groupFields, Except.ok.injEq] at h
    simp [h]
  | cons s rest ih =>
    cases s with
    | field label name definition inner =>
      simp only [groupFields] at h
      split at h
      · next r hr =>
        have h1 := ih h
        have h2 := groupsSize_addField hr
        simp only [selectionsSize, Selection.size] at *
        omega
      · simp at h
    | inlineFragment =>
      simpa [selectionsSize, Selection.size] using ih (by simpa [groupFields] using h)
    | fragmentSpread =>
      simpa [selectionsSize, Selection.size] using ih (by simpa [groupFields] using h)

mutual

def keyConflict? (selections : List Selection) : Option Construct :=
  match _h : groupFields [] selections with
  | .error construct => some construct
  | .ok groups => groupsConflict? groups
termination_by 2 * selectionsSize selections + 1
decreasing_by
  have := groupsSize_groupFields _h
  simp only [groupsSize] at this
  omega

def groupsConflict? : List KeyGroup → Option Construct
  | [] => none
  | g :: rest => (keyConflict? g.selections).or (groupsConflict? rest)
termination_by groups => 2 * groupsSize groups
decreasing_by all_goals simp only [groupsSize]; omega

end

def unsupported? (selections : List Selection) : Option Construct :=
  (firstFragment? selections).or (keyConflict? selections)

end GraphqlBindings

import GraphqlBindings.Proofs.Sdl.Reading

/-! Free texts of a schema: descriptions, and the reasons why values of enumerations are
deprecated. They change nothing in what is read, if they fit into comments. -/

namespace GraphqlBindings

def InputValue.silent (v : InputValue) : InputValue := { v with description := none }

def SchemaField.silent (f : SchemaField) : SchemaField := { f with description := none }

def EnumValue.silent (v : EnumValue) : EnumValue :=
  { v with description := none, deprecationReason := none }

def SchemaType.silent (t : SchemaType) : SchemaType :=
  { t with
    description := none
    fields := t.fields.map SchemaField.silent
    inputFields := t.inputFields.map InputValue.silent
    enumValues := t.enumValues.map EnumValue.silent }

def Schema.silent (s : Schema) : Schema := { s with types := s.types.map SchemaType.silent }

namespace Sdl

open GraphqlBindings.Language

section Silent

lemma typeTokens_silent (t : SchemaType) : typeTokens t.silent = typeTokens t := by
  have hfields : t.silent.fields.map fieldTokens = t.fields.map fieldTokens := by
    simp only [SchemaType.silent, List.map_map]
    rfl
  have hinputs : t.silent.inputFields.map inputValueTokens =
      t.inputFields.map inputValueTokens := by
    simp only [SchemaType.silent, List.map_map]
    rfl
  have hvalues : t.silent.enumValues.map (fun v => [Token.name v.name]) =
      t.enumValues.map fun v => [Token.name v.name] := by
    simp only [SchemaType.silent, List.map_map]
    rfl
  rw [typeTokens, fieldBlockTokens, hfields, hinputs, hvalues]
  rfl

lemma userTypes_silent (s : Schema) : s.silent.userTypes = s.userTypes.map SchemaType.silent := by
  have hf : s.silent.types.filter s.silent.isUserType =
      (s.types.filter s.isUserType).map SchemaType.silent := by
    rw [Schema.silent, List.filter_map]
    rfl
  rw [Schema.userTypes, Schema.userTypes, hf, List.map_mergeSort]
  intro a _ b _
  rfl

lemma tokens_silent (s : Schema) :
    s.silent.userTypes.flatMap typeTokens = s.userTypes.flatMap typeTokens := by
  rw [userTypes_silent, List.flatMap_map]
  exact List.flatMap_congr fun t _ => typeTokens_silent t

end Silent

theorem read_render_silent {s s' : Schema} (h : s.silent = s'.silent)
    (hw : ∀ t ∈ s.userTypes, t.WellFormed) (hw' : ∀ t ∈ s'.userTypes, t.WellFormed)
    (hq : ∀ t ∈ s.userTypes, t.Quiet) (hq' : ∀ t ∈ s'.userTypes, t.Quiet) :
    ∃ text text', render s = .ok text ∧ render s' = .ok text' ∧
      check text = .ok () ∧ check text' = .ok () ∧
      SchemaText.read text = SchemaText.read text' := by
  have htokens : s.userTypes.flatMap typeTokens = s'.userTypes.flatMap typeTokens := by
    rw [← tokens_silent s, h, tokens_silent s']
  have hempty : s.userTypes = [] ↔ s'.userTypes = [] := by
    rw [← List.map_eq_nil_iff (f := SchemaType.silent), ← userTypes_silent, h, userTypes_silent,
      List.map_eq_nil_iff]
  by_cases hn : s.userTypes = []
  · exact ⟨"", "", render_eq_empty hn, render_eq_empty (hempty.mp hn), rfl, rfl, rfl⟩
  · obtain ⟨text, hr, hs⟩ := exists_render hw hq
    obtain ⟨text', hr', hs'⟩ := exists_render hw' hq'
    obtain ⟨definitions, _, hread⟩ := exists_reads_schemaText hw hn
    have htext := Parser.read_eq_ok hs hread
    have htext' := Parser.read_eq_ok (htokens ▸ hs') hread
    exact ⟨text, text', hr, hr', check_of_read htext, check_of_read htext', htext.trans htext'.symm⟩

def moodSchema (reason : String) : Schema :=
  .ofTypes none none none
    [⟨.enumeration, "Mood", none, [], [], [], [⟨"CALM", none, true, some reason⟩], []⟩] []

/-- A reason of two lines does not fit into its comment. What stands on the second line is read,
as a value of its own or as the end of the type. -/
theorem note_leaves_comment :
    (moodSchema "gone").silent = (moodSchema "gone\n\x7d").silent ∧
    (render (moodSchema "gone")).toOption.map check = some (.ok ()) ∧
    (render (moodSchema "gone\n\x7d")).toOption.map check = some (.error ⟨3, 1⟩) := by
  refine ⟨rfl, ?_, ?_⟩
  all_goals decide +kernel

end Sdl

end GraphqlBindings

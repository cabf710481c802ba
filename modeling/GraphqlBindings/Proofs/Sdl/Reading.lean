import GraphqlBindings.Proofs.Schema.Lookup
import GraphqlBindings.Proofs.Sdl.Printing

namespace GraphqlBindings.Sdl

open GraphqlBindings.Language GraphqlBindings.Text

section Reading

variable {s : Schema} {types : List SchemaType} {text : String}

lemma check_of_read {schema : SchemaText} (h : SchemaText.read text = .ok schema) :
    check text = .ok () := by
  rw [check, h]
  split_ifs <;> rfl

lemma exists_read (hw : ∀ t ∈ types, t.WellFormed)
    (hs : Spells text.toList (types.flatMap typeTokens)) (hn : types ≠ []) :
    ∃ definitions, List.Forall₂ SchemaType.Describes types definitions ∧
      SchemaText.read text = .ok ⟨definitions⟩ := by
  obtain ⟨definitions, hd, hr⟩ := exists_reads_schemaText hw hn
  exact ⟨definitions, hd, Parser.read_eq_ok hs hr⟩

lemma render_eq_empty (h : s.userTypes = []) : render s = .ok "" := by
  rw [render, h]
  rfl

end Reading

/-- A schema with well-formed names and defaults, whose free texts fit into comments, is written
as a text that is read back as one definition for each of its types, by name. -/
theorem read_render (s : Schema) (hw : ∀ t ∈ s.types, s.isUserType t = true → t.WellFormed)
    (hq : ∀ t ∈ s.types, s.isUserType t = true → t.Quiet) :
    ∃ text types definitions, render s = .ok text ∧ check text = .ok () ∧
      types.Perm (s.types.filter s.isUserType) ∧ types.Pairwise (fun a b => a.name ≤ b.name) ∧
      List.Forall₂ SchemaType.Describes types definitions ∧
      (types = [] ∧ text = "" ∨ SchemaText.read text = .ok ⟨definitions⟩) := by
  have hw' : ∀ t ∈ s.userTypes, t.WellFormed := by
    intro t ht
    obtain ⟨hm, hu⟩ := Schema.mem_userTypes.mp ht
    exact hw t hm hu
  have hq' : ∀ t ∈ s.userTypes, t.Quiet := by
    intro t ht
    obtain ⟨hm, hu⟩ := Schema.mem_userTypes.mp ht
    exact hq t hm hu
  by_cases hn : s.userTypes = []
  · exact ⟨"", [], [], render_eq_empty hn, rfl, hn ▸ s.userTypes_perm, .nil, .nil, .inl ⟨rfl, rfl⟩⟩
  · obtain ⟨text, hr, hs⟩ := exists_render hw' hq'
    obtain ⟨definitions, hd, hread⟩ := exists_read hw' hs hn
    exact ⟨text, s.userTypes, definitions, hr, check_of_read hread, s.userTypes_perm,
      s.pairwise_userTypes, hd, .inr hread⟩

section Palette

def partsField : SchemaField :=
  ⟨"parts", none, [⟨"of", none, .named "Filter", some "\x7bcolors: [RED]\x7d"⟩],
    .nonNull (.list (.named "Item")), true, some "say \"no\"\n"⟩

def colorsInput : InputValue :=
  ⟨"colors", some "any of these", .list (.nonNull (.named "Color")), some "[RED]"⟩

def paletteSchema : Schema :=
  .ofTypes none none none
    [⟨.object, "Item", some "A thing\r\nwith parts.", [partsField], [], [.named "Node"], [], []⟩,
      ⟨.inputObject, "Filter", none, [], [colorsInput], [], [], []⟩,
      ⟨.enumeration, "Color", none, [], [], [],
        [⟨"RED", some "warm", false, none⟩, ⟨"BLUE", none, true, some "gone"⟩], []⟩]
    []

lemma constant_red (d : Nat) : Constant (d + 1)
    [.punctuator .bracketOpen, .name "RED", .punctuator .bracketClose] (.list [.enumName "RED"]) :=
  @Constant.list d [([.name "RED"], .enumName "RED")] (by simpa using .name "RED")

lemma spells_red {cs : List Char} {ts : List Token} (h : Spells cs ts) :
    Spells ("[RED]".toList ++ cs)
      ([.punctuator .bracketOpen, .name "RED", .punctuator .bracketClose] ++ ts) := by
  have ht : "[RED]".toList ++ cs = '[' :: ("RED".toList ++ ']' :: cs) := by simp
  rw [ht]
  apply Spells.punctuator rfl
  exact (IsName.spells (by decide)).append (delimits_cons (by decide) _) (.punctuator rfl h)

lemma isLiteral_red (d : Nat) : IsLiteral (d + 1) "[RED]" (.list [.enumName "RED"]) :=
  ⟨_, spells_red .nil, constant_red d⟩

lemma isLiteral_colors (d : Nat) : IsLiteral (d + 2) "\x7bcolors: [RED]\x7d"
    (.object [("colors", .list [.enumName "RED"])]) := by
  refine ⟨_, ?_, @Constant.object (d + 1) [("colors", _, .list [.enumName "RED"])]
    (by simpa using constant_red d)⟩
  have ht : "\x7bcolors: [RED]\x7d".toList =
      '{' :: ("colors".toList ++ ':' :: ' ' :: ("[RED]".toList ++ ['}'])) := by
    simp
  rw [ht]
  apply Spells.punctuator rfl
  apply (IsName.spells (by decide)).append (delimits_cons (by decide) _)
  apply Spells.punctuator rfl
  apply Spells.ignored isIgnored_blank
  exact spells_red (.punctuator rfl .nil)

lemma wellFormed_partsField : partsField.WellFormed 49 := by
  constructor
  · decide
  · simp only [partsField, List.forall_mem_singleton]
    exact ⟨by decide, by decide, by decide, by simpa using ⟨_, isLiteral_colors 46⟩⟩
  · decide
  · decide

lemma wellFormed_palette : ∀ t ∈ paletteSchema.types, t.WellFormed := by
  have hcolors : colorsInput.WellFormed 49 :=
    ⟨by decide, by decide, by decide, by simpa [colorsInput] using ⟨_, isLiteral_red 48⟩⟩
  simp only [paletteSchema, Schema.ofTypes, List.forall_mem_cons]
  refine ⟨?_, ?_, ?_, List.forall_mem_nil _⟩
  · constructor <;> simp [wellFormed_partsField, bracketLimit]
    all_goals decide
  · constructor <;> simp [hcolors, bracketLimit]
    all_goals decide
  · constructor <;> simp
    all_goals decide

lemma quiet_palette : ∀ t ∈ paletteSchema.types, t.Quiet := by
  simp only [paletteSchema, Schema.ofTypes, List.forall_mem_cons]
  refine ⟨?_, ?_, ?_, List.forall_mem_nil _⟩
  · constructor <;> simp [partsField]
    decide
  · constructor <;> simp [colorsInput]
    decide
  · constructor <;> simp
    all_goals decide

theorem read_render_palette :
    (∀ t ∈ paletteSchema.types, paletteSchema.isUserType t = true → t.WellFormed) ∧
    (∀ t ∈ paletteSchema.types, paletteSchema.isUserType t = true → t.Quiet) ∧
    ∃ text types definitions, render paletteSchema = .ok text ∧ check text = .ok () ∧
      types.Perm (paletteSchema.types.filter paletteSchema.isUserType) ∧
      types.Pairwise (fun a b => a.name ≤ b.name) ∧
      List.Forall₂ SchemaType.Describes types definitions ∧
      (types = [] ∧ text = "" ∨ SchemaText.read text = .ok ⟨definitions⟩) :=
  ⟨fun t ht _ => wellFormed_palette t ht, fun t ht _ => quiet_palette t ht,
    read_render paletteSchema (fun t ht _ => wellFormed_palette t ht)
      fun t ht _ => quiet_palette t ht⟩

end Palette

section Numerals

def IsDigits (cs : List Char) : Prop := cs ≠ [] ∧ cs.all isAsciiDigit = true

def IsNumeral (cs : List Char) : Prop :=
  ∃ minus whole fraction exponent, cs = minus ++ whole ++ fraction ++ exponent ∧
    (minus = [] ∨ minus = ['-']) ∧ isWholePart whole = true ∧
    (fraction = [] ∨ ∃ ds, IsDigits ds ∧ fraction = '.' :: ds) ∧
    (exponent = [] ∨ ∃ mark sign ds, isExponentMark mark = true ∧
      (sign = [] ∨ sign = ['+'] ∨ sign = ['-']) ∧ IsDigits ds ∧ exponent = mark :: sign ++ ds)

def scaleSchema (default : Option String) : Schema :=
  .ofTypes none none none
    [⟨.inputObject, "Scale", none, [], [⟨"factor", none, .named "Float", default⟩], [], [], []⟩] []

/-- Not all numbers are read: an exponent without a sign must not begin with a nine, and a whole
number has 64 bits. -/
theorem check_render_scale :
    (∀ t ∈ (scaleSchema none).types, t.WellFormed ∧ t.Quiet) ∧
    IsNumeral "1e9".toList ∧
    render (scaleSchema (some "1e9")) = .ok "input Scale \x7b\n  factor: Float = 1e9\n\x7d\n" ∧
    check "input Scale \x7b\n  factor: Float = 1e9\n\x7d\n" = .error ⟨2, 19⟩ ∧
    IsNumeral "9223372036854775808".toList ∧
    render (scaleSchema (some "9223372036854775808")) =
      .ok "input Scale \x7b\n  factor: Float = 9223372036854775808\n\x7d\n" ∧
    check "input Scale \x7b\n  factor: Float = 9223372036854775808\n\x7d\n" = .error ⟨2, 19⟩ := by
  have hexponent : IsNumeral "1e9".toList := by
    refine ⟨[], ['1'], [], ['e', '9'], by decide, .inl rfl, by decide, .inl rfl, .inr ?_⟩
    exact ⟨'e', [], ['9'], by decide, .inl rfl, ⟨by decide, by decide⟩, rfl⟩
  have hwhole : IsNumeral "9223372036854775808".toList :=
    ⟨[], "9223372036854775808".toList, [], [], by simp, .inl rfl, by decide, .inl rfl, .inl rfl⟩
  refine ⟨?_, hexponent, ?_, ?_, hwhole, ?_, ?_⟩
  · have hfactor : InputValue.WellFormed 49 ⟨"factor", none, .named "Float", none⟩ :=
      ⟨by decide, by decide, by decide, by simp⟩
    simp only [scaleSchema, Schema.ofTypes, List.forall_mem_singleton]
    constructor
    · exact ⟨rfl, by decide, by simp, by simp, by simp, List.forall_mem_singleton.mpr hfactor, by simp⟩
    · exact ⟨by simp, by simp, by simp, by simp, by simp⟩
  all_goals decide +kernel

end Numerals

end GraphqlBindings.Sdl

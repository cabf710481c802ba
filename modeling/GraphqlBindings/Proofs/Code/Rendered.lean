import GraphqlBindings.Proofs.Code.Rows

/-! Models are read back. Whatever the documentation in their texts says, the reader finds items
that restate their declarations, and nothing else. -/

namespace GraphqlBindings.Code

open GraphqlBindings.Text

variable {a : Alphabet} {reserved : List String}

section Members

def Yields {β : Type} (a : Alphabet) (stop : List Token → Option (List Token)) (p : Reader β)
    (text bare : String) (xs : List β) : Prop :=
  ∃ ts, Says a text bare ts ∧ Reader.ReadsMany stop p ts xs

section Join

variable {α β : Type} {stop : List Token → Option (List Token)} {p : Reader β}
  {text bare : α → String} {xs : List α}

lemma exists_yields_join {R : α → List β → Prop}
    (h : ∀ x ∈ xs, ∃ ys, Yields a stop p (text x) (bare x) ys ∧ R x ys) :
    ∃ yss, Yields a stop p (String.join (xs.map text)) (String.join (xs.map bare)) yss.flatten ∧
      List.Forall₂ R xs yss := by
  induction xs with
  | nil => exact ⟨[], ⟨[], .nil, .nil⟩, .nil⟩
  | cons x xs ih =>
    rw [List.forall_mem_cons] at h
    obtain ⟨ys, ⟨ts, hs, hr⟩, hx⟩ := h.1
    obtain ⟨yss, ⟨us, hs', hr'⟩, hxs⟩ := ih h.2
    refine ⟨ys :: yss, ⟨ts ++ us, ?_, hr.append hr'⟩, .cons hx hxs⟩
    simpa [String.join_cons] using hs.append hs'

lemma exists_yields_singles {R : α → β → Prop}
    (h : ∀ x ∈ xs, ∃ ys, Yields a stop p (text x) (bare x) ys ∧ ∃ y, ys = [y] ∧ R x y) :
    ∃ ys, Yields a stop p (String.join (xs.map text)) (String.join (xs.map bare)) ys ∧
      List.Forall₂ R xs ys := by
  obtain ⟨yss, hy, hr⟩ := exists_yields_join h
  refine ⟨yss.flatten, hy, ?_⟩
  clear hy h
  induction hr with
  | nil => exact .nil
  | cons hx _ ih =>
    obtain ⟨y, rfl, hy⟩ := hx
    exact .cons hy ih

end Join

def renameText (ident key : String) : String :=
  if Naming.stripRawMark ident = key then "" else "    #[serde(rename = " ++ quote key ++ ")]\n"

def optionText (type : CodeType) : String :=
  if type.isOption then "    #[serde(default, skip_serializing_if = \"Option::is_none\")]\n" else ""

lemma plain_fieldAttributes (f : FieldDeclaration) :
    Plain a (renameText f.ident f.key ++ optionText f.type)
      ((fieldAttributes f).flatMap Attribute.tokens) := by
  rw [renameText, optionText, fieldAttributes, List.flatMap_append]
  apply Says.append
  · split_ifs
    · exact .nil
    · rw [List.flatMap_singleton]
      exact plain_rename f.key
  · split_ifs
    · rw [List.flatMap_singleton]
      exact plain_option
    · exact .nil

lemma exists_yields_field {f : FieldDeclaration} (hn : IsIdentifier a reserved f.ident)
    (ht : IsPath a reserved f.type.base) :
    ∃ rs, Yields a (Reader.atMark "\x7d") (field reserved) f.render f.undocumented.render rs ∧
      ∃ r, rs = [r] ∧ RestatesField f r := by
  obtain ⟨w, hw, hid⟩ := hn
  obtain ⟨ts, ht⟩ := ht.typeTokens
  refine ⟨_, ⟨fieldTokens ⟨fieldAttributes f, w, f.type⟩ ts, ?_,
    readsMany_field (isPlain_fieldAttributes f) hid ht⟩, _, rfl,
    restatesField_written hid.isWord hw⟩
  have hdoc := says_docComment (a := a) "    " (by simp) f.doc
  have hrow : Plain a ("    pub " ++ w.text ++ ": " ++ f.type.text ++ ",\n")
      ([.plain "pub", .word w, .mark ":"] ++ ts ++ [.mark ","]) :=
    plain_type [.indent 4, .plain "pub", .indent 1] [.mark ":"] hid.isWord ht.typeLine (by decide)
      (by simp) (by decide) (by decide) (by decide)
  have htext : ∀ g : FieldDeclaration, g.render = docComment "    " g.doc ++
      (renameText g.ident g.key ++ optionText g.type ++
        ("    pub " ++ g.ident ++ ": " ++ g.type.text ++ ",\n")) := by
    intro g
    simp only [FieldDeclaration.render, renameText, optionText, String.append_assoc]
  have hall := hdoc.append ((plain_fieldAttributes f).append hrow)
  rw [hw] at hall
  rw [htext, htext]
  simpa only [fieldTokens, FieldDeclaration.undocumented, List.nil_append, List.append_assoc]
    using hall

lemma exists_yields_choice {v : Variant} (hn : IsIdentifier a reserved v.ident) :
    ∃ cs, Yields a (Reader.atMark "\x7d") (choice reserved) v.render v.undocumented.render cs ∧
      ∃ c, cs = [c] ∧ RestatesVariant v c := by
  obtain ⟨w, hw, hid⟩ := hn
  refine ⟨_, ⟨choiceTokens ⟨[renameAttribute v.value], w⟩, ?_,
    readsMany_choice (by simpa using isPlain_renameAttribute v.value) hid⟩, _, rfl, hw, rfl⟩
  have hdoc := says_docComment (a := a) "    " (by simp) v.doc
  have hrow : Plain a ("    " ++ w.text ++ ",\n") [.word w, .mark ","] :=
    plain_word [.indent 4] [.mark ","] hid.isWord (by decide) (by decide) (by decide)
  have htext : ∀ u : Variant, u.render = docComment "    " u.doc ++
      (("    #[serde(rename = " ++ quote u.value ++ ")]\n") ++ ("    " ++ u.ident ++ ",\n")) := by
    intro u
    simp only [Variant.render, String.append_assoc]
  have hall := hdoc.append ((plain_rename v.value).append hrow)
  rw [hw] at hall
  rw [htext, htext]
  simpa only [choiceTokens, Variant.undocumented, List.flatMap_singleton, List.nil_append]
    using hall

lemma exists_yields_arm {owner : Word} (ho : owner.IsIdentifier a reserved) {v : Variant}
    (hn : IsIdentifier a reserved v.ident) :
    ∃ ms, Yields a (Reader.atMark "\x7d") (arm reserved) (v.renderArm owner.text)
      (v.undocumented.renderArm owner.text) ms ∧ ∃ m, ms = [m] ∧ RestatesArm owner v m := by
  obtain ⟨w, hw, hid⟩ := hn
  refine ⟨_, ⟨armTokens ⟨owner, w, v.value⟩, ?_, readsMany_arm ho hid⟩, _, rfl, rfl, hw, rfl⟩
  have hrow := plain_arm ho.isWord hid.isWord v.value
  rw [hw] at hrow
  exact hrow

end Members

section Declarations

section Texts

variable (name : String)

lemma renderFields_nil : renderFields name [] =
    "#[derive(Debug, Clone, PartialEq, Serialize, Deserialize)]\n" ++
      ("pub struct " ++ name ++ " \x7b\x7d\n") := rfl

lemma renderFields_of_ne_nil {fields : List FieldDeclaration} (h : fields ≠ []) :
    renderFields name fields = "#[derive(Debug, Clone, PartialEq, Serialize, Deserialize)]\n" ++
      ("pub struct " ++ name ++ " \x7b\n" ++ String.join (fields.map FieldDeclaration.render) ++
        "\x7d\n") := by
  have he : ¬ fields.isEmpty = true := by simpa using h
  unfold renderFields
  rw [if_neg he]

lemma renderVariants_eq (variants : List Variant) : renderVariants name variants =
    "#[derive(Debug, Clone, Copy, PartialEq, Eq, Hash, Serialize, Deserialize)]\n" ++
      (("pub enum " ++ name ++ " \x7b\n" ++
        (String.join (variants.map Variant.render) ++ "\x7d\n\n")) ++
      ("impl " ++ name ++ " \x7b\n" ++ ("    /// graphql name of the value\n" ++
        (("    pub fn as_str(&self) -> &'static str \x7b\n" ++ "        match *self \x7b\n") ++
          (String.join (variants.map (Variant.renderArm name)) ++
            "        \x7d\n    \x7d\n\x7d\n"))))) := by
  unfold renderVariants
  simp only [String.append_assoc]

end Texts

variable {w : Word}

lemma exists_yields_fields (hw : w.IsIdentifier a reserved) {fields : List FieldDeclaration}
    (hn : ∀ f ∈ fields, IsIdentifier a reserved f.ident)
    (ht : ∀ f ∈ fields, IsPath a reserved f.type.base) :
    ∃ rs, Yields a Reader.atEnd (item reserved) (renderFields w.text fields)
        (renderFields w.text (fields.map FieldDeclaration.undocumented))
        [.struct [deriveAttribute fieldTraits] w rs] ∧
      List.Forall₂ RestatesField fields rs := by
  have hb : ∀ b ∈ [deriveAttribute fieldTraits], b.IsPlain := by
    simpa using isPlain_deriveAttribute (by decide)
  have hread : ∀ {ts rs}, Reader.ReadsMany (Reader.atMark "\x7d") (field reserved) ts rs →
      Reader.ReadsMany Reader.atEnd (item reserved)
        (blockTokens "struct" [deriveAttribute fieldTraits] w ts)
        [.struct [deriveAttribute fieldTraits] w rs] := fun hr =>
    readsMany_item (by simp [blockTokens]) (item_struct hb hw hr)
  cases fields with
  | nil =>
    -- here both braces stand on one line
    refine ⟨[], ⟨_, ?_, hread .nil⟩, .nil⟩
    have hrow : Plain a ("pub struct " ++ w.text ++ " \x7b\x7d\n")
        [.plain "pub", .plain "struct", .word w, .mark "\x7b", .mark "\x7d"] :=
      plain_word [.plain "pub", .indent 1, .plain "struct", .indent 1]
        [.indent 1, .mark "\x7b", .mark "\x7d"] hw.isWord (by decide) (by decide) (by decide)
    have hall := plain_fieldTraits.append hrow
    have htokens : blockTokens "struct" [deriveAttribute fieldTraits] w [] =
        (deriveAttribute fieldTraits).tokens ++
          [.plain "pub", .plain "struct", .word w, .mark "\x7b", .mark "\x7d"] := by
      simp [blockTokens]
    rw [List.map_nil, renderFields_nil, htokens]
    exact hall
  | cons f fields =>
    obtain ⟨rs, ⟨ts, hs, hr⟩, hf⟩ := exists_yields_singles fun f hf =>
      exists_yields_field (hn f hf) (ht f hf)
    refine ⟨rs, ⟨_, ?_, hread hr⟩, hf⟩
    have hrow : Plain a ("pub struct " ++ w.text ++ " \x7b\n")
        [.plain "pub", .plain "struct", .word w, .mark "\x7b"] :=
      plain_word [.plain "pub", .indent 1, .plain "struct", .indent 1] [.indent 1, .mark "\x7b"]
        hw.isWord (by decide) (by decide) (by decide)
    have hall := plain_fieldTraits.append ((hrow.append hs).append plain_close)
    have htokens : blockTokens "struct" [deriveAttribute fieldTraits] w ts =
        (deriveAttribute fieldTraits).tokens ++
          ([.plain "pub", .plain "struct", .word w, .mark "\x7b"] ++ ts ++ [.mark "\x7d"]) := by
      simp [blockTokens]
    rw [renderFields_of_ne_nil _ (by simp), renderFields_of_ne_nil _ (by simp), htokens,
      List.map_map]
    exact hall

lemma exists_yields_variants (hw : w.IsIdentifier a reserved) {variants : List Variant}
    (hn : ∀ v ∈ variants, IsIdentifier a reserved v.ident) :
    ∃ choices arms, Yields a Reader.atEnd (item reserved) (renderVariants w.text variants)
        (renderVariants w.text (variants.map Variant.undocumented))
        [.enum [deriveAttribute variantTraits] w choices, .texts w arms] ∧
      List.Forall₂ RestatesVariant variants choices ∧
        List.Forall₂ (RestatesArm w) variants arms := by
  have hb : ∀ b ∈ [deriveAttribute variantTraits], b.IsPlain := by
    simpa using isPlain_deriveAttribute (by decide)
  obtain ⟨choices, ⟨ts, hs, hr⟩, hc⟩ := exists_yields_singles fun v hv =>
    exists_yields_choice (hn v hv)
  obtain ⟨arms, ⟨us, hs', hr'⟩, hm⟩ := exists_yields_singles fun v hv =>
    exists_yields_arm hw (hn v hv)
  have henum : Reader.ReadsMany Reader.atEnd (item reserved)
      (blockTokens "enum" [deriveAttribute variantTraits] w ts)
      [.enum [deriveAttribute variantTraits] w choices] :=
    readsMany_item (by simp [blockTokens]) (item_enum hb hw hr)
  have htexts : Reader.ReadsMany Reader.atEnd (item reserved) (textsTokens w us) [.texts w arms] :=
    readsMany_item (by simp [textsTokens]) (item_texts hw hr')
  refine ⟨choices, arms, ⟨_, ?_, henum.append htexts⟩, hc, hm⟩
  have henumRow : Plain a ("pub enum " ++ w.text ++ " \x7b\n")
      [.plain "pub", .plain "enum", .word w, .mark "\x7b"] :=
    plain_word [.plain "pub", .indent 1, .plain "enum", .indent 1] [.indent 1, .mark "\x7b"]
      hw.isWord (by decide) (by decide) (by decide)
  have himplRow : Plain a ("impl " ++ w.text ++ " \x7b\n")
      [.plain "impl", .word w, .mark "\x7b"] :=
    plain_word [.plain "impl", .indent 1] [.indent 1, .mark "\x7b"] hw.isWord (by decide)
      (by decide) (by decide)
  have hall := plain_variantTraits.append ((henumRow.append (hs.append plain_blockEnd)).append
    (himplRow.append (plain_valueComment.append (plain_textsHead.append
      (hs'.append plain_textsTail)))))
  have htokens : blockTokens "enum" [deriveAttribute variantTraits] w ts ++ textsTokens w us =
      (deriveAttribute variantTraits).tokens ++
        (([.plain "pub", .plain "enum", .word w, .mark "\x7b"] ++ (ts ++ [.mark "\x7d"])) ++
          ([.plain "impl", .word w, .mark "\x7b"] ++ ([] ++ (textsHead ++ (us ++
            [.mark "\x7d", .mark "\x7d", .mark "\x7d"]))))) := by
    simp [blockTokens, textsTokens]
  rw [renderVariants_eq, renderVariants_eq, htokens, List.map_map, List.map_map]
  exact hall

lemma exists_yields_declaration {d : Declaration} (hn : IsIdentifier a reserved d.name)
    (hm : ∀ ident ∈ d.members, IsIdentifier a reserved ident)
    (ht : ∀ type ∈ d.types, IsPath a reserved type.base) :
    ∃ found, Yields a Reader.atEnd (item reserved) ("\n" ++ d.render)
      ("\n" ++ d.undocumented.render) found ∧ Restates d found := by
  obtain ⟨name, doc, body⟩ := d
  obtain ⟨w, rfl, hid⟩ : ∃ w : Word, w.text = name ∧ w.IsIdentifier a reserved := hn
  have hdoc := says_docComment (a := a) "" (by simp) doc
  have hfront := plain_blank.append hdoc
  cases body with
  | «alias» type =>
    obtain ⟨ts, ht⟩ := (ht type (by simp [Declaration.types])).typeTokens
    have hrow : Plain a (renderAlias w.text type) (aliasTokens w ts) :=
      plain_type [.plain "pub", .indent 1, .plain "type", .indent 1] [.indent 1, .mark "="]
        hid.isWord ht.typeLine (by decide) (by simp) (by decide) (by decide) (by decide)
    refine ⟨_, ⟨aliasTokens w ts, ?_, readsMany_item (by simp [aliasTokens]) (item_alias hid ht)⟩,
      .alias w doc type⟩
    rw [Declaration.render, Declaration.render, ← String.append_assoc, ← String.append_assoc]
    exact hfront.append hrow
  | variants variants =>
    obtain ⟨choices, arms, ⟨ts, hs, hr⟩, hc, ha⟩ := exists_yields_variants hid fun v hv =>
      hm v.ident (List.mem_map.mpr ⟨v, hv, rfl⟩)
    have hderives : Derives [deriveAttribute variantTraits] :=
      derives_deriveAttribute (by decide) (by decide)
    refine ⟨_, ⟨ts, ?_, hr⟩, .variants w doc hderives hc ha⟩
    rw [Declaration.render, Declaration.render, ← String.append_assoc, ← String.append_assoc]
    exact hfront.append hs
  | fields fields =>
    obtain ⟨rs, ⟨ts, hs, hr⟩, hf⟩ := exists_yields_fields hid
      (fun f hf => hm f.ident (List.mem_map.mpr ⟨f, hf, rfl⟩))
      (fun f hf => ht f.type (List.mem_map.mpr ⟨f, hf, rfl⟩))
    have hderives : Derives [deriveAttribute fieldTraits] :=
      derives_deriveAttribute (by decide) (by decide)
    refine ⟨_, ⟨ts, ?_, hr⟩, .fields w doc hderives hf⟩
    rw [Declaration.render, Declaration.render, ← String.append_assoc, ← String.append_assoc]
    exact hfront.append hs

end Declarations

section Models

lemma exists_restated {m : Model} (h : IsNamed a reserved m) :
    ∃ found : List (List Item), read reserved a (withoutDocs m.render) =
        some (.setting lintSetting :: .imported serdeImport :: found.flatten) ∧
      List.Forall₂ Restates m.declarations found ∧
      withoutDocs m.render = withoutDocs m.undocumented.render := by
  obtain ⟨found, ⟨ts, hs, hr⟩, hf⟩ := exists_yields_join fun d hd =>
    exists_yields_declaration (h.names d hd) (h.members d hd) (h.types d hd)
  have himport : Reader.ReadsMany Reader.atEnd (item reserved)
      (.plain "use" :: (serdeImport ++ [.mark ";"])) [.imported serdeImport] := by
    refine readsMany_item (by simp) fun rest => ?_
    have hread : item reserved _ = some (.imported serdeImport, rest) :=
      item_import (by decide) rest
    simpa only [List.cons_append, List.append_assoc, List.nil_append] using hread
  have hitems := items_append isPlain_lintSetting (himport.append hr) (by simp)
  have hsays : Says a m.render m.undocumented.render (.mark "#" :: .mark "!" ::
      (lintSetting.tokens.tail ++ (.plain "use" :: (serdeImport ++ [.mark ";"]) ++ ts))) := by
    have hall := (((plain_package h.package).append plain_setting).append plain_import).append hs
    rw [List.nil_append, List.append_assoc] at hall
    unfold Model.render Model.undocumented
    rw [List.map_map]
    exact hall
  obtain ⟨hlex, hsame⟩ := hsays.lexFrom
  refine ⟨found, ?_, hf, hsame⟩
  rw [read, hlex]
  exact hitems

/-- Whatever its documentation says, a model is read back from its text: the items of the lines that
are not documentation restate its declarations in their order, and nothing else is among them. -/
theorem read_withoutDocs_render (a : Alphabet) (reserved : List String) {m : Model}
    (h : IsNamed a reserved m) :
    (∃ found : List (List Item), read reserved a (withoutDocs m.render) =
        some (.setting lintSetting :: .imported serdeImport :: found.flatten) ∧
      List.Forall₂ Restates m.declarations found) ∧
    withoutDocs m.render = withoutDocs m.undocumented.render := by
  obtain ⟨found, hread, hf, hsame⟩ := exists_restated h
  exact ⟨⟨found, hread, hf⟩, hsame⟩

def deceptiveModel : Model :=
  ⟨"shop", [
    ⟨"Date", some "when\r\n\n*/ pub fn f() \x7b\x7d\npub type Date = i64;\\",
      .alias (.named "String")⟩,
    ⟨"Item", none, .fields [
      ⟨"r#type", "type", .named "Kind", some "a \"kind\"\n\x7d"⟩,
      ⟨"notes", "notes\")]\n", .option (.vec (.named "serde_json::Value")), none⟩]⟩,
    ⟨"Kind", some "\n\n", .variants [⟨"New", "NE\"W\\", some "#[serde(skip)]"⟩]⟩]⟩

theorem read_withoutDocs_render_deceptive : IsNamed .ascii reservedWords deceptiveModel ∧
    (∃ found : List (List Item), read reservedWords .ascii (withoutDocs deceptiveModel.render) =
        some (.setting lintSetting :: .imported serdeImport :: found.flatten) ∧
      List.Forall₂ Restates deceptiveModel.declarations found) ∧
    withoutDocs deceptiveModel.render = withoutDocs deceptiveModel.undocumented.render := by
  have hword : ∀ name ∈ ["shop", "Date", "Item", "Kind", "notes", "New", "String", "serde_json",
      "Value"], Alphabet.ascii.IsWord name ∧ name ≠ "_" ∧ name ∉ reservedWords := by decide
  have hw : ∀ name ∈ ["shop", "Date", "Item", "Kind", "notes", "New", "String", "serde_json",
      "Value"], Word.IsIdentifier .ascii reservedWords ⟨false, name⟩ := by
    intro name hn
    obtain ⟨hw, hu, hr⟩ := hword name hn
    exact ⟨hw, hu, hr⟩
  have hid : ∀ name ∈ ["shop", "Date", "Item", "Kind", "notes", "New", "String"],
      IsIdentifier .ascii reservedWords name := fun name hn =>
    ⟨⟨false, name⟩, rfl, hw name (by simp only [List.mem_cons] at hn ⊢; tauto)⟩
  have hraw : IsIdentifier .ascii reservedWords "r#type" :=
    ⟨⟨true, "type"⟩, by decide, by decide, by decide, by decide⟩
  have hvalue : IsPath .ascii reservedWords "serde_json::Value" := by
    refine ⟨some ⟨false, "serde_json"⟩, [⟨false, "Value"⟩], by decide, .inl rfl, ?_, ?_⟩
    · rintro _ ⟨⟩
      exact .inl (hw _ (by decide))
    · simpa using .inl (hw "Value" (by decide))
  have h : IsNamed .ascii reservedWords deceptiveModel := by
    refine ⟨hid "shop" (by decide), ?_, ?_, ?_⟩
    · simpa [deceptiveModel] using
        ⟨hid "Date" (by decide), hid "Item" (by decide), hid "Kind" (by decide)⟩
    · simpa [deceptiveModel, Declaration.members] using
        ⟨⟨hraw, hid "notes" (by decide)⟩, hid "New" (by decide)⟩
    · simpa [deceptiveModel, Declaration.types, CodeType.base] using
        ⟨(hid "String" (by decide)).isPath, (hid "Kind" (by decide)).isPath, hvalue⟩
  exact ⟨h, read_withoutDocs_render .ascii reservedWords h⟩

theorem undocumented_eq_of_withoutDocs_eq {m n : Model} (hm : IsNamed a reserved m)
    (hn : IsNamed a reserved n) (h : withoutDocs m.render = withoutDocs n.render) :
    m.declarations.map Declaration.undocumented = n.declarations.map Declaration.undocumented := by
  obtain ⟨found, hread, hf, -⟩ := exists_restated hm
  obtain ⟨others, hread', ho, -⟩ := exists_restated hn
  refine undocumented_eq_of_restated hf ho ?_
  rw [h, hread'] at hread
  simpa using hread.symm

end Models

end GraphqlBindings.Code

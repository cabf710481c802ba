import GraphqlBindings.Proofs.Naming.Legal

/-! Splitting a name into words loses nothing but separators. The words of a field identifier are
those of its name in small letters, however they are split, so that it names itself. -/

namespace GraphqlBindings

namespace Text

structure IsSmallWord (word : List Char) : Prop where
  ne_nil : word ≠ []
  alnum : ∀ c ∈ word, IsAlnum c
  not_upper : ∀ c ∈ word, isAsciiUpper c = false

lemma toSmall_of_not_upper {c : Char} (h : IsAlnum c) (hu : isAsciiUpper c = false) :
    toSmall c = [c] := by
  rw [toSmall, if_pos (lt_of_alnum h), hu]
  rfl

lemma not_upper_of_mem_toSmall {c d : Char} (h : IsAlnum c) (hd : d ∈ toSmall c) :
    isAsciiUpper d = false := by
  have hc := lt_of_alnum h
  rw [toSmall, if_pos hc, List.mem_singleton] at hd
  subst hd
  split_ifs with hu
  · rw [isAsciiUpper_iff] at hu
    rw [← Bool.not_eq_true, isAsciiUpper_iff, toNat_ofNat_of_lt (by omega)]
    omega
  · exact Bool.not_eq_true _ ▸ hu

lemma smallFrom_eq_flatMap {cs : List Char} (h : ∀ c ∈ cs, IsAlnum c) (before : List Char) :
    smallFrom before cs = cs.flatMap toSmall := by
  induction cs generalizing before with
  | nil => rfl
  | cons c rest ih =>
    rw [List.forall_mem_cons] at h
    have hc : c ≠ 'Σ' := by
      rintro rfl
      exact absurd h.1 (by simp [isAlnum_iff])
    rw [smallFrom, if_neg hc, ih h.2, List.flatMap_cons]

lemma isSmallWord_toSmallWord {word : List Char} (hn : word ≠ []) (h : ∀ c ∈ word, IsAlnum c) :
    IsSmallWord (toSmallWord word) := by
  obtain ⟨hne, ha⟩ := toSmallWord_alnum hn h
  refine ⟨hne, ha, fun d hd => ?_⟩
  rw [toSmallWord, smallFrom_eq_flatMap h] at hd
  obtain ⟨c, hc, hd⟩ := List.mem_flatMap.mp hd
  exact not_upper_of_mem_toSmall (h c hc) hd

namespace IsSmallWord

variable {word : List Char} (h : IsSmallWord word)
include h

lemma toSmallWord_eq : toSmallWord word = word := by
  have hs : ∀ c ∈ word, toSmall c = [c] :=
    fun c hc => toSmall_of_not_upper (h.alnum c hc) (h.not_upper c hc)
  rw [toSmallWord, smallFrom_eq_flatMap h.alnum, List.flatMap_congr hs]
  exact List.flatMap_pure_eq_map id word |>.trans (List.map_id word)

lemma not_capital : ∀ c ∈ word, isCapital c = false := by
  intro c hc
  rw [isCapital, if_pos (lt_of_alnum (h.alnum c hc))]
  exact h.not_upper c hc

end IsSmallWord

end Text

open Text Code

namespace Naming

section Words

variable {n : Naming}

lemma splitSeparators_eq_splitOnP (cs : List Char) :
    splitSeparators cs = cs.splitOnP isSeparator := by
  induction cs with
  | nil => rfl
  | cons c rest ih =>
    rw [splitSeparators, List.splitOnP_cons_eq_if_modifyHead, ← ih]
    split_ifs
    · rfl
    · obtain ⟨piece, pieces, hs⟩ := exists_splitSeparators rest
      rw [hs]
      rfl

lemma words_eq (n : Naming) (name : String) :
    n.words name = (name.toList.splitOnP isSeparator).flatMap n.wordsOfPiece := by
  rw [words, splitSeparators_eq_splitOnP]

lemma words_of_underscore {name : String} {a b : List Char} (h : name.toList = a ++ '_' :: b) :
    n.words name = n.words (.ofList a) ++ n.words (.ofList b) := by
  rw [words_eq, words_eq, words_eq, h, List.splitOnP_append_cons a b rfl, List.flatMap_append,
    String.toList_ofList, String.toList_ofList]

lemma splitPiece_of_not_capital {cs : List Char} (h : ∀ c ∈ cs, isCapital c = false)
    (before : Char) : n.splitPiece before cs = [cs] := by
  induction cs generalizing before with
  | nil => rfl
  | cons c rest ih =>
    rw [List.forall_mem_cons] at h
    have hb : n.beginsWord before c rest.head? = false := by rw [beginsWord, h.1, Bool.false_and]
    rw [splitPiece, ih h.2]
    simp [hb]

lemma wordsOfPiece_small {word : List Char} (h : IsSmallWord word) :
    n.wordsOfPiece word = [word] := by
  obtain ⟨c, rest, rfl⟩ := List.exists_cons_of_ne_nil h.ne_nil
  have hrest : ∀ x ∈ rest, isCapital x = false :=
    fun x hx => h.not_capital x (List.mem_cons_of_mem c hx)
  rw [wordsOfPiece, splitPiece_of_not_capital hrest]
  split_ifs <;> rfl

lemma words_small {word : List Char} (h : IsSmallWord word) : n.words (.ofList word) = [word] := by
  have hs : ∀ c ∈ word, isSeparator c = false := by
    intro c hc
    have ha := h.alnum c hc
    rw [← Bool.not_eq_true, isSeparator, Bool.or_eq_true, beq_iff_eq, beq_iff_eq]
    rintro (rfl | rfl) <;> simp [isAlnum_iff] at ha
  rw [words_eq, String.toList_ofList, List.splitOnP_eq_singleton hs, List.flatMap_singleton,
    wordsOfPiece_small h]

lemma words_intercalate {ws : List (List Char)} (h : ∀ word ∈ ws, IsSmallWord word) :
    n.words (.ofList (['_'].intercalate ws)) = ws := by
  induction ws with
  | nil => rfl
  | cons word rest ih =>
    rw [List.forall_mem_cons] at h
    cases rest with
    | nil => simpa [List.intercalate] using words_small h.1
    | cons next more =>
      have hl : (String.ofList (['_'].intercalate (word :: next :: more))).toList =
          word ++ '_' :: ['_'].intercalate (next :: more) := by
        simp [List.intercalate]
      rw [words_of_underscore hl, words_small h.1, ih h.2]
      rfl

end Words

section Fields

variable {n : Naming} {us : List (List Char)}

lemma snake_of_words (h : ∀ word ∈ us, IsSmallWord word) {name : String} (hw : n.words name = us) :
    n.snake name = ['_'].intercalate us := by
  have hs : us.map toSmallWord = us.map id :=
    List.map_congr_left fun word hm => (h word hm).toSmallWord_eq
  rw [snake, hw, hs, List.map_id]

lemma exists_small_words (n : Naming) {name : String} (h : Language.IsName name) :
    ∃ us, us ≠ [] ∧ (∀ word ∈ us, IsSmallWord word) ∧
      orDefault (n.snake name) "field".toList =
        orDefault (['_'].intercalate us) "field".toList := by
  by_cases hn : n.words name = []
  · have hf : IsSmallWord "field".toList := ⟨by simp, by simp [isAlnum_iff], by simp [isAsciiUpper]⟩
    refine ⟨["field".toList], by simp, by simpa using hf, ?_⟩
    rw [snake, hn]
    rfl
  · refine ⟨(n.words name).map toSmallWord, by simpa using hn, ?_, rfl⟩
    intro word hm
    obtain ⟨original, ho, rfl⟩ := List.mem_map.mp hm
    obtain ⟨hne, ha⟩ := n.alnum_of_mem_words h ho
    exact isSmallWord_toSmallWord hne ha

lemma words_orDefault (hn : us ≠ []) (h : ∀ word ∈ us, IsSmallWord word) (default : List Char) :
    n.words (.ofList (orDefault (['_'].intercalate us) default)) = us := by
  have hw := words_intercalate (n := n) h
  cases hs : ['_'].intercalate us with
  | nil => exact absurd (hw.symm.trans (by rw [hs]; rfl)) hn
  | cons c rest =>
    rw [hs] at hw
    rw [orDefault]
    split_ifs with hd
    -- The underscore in front of a digit separates nothing from the first word.
    · have hl : (String.ofList ('_' :: c :: rest)).toList = [] ++ '_' :: c :: rest := by simp
      rw [words_of_underscore hl, hw]
      rfl
    · exact hw

lemma words_stripRawMark_escapeIdent {ident : String} (h : Alphabet.ascii.IsWord ident) :
    n.words (stripRawMark (escapeIdent ident)) = n.words ident := by
  rw [escapeIdent]
  split_ifs with hp hk
  · have hall : ∀ word ∈ pathWords, Alphabet.ascii.IsWord (word ++ "_") := by decide +kernel
    have hmarked := stripRawMark_text (w := ⟨false, ident ++ "_"⟩)
      (hall ident (List.contains_iff_mem.mp hp))
    have hl : (ident ++ "_").toList = ident.toList ++ '_' :: [] := by simp
    rw [show stripRawMark (ident ++ "_") = ident ++ "_" from hmarked, words_of_underscore hl,
      String.ofList_toList]
    exact List.append_nil _
  · exact congrArg n.words (stripRawMark_text (w := ⟨true, ident⟩) h)
  · exact congrArg n.words (stripRawMark_text (w := ⟨false, ident⟩) h)

lemma fieldIdent_again (m : Naming) {name : String} (h : Language.IsName name) :
    m.fieldIdent (stripRawMark (n.fieldIdent name)) = n.fieldIdent name := by
  obtain ⟨us, hn, hs, he⟩ := exists_small_words n h
  have hword := isWord_orDefault (n.joined_snake h) "field".toList (by decide) (by decide)
  rw [he] at hword
  have hw := words_stripRawMark_escapeIdent (n := m) (isWord_ofList hword).1
  rw [words_orDefault hn hs] at hw
  rw [fieldIdent, fieldIdent, he, snake_of_words hs hw]

end Fields

/-- The words of a name are not empty and have no underscore and no hyphen; put together they are
the name without those. The identifier of a field, taken as a name without its mark, is its own
identifier, whichever way acronyms are treated. -/
theorem words_lossless_stable (n : Naming) (name : String) :
    [] ∉ n.words name ∧ (∀ word ∈ n.words name, '_' ∉ word ∧ '-' ∉ word) ∧
      (n.words name).flatten = name.toList.filter (fun c => c ≠ '_' ∧ c ≠ '-') ∧
      (Language.IsName name → ∀ m : Naming,
        m.fieldIdent (stripRawMark (n.fieldIdent name)) = n.fieldIdent name) := by
  refine ⟨n.nil_notMem_words name, fun word hw => ?_, ?_, fun h m => fieldIdent_again m h⟩
  · have hsep : ∀ c, isSeparator c = true → c ∉ word :=
      fun c hc hm => absurd ((n.mem_word hw hm).2.symm.trans hc) Bool.false_ne_true
    exact ⟨hsep '_' rfl, hsep '-' rfl⟩
  · rw [n.flatten_words]
    refine List.filter_congr fun c _ => ?_
    rw [Bool.eq_iff_iff]
    simp [isSeparator]

theorem words_lossless_stable_reserved :
    ∀ name ∈ ["_Type", "SELF", "__2ndUserID"], Language.IsName name ∧
      (⟨false⟩ : Naming).fieldIdent (stripRawMark ((⟨true⟩ : Naming).fieldIdent name)) =
        (⟨true⟩ : Naming).fieldIdent name := by
  have h : ∀ name ∈ ["_Type", "SELF", "__2ndUserID"], Language.IsName name := by decide
  exact fun name hm =>
    ⟨h name hm, (words_lossless_stable ⟨true⟩ name).2.2.2 (h name hm) ⟨false⟩⟩

example : ["_Type", "SELF", "__2ndUserID"].map (⟨true⟩ : Naming).fieldIdent =
    ["r#type", "self_", "_2nd_user_id"] := by decide +kernel

end Naming

end GraphqlBindings

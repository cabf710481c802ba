import GraphqlBindings.Proofs.FileTree.Following

namespace GraphqlBindings.FileTree

open GraphqlBindings.Path

variable {t t' t'' : FileTree} {followLast : Bool} {here place q : Place}
  {path base name text : String} {paths : List String}

section Locate

lemma locate_mono (h : t.locate followLast here path = .ok place) (hx : t.Extends t') :
    t'.locate followLast here path = .ok place := by
  rw [locate] at h ⊢
  split at h
  · cases h
  · next hp => rw [if_neg hp, follow_mono h hx]

lemma locate_ok (h : t.locate true here path = .ok place) :
    t.HasParent place ∧ ∀ target, t.label? place ≠ some (.link target) := by
  rw [locate] at h
  split at h
  · cases h
  · next hp =>
    have hs : steps path ≠ [] := steps_ne_nil (by simpa using hp)
    exact ⟨hasParent_of_follow h (Or.inl hs), not_link_of_follow h hs⟩

lemma follow_steps_iff {links : Nat} (hd : t.label? place = some .directory) :
    t.follow true links here (steps path) = .ok place ↔
      ∃ left, t.Leads links here (names path) left place := by
  constructor
  · intro h
    obtain ⟨left, hl⟩ := (follow_cases h).resolve_right (by simp [hd])
    exact hl.of_steps
  · rintro ⟨left, h⟩
    rw [steps]
    split
    · rw [h.follow_append (Or.inl rfl), follow_dot hd, follow]
    · rw [List.append_nil, h.follow]

lemma locate_directory_iff (hd : t.label? place = some .directory) :
    t.locate true here path = .ok place ↔
      path ≠ "" ∧ ∃ left, t.Leads linkLimit (startOf here path) (names path) left place := by
  rw [locate]
  by_cases hp : path = ""
  · simp [hp]
  · simp [hp, follow_steps_iff hd]

lemma isDirectoryAt_iff : t.isDirectoryAt here path ↔
    ∃ place, t.locate true here path = .ok place ∧ t.label? place = some .directory := by
  rw [isDirectoryAt, find]
  cases h : t.locate true here path with
  | error f => simp [bind, Except.bind]
  | ok place =>
    cases hg : t.get? place with
    | none => simp [bind, Except.bind, hg, label?]
    | some node => cases node <;> simp [bind, Except.bind, hg, label?, label, isDirectory]

lemma isDirectoryAt_mono (h : t.isDirectoryAt here path) (hx : t.Extends t') :
    t'.isDirectoryAt here path := by
  obtain ⟨place, hl, hd⟩ := isDirectoryAt_iff.mp h
  exact isDirectoryAt_iff.mpr ⟨place, locate_mono hl hx, hx.directory _ hd⟩

end Locate

section Step

lemma writeText_cases (h : t.writeText here path text = .ok t') :
    ∃ place, t.locate true here path = .ok place ∧ t.HasParent place ∧
      (∀ node, t.get? place = some node → ∃ c, node = .file c) ∧
      t' = t.set (.file (.text text)) place := by
  rw [writeText] at h
  obtain ⟨place, hl, hw⟩ := bind_eq_ok.mp h
  obtain ⟨hp, hno⟩ := locate_ok hl
  refine ⟨place, hl, hp, fun node hn => ?_, ?_⟩
  · cases node with
    | file c => exact ⟨c, rfl⟩
    | link target => exact absurd (by simp [label?, hn, label]) (hno target)
    | directory entries => simp [hn] at hw
  · split at hw
    · cases hw
    · exact (Except.ok.inj hw).symm

lemma hasParent_of_follow_names {links : Nat}
    (h : t.follow followLast links (startOf here path) (names path) = .ok place) (hp : path ≠ "") :
    t.HasParent place := by
  refine hasParent_of_follow h ?_
  by_cases ha : isAbsolute path
  · simp [startOf, ha, hasParent_nil]
  · exact Or.inl (names_ne_nil hp (by simpa using ha))

lemma makeDirectory_cases (h : t.makeDirectory here path = .ok t') (hp : path ≠ "") :
    ∃ place, t.HasParent place ∧ t.get? place = none ∧ t' = t.set (.directory []) place ∧
      t'.locate true here path = .ok place := by
  rw [makeDirectory] at h
  obtain ⟨place, hf, hw⟩ := bind_eq_ok.mp h
  have hpar := hasParent_of_follow_names hf hp
  cases hg : t.get? place with
  | some node => simp [hg] at hw
  | none =>
    have ht : t' = t.set (.directory []) place := by simpa [hg] using hw.symm
    have hd : t'.label? place = some .directory := by
      rw [ht, label?, get?_set_self hpar]
      rfl
    have hx : t.Extends t' := ht ▸ extends_set_directory hpar hg
    refine ⟨place, hpar, hg, ht, (locate_directory_iff hd).mpr ⟨hp, ?_⟩⟩
    exact (follow_cases (follow_mono hf hx)).resolve_right (by simp [hd])

end Step

section Directories

/-- Nothing is new but directories at some of these paths. Where nothing is new below a place, all
is as it was. -/
structure Grown (here : Place) (paths : List String) (t t' : FileTree) : Prop where
  isExtended : t.Extends t'
  label? : ∀ q, t'.label? q = t.label? q ∨ t.label? q = none ∧ t'.label? q = some .directory ∧
    ∃ path ∈ paths, t'.locate true here path = .ok q
  get? : ∀ place, t.get? place ≠ none →
    (∀ q, place <+: q → t.label? q = none → t'.label? q = none) → t'.get? place = t.get? place
  linkless : ∀ place, t.LinklessAt place → t'.LinklessAt place

lemma Grown.refl : Grown here paths t t :=
  ⟨.refl t, fun _ => Or.inl rfl, fun _ _ _ => rfl, fun _ => id⟩

lemma Grown.trans (h : Grown here paths t t') (h' : Grown here paths t' t'') :
    Grown here paths t t'' where
  isExtended := h.isExtended.trans h'.isExtended
  label? q := by
    rcases h.label? q with hq | ⟨hn, hd, path, hm, hl⟩
    · simpa only [← hq] using h'.label? q
    · exact Or.inr ⟨hn, h'.isExtended.directory q hd, path, hm, locate_mono hl h'.isExtended⟩
  get? place hp hnone := by
    have h₁ : t'.get? place = t.get? place := h.get? place hp fun q hq hn =>
      h'.isExtended.of_none (hnone q hq hn)
    refine (h'.get? place (h₁ ▸ hp) fun q hq hn => ?_).trans h₁
    exact hnone q hq (h.isExtended.of_none hn)
  linkless place hp := h'.linkless place (h.linkless place hp)

lemma Grown.weaken {above : List String} (h : Grown here above t t') (hs : above ⊆ paths) :
    Grown here paths t t' where
  isExtended := h.isExtended
  label? q := (h.label? q).imp_right fun ⟨hn, hd, path, hm, hl⟩ => ⟨hn, hd, path, hs hm, hl⟩
  get? := h.get?
  linkless := h.linkless

lemma makeDirectory_grown (h : t.makeDirectory here path = .ok t') (hp : path ≠ "")
    (hm : path ∈ paths) : Grown here paths t t' := by
  obtain ⟨place, hpar, hn, rfl, hl⟩ := makeDirectory_cases h hp
  have hq (q) : (t.set (.directory []) place).label? q =
      if q = place then some .directory else t.label? q :=
    label?_set hpar isLeaf_empty fun node hnode => by simp [hn] at hnode
  have hold (node) (hnode : t.get? place = some node) : ∃ c, node = .file c := by
    simp [hn] at hnode
  refine ⟨extends_set_directory hpar hn, fun q => ?_, fun above ha hnone => ?_,
    fun above ha => ha.set hpar hold (.directory (by simp))⟩
  · by_cases he : q = place
    · subst he
      exact Or.inr ⟨label?_eq_none.mpr hn, by simp [hq], path, hm, hl⟩
    · exact Or.inl (by simp [hq, he])
  · refine get?_set_of_leaf hold ha fun hp => ?_
    simpa [hq] using hnone place hp (label?_eq_none.mpr hn)

lemma makeDirectory_isDirectoryAt (h : t.makeDirectory here path = .ok t') (hp : path ≠ "") :
    t'.isDirectoryAt here path := by
  obtain ⟨place, hpar, hn, rfl, hl⟩ := makeDirectory_cases h hp
  exact isDirectoryAt_iff.mpr ⟨place, hl, by rw [FileTree.label?, get?_set_self hpar]; rfl⟩

lemma orDirectory_snd {f : Fault} : (t.orDirectory here path f).2 = t := by
  rw [orDirectory]
  split <;> rfl

lemma orDirectory_ok {f : Fault} (h : t.orDirectory here path f = (.ok (), t')) :
    t' = t ∧ t.isDirectoryAt here path := by
  rw [orDirectory] at h
  split at h
  · next hd => exact ⟨(Prod.ext_iff.mp h).2.symm, hd⟩
  · simp at h

lemma makeFirst_grown {r : Except Fault Unit} (hp : ∀ path ∈ paths, path ≠ "")
    (h : t.makeFirst here paths = (r, t')) : Grown here paths t t' := by
  induction paths generalizing t t' r with
  | nil =>
    cases h
    exact .refl
  | cons path above ih =>
    have hpath := hp path (by simp)
    rw [makeFirst] at h
    split at h
    · next t₁ hmade =>
      cases h
      exact makeDirectory_grown hmade hpath (by simp)
    · have habove (t₁ : FileTree) (r : Except Fault Unit) (h : t.makeFirst here above = (r, t₁)) :
          Grown here (path :: above) t t₁ :=
        (ih (fun p hm => hp p (by simp [hm])) h).weaken (by simp)
      split at h
      · next f t₁ h₁ =>
        cases h
        exact habove _ _ h₁
      · next t₁ h₁ =>
        split at h
        · next t₂ h₂ =>
          cases h
          exact (habove _ _ h₁).trans (makeDirectory_grown h₂ hpath (by simp))
        · obtain rfl : t₁ = t' := orDirectory_snd.symm.trans (congrArg Prod.snd h)
          exact habove _ _ h₁
    · obtain rfl : t = t' := orDirectory_snd.symm.trans (congrArg Prod.snd h)
      exact .refl

lemma makeFirst_ok {above : List String} (hp : path ≠ "")
    (h : t.makeFirst here (path :: above) = (.ok (), t')) : t'.isDirectoryAt here path := by
  rw [makeFirst] at h
  split at h
  · next h₁ =>
    cases h
    exact makeDirectory_isDirectoryAt h₁ hp
  · split at h
    · simp at h
    · split at h
      · next h₂ =>
        cases h
        exact makeDirectory_isDirectoryAt h₂ hp
      · obtain ⟨rfl, hd⟩ := orDirectory_ok h
        exact hd
  · obtain ⟨rfl, hd⟩ := orDirectory_ok h
    exact hd

theorem makeDirectories_grown {r : Except Fault Unit} (h : t.makeDirectories here path = (r, t')) :
    Grown here (ancestors path) t t' :=
  makeFirst_grown (fun _ => ne_empty_of_mem_ancestors) h

theorem makeDirectories_ok (h : t.makeDirectories here path = (.ok (), t')) (hp : path ≠ "") :
    t'.isDirectoryAt here path := by
  obtain ⟨above, ha⟩ := ancestors_of_ne hp
  rw [makeDirectories, ha] at h
  exact makeFirst_ok hp h

end Directories

section Files

lemma exists_locate_join (hb : t.isDirectoryAt here base) :
    ∃ links d, t.label? d = some .directory ∧ ∀ followLast name, IsName name →
      t.locate followLast here (join base name) = t.follow followLast links d [name] := by
  obtain ⟨d, hd, hl⟩ := isDirectoryAt_iff.mp hb
  obtain ⟨he, left, hw⟩ := (locate_directory_iff hl).mp hd
  refine ⟨left, d, hl, fun followLast name hn => ?_⟩
  rw [locate, if_neg (by simpa using join_ne_empty hn), steps_join he hn, startOf_join he hn,
    hw.follow_append (Or.inr (by simp))]

lemma exists_locate_join_of_or (hb : base = "" ∨ t.isDirectoryAt here base) :
    ∃ links d, ∀ followLast name, IsName name →
      t.locate followLast here (join base name) = t.follow followLast links d [name] := by
  rcases hb with rfl | hb
  · refine ⟨linkLimit, here, fun followLast name hn => ?_⟩
    rw [locate, if_neg (by simpa using join_ne_empty hn), join_of_empty, steps_of_isName hn,
      startOf_of_isName hn]
  · obtain ⟨links, d, -, h⟩ := exists_locate_join hb
    exact ⟨links, d, h⟩

lemma follow_name_eq {links : Nat} (hn : IsName name)
    (h : t.follow true links here [name] = .ok place)
    (hno : ∀ target, t.label? (here ++ [name]) ≠ some (.link target)) : place = here ++ [name] := by
  have hd := label?_of_follow_cons h
  exact Except.ok.inj (h.symm.trans (follow_name hd hn.2.2.1 hn.2.2.2 fun _ => hno))

lemma readText_eq (h : t.locate true here path = .ok place)
    (hl : t.label? place = some (.file (.text text))) : t.readText here path = .ok text := by
  obtain ⟨node, hn, hk⟩ := Option.map_eq_some_iff.mp hl
  cases node <;> simp [label] at hk
  simp [readText, find, h, hn, hk, bind, Except.bind]

lemma readText_ok (h : t.readText here path = .ok text) :
    ∃ place, t.locate true here path = .ok place ∧ t.get? place = some (.file (.text text)) := by
  obtain ⟨⟨place, node⟩, hf, hn⟩ := bind_eq_ok.mp h
  obtain ⟨hl, hg⟩ := find_eq_ok.mp hf
  refine ⟨place, hl, ?_⟩
  split at hn <;> simp_all

inductive Writes (here : Place) (root : String) :
    List (String × String) → FileTree → FileTree → Prop
  | nil {t : FileTree} : Writes here root [] t t
  | cons {name text : String} {rest : List (String × String)} {t t' t'' : FileTree} :
      t.writeText here (join root name) text = .ok t' → Writes here root rest t' t'' →
      Writes here root ((name, text) :: rest) t t''

variable {root : String} {files : List (String × String)}

lemma label?_writeText (h : t.writeText here path text = .ok t') :
    ∃ place, t'.locate true here path = .ok place ∧ t.Extends t' ∧
      ∀ q, t'.label? q = if q = place then some (.file (.text text)) else t.label? q := by
  obtain ⟨place, hl, hpar, hold, rfl⟩ := writeText_cases h
  have hx : t.Extends (t.set (.file (.text text)) place) := extends_set_file hpar hold
  refine ⟨place, locate_mono hl hx, hx, fun q => label?_set hpar (isLeaf_file _) fun node hn => ?_⟩
  obtain ⟨c, rfl⟩ := hold node hn
  exact isLeaf_file c

lemma Writes.isExtended (h : Writes here root files t t') : t.Extends t' := by
  induction h with
  | nil => exact .refl _
  | cons hw _ ih =>
    obtain ⟨-, -, hx, -⟩ := label?_writeText hw
    exact hx.trans ih

lemma Writes.label? (h : Writes here root files t t') (q : Place) :
    t'.label? q = t.label? q ∨ ∃ f ∈ files, t'.locate true here (join root f.1) = .ok q := by
  induction h with
  | nil => exact Or.inl rfl
  | cons hw hr ih =>
    obtain ⟨place, hl, -, hq⟩ := label?_writeText hw
    -- the place of this file is given by the tree before, and stays to the end
    rcases ih with ih | ⟨f, hf, hfl⟩
    · by_cases he : q = place
      · exact Or.inr ⟨_, List.mem_cons_self, he ▸ locate_mono hl hr.isExtended⟩
      · exact Or.inl (ih.trans (by simp [hq, he]))
    · exact Or.inr ⟨f, List.mem_cons_of_mem _ hf, hfl⟩

lemma Writes.get? (h : Writes here root files t t') (hp : t.get? place ≠ none)
    (hq : ∀ f ∈ files, ∀ q, t'.locate true here (join root f.1) = .ok q → ¬ place <+: q) :
    t'.get? place = t.get? place := by
  induction h with
  | nil => rfl
  | @cons name text rest t t₁ t' hw hr ih =>
    obtain ⟨q, hl, hpar, hold, rfl⟩ := writeText_cases hw
    have hl' := locate_mono hl ((extends_set_file hpar hold).trans hr.isExtended)
    have h₁ : (t.set (.file (.text text)) q).get? place = t.get? place :=
      get?_set_of_leaf hold hp (hq _ List.mem_cons_self q hl')
    rw [← h₁] at hp
    exact (ih hp fun f hf => hq f (List.mem_cons_of_mem _ hf)).trans h₁

lemma Writes.linkless (h : Writes here root files t t') (hp : t.LinklessAt place) :
    t'.LinklessAt place := by
  induction h with
  | nil => exact hp
  | cons hw _ ih =>
    obtain ⟨q, -, hpar, hold, rfl⟩ := writeText_cases hw
    exact ih (hp.set hpar hold (.file _))

lemma Writes.readText (h : Writes here root files t t')
    (hne : files.Pairwise fun f g => ∀ place, t'.locate true here (join root f.1) = .ok place →
      t'.locate true here (join root g.1) ≠ .ok place) :
    ∀ f ∈ files, t'.readText here (join root f.1) = .ok f.2 := by
  induction h with
  | nil => simp
  | cons hw hr ih =>
    obtain ⟨hfirst, hrest⟩ := List.pairwise_cons.mp hne
    rintro f hf
    rcases List.mem_cons.mp hf with rfl | hf
    · obtain ⟨place, hl, -, hq⟩ := label?_writeText hw
      have hl' := locate_mono hl hr.isExtended
      refine readText_eq hl' ?_
      rcases hr.label? place with h | ⟨g, hg, hgl⟩
      · rw [h, hq, if_pos rfl]
      · exact absurd hgl (hfirst g hg place hl')
    · exact ih hrest f hf

theorem exists_writes (hd : t.isDirectoryAt here root) (hn : ∀ f ∈ files, IsName f.1)
    (hfree : ∀ f ∈ files, ∀ q k, t.locate false here (join root f.1) = .ok q →
      t.label? q = some k → ∃ c, k = .file c) : ∃ t', Writes here root files t t' := by
  induction files generalizing t with
  | nil => exact ⟨t, .nil⟩
  | cons f rest ih =>
    obtain ⟨name, text⟩ := f
    obtain ⟨links, d, hdir, hl⟩ := exists_locate_join hd
    have hlocate {n : String} (hn : IsName n) :
        t.locate false here (join root n) = .ok (d ++ [n]) := by
      rw [hl false n hn]
      exact follow_name hdir hn.2.2.1 hn.2.2.2 (by simp)
    have hname : IsName name := hn (name, text) (by simp)
    have hfile {k : Label} (hk : t.label? (d ++ [name]) = some k) : ∃ c, k = .file c :=
      hfree (name, text) (by simp) _ k (hlocate hname) hk
    have hplace : t.locate true here (join root name) = .ok (d ++ [name]) := by
      rw [hl true name hname]
      refine follow_name hdir hname.2.2.1 hname.2.2.2 fun _ target ht => ?_
      obtain ⟨c, hc⟩ := hfile ht
      cases hc
    have hw : t.writeText here (join root name) text =
        .ok (t.set (.file (.text text)) (d ++ [name])) := by
      rw [writeText, hplace]
      cases hg : t.get? (d ++ [name]) with
      | none => simp [hg, bind, Except.bind]
      | some node =>
        obtain ⟨c, hc⟩ := hfile (k := node.label) (by simp [label?, hg])
        cases node <;> simp [label] at hc
        simp [hg, bind, Except.bind]
    obtain ⟨place, -, hx, hq⟩ := label?_writeText hw
    -- what is in the way of the others was there before, or it is the file
    have hrest : ∃ t', Writes here root rest (t.set (.file (.text text)) (d ++ [name])) t' := by
      refine ih (isDirectoryAt_mono hd hx) (fun g hg => hn g (by simp [hg]))
        fun g hg q k hql hk => ?_
      have hold := hlocate (hn g (by simp [hg]))
      rw [locate_mono hold hx] at hql
      rw [hq] at hk
      split at hk
      · cases hk
        exact ⟨_, rfl⟩
      · exact hfree g (by simp [hg]) q k (hql ▸ hold) hk
    obtain ⟨t', hr⟩ := hrest
    exact ⟨t', .cons hw hr⟩

lemma Writes.isDirectoryAt (hd : t.makeDirectories here root = (.ok (), t'))
    (h : Writes here root files t' t'') : root = "" ∨ t''.isDirectoryAt here root := by
  by_cases hr : root = ""
  · exact Or.inl hr
  · exact Or.inr (isDirectoryAt_mono (makeDirectories_ok hd hr) h.isExtended)

end Files

end GraphqlBindings.FileTree

import GraphqlBindings.Proofs.FileTree.Walked

/-! The order in which directories are listed. No path leads elsewhere for it, nothing else is read,
and what is written stands at the same places afterwards. -/

namespace GraphqlBindings.FileTree

open GraphqlBindings.Path

inductive Relisted : FileTree → FileTree → Prop
  | file (contents : Contents) : Relisted (.file contents) (.file contents)
  | link (target : String) : Relisted (.link target) (.link target)
  | directory {entries entries' : List (String × FileTree)} :
      (entries.map Prod.fst).Perm (entries'.map Prod.fst) →
      (∀ name node node', (name, node) ∈ entries → (name, node') ∈ entries' →
        Relisted node node') →
      Relisted (.directory entries) (.directory entries')

def SameNodes (t t' : FileTree) : Prop := ∀ place, t'.label? place = t.label? place

section Listing

variable {t t' : FileTree}

lemma WellNamed.relisted (hw : t.WellNamed) : t.Relisted t := by
  induction hw with
  | file c => exact .file c
  | link target => exact .link target
  | @directory entries hd _ _ ih =>
    refine .directory (.refl _) fun name node node' h h' => ?_
    obtain rfl : node = node' := by
      have hl := (mem_iff_lookup hd).mp h
      rw [(mem_iff_lookup hd).mp h'] at hl
      exact (Option.some.inj hl).symm
    exact ih _ h

lemma Relisted.wellNamed (h : t.Relisted t') (hw : t.WellNamed) : t'.WellNamed := by
  induction h with
  | file c => exact hw
  | link target => exact hw
  | @directory entries entries' hp _ ih =>
    cases hw with
    | directory hd hn hall =>
      have hmem (e) (he : e ∈ entries') : ∃ node, (e.1, node) ∈ entries := by
        have hk : e.1 ∈ entries.map Prod.fst := hp.mem_iff.mpr (List.mem_map_of_mem he)
        simpa using hk
      refine .directory (hp.nodup_iff.mp hd) (fun e he => ?_) fun e he => ?_
      · obtain ⟨node, hm⟩ := hmem e he
        exact hn (e.1, node) hm
      · obtain ⟨node, hm⟩ := hmem e he
        exact ih e.1 node e.2 hm he (hall _ hm)

lemma Relisted.sameNodes (h : t.Relisted t') (hw : t.WellNamed) : t.SameNodes t' := by
  intro place
  induction h generalizing place with
  | file c => rfl
  | link target => rfl
  | @directory entries entries' hp hr ih =>
    cases hw with
    | directory hd hn hall =>
      cases place with
      | nil => rfl
      | cons name rest =>
        rw [label?, label?, get?_cons, get?_cons, entry?_directory, entry?_directory]
        cases hl : entries.lookup name with
        | none =>
          have hk : name ∉ entries.map Prod.fst := by
            rintro hk
            obtain ⟨e, he, rfl⟩ := List.mem_map.mp hk
            rw [(mem_iff_lookup hd).mp he] at hl
            cases hl
          rw [lookup_eq_none_of_not_mem (hp.mem_iff.not.mp hk)]
        | some node =>
          have hm : (name, node) ∈ entries := (mem_iff_lookup hd).mpr hl
          obtain ⟨e, he, hname⟩ := List.mem_map.mp (hp.mem_iff.mp (List.mem_map_of_mem hm))
          obtain rfl : e.1 = name := hname
          rw [(mem_iff_lookup (hp.nodup_iff.mp hd)).mp he]
          exact ih e.1 node e.2 hm he (hall _ hm) rest

end Listing

section Faults

variable {t : FileTree} {followLast : Bool} {links : Nat} {here : Place} {rest : List String}
  {name : String}

lemma follow_outside (hd : t.label? here ≠ some .directory) :
    t.follow followLast links here (name :: rest) = .error .notDirectory := by
  rw [follow]
  split
  · next he => exact absurd (label?_directory he) hd
  · rfl

variable (hd : t.label? here = some .directory) (h1 : name ≠ ".") (h2 : name ≠ "..")
include hd h1 h2

lemma follow_missing (hn : t.label? (here ++ [name]) = none) (hr : rest ≠ []) :
    t.follow followLast links here (name :: rest) = .error .missing := by
  obtain ⟨entries, he⟩ := label?_eq_directory.mp hd
  rw [label?_eq_none, get?_concat he] at hn
  rw [follow]
  simp [he, h1, h2, hn, hr]

lemma follow_tooManyLinks {target : String}
    (hl : t.label? (here ++ [name]) = some (.link target)) (hr : followLast ∨ rest ≠ []) :
    t.follow followLast 0 here (name :: rest) = .error .tooManyLinks := by
  obtain ⟨entries, he⟩ := label?_eq_directory.mp hd
  obtain ⟨node, hn, hk⟩ := Option.map_eq_some_iff.mp hl
  rw [get?_concat he] at hn
  cases node <;> simp [label] at hk
  have hlast : ¬ (rest.isEmpty ∧ !followLast) := by
    rcases hr with h | h <;> simp [h]
  rw [follow]
  simp only [he, h1, h2, hn, if_false, if_neg hlast]

end Faults

section Same

variable {t t' node : FileTree} {followLast : Bool} {links : Nat} {here place : Place}
  {names : List String} {path text : String}

lemma SameNodes.symm (h : t.SameNodes t') : t'.SameNodes t := fun place => (h place).symm

lemma SameNodes.follow (h : t.SameNodes t') :
    t'.follow followLast links here names = t.follow followLast links here names := by
  -- each branch is chosen by what stands at the next place, and that is the same in both trees
  fun_induction FileTree.follow t followLast links here names with
  | case1 => rw [FileTree.follow]
  | case2 links here rest entries he ih =>
    rw [follow_dot ((h here).trans (label?_directory he)), ih]
  | case3 links here rest entries he _ ih =>
    rw [follow_up ((h here).trans (label?_directory he)), ih]
  | case4 links here name rest entries he h1 h2 hn hr =>
    rw [List.isEmpty_iff.mp hr]
    refine follow_last ((h here).trans (label?_directory he)) h1 h2 ?_
    simp [h _, label?_concat he, hn]
  | case5 links here name rest entries he h1 h2 hn hr =>
    refine follow_missing ((h here).trans (label?_directory he)) h1 h2 ?_ (by simpa using hr)
    simp [h _, label?_concat he, hn]
  | case6 links here name rest entries he h1 h2 target hl hr =>
    rw [List.isEmpty_iff.mp hr.1, show followLast = false by simpa using hr.2]
    have hk : t'.label? (here ++ [name]) = some (.link target) := by
      simp [h _, label?_concat he, hl, label]
    exact follow_last_link ((h here).trans (label?_directory he)) h1 h2 hk
  | case7 here name rest entries he h1 h2 target hl hr =>
    have hk : t'.label? (here ++ [name]) = some (.link target) := by
      simp [h _, label?_concat he, hl, label]
    have hr' : followLast ∨ rest ≠ [] := by
      cases followLast <;> simp_all [List.isEmpty_iff]
    exact follow_tooManyLinks ((h here).trans (label?_directory he)) h1 h2 hk hr'
  | case8 here name rest entries he h1 h2 target hl hr links ih =>
    have hk : t'.label? (here ++ [name]) = some (.link target) := by
      simp [h _, label?_concat he, hl, label]
    have hr' : followLast ∨ rest ≠ [] := by
      cases followLast <;> simp_all [List.isEmpty_iff]
    rw [follow_link ((h here).trans (label?_directory he)) h1 h2 hk hr', ih]
  | case9 links here name rest entries he h1 h2 node hn hl ih =>
    have hk : t'.label? (here ++ [name]) = some node.label := by
      simp [h _, label?_concat he, hl]
    rw [follow_entry ((h here).trans (label?_directory he)) h1 h2 hk ?_, ih]
    intro target ht
    cases node <;> simp [label] at ht
    exact hn _ rfl
  | case10 links here name rest hn =>
    refine follow_outside fun hd => ?_
    obtain ⟨entries, he⟩ := label?_eq_directory.mp ((h here).symm.trans hd)
    exact hn entries he

lemma SameNodes.locate (h : t.SameNodes t') :
    t'.locate followLast here path = t.locate followLast here path := by
  rw [FileTree.locate, FileTree.locate, h.follow]

lemma readText_eq_label : t.readText here path = (t.locate true here path).bind fun place =>
    match t.label? place with
    | some (.file (.text text)) => .ok text
    | some (.file (.bytes _)) => .error .notText
    | some .directory => .error .isDirectory
    | some (.link _) => .error .tooManyLinks
    | none => .error .missing := by
  rw [readText, find]
  cases t.locate true here path with
  | error f => rfl
  | ok place =>
    simp only [bind, Except.bind, label?]
    rcases t.get? place with _ | (_ | _) | _ | _ <;> rfl

lemma SameNodes.readText (h : t.SameNodes t') : t'.readText here path = t.readText here path := by
  simp only [readText_eq_label, h.locate, h _]

lemma SameNodes.isDirectoryAt (h : t.SameNodes t') :
    t'.isDirectoryAt here path = t.isDirectoryAt here path := by
  rw [Bool.eq_iff_iff, isDirectoryAt_iff, isDirectoryAt_iff]
  simp only [h.locate, h _]

inductive SameResult : Except Fault FileTree → Except Fault FileTree → Prop
  | ok {t t' : FileTree} : t.SameNodes t' → SameResult (.ok t) (.ok t')
  | error (f : Fault) : SameResult (.error f) (.error f)

lemma SameNodes.set (h : t.SameNodes t') (hp : t.HasParent place) (hn : node.IsLeaf)
    (hd : t.label? place ≠ some .directory) :
    (t.set node place).SameNodes (t'.set node place) := by
  have hold (u : FileTree) (hu : u.label? place ≠ some .directory) (old : FileTree)
      (ho : u.get? place = some old) : old.IsLeaf := by
    cases old with
    | directory entries => exact absurd (label?_directory ho) hu
    | _ => exact fun _ => rfl
  have hp' : t'.HasParent place := fun d name he => (h d).trans (hp d name he)
  intro q
  rw [label?_set hp' hn (hold t' (by rwa [h place])), label?_set hp hn (hold t hd), h q]

lemma writeText_eq_label : t.writeText here path text =
    (t.locate true here path).bind fun place =>
      if t.label? place = some .directory then .error .isDirectory
      else .ok (t.set (.file (.text text)) place) := by
  rw [writeText]
  cases t.locate true here path with
  | error f => rfl
  | ok place =>
    simp only [bind, Except.bind]
    split
    · next he => rw [if_pos (label?_directory he)]
    · next hno =>
      rw [if_neg]
      intro hd
      obtain ⟨entries, he⟩ := label?_eq_directory.mp hd
      exact hno entries he

lemma makeDirectory_eq_label : t.makeDirectory here path =
    (t.follow false linkLimit (startOf here path) (Path.names path)).bind fun place =>
      if t.label? place = none then .ok (t.set (.directory []) place) else .error .existing := by
  rw [makeDirectory]
  cases t.follow false linkLimit (startOf here path) (Path.names path) with
  | error f => rfl
  | ok place =>
    simp only [bind, Except.bind]
    split
    · next node hg => rw [if_neg (by simp [label?, hg])]
    · next hg => rw [if_pos (label?_eq_none.mpr hg)]

lemma SameNodes.writeText (h : t.SameNodes t') :
    SameResult (t.writeText here path text) (t'.writeText here path text) := by
  rw [writeText_eq_label, writeText_eq_label, h.locate]
  cases hl : t.locate true here path with
  | error f => exact .error f
  | ok place =>
    simp only [Except.bind, h place]
    split
    · exact .error _
    · next hd => exact .ok (h.set (locate_ok hl).1 (isLeaf_file _) hd)

lemma SameNodes.makeDirectory (h : t.SameNodes t') (hp : path ≠ "") :
    SameResult (t.makeDirectory here path) (t'.makeDirectory here path) := by
  rw [makeDirectory_eq_label, makeDirectory_eq_label, h.follow]
  cases hf : t.follow false linkLimit (startOf here path) (Path.names path) with
  | error f => exact .error f
  | ok place =>
    simp only [Except.bind, h place]
    split
    · next hn =>
      exact .ok (h.set (hasParent_of_follow_names hf hp) isLeaf_empty (by simp [hn]))
    · exact .error _

lemma SameNodes.orDirectory (h : t.SameNodes t') (f : Fault) :
    (t'.orDirectory here path f).1 = (t.orDirectory here path f).1 ∧
      (t.orDirectory here path f).2.SameNodes (t'.orDirectory here path f).2 := by
  rw [FileTree.orDirectory, FileTree.orDirectory, h.isDirectoryAt]
  split
  · exact ⟨rfl, h⟩
  · exact ⟨rfl, h⟩

lemma SameNodes.makeFirst {paths : List String} (h : t.SameNodes t')
    (hp : ∀ path ∈ paths, path ≠ "") :
    (t'.makeFirst here paths).1 = (t.makeFirst here paths).1 ∧
      (t.makeFirst here paths).2.SameNodes (t'.makeFirst here paths).2 := by
  induction paths generalizing t t' with
  | nil => exact ⟨rfl, h⟩
  | cons path above ih =>
    obtain ⟨hpath, habove⟩ := List.forall_mem_cons.mp hp
    rw [FileTree.makeFirst, FileTree.makeFirst]
    have hsame : SameResult (t.makeDirectory here path) (t'.makeDirectory here path) :=
      h.makeDirectory hpath
    generalize t.makeDirectory here path = r, t'.makeDirectory here path = r' at hsame ⊢
    cases hsame with
    | ok hu => exact ⟨rfl, hu⟩
    | error f =>
      cases f with
      | missing =>
        -- the directories above come first, then the same one is tried again
        have hfirst := ih h habove
        generalize t.makeFirst here above = made, t'.makeFirst here above = made' at hfirst ⊢
        obtain ⟨r, u⟩ := made
        obtain ⟨r', u'⟩ := made'
        obtain ⟨hr, hu⟩ := hfirst
        obtain rfl : r' = r := hr
        cases r' with
        | error f => exact ⟨rfl, hu⟩
        | ok _ =>
          have hsame : SameResult (u.makeDirectory here path) (u'.makeDirectory here path) :=
            SameNodes.makeDirectory hu hpath
          dsimp only
          generalize u.makeDirectory here path = r, u'.makeDirectory here path = r' at hsame ⊢
          cases hsame with
          | ok hv => exact ⟨rfl, hv⟩
          | error f => exact SameNodes.orDirectory hu f
      | _ => exact h.orDirectory _

theorem SameNodes.makeDirectories (h : t.SameNodes t') :
    (t'.makeDirectories here path).1 = (t.makeDirectories here path).1 ∧
      (t.makeDirectories here path).2.SameNodes (t'.makeDirectories here path).2 :=
  h.makeFirst fun _ => ne_empty_of_mem_ancestors

end Same

section Walk

variable {t t' : FileTree} {here : Place} {root path : String}

lemma SameNodes.standsAt (h : t.SameNodes t') : StandsAt t' here = StandsAt t here := by
  funext path place k
  refine propext ⟨fun ⟨hl, hk⟩ => ⟨h.locate ▸ hl, h place ▸ hk⟩, fun ⟨hl, hk⟩ => ⟨?_, ?_⟩⟩
  · rw [h.locate, hl]
  · rw [h, hk]

lemma SameNodes.entry (h : t.SameNodes t') : Entry t' here = Entry t here := by
  have key {t t' : FileTree} (h : t.SameNodes t') {path path' : String}
      (he : Entry t here path path') : Entry t' here path path' := by
    obtain ⟨hs, hk⟩ := he
    exact .intro (h.standsAt ▸ hs) (by rwa [h])
  funext path path'
  exact propext ⟨key h.symm, key h⟩

lemma SameNodes.followable (h : t.SameNodes t') (hf : Followable t here root) :
    Followable t' here root := by
  intro path hb
  rw [Below, h.entry] at hb
  rw [h.standsAt]
  exact hf path hb

lemma SameNodes.acyclic (h : t.SameNodes t') (ha : Acyclic t here root) :
    Acyclic t' here root := by
  intro path inner place hb
  rw [Below, h.entry] at hb
  rw [h.entry, h.standsAt]
  exact ha path inner place hb

lemma SameNodes.isFileBelow (h : t.SameNodes t') :
    IsFileBelow t' here root path ↔ IsFileBelow t here root path := by
  rw [IsFileBelow, IsFileBelow, Below, Below, h.entry, h.standsAt]

end Walk

end GraphqlBindings.FileTree

import GraphqlBindings.Proofs.FileTree.Overwriting
import GraphqlBindings.Proofs.FileTree.Linkless
import GraphqlBindings.Proofs.Sdl.Disjoint
import GraphqlBindings.Proofs.Service.History

/-! Running a service again: with the same schema and the same documents it writes what is there. -/

namespace GraphqlBindings.Service

open FileTree (Writes)

variable {p : Project} {s : Service} {schema : Schema} {raw : Json} {w w' : World}
  {root : String} {files : List (String × String)} {output : Output} {t t' : FileTree}
  {here : FileTree.Place}

structure SameDocuments (t t' : FileTree) (here : FileTree.Place) (root : String) : Prop where
  paths : (t'.filesBelow here root).map documentPaths = (t.filesBelow here root).map documentPaths
  texts : ∀ files, t.filesBelow here root = .ok files →
    ∀ path ∈ documentPaths files, t'.readText here path = t.readText here path

lemma SameDocuments.operations (h : SameDocuments t t' here root) :
    t'.operations here schema root = t.operations here schema root := by
  have hp := h.paths
  rw [FileTree.operations, FileTree.operations]
  cases hf : t.filesBelow here root with
  | error e =>
    cases hf' : t'.filesBelow here root with
    | error e' =>
      rw [hf, hf'] at hp
      cases hp
      rfl
    | ok files' => simp [hf, hf', Except.map] at hp
  | ok files =>
    cases hf' : t'.filesBelow here root with
    | error e' => simp [hf, hf', Except.map] at hp
    | ok files' =>
      have hsame : documentPaths files' = documentPaths files := by
        simpa [hf, hf', Except.map] using hp
      have hread : ∀ path ∈ documentPaths files,
          t'.operationsAt here schema path = t.operationsAt here schema path := by
        intro path hm
        rw [FileTree.operationsAt, FileTree.operationsAt, h.texts files hf path hm]
      simp only [Except.mapError, bind, Except.bind, hsame, mapM_congr hread]

lemma documentPaths_subset {files : List String} : documentPaths files ⊆ files := by
  intro path h
  rw [documentPaths, List.mem_mergeSort] at h
  exact (List.mem_filter.mp h).1

lemma sameDocuments_of_linkless {place : FileTree.Place} {node : FileTree}
    (hf : t.find false here root = .ok (place, node)) (hp : node.Linkless) (hn : node.Named)
    (hx : t.Extends t') (hkeep : t'.get? place = some node) : SameDocuments t t' here root where
  paths := by
    have hf' : t'.find false here root = .ok (place, node) :=
      FileTree.find_eq_ok.mpr ⟨FileTree.locate_mono (FileTree.find_eq_ok.mp hf).1 hx, hkeep⟩
    rw [FileTree.filesBelow_linkless hf hp, FileTree.filesBelow_linkless hf' hp]
  texts files hfiles path hm := by
    rw [FileTree.filesBelow_linkless hf hp] at hfiles
    cases hfiles
    obtain ⟨names, hnames, rfl⟩ := FileTree.exists_joinAll hn path (documentPaths_subset hm)
    exact FileTree.readText_joinAll hf hp hx hkeep hnames

/-- A world in which nothing has happened since a run, and in which the schema is delivered as it
was before the run. -/
structure Unchanged (s : Service) (w w' w₂ : World) : Prop where
  files : w₂.files = w'.files
  directory : w₂.directory = w.directory
  patience : w₂.patience = none
  schema : (w₂.outcome (loadSchema World.workspace s)).1 =
    (w.outcome (loadSchema World.workspace s)).1

structure Repetition (p : Project) (s : Service) (generated : Generated) (w w' w₂ : World)
    (schema : Schema) (raw : Json) (output : Output) (t : FileTree) (v : World) : Prop where
  generated : generated = ⟨s.name, output.operations, output.declarations,
    output.files.map fun f => Path.join s.client f.1⟩
  prepared : s.prepared p schema raw w.files w.directory = .ok output
  made : w.files.makeDirectories w.directory s.client = (.ok (), t)
  written : Writes w.directory s.client output.files t w'.files
  outcome : w₂.outcome (run World.workspace p s) =
    v.outcome (generate World.workspace p s schema raw)
  files : v.files = w'.files
  directory : v.directory = w.directory
  patience : v.patience = none

variable {generated : Generated} {w₂ : World}

lemma exists_repetition (h : w.outcome (run World.workspace p s) = (.ok generated, w'))
    (hu : Unchanged s w w' w₂) :
    ∃ schema raw output t v, Repetition p s generated w w' w₂ schema raw output t v := by
  obtain ⟨schema, raw, output, t, hl, hp, hd, hw, -, hr⟩ := run_ok h
  obtain ⟨loaded, sent, hloaded⟩ := outcome_loadSchema s
  have hl₂ : w₂.outcome (loadSchema World.workspace s) =
      (.ok (schema, raw), { w₂ with sent := sent w₂.sent }) := by
    have hs := hu.schema
    rw [hl, hloaded] at hs
    exact (hloaded w₂).trans (congrArg (·, _) hs)
  exact ⟨schema, raw, output, t, { w₂ with sent := sent w₂.sent }, hr, hp, hd, hw,
    outcome_run_of_load hu.patience hl₂, hu.files, hu.directory, hu.patience⟩

/-- A service that succeeded succeeds again, and changes no file, if it finds the same schema and
the same documents. -/
theorem run_again (h : w.outcome (run World.workspace p s) = (.ok generated, w'))
    (hu : Unchanged s w w' w₂) (hdocs : SameDocuments w.files w'.files w.directory s.operations) :
    ∃ w₃, w₂.outcome (run World.workspace p s) = (.ok generated, w₃) ∧ w₃.files = w'.files := by
  obtain ⟨schema, raw, output, t, v, hr⟩ := exists_repetition h hu
  have hprep : s.prepared p schema raw v.files v.directory = .ok output := by
    rw [← hr.prepared, prepared, prepared, hr.files, hr.directory, hdocs.operations]
  have hmake : v.files.makeDirectories v.directory s.client = (.ok (), w'.files) := by
    rw [hr.files, hr.directory]
    exact FileTree.makeDirectories_again (Writes.isDirectoryAt hr.made hr.written)
  have hwrite : Writes v.directory s.client output.files w'.files w'.files := by
    rw [hr.directory]
    exact hr.written.again
  refine ⟨{ v with files := w'.files }, ?_, rfl⟩
  rw [hr.outcome, outcome_generate hr.patience hprep, outcome_commit hmake hwrite, hr.generated]

theorem run_again_apart {place : FileTree.Place} {node : FileTree}
    (h : w.outcome (run World.workspace p s) = (.ok generated, w')) (hu : Unchanged s w w' w₂)
    (hf : w.files.find false w.directory s.operations = .ok (place, node)) (hp : node.Linkless)
    (hn : node.Named) (hapart : ∀ path ∈ generated.files ++ Path.ancestors s.client, ∀ q,
      w'.files.locate true w.directory path = .ok q → place <+: q →
        w.files.label? q = some .directory) :
    ∃ w₃, w₂.outcome (run World.workspace p s) = (.ok generated, w₃) ∧ w₃.files = w'.files := by
  obtain ⟨schema, raw, output, t, v, hr⟩ := exists_repetition h hu
  have hnode := (FileTree.leads_of_find hf hp).2.1
  have hkeep : w'.files.get? place = w.files.get? place := by
    refine FileTree.get?_of_apart hr.made hr.written (by simp [hnode]) ?_
    rwa [hr.generated] at hapart
  have hx := (FileTree.makeDirectories_grown hr.made).isExtended.trans hr.written.isExtended
  exact run_again h hu (sameDocuments_of_linkless hf hp hn hx (hkeep.trans hnode))

lemma isDocument_join {base : String} : isDocument (Path.join base "schema.graphql") := by
  rw [isDocument, Path.extension?_join (by decide)]
  decide

lemma mem_documentPaths {files : List String} {path : String} (h : path ∈ files)
    (hd : isDocument path) : path ∈ documentPaths files := by
  rw [documentPaths, List.mem_mergeSort]
  exact List.mem_filter.mpr ⟨h, hd⟩

lemma check_of_checkedSdl {sdl : String} (h : checkedSdl schema = .ok sdl) :
    Sdl.check sdl = .ok () := by
  obtain ⟨-, -, h⟩ := bind_eq_ok.mp h
  obtain ⟨text, -, h⟩ := bind_eq_ok.mp h
  obtain ⟨⟨⟩, hc, ht⟩ := bind_eq_ok.mp h
  cases ht
  cases hs : Sdl.check sdl with
  | error e => simp [hs, Except.mapError] at hc
  | ok _ => rfl

lemma prepared_error {sdl path : String} {files : List String} (hs : checkedSdl schema = .ok sdl)
    (hf : t.filesBelow here s.operations = .ok files) (hp : path ∈ documentPaths files)
    (hr : t.readText here path = .ok sdl) : ∃ e, s.prepared p schema raw t here = .error e := by
  obtain ⟨position, ho⟩ := Sdl.ofText_error_of_check (check_of_checkedSdl hs) schema path
  have he : t.operationsAt here schema path = .error (.document path (.unreadable position)) := by
    simp [FileTree.operationsAt, hr, ho, Except.mapError, bind, Except.bind]
  obtain ⟨e, he⟩ := FileTree.operations_error hf hp he
  exact ⟨e, by simp [prepared, hs, he, bind, Except.bind]⟩

lemma outcome_generate_error {e : Error}
    (hp : s.prepared p schema raw w.files w.directory = .error e) :
    ∃ e' w', w.outcome (generate World.workspace p s schema raw) = (.error e', w') ∧
      w'.files = w.files := by
  rcases hg : w.outcome (generate World.workspace p s schema raw) with ⟨r, w'⟩
  rcases generate_cases hg with ⟨e', rfl, hu, -⟩ | ⟨output, v, hp', -⟩
  · exact ⟨e', w', rfl, hu.files⟩
  · cases hp.symm.trans hp'

lemma Complete.holds_within {place : FileTree.Place} {node : FileTree} {names : List String}
    (h : Complete p s schema raw w w' output) (hx : w.files.Extends w'.files)
    (hf : w'.files.find false w.directory root = .ok (place, node)) (hp : node.Linkless)
    (hclient : s.client = FileTree.joinAll root names) (hnames : ∀ n ∈ names, Path.IsName n) :
    ∀ f ∈ output.files, w'.files.readText w.directory (Path.join s.client f.1) = .ok f.2 ∧
      Path.join s.client f.1 ∈ FileTree.pathsOf root node := by
  have hnode : w'.files.get? place = some node := (FileTree.find_eq_ok.mp hf).2
  have hpath (n : String) : Path.join s.client n = FileTree.joinAll root (names ++ [n]) := by
    rw [hclient, FileTree.joinAll, FileTree.joinAll, List.foldl_concat]
  obtain ⟨left, hlocate⟩ := FileTree.exists_locate_joinAll hf hp
  have hplace {followLast : Bool} {f : String × String} {q : FileTree.Place}
      (hm : f ∈ output.files)
      (hq : w'.files.locate followLast w.directory (Path.join s.client f.1) = .ok q) :
      q = place ++ (names ++ [f.1]) := by
    have hname : Path.IsName f.1 :=
      isName_fileNames f.1 (prepared_names h.prepared ▸ List.mem_map_of_mem hm)
    have hall : ∀ n ∈ names ++ [f.1], Path.IsName n := by
      simpa [or_imp, forall_and] using ⟨hnames, hname⟩
    rw [hpath, hlocate _ (.refl _) followLast _ (by simp) hall] at hq
    exact FileTree.follow_linkless hnode hp hall hq
  have hread := h.holds fun f hm q target hq hlink => by
    rw [hplace hm hq] at hlink
    exact hp.not_link hnode target ((hx.link _ _).mpr hlink)
  intro f hm
  obtain ⟨q, hq, hget⟩ := FileTree.readText_ok (hread f hm)
  rw [hplace hm hq, FileTree.get?_append, hnode, Option.bind_some] at hget
  exact ⟨hread f hm, hpath _ ▸ FileTree.mem_pathsOf hget⟩

theorem run_again_within {place : FileTree.Place} {node : FileTree} {names : List String}
    (h : w.outcome (run World.workspace p s) = (.ok generated, w')) (hu : Unchanged s w w' w₂)
    (hf : w.files.find false w.directory s.operations = .ok (place, node)) (hp : node.Linkless)
    (hclient : s.client = FileTree.joinAll s.operations names)
    (hnames : ∀ n ∈ names, Path.IsName n) :
    ∃ e w₃, w₂.outcome (run World.workspace p s) = (.error e, w₃) ∧ w₃.files = w'.files := by
  obtain ⟨schema, raw, output, t, v, hr⟩ := exists_repetition h hu
  have hcomplete := complete_of_commit (.refl w) hr.prepared hr.made hr.written
  have hgrown := FileTree.makeDirectories_grown hr.made
  have hx := hgrown.isExtended.trans hr.written.isExtended
  obtain ⟨hlocate, hnode⟩ := FileTree.find_eq_ok.mp hf
  obtain ⟨node', hnode', hp'⟩ := hr.written.linkless (hgrown.linkless place ⟨node, hnode, hp⟩)
  have hf' : w'.files.find false w.directory s.operations = .ok (place, node') :=
    FileTree.find_eq_ok.mpr ⟨FileTree.locate_mono hlocate hx, hnode'⟩
  obtain ⟨sdl, declarations, methods, hsdl, hfiles⟩ := hcomplete.texts
  obtain ⟨hread, hmem⟩ := hcomplete.holds_within hx hf' hp' hclient hnames ("schema.graphql", sdl)
    (by simp [hfiles])
  obtain ⟨e, he⟩ : ∃ e, s.prepared p schema raw v.files v.directory = .error e := by
    rw [hr.files, hr.directory]
    exact prepared_error hsdl (FileTree.filesBelow_linkless hf' hp')
      (mem_documentPaths hmem isDocument_join) hread
  obtain ⟨e', w₃, hg, hw₃⟩ := outcome_generate_error he
  exact ⟨e', w₃, hr.outcome.trans hg, hw₃.trans hr.files⟩

end GraphqlBindings.Service

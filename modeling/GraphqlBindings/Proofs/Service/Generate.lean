import GraphqlBindings.Proofs.FileTree.Overwriting
import GraphqlBindings.Proofs.FileTree.Linkless
import GraphqlBindings.Proofs.Service.Outcome

/-! A service is written completely or not at all, whenever the run is cancelled. -/

namespace GraphqlBindings.Service

open FileTree (Writes)

section Writing

inductive WriteFault (t : FileTree) (here : FileTree.Place) (root : String)
    (files : List (String × String)) : Error → Prop
  | directories {f : FileTree.Fault} {t' : FileTree} :
      t.makeDirectories here root = (.error f, t') → WriteFault t here root files (.file root f)
  | file {f : FileTree.Fault} {t₁ t₂ : FileTree} {before after : List (String × String)}
      {name text : String} : t.makeDirectories here root = (.ok (), t₁) →
      files = before ++ (name, text) :: after → Writes here root before t₁ t₂ →
      t₂.writeText here (Path.join root name) text = .error f →
      WriteFault t here root files (.file (Path.join root name) f)

variable {w w' : World} {s : Service} {root : String} {files : List (String × String)}
  {output : Output}

lemma outcome_writeFiles {t : FileTree}
    (h : Writes w.directory root files w.files t) :
    w.outcome (writeFiles World.workspace root files) =
      (.ok (files.map fun f => Path.join root f.1), { w with files := t }) := by
  induction files generalizing w with
  | nil =>
    cases h
    rfl
  | cons file rest ih =>
    obtain _ | ⟨hw, hr⟩ := h
    next name text t₁ =>
    have hwrite : w.outcome (World.workspace.write (Path.join root name) text) =
        (.ok (), { w with files := t₁ }) := by
      rw [Workspace.write, World.outcome_attempt]
      change (Except.mapError _ (w.writeText _ _).1, (w.writeText _ _).2) = _
      rw [World.writeText, hw]
      rfl
    rw [writeFiles, World.outcome_bind, hwrite]
    simp only [World.outcome_bind, ih (w := { w with files := t₁ }) hr]
    rfl

lemma outcome_commit {t t' : FileTree}
    (hd : w.files.makeDirectories w.directory s.client = (.ok (), t))
    (hw : Writes w.directory s.client output.files t t') :
    w.outcome (s.commit World.workspace output) = (.ok ⟨s.name, output.operations,
      output.declarations, output.files.map fun f => Path.join s.client f.1⟩,
      { w with files := t' }) := by
  have hmake : w.outcome (Workspace.attempt (World.workspace.makeDirectories s.client)
      (.file s.client)) = (.ok (), { w with files := t }) := by
    rw [World.outcome_attempt]
    change (Except.mapError _ (w.makeDirectories _).1, (w.makeDirectories _).2) = _
    rw [World.makeDirectories, hd]
    rfl
  rw [commit, World.outcome_bind, hmake]
  simp only [World.outcome_bind, outcome_writeFiles (w := { w with files := t }) hw]
  rfl

lemma writeFiles_cases {r : Except Error (List String)}
    (h : w.outcome (writeFiles World.workspace root files) = (r, w')) :
    (w'.directory = w.directory ∧ w'.answers = w.answers) ∧
    ((r = .ok (files.map fun f => Path.join root f.1) ∧
        Writes w.directory root files w.files w'.files) ∨
      ∃ before name text after t f, files = before ++ (name, text) :: after ∧
        Writes w.directory root before w.files t ∧
        t.writeText w.directory (Path.join root name) text = .error f ∧
        r = .error (.file (Path.join root name) f)) := by
  induction files generalizing w r with
  | nil =>
    cases h
    exact ⟨⟨rfl, rfl⟩, Or.inl ⟨rfl, .nil⟩⟩
  | cons file rest ih =>
    obtain ⟨name, text⟩ := file
    have hw : w.outcome (World.workspace.write (Path.join root name) text) =
      ((w.writeText (Path.join root name) text).1.mapError (.file (Path.join root name)),
        (w.writeText (Path.join root name) text).2) := rfl
    rw [writeFiles, World.outcome_bind, hw, World.writeText] at h
    rcases ht : w.files.writeText w.directory (Path.join root name) text with f | t <;>
      simp only [ht, Except.mapError] at h
    · cases h
      exact ⟨⟨rfl, rfl⟩, Or.inr ⟨[], name, text, rest, _, f, rfl, .nil, ht, rfl⟩⟩
    · rcases World.outcome_bind_cases h with ⟨e, rfl, h₁⟩ | ⟨others, v, h₁, hv⟩
      · obtain ⟨hd, hr | ⟨before, n, x, after, t', f, rfl, hb, hf, he⟩⟩ := ih h₁
        · cases hr.1
        · exact ⟨hd, Or.inr ⟨(name, text) :: before, n, x, after, t', f, rfl, .cons ht hb, hf, he⟩⟩
      · cases hv
        obtain ⟨hd, ⟨hr, hw⟩ | ⟨_, _, _, _, _, _, _, _, _, he⟩⟩ := ih h₁
        · cases hr
          exact ⟨hd, Or.inl ⟨rfl, .cons ht hw⟩⟩
        · cases he

theorem commit_cases {r : Except Error Generated}
    (h : w.outcome (s.commit World.workspace output) = (r, w')) :
    (w'.directory = w.directory ∧ w'.answers = w.answers) ∧
    ((∃ t, w.files.makeDirectories w.directory s.client = (.ok (), t) ∧
        Writes w.directory s.client output.files t w'.files ∧
        r = .ok ⟨s.name, output.operations, output.declarations,
          output.files.map fun f => Path.join s.client f.1⟩) ∨
      ∃ e, WriteFault w.files w.directory s.client output.files e ∧ r = .error e) := by
  have hm : w.outcome (Workspace.attempt (World.workspace.makeDirectories s.client)
      (.file s.client)) = ((w.makeDirectories s.client).1.mapError (.file s.client),
        (w.makeDirectories s.client).2) := rfl
  rw [commit, World.outcome_bind, hm, World.makeDirectories] at h
  rcases hd : w.files.makeDirectories w.directory s.client with ⟨f | ⟨⟩, t⟩ <;>
    simp only [hd, Except.mapError] at h
  · cases h
    exact ⟨⟨rfl, rfl⟩, Or.inr ⟨_, .directories hd, rfl⟩⟩
  · rcases World.outcome_bind_cases h with ⟨e, rfl, h₁⟩ | ⟨files, v, h₁, hv⟩
    · obtain ⟨hs, hr | ⟨before, name, text, after, t', f, hfiles, hb, hf, he⟩⟩ :=
        writeFiles_cases h₁
      · cases hr.1
      · cases he
        exact ⟨hs, Or.inr ⟨_, .file hd hfiles hb hf, rfl⟩⟩
    · cases hv
      obtain ⟨hs, ⟨hr, hw⟩ | ⟨_, _, _, _, _, _, _, _, _, he⟩⟩ := writeFiles_cases h₁
      · cases hr
        exact ⟨hs, Or.inl ⟨t, rfl, hw, rfl⟩⟩
      · cases he

end Writing

section Complete

variable {p : Project} {s : Service} {schema : Schema} {raw : Json} {w w' : World}
  {output : Output} {sdl : String} {operations : List Operation}

lemma output_files (h : s.output p schema raw sdl operations = .ok output) :
    ∃ declarations methods, output.files =
      [("schema.introspect.json", raw.pretty ++ "\n"), ("schema.graphql", sdl),
        ("model.rs", Model.render ⟨s.package, declarations⟩),
        ("client.rs", renderClient p.naming s.package p.runtime methods),
        ("mod.rs", renderModule s.package)] := by
  obtain ⟨schemaTypes, -, h⟩ := bind_eq_ok.mp h
  obtain ⟨types, -, h⟩ := bind_eq_ok.mp h
  cases h
  exact ⟨_, _, rfl⟩

lemma prepared_files {t : FileTree} {here : FileTree.Place}
    (h : s.prepared p schema raw t here = .ok output) :
    ∃ sdl declarations methods, checkedSdl schema = .ok sdl ∧ output.files =
      [("schema.introspect.json", raw.pretty ++ "\n"), ("schema.graphql", sdl),
        ("model.rs", Model.render ⟨s.package, declarations⟩),
        ("client.rs", renderClient p.naming s.package p.runtime methods),
        ("mod.rs", renderModule s.package)] := by
  obtain ⟨sdl, hs, h⟩ := bind_eq_ok.mp h
  obtain ⟨operations, -, h⟩ := bind_eq_ok.mp h
  obtain ⟨declarations, methods, h⟩ := output_files h
  exact ⟨sdl, declarations, methods, hs, h⟩

def fileNames : List String :=
  ["schema.introspect.json", "schema.graphql", "model.rs", "client.rs", "mod.rs"]

lemma isName_fileNames : ∀ name ∈ fileNames, Path.IsName name := by decide

lemma nodup_fileNames : fileNames.Nodup := by decide

lemma prepared_names {t : FileTree} {here : FileTree.Place}
    (h : s.prepared p schema raw t here = .ok output) : output.files.map Prod.fst = fileNames := by
  obtain ⟨sdl, declarations, methods, -, hf⟩ := prepared_files h
  rw [hf]
  rfl

/-- What a service leaves when it succeeds. Paths to its files lead where they lead afterwards,
since before their directory may be missing; whether a link is there is the same before and
after. -/
structure Complete (p : Project) (s : Service) (schema : Schema) (raw : Json) (w w' : World)
    (output : Output) : Prop where
  prepared : s.prepared p schema raw w.files w.directory = .ok output
  texts : ∃ sdl declarations methods, checkedSdl schema = .ok sdl ∧ output.files =
    [("schema.introspect.json", raw.pretty ++ "\n"), ("schema.graphql", sdl),
      ("model.rs", Model.render ⟨s.package, declarations⟩),
      ("client.rs", renderClient p.naming s.package p.runtime methods),
      ("mod.rs", renderModule s.package)]
  holds : (∀ f ∈ output.files, ∀ place target,
      w'.files.locate false w.directory (Path.join s.client f.1) = .ok place →
      w.files.label? place ≠ some (.link target)) →
    ∀ f ∈ output.files, w'.files.readText w.directory (Path.join s.client f.1) = .ok f.2
  untouched : ∀ place, w'.files.label? place = w.files.label? place ∨
    (∃ f ∈ output.files, w'.files.locate true w.directory (Path.join s.client f.1) = .ok place) ∨
    w.files.label? place = none ∧ w'.files.label? place = some .directory ∧
      ∃ above ∈ Path.ancestors s.client, w'.files.locate true w.directory above = .ok place

lemma pairwise_locate {t : FileTree} {here : FileTree.Place} {root : String}
    {files : List (String × String)} (hroot : root = "" ∨ t.isDirectoryAt here root)
    (hnames : ∀ f ∈ files, Path.IsName f.1) (hd : (files.map Prod.fst).Nodup)
    (hno : ∀ f ∈ files, ∀ place target,
      t.locate false here (Path.join root f.1) = .ok place → t.label? place ≠ some (.link target)) :
    files.Pairwise fun f g => ∀ place, t.locate true here (Path.join root f.1) = .ok place →
      t.locate true here (Path.join root g.1) ≠ .ok place := by
  obtain ⟨links, d, hl⟩ := FileTree.exists_locate_join_of_or hroot
  have hplace (f) (hf : f ∈ files) (place)
      (h : t.locate true here (Path.join root f.1) = .ok place) : place = d ++ [f.1] := by
    have hn := hnames f hf
    rw [hl true _ hn] at h
    refine FileTree.follow_name_eq hn h fun target hlink => ?_
    refine hno f hf _ target ?_ hlink
    rw [hl false _ hn]
    exact FileTree.follow_last_link (FileTree.label?_of_follow_cons h) hn.2.2.1 hn.2.2.2 hlink
  refine (List.pairwise_map.mp hd).imp_of_mem fun {f g} hf hg hfg place h h' => hfg ?_
  have := (hplace f hf place h).symm.trans (hplace g hg place h')
  simpa using this

lemma complete_of_commit {t : FileTree} {v : World} (hv : w.Unwritten v)
    (hprep : s.prepared p schema raw w.files w.directory = .ok output)
    (hd : v.files.makeDirectories v.directory s.client = (.ok (), t))
    (hw : Writes v.directory s.client output.files t w'.files) :
    Complete p s schema raw w w' output := by
  rw [hv.files, hv.directory] at hd
  rw [hv.directory] at hw
  have hgrown := FileTree.makeDirectories_grown hd
  have hx := hgrown.isExtended.trans hw.isExtended
  have hnames := prepared_names hprep
  refine ⟨hprep, prepared_files hprep, fun hno => ?_, fun place => ?_⟩
  · have hroot := Writes.isDirectoryAt hd hw
    refine hw.readText (pairwise_locate hroot (fun f hf => ?_) (hnames ▸ nodup_fileNames)
      fun f hf place target hl hlink => ?_)
    · exact isName_fileNames f.1 (hnames ▸ List.mem_map_of_mem hf)
    · exact hno f hf place target hl ((hx.link place target).mp hlink)
  · rcases hw.label? place with h | h
    · rw [h]
      exact (hgrown.label? place).imp_right fun ⟨hn, hk, above, hm, hl⟩ =>
        Or.inr ⟨hn, hk, above, hm, FileTree.locate_mono hl hw.isExtended⟩
    · exact Or.inr (Or.inl h)

lemma exists_writes_prepared {t : FileTree} {here : FileTree.Place}
    (hp : s.prepared p schema raw t here = .ok output) (hd : t.isDirectoryAt here s.client)
    (hfree : ∀ name ∈ fileNames, ∀ q k, t.locate false here (Path.join s.client name) = .ok q →
      t.label? q = some k → ∃ c, k = .file c) :
    ∃ t', Writes here s.client output.files t t' := by
  have hname {f : String × String} (h : f ∈ output.files) : f.1 ∈ fileNames :=
    prepared_names hp ▸ List.mem_map_of_mem h
  exact FileTree.exists_writes hd (fun f hf => isName_fileNames f.1 (hname hf))
    fun f hf q k => hfree f.1 (hname hf) q k

lemma exists_generated (hw : w.patience = none)
    (hp : s.prepared p schema raw w.files w.directory = .ok output)
    (hd : w.files.isDirectoryAt w.directory s.client)
    (hfree : ∀ name ∈ fileNames, ∀ q k,
      w.files.locate false w.directory (Path.join s.client name) = .ok q →
        w.files.label? q = some k → ∃ c, k = .file c) :
    ∃ w', w.outcome (generate World.workspace p s schema raw) =
      (.ok ⟨s.name, output.operations, output.declarations,
        output.files.map fun f => Path.join s.client f.1⟩, w') := by
  obtain ⟨t, ht⟩ := exists_writes_prepared hp hd hfree
  have hmake := FileTree.makeDirectories_again (Or.inr hd)
  exact ⟨_, (outcome_generate hw hp).trans (outcome_commit hmake ht)⟩

lemma generate_error {e : Error}
    (h : w.outcome (generate World.workspace p s schema raw) = (.error e, w')) :
    w'.files = w.files ∨ ∃ output, s.prepared p schema raw w.files w.directory = .ok output ∧
      WriteFault w.files w.directory s.client output.files e := by
  rcases generate_cases h with ⟨_, -, hu, -⟩ | ⟨output, v, hp, hu, hc⟩
  · exact Or.inl hu.files
  · obtain ⟨-, ⟨_, -, -, he⟩ | ⟨_, hf, he⟩⟩ := commit_cases hc <;> cases he
    · rw [hu.files, hu.directory] at hf
      exact Or.inr ⟨output, hp, hf⟩

end Complete

section Ping

def pingService : Service := ⟨"ping", "ping", .file "schema.json", [], "ops", "out"⟩

def pingProject : Project := ⟨1, "runtime", ⟨false⟩, [pingService]⟩

def pingSchema : Schema :=
  .ofTypes (some "Query") none none [⟨.object, "Query", none, [], [], [], [], []⟩] []

def pingText : String :=
  "\x7b\"__schema\":\x7b\"queryType\":\x7b\"name\":\"Query\"\x7d," ++
    "\"types\":[\x7b\"kind\":\"OBJECT\",\"name\":\"Query\"\x7d]\x7d\x7d"

def pingRaw : Json := (Json.ofText? pingText).getD .null

def pingDocument : String := "query Ping \x7b __typename \x7d"

def pingDocuments : FileTree := .directory [("ping.graphql", .file (.text pingDocument))]

def pingTree : FileTree :=
  .directory [("schema.json", .file (.text pingText)), ("ops", pingDocuments),
    ("out", .directory [])]

def pingWorld : World := .ofFiles pingTree []

lemma linkless_pingDocuments : pingDocuments.Linkless := .directory (by simpa using .file _)

lemma linkless_pingTree : pingTree.Linkless :=
  .directory (by simpa using ⟨.file _, linkless_pingDocuments, .directory (by simp)⟩)

lemma find_ping {followLast : Bool} (name : String) (names : List String) {node : FileTree}
    (hn : ∀ n ∈ name :: names, Path.IsName n) (h : pingTree.get? (name :: names) = some node) :
    pingTree.find followLast [] (FileTree.joinAll name names) = .ok (name :: names, node) :=
  have hroot : pingTree.get? [] = some pingTree := rfl
  FileTree.find_joinAll hroot linkless_pingTree hn h

lemma operations_ping : pingTree.operations [] pingSchema pingService.operations =
    (Operation.ofText pingSchema "ops/ping.graphql" pingDocument).mapError
      (.document "ops/ping.graphql") := by
  have hfind : pingTree.find false [] "ops" = .ok (["ops"], pingDocuments) :=
    find_ping "ops" [] (by decide) rfl
  have hfiles : pingTree.filesBelow [] "ops" = .ok ["ops/ping.graphql"] :=
    FileTree.filesBelow_linkless hfind linkless_pingDocuments
  have hpaths : documentPaths ["ops/ping.graphql"] = ["ops/ping.graphql"] := by decide +kernel
  have hfile : pingTree.find true [] "ops/ping.graphql" =
      .ok (["ops", "ping.graphql"], .file (.text pingDocument)) :=
    find_ping "ops" ["ping.graphql"] (by decide) rfl
  have hread : pingTree.readText [] "ops/ping.graphql" = .ok pingDocument := by
    rw [FileTree.readText, hfile]
    rfl
  rw [FileTree.operations, pingService, hfiles]
  simp only [Except.mapError, hpaths, FileTree.operationsAt, hread, bind, Except.bind,
    List.mapM_cons, List.mapM_nil]
  cases Operation.ofText pingSchema "ops/ping.graphql" pingDocument with
  | error f => rfl
  | ok operations => simp [pure, Except.pure]

lemma prepared_ping : ∃ output,
    pingService.prepared pingProject pingSchema pingRaw pingTree [] = .ok output := by
  rw [prepared, operations_ping]
  apply exists_eq_ok
  decide +kernel

lemma find_out {followLast : Bool} :
    pingTree.find followLast [] "out" = .ok (["out"], .directory []) :=
  find_ping "out" [] (by decide) rfl

lemma isDirectoryAt_out : pingTree.isDirectoryAt [] "out" := by
  rw [FileTree.isDirectoryAt, find_out]
  rfl

lemma locate_out {t : FileTree} (hx : pingTree.Extends t) {followLast : Bool} {name : String}
    {q : FileTree.Place} (hn : Path.IsName name)
    (hq : t.locate followLast [] (Path.join "out" name) = .ok q) : q = ["out", name] := by
  have hempty : (FileTree.directory []).Linkless := .directory (by simp)
  have hroot : pingTree.get? [] = some pingTree := rfl
  have hname : ∀ n ∈ [name], Path.IsName n := by simpa using hn
  obtain ⟨left, hlocate⟩ := FileTree.exists_locate_joinAll find_out hempty
  change t.locate followLast [] (FileTree.joinAll "out" [name]) = .ok q at hq
  rw [hlocate t hx followLast _ (by simp) hname] at hq
  have hd := FileTree.label?_of_follow_cons hq
  refine Except.ok.inj (hq.symm.trans (FileTree.follow_name hd hn.2.2.1 hn.2.2.2 ?_))
  exact fun _ target hl => linkless_pingTree.not_link hroot target ((hx.link _ _).mp hl)

lemma free_out : ∀ name ∈ fileNames, ∀ q k,
    pingTree.locate false [] (Path.join "out" name) = .ok q →
      pingTree.label? q = some k → ∃ c, k = .file c := by
  intro name hn q k hq hk
  obtain rfl := locate_out (.refl _) (isName_fileNames name hn) hq
  have hnone : pingTree.label? ["out", name] = none := rfl
  cases hnone.symm.trans hk

lemma generated_ping : ∃ generated w',
    pingWorld.outcome (generate World.workspace pingProject pingService pingSchema pingRaw) =
      (.ok generated, w') := by
  obtain ⟨output, hp⟩ := prepared_ping
  obtain ⟨w', hw⟩ := exists_generated (w := pingWorld) rfl hp isDirectoryAt_out free_out
  exact ⟨_, w', hw⟩

end Ping

end GraphqlBindings.Service

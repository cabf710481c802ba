import Mathlib.Data.List.DropRight
import GraphqlBindings.Proofs.Service.Again

/-! What a whole run leaves on disk. Services may have directories in common, and then the files of
one are written over those of another: of the files that lead to one place the last one stays. -/

namespace GraphqlBindings

namespace FileTree

variable {t t' t'' : FileTree} {here : Place} {root path text : String}
  {a b files : List (String × String)}

def Apart (t : FileTree) (here : Place) (path path' : String) : Prop :=
  ∀ place, t.locate true here path = .ok place → t.locate true here path' ≠ .ok place

lemma Apart.of_extends {path' : String} (h : t'.Apart here path path') (hx : t.Extends t') :
    t.Apart here path path' :=
  fun place hl hl' => h place (locate_mono hl hx) (locate_mono hl' hx)

/-- What has come of a tree when these texts have been written to these paths, one after the other,
and directories have been made in between. -/
structure Stored (here : Place) (written : List (String × String)) (t t' : FileTree) : Prop where
  isExtended : t.Extends t'
  kept : ∀ place c, t.label? place = some (.file c) → t'.label? place = some (.file c) ∨
    ∃ f ∈ written, t'.locate true here f.1 = .ok place
  last : ∀ before f after, written = before ++ f :: after →
    (∀ g ∈ after, t'.Apart here f.1 g.1) → t'.readText here f.1 = .ok f.2

lemma Stored.nil_of_grown {paths : List String} (h : Grown here paths t t') :
    Stored here [] t t' where
  isExtended := h.isExtended
  kept place c hc := by
    rcases h.label? place with hl | ⟨hn, -⟩
    · exact Or.inl (hl.trans hc)
    · cases hc.symm.trans hn
  last before f after he := by simp at he

lemma Stored.refl : Stored here [] t t := .nil_of_grown (@Grown.refl t here [])

lemma Stored.append (h : Stored here a t t') (h' : Stored here b t' t'') :
    Stored here (a ++ b) t t'' where
  isExtended := h.isExtended.trans h'.isExtended
  kept place c hc := by
    rcases h.kept place c hc with hc | ⟨f, hf, hl⟩
    · exact (h'.kept place c hc).imp_right fun ⟨f, hf, hl⟩ => ⟨f, List.mem_append_right _ hf, hl⟩
    · exact Or.inr ⟨f, List.mem_append_left _ hf, locate_mono hl h'.isExtended⟩
  last before f after he hno := by
    rcases List.append_eq_append_iff.mp he with ⟨rest, rfl, hb⟩ | ⟨rest, ha, hrest⟩
    · exact h'.last rest f after hb hno
    -- a file of the first list was there in between, and nothing of the second one came over it
    · cases rest with
      | nil => exact h'.last [] f after hrest.symm hno
      | cons first rest =>
        rw [List.cons_append, List.cons.injEq] at hrest
        obtain ⟨rfl, rfl⟩ := hrest
        have hread := h.last before f rest ha fun g hg =>
          (hno g (List.mem_append_left _ hg)).of_extends h'.isExtended
        obtain ⟨place, hl, hget⟩ := readText_ok hread
        have hl' := locate_mono hl h'.isExtended
        have hlabel : t'.label? place = some (.file (.text f.2)) := by
          rw [label?, hget]
          rfl
        refine readText_eq hl' ((h'.kept place _ hlabel).resolve_right ?_)
        rintro ⟨g, hg, hgl⟩
        exact hno g (List.mem_append_right _ hg) place hl' hgl

lemma stored_writeText (h : t.writeText here path text = .ok t') :
    Stored here [(path, text)] t t' := by
  obtain ⟨place, hl, hx, hq⟩ := label?_writeText h
  refine ⟨hx, fun q c hc => ?_, fun before f after he _ => ?_⟩
  · by_cases he : q = place
    · exact Or.inr ⟨_, List.mem_singleton_self _, he ▸ hl⟩
    · exact Or.inl (by rw [hq, if_neg he, hc])
  · obtain ⟨rfl, rfl⟩ : before = [] ∧ after = [] := by
      cases before <;> cases after <;> simp_all
    obtain rfl : (path, text) = f := by simpa using he
    exact readText_eq hl (by rw [hq, if_pos rfl])

lemma Writes.stored (h : Writes here root files t t') :
    Stored here (files.map fun f => (Path.join root f.1, f.2)) t t' := by
  induction h with
  | nil => exact .refl
  | cons hw _ ih => exact (stored_writeText hw).append ih

end FileTree

namespace Service

open FileTree (Stored)

def outputIn (p : Project) (s : Service) (w : World) : Except Error Output := do
  let (schema, raw) ← (w.outcome (loadSchema World.workspace s)).1
  s.prepared p schema raw w.files w.directory

def Output.placed (output : Output) (root : String) : List (String × String) :=
  output.files.map fun f => (Path.join root f.1, f.2)

def generatedFrom (s : Service) (output : Output) : Generated :=
  ⟨s.name, output.operations, output.declarations, (output.placed s.client).map Prod.fst⟩

def Step.written (p : Project) (st : Step) : List (String × String) :=
  match outputIn p st.service st.before with
  | .ok output => output.placed st.service.client
  | .error _ => []

section Run

variable {p : Project} {s : Service} {services : List Service} {w w' : World} {g : Generated}

lemma run_stored (h : w.outcome (run World.workspace p s) = (.ok g, w')) :
    ∃ output, outputIn p s w = .ok output ∧ g = s.generatedFrom output ∧
      w'.directory = w.directory ∧
      Stored w.directory (output.placed s.client) w.files w'.files := by
  obtain ⟨schema, raw, output, t, hl, hp, hd, hw, hdir, rfl⟩ := run_ok h
  refine ⟨output, ?_, ?_, hdir, ?_⟩
  · rw [outputIn, hl]
    exact hp
  · simp [generatedFrom, Output.placed, Function.comp_def]
  · exact (Stored.nil_of_grown (FileTree.makeDirectories_grown hd)).append hw.stored

lemma written_step {output : Output} (h : outputIn p s w = .ok output) :
    (step p s w).written p = output.placed s.client := by
  rw [Step.written, step_service, step_before, h]

lemma history_cons_of_ok (h : (step p s w).result = .ok g) :
    history p (s :: services) w = step p s w :: history p services (step p s w).after := by
  have hc : ¬ (step p s w).isCancelled := by simp [Step.isCancelled, h]
  rw [history, if_neg hc]

lemma history_stored (hall : ∀ st ∈ history p services w, ∃ g, st.result = .ok g) :
    Stored w.directory ((history p services w).flatMap (Step.written p)) w.files
      (final w (history p services w)).files := by
  induction services generalizing w with
  | nil => exact .refl
  | cons s rest ih =>
    -- no service is cancelled, so that the run goes on after each step
    obtain ⟨g, hr⟩ := hall (step p s w) (by rw [history]; split <;> simp)
    rw [history_cons_of_ok hr] at hall ⊢
    obtain ⟨output, ho, -, hdir, hstored⟩ := run_stored (outcome_run.trans (by rw [hr]))
    have hrest := ih fun st hst => hall st (List.mem_cons_of_mem _ hst)
    rw [hdir] at hrest
    rw [List.flatMap_cons, written_step ho, final]
    exact hstored.append hrest

lemma succeeded_of_ok {st : Step} (hst : st ∈ history p services w) (hr : st.result = .ok g) :
    ∃ output, outputIn p st.service st.before = .ok output ∧
      g = st.service.generatedFrom output := by
  rw [eq_step_of_mem_history hst] at hr
  obtain ⟨output, ho, hg, -⟩ := run_stored (outcome_run.trans (by rw [hr]))
  exact ⟨output, ho, hg⟩

lemma forall₂_generated {R : Step → Generated → Prop} {steps : List Step}
    (hok : ∀ st ∈ steps, ∃ g, st.result = .ok g)
    (hr : ∀ st ∈ steps, ∀ g, st.result = .ok g → R st g) :
    List.Forall₂ R steps (steps.filterMap Step.generated?) := by
  induction steps with
  | nil => exact .nil
  | cons st rest ih =>
    rw [List.forall_mem_cons] at hok hr
    obtain ⟨⟨g, hg⟩, hok⟩ := hok
    have hgen : st.generated? = some g := by rw [Step.generated?, hg]; rfl
    rw [List.filterMap_cons, hgen]
    exact .cons (hr.1 g hg) (ih hok hr.2)

lemma forall_ok_of_failed (h : (history p services w).filterMap Step.failure? = []) :
    ∀ st ∈ history p services w, ∃ g, st.result = .ok g := by
  intro st hst
  have hf := List.filterMap_eq_nil_iff.mp h st hst
  cases hr : st.result with
  | ok g => exact ⟨g, rfl⟩
  | error e => simp [Step.failure?, hr] at hf

/-- A run in which every service succeeds lists the files of each of them, and at its end every
file that is listed holds the text that was made for it, unless one that is listed after it leads to
the same place. -/
theorem ofRun_outputs {report : Report}
    (h : (Report.ofRun World.workspace p services).run w = (report, w'))
    (hall : report.failed = []) :
    let steps := history p services w
    steps.map Step.service = services ∧
    List.Forall₂ (fun st g => ∃ output, outputIn p st.service st.before = .ok output ∧
      g = st.service.generatedFrom output) steps report.succeeded ∧
    ∀ before f after, steps.flatMap (Step.written p) = before ++ f :: after →
      (∀ g ∈ after, w'.files.Apart w.directory f.1 g.1) →
      w'.files.readText w.directory f.1 = .ok f.2 := by
  rw [ofRun_eq] at h
  cases h
  have hok := forall_ok_of_failed hall
  refine ⟨?_, ?_, (history_stored hok).last⟩
  · obtain ⟨-, ⟨hs, -⟩ | ⟨steps, last, hs, hl, -⟩⟩ := @history_services p services w
    · exact hs
    · obtain ⟨g, hg⟩ := hok last (by simp [hs])
      cases hl.symm.trans hg
  · exact forall₂_generated hok fun st hst g hg => succeeded_of_ok hst hg

end Run

section Shared

def pongService : Service := { pingService with name := "pong", package := "pong" }

def sharedProject : Project := { pingProject with services := [pingService, pongService] }

def sharedText : String :=
  "version: 1\nruntime_crate: runtime\nnaming: \x7b preserve_acronyms: false \x7d\nservices:\n" ++
    "- \x7b name: ping, package: ping, schema: schema.json, operations: \x7b root: ops \x7d, " ++
    "client: \x7b root: out \x7d \x7d\n" ++
    "- \x7b name: pong, package: pong, schema: schema.json, operations: \x7b root: ops \x7d, " ++
    "client: \x7b root: out \x7d \x7d\n"

lemma ofYaml_shared : Project.ofYaml "" [] sharedText = .ok sharedProject :=
  eq_ok_of_toOption (by decide +kernel)

lemma prepared_pong : ∃ output,
    pongService.prepared sharedProject pingSchema pingRaw pingTree [] = .ok output := by
  have hops : pongService.operations = pingService.operations := rfl
  rw [prepared, hops, operations_ping]
  apply exists_eq_ok
  decide +kernel

lemma outcome_run_ofFiles {p : Project} {s : Service} {schema : Schema} {raw : Json}
    {path : String} {t t' : FileTree} {here : FileTree.Place} {output : Output}
    (hs : s.source = .file path) (hschema : t.schemaAt here path = .ok (schema, raw))
    (hp : s.prepared p schema raw t here = .ok output) (hd : t.isDirectoryAt here s.client)
    (hw : FileTree.Writes here s.client output.files t t') :
    (World.ofFiles t here).outcome (run World.workspace p s) =
      (.ok (s.generatedFrom output), World.ofFiles t' here) ∧
    outputIn p s (World.ofFiles t here) = .ok output := by
  have hload : (World.ofFiles t here).outcome (loadSchema World.workspace s) =
      (.ok (schema, raw), World.ofFiles t here) := by
    rw [loadSchema, hs]
    exact (outcome_readSchema path).trans (congrArg (·, _) hschema)
  refine ⟨?_, ?_⟩
  · rw [outcome_run_of_load rfl hload, outcome_generate (w := World.ofFiles t here) rfl hp,
      outcome_commit (w := World.ofFiles t here) (FileTree.makeDirectories_again (Or.inr hd)) hw]
    simp [generatedFrom, Output.placed, Function.comp_def, World.ofFiles]
  · rw [outputIn, hload]
    exact hp

section Kept

variable {t : FileTree} {files : List (String × String)}
  (hw : FileTree.Writes [] "out" files pingTree t) (hn : files.map Prod.fst = fileNames)
include hw hn

lemma get?_of_writes_out {name : String} (hne : name ≠ "out") (hp : pingTree.get? [name] ≠ none) :
    t.get? [name] = pingTree.get? [name] := by
  refine hw.get? hp fun f hf q hl hprefix => hne ?_
  have hname := isName_fileNames f.1 (hn ▸ List.mem_map_of_mem hf)
  rw [locate_out hw.isExtended hname hl] at hprefix
  simpa using hprefix

lemma schemaAt_of_writes_out : t.schemaAt [] "schema.json" = .ok (pingSchema, pingRaw) := by
  have hfind : pingTree.find false [] "schema.json" =
      .ok (["schema.json"], .file (.text pingText)) := find_ping "schema.json" [] (by decide) rfl
  have hkeep : t.get? ["schema.json"] = some (.file (.text pingText)) :=
    get?_of_writes_out hw hn (by decide) (by simp [pingTree])
  have hread : t.readText [] (FileTree.joinAll "schema.json" []) =
      pingTree.readText [] (FileTree.joinAll "schema.json" []) :=
    FileTree.readText_joinAll hfind (.file _) hw.isExtended hkeep (by simp)
  rw [FileTree.joinAll, List.foldl_nil] at hread
  rw [FileTree.schemaAt, hread]
  exact schemaAt_ping

lemma operations_of_writes_out :
    t.operations [] pingSchema "ops" = pingTree.operations [] pingSchema "ops" := by
  have hfind : pingTree.find false [] "ops" = .ok (["ops"], pingDocuments) :=
    find_ping "ops" [] (by decide) rfl
  have hkeep : t.get? ["ops"] = some pingDocuments :=
    get?_of_writes_out hw hn (by decide) (by simp [pingTree])
  have hnamed : pingDocuments.Named :=
    .directory (by decide) (by simpa using .file _)
  exact (sameDocuments_of_linkless hfind linkless_pingDocuments hnamed hw.isExtended
    hkeep).operations

end Kept

lemma placed_of_prepared {t : FileTree} {s : Service} {output : Output}
    (h : s.prepared sharedProject pingSchema pingRaw t [] = .ok output) :
    ∃ before, output.placed "out" = before ++ [("out/mod.rs", renderModule s.package)] := by
  obtain ⟨sdl, declarations, methods, -, hf⟩ := prepared_files h
  have hj : Path.join "out" "mod.rs" = "out/mod.rs" := by decide
  refine ⟨_, (List.dropLast_append_getLast? (l := output.placed "out") _ ?_).symm⟩
  simp [Output.placed, hf, hj]

lemma exists_shared_run : ∃ first second g₁ g₂ before₁ before₂,
    history sharedProject sharedProject.services pingWorld = [first, second] ∧
    first.result = .ok g₁ ∧ second.result = .ok g₂ ∧
    g₁.files = (first.written sharedProject).map Prod.fst ∧
    first.written sharedProject = before₁ ++ [("out/mod.rs", renderModule "ping")] ∧
    second.written sharedProject = before₂ ++ [("out/mod.rs", renderModule "pong")] := by
  obtain ⟨o₁, ho₁⟩ : ∃ o₁,
      pingService.prepared sharedProject pingSchema pingRaw pingTree [] = .ok o₁ := prepared_ping
  obtain ⟨o₂, ho₂⟩ := prepared_pong
  obtain ⟨t₁, hw₁⟩ := exists_writes_prepared ho₁ isDirectoryAt_out free_out
  have hn₁ := prepared_names ho₁
  have hd₁ := FileTree.isDirectoryAt_mono isDirectoryAt_out hw₁.isExtended
  obtain ⟨t₂, hw₂⟩ := hw₁.over ((prepared_names ho₂).trans hn₁.symm)
  have ho₂' : pongService.prepared sharedProject pingSchema pingRaw t₁ [] = .ok o₂ := by
    have hops : t₁.operations [] pingSchema pongService.operations =
        pingTree.operations [] pingSchema pongService.operations := operations_of_writes_out hw₁ hn₁
    rw [← ho₂, prepared, prepared, hops]
  obtain ⟨hrun₁, hout₁⟩ := outcome_run_ofFiles rfl schemaAt_ping ho₁ isDirectoryAt_out hw₁
  obtain ⟨hrun₂, hout₂⟩ := outcome_run_ofFiles rfl (schemaAt_of_writes_out hw₁ hn₁) ho₂' hd₁ hw₂
  have hstep₁ : step sharedProject pingService pingWorld =
      ⟨pingService, pingWorld, .ok (pingService.generatedFrom o₁), .ofFiles t₁ []⟩ :=
    congrArg₂ (Step.mk pingService pingWorld) (congrArg Prod.fst hrun₁) (congrArg Prod.snd hrun₁)
  have hstep₂ : step sharedProject pongService (.ofFiles t₁ []) =
      ⟨pongService, .ofFiles t₁ [], .ok (pongService.generatedFrom o₂), .ofFiles t₂ []⟩ := by
    rw [step, hrun₂]
  have hwritten₁ := written_step hout₁
  have hwritten₂ := written_step hout₂
  obtain ⟨before₁, hb₁⟩ := placed_of_prepared ho₁
  obtain ⟨before₂, hb₂⟩ := placed_of_prepared ho₂'
  refine ⟨step sharedProject pingService pingWorld, step sharedProject pongService (.ofFiles t₁ []),
    _, _, before₁, before₂, ?_, congrArg Step.result hstep₁, congrArg Step.result hstep₂, ?_,
    hwritten₁.trans hb₁, hwritten₂.trans hb₂⟩
  · change history sharedProject [pingService, pongService] pingWorld = _
    rw [history_cons_of_ok (congrArg Step.result hstep₁),
      history_cons_of_ok (g := pongService.generatedFrom o₂), history, hstep₁]
    rw [hstep₁, hstep₂]
  · exact congrArg (List.map Prod.fst) hwritten₁.symm

/-- Two services of a project have one directory, and at the end of a run in which both succeed it
has the module of the second one. -/
theorem ofRun_outputs_shared : ∃ report w',
    Project.ofYaml "" [] sharedText = .ok sharedProject ∧
    sharedProject.select [] = .ok sharedProject.services ∧
    (Report.ofRun World.workspace sharedProject sharedProject.services).run pingWorld =
      (report, w') ∧ report.failed = [] ∧
    ∃ st ∈ history sharedProject sharedProject.services pingWorld, ∃ g ∈ report.succeeded,
      st.result = .ok g ∧ ∃ f ∈ st.written sharedProject, f.1 ∈ g.files ∧
        w'.files.readText [] f.1 ≠ .ok f.2 := by
  obtain ⟨first, second, g₁, g₂, before₁, before₂, hsteps, hr₁, hr₂, hfiles, hw₁, hw₂⟩ :=
    exists_shared_run
  have hok : ∀ st ∈ history sharedProject sharedProject.services pingWorld,
      ∃ g, st.result = .ok g := by
    rw [hsteps]
    simp [hr₁, hr₂]
  have hlast := (history_stored hok).last (first.written sharedProject ++ before₂)
    ("out/mod.rs", renderModule "pong") [] (by simp [hsteps, hw₂]) (by simp)
  refine ⟨_, _, ofYaml_shared, rfl, ofRun_eq, ?_, first, by simp [hsteps], g₁, ?_, hr₁,
    ("out/mod.rs", renderModule "ping"), by simp [hw₁], by simp [hfiles, hw₁], ?_⟩
  · simp [hsteps, Step.failure?, hr₁, hr₂]
  · simp [hsteps, Step.generated?, hr₁, Except.toOption]
  · rw [show ([] : FileTree.Place) = pingWorld.directory from rfl, hlast]
    decide +kernel

theorem ofRun_outputs_pong : ∃ report w',
    (Report.ofRun World.workspace sharedProject sharedProject.services).run pingWorld =
      (report, w') ∧ report.failed = [] ∧
    w'.files.readText [] "out/mod.rs" = .ok (renderModule "pong") := by
  obtain ⟨first, second, g₁, g₂, before₁, before₂, hsteps, hr₁, hr₂, -, -, hw₂⟩ :=
    exists_shared_run
  have hfailed : (history sharedProject sharedProject.services pingWorld).filterMap
      Step.failure? = [] := by
    simp [hsteps, Step.failure?, hr₁, hr₂]
  obtain ⟨-, -, hlast⟩ := ofRun_outputs (@ofRun_eq sharedProject sharedProject.services pingWorld)
    hfailed
  exact ⟨_, _, ofRun_eq, hfailed, hlast (first.written sharedProject ++ before₂)
    ("out/mod.rs", renderModule "pong") [] (by simp [hsteps, hw₂]) (by simp)⟩

end Shared

end Service

end GraphqlBindings

import GraphqlBindings.Proofs.Service.Generate
import GraphqlBindings.Proofs.Service.Steady

/-! A run as the history of its services: the report accounts for each of them, and those that fail
harm no other. -/

namespace GraphqlBindings.Service

open World (Steady)

structure Step where
  service : Service
  before : World
  result : Except Error Generated
  after : World

namespace Step

def isCancelled (step : Step) : Bool :=
  match step.result with
  | .error .cancelled => true
  | _ => false

def generated? (step : Step) : Option Generated := step.result.toOption

def failure? (step : Step) : Option (String × Error) :=
  match step.result with
  | .error e => some (step.service.name, e)
  | .ok _ => none

def FailsToWrite (p : Project) (step : Step) : Prop :=
  ∃ v v' schema raw output e, step.before.Unwritten v ∧
    v.outcome (loadSchema World.workspace step.service) = (.ok (schema, raw), v') ∧
    step.service.prepared p schema raw v'.files v'.directory = .ok output ∧
    step.result = .error e ∧
    WriteFault v'.files v'.directory step.service.client output.files e

lemma result_of_isCancelled {step : Step} (h : step.isCancelled) :
    step.result = .error .cancelled := by
  rw [isCancelled] at h
  split at h
  · next hr => exact hr
  · cases h

lemma failure?_eq_some_iff {step : Step} {f : String × Error} :
    step.failure? = some f ↔ step.result = .error f.2 ∧ step.service.name = f.1 := by
  cases hr : step.result <;> simp [failure?, hr, Prod.ext_iff, and_comm]

lemma forall_failure?_iff {steps : List Step} {e : Error} :
    (∀ f ∈ steps.filterMap failure?, f.2 ≠ e) ↔ ∀ st ∈ steps, st.result ≠ .error e := by
  constructor
  · intro h st hst hr
    have hs : st.failure? = some (st.service.name, e) := failure?_eq_some_iff.mpr ⟨hr, rfl⟩
    exact h _ (List.mem_filterMap.mpr ⟨st, hst, hs⟩) rfl
  · rintro h f hf rfl
    obtain ⟨st, hst, hs⟩ := List.mem_filterMap.mp hf
    exact h st hst (failure?_eq_some_iff.mp hs).1

end Step

def step (p : Project) (s : Service) (w : World) : Step :=
  ⟨s, w, (w.outcome (run World.workspace p s)).1, (w.outcome (run World.workspace p s)).2⟩

def history (p : Project) : List Service → World → List Step
  | [], _ => []
  | s :: rest, w =>
    if (step p s w).isCancelled then [step p s w]
    else step p s w :: history p rest (step p s w).after

def final : World → List Step → World
  | w, [] => w
  | _, step :: rest => final step.after rest

@[simp] lemma step_service {p : Project} {s : Service} {w : World} : (step p s w).service = s := rfl

@[simp] lemma step_before {p : Project} {s : Service} {w : World} : (step p s w).before = w := rfl

lemma outcome_run {p : Project} {s : Service} {w : World} :
    w.outcome (run World.workspace p s) = ((step p s w).result, (step p s w).after) := rfl

section Report

variable {p : Project} {s : Service} {services : List Service} {w : World}

lemma ofRun_cons : (Report.ofRun World.workspace p (s :: services)).run w =
    if (step p s w).isCancelled then
      (⟨[], [(s.name, .cancelled)]⟩, (step p s w).after)
    else
      let rest := (Report.ofRun World.workspace p services).run (step p s w).after
      (⟨(step p s w).generated?.toList ++ rest.1.succeeded,
        (step p s w).failure?.toList ++ rest.1.failed⟩, rest.2) := by
  have hrun : (run World.workspace p s).run.run w = w.outcome (run World.workspace p s) := rfl
  rw [Report.ofRun, StateT.run_bind, hrun, step]
  rcases w.outcome (run World.workspace p s) with ⟨e | generated, w'⟩
  · cases e <;> rfl
  · rfl

theorem ofRun_eq : (Report.ofRun World.workspace p services).run w =
    (⟨(history p services w).filterMap Step.generated?,
      (history p services w).filterMap Step.failure?⟩, final w (history p services w)) := by
  induction services generalizing w with
  | nil => rfl
  | cons s rest ih =>
    rw [ofRun_cons, history]
    split
    · next hc =>
      have hr := Step.result_of_isCancelled hc
      simp [Step.generated?, Step.failure?, hr, Except.toOption, final]
    · rw [ih, List.filterMap_cons, List.filterMap_cons, final]
      cases (step p s w).generated? <;> cases (step p s w).failure? <;> rfl

lemma history_services : (history p services w).map Step.service <+: services ∧
    ((history p services w).map Step.service = services ∧
        (∀ st ∈ history p services w, st.result ≠ .error .cancelled) ∨
      ∃ steps last, history p services w = steps ++ [last] ∧ last.result = .error .cancelled ∧
        ∀ st ∈ steps, st.result ≠ .error .cancelled) := by
  induction services generalizing w with
  | nil => exact ⟨List.nil_prefix, Or.inl ⟨rfl, by simp [history]⟩⟩
  | cons s rest ih =>
    rw [history]
    split
    · next hc =>
      refine ⟨by simp, Or.inr ⟨[], step p s w, rfl, Step.result_of_isCancelled hc, by simp⟩⟩
    · next hc =>
      have hs : (step p s w).result ≠ .error .cancelled := fun hr =>
        hc (by simp [Step.isCancelled, hr])
      obtain ⟨hp, ⟨hall, hne⟩ | ⟨steps, last, hh, hl, hne⟩⟩ := @ih (step p s w).after
      · exact ⟨by simpa using hp, Or.inl ⟨by simp [hall], by simpa using ⟨hs, hne⟩⟩⟩
      · refine ⟨by simpa using hp, Or.inr ⟨step p s w :: steps, last, by simp [hh], hl, ?_⟩⟩
        simpa using ⟨hs, hne⟩

lemma eq_step_of_mem_history {st : Step} (h : st ∈ history p services w) :
    st = step p st.service st.before := by
  induction services generalizing w with
  | nil => simp [history] at h
  | cons s rest ih =>
    rw [history] at h
    split at h
    · rw [List.mem_singleton.mp h, step_service, step_before]
    · rcases List.mem_cons.mp h with rfl | h
      · rfl
      · exact ih h

lemma length_filterMap (steps : List Step) : (steps.filterMap Step.generated?).length +
    (steps.filterMap Step.failure?).length = steps.length := by
  induction steps with
  | nil => rfl
  | cons st rest ih =>
    cases hr : st.result <;>
      simp [Step.generated?, Step.failure?, hr, Except.toOption] at ih ⊢ <;> omega

end Report

section Survivors

variable {p : Project} {s : Service} {services : List Service} {v w w' : World}

lemma loadSchema_files {r : Except Error (Schema × Json)}
    (h : w.outcome (loadSchema World.workspace s) = (r, w')) : w'.files = w.files := by
  obtain ⟨loaded, sent, hl⟩ := outcome_loadSchema s
  rw [hl] at h
  cases h
  rfl

lemma run_cases {r : Except Error Generated}
    (h : w.outcome (run World.workspace p s) = (r, w')) :
    (∃ e, r = .error e ∧ w'.files = w.files) ∨
      ∃ v v' schema raw, w.Unwritten v ∧
        v.outcome (loadSchema World.workspace s) = (.ok (schema, raw), v') ∧
        v'.outcome (generate World.workspace p s schema raw) = (r, w') := by
  rw [run] at h
  rcases World.outcome_check_bind h with ⟨rfl, -, hu⟩ | ⟨v, hu, h⟩
  · exact Or.inl ⟨_, rfl, hu.files⟩
  · rcases World.outcome_bind_cases h with ⟨e, rfl, hl⟩ | ⟨⟨schema, raw⟩, v', hl, hg⟩
    · exact Or.inl ⟨e, rfl, (loadSchema_files hl).trans hu.files⟩
    · exact Or.inr ⟨v, v', schema, raw, hu, hl, hg⟩

lemma run_ok {g : Generated} (h : w.outcome (run World.workspace p s) = (.ok g, w')) :
    ∃ schema raw output t,
      (w.outcome (loadSchema World.workspace s)).1 = .ok (schema, raw) ∧
      s.prepared p schema raw w.files w.directory = .ok output ∧
      w.files.makeDirectories w.directory s.client = (.ok (), t) ∧
      FileTree.Writes w.directory s.client output.files t w'.files ∧
      w'.directory = w.directory ∧
      g = ⟨s.name, output.operations, output.declarations,
        output.files.map fun f => Path.join s.client f.1⟩ := by
  rcases run_cases h with ⟨_, he, -⟩ | ⟨v, v', schema, raw, hv, hl, hg⟩
  · cases he
  rcases generate_cases hg with ⟨_, he, -⟩ | ⟨output, v'', hp, hv'', hc⟩
  · cases he
  obtain ⟨⟨hdir, -⟩, ⟨t, hd, hw, hr⟩ | ⟨_, -, he⟩⟩ := commit_cases hc
  swap
  · cases he
  -- the schema was loaded after a check, in a world that differs in patience only
  obtain ⟨loaded, sent, hloaded⟩ := outcome_loadSchema s
  have hlw : (w.outcome (loadSchema World.workspace s)).1 = .ok (schema, raw) := by
    rw [hloaded, hv.eq] at hl
    rw [hloaded]
    exact congrArg Prod.fst hl
  obtain rfl := congrArg Prod.snd ((hloaded v).symm.trans hl)
  have hfiles : v''.files = w.files := hv''.files.trans hv.files
  have hdirectory : v''.directory = w.directory := hv''.directory.trans hv.directory
  rw [hfiles, hdirectory] at hd
  rw [hdirectory] at hw hdir
  have hp : s.prepared p schema raw v.files v.directory = .ok output := hp
  rw [hv.files, hv.directory] at hp
  exact ⟨schema, raw, output, t, hlw, hp, hd, hw, hdir, Except.ok.inj hr⟩

lemma run_generated {g : Generated} (h : w.outcome (run World.workspace p s) = (.ok g, w')) :
    g.service = s.name := by
  obtain ⟨_, _, _, _, -, -, -, -, -, rfl⟩ := run_ok h
  rfl

lemma step_files {e : Error} (hr : (step p s w).result = .error e)
    (hf : ¬ (step p s w).FailsToWrite p) : (step p s w).after.files = w.files := by
  have h : w.outcome (run World.workspace p s) = (.error e, (step p s w).after) := by
    rw [outcome_run, hr]
  rcases run_cases h with ⟨_, -, hw⟩ | ⟨v, v', schema, raw, hu, hl, hg⟩
  · exact hw
  · have hv : v'.files = w.files := (loadSchema_files hl).trans hu.files
    rcases generate_error hg with hw | ⟨output, hp, hfault⟩
    · exact hw.trans hv
    · exact absurd ⟨v, v', schema, raw, output, e, hu, hl, hp, hr, hfault⟩ hf

def survivors (steps : List Step) : List Service :=
  (steps.filter fun st => st.generated?.isSome).map Step.service

lemma ofRun_survivors (hvw : v.Alike w)
    (hc : ∀ st ∈ history p services v, st.result ≠ .error .cancelled)
    (hf : ∀ st ∈ history p services v, ¬ st.FailsToWrite p) :
    ∃ w', (Report.ofRun World.workspace p (survivors (history p services v))).run w =
        (⟨(history p services v).filterMap Step.generated?, []⟩, w') ∧
      (final v (history p services v)).Alike w' := by
  induction services generalizing v w with
  | nil => exact ⟨w, rfl, hvw⟩
  | cons s rest ih =>
    have hstep : step p s v ∈ history p (s :: rest) v := by
      rw [history]
      split <;> simp
    have hne := hc _ hstep
    have hn : ¬ (step p s v).isCancelled := fun h => hne (Step.result_of_isCancelled h)
    rw [history, if_neg hn] at hc hf ⊢
    have hc' := fun st hm => hc st (List.mem_cons_of_mem _ hm)
    have hf' := fun st hm => hf st (List.mem_cons_of_mem _ hm)
    have hb := (steady_run p s).before (@outcome_run p s v)
    rcases hr : (step p s v).result with e | g
    · -- the service leaves files as they are, and is left out
      obtain ⟨w', hw, ha⟩ := ih (hvw.of_before hb (step_files hr (hf _ (by simp)))) hc' hf'
      refine ⟨w', ?_, ha⟩
      simpa [survivors, Step.generated?, hr, Except.toOption] using hw
    · -- the service comes to the same in the other world
      obtain ⟨w₁, hw₁, ha₁⟩ := (steady_run p s).same hvw (@outcome_run p s v) hne
      obtain ⟨w', hw, ha⟩ := ih ha₁ hc' hf'
      have hs : step p s w = ⟨s, w, .ok g, w₁⟩ := by rw [step, hw₁, hr]
      refine ⟨w', ?_, ha⟩
      have hsurv : survivors (step p s v :: history p rest (step p s v).after) =
          s :: survivors (history p rest (step p s v).after) := by
        simp [survivors, Step.generated?, hr, Except.toOption]
      rw [hsurv, ofRun_cons, hs]
      simp [Step.isCancelled, Step.generated?, Step.failure?, hr, Except.toOption, hw]

/-- Every service that was tried is in the report, once and in order; these are the first services
of the list, and all of them unless the last one tried was cancelled. Services that fail before
they write anything could as well have been left out. -/
theorem ofRun_accounts {report : Report}
    (h : (Report.ofRun World.workspace p services).run w = (report, w')) :
    let steps := history p services w
    (steps.map Step.service <+: services ∧
      report.succeeded = steps.filterMap Step.generated? ∧
      report.failed = steps.filterMap Step.failure? ∧
      w' = final w steps ∧
      report.succeeded.length + report.failed.length = steps.length ∧
      (∀ st ∈ steps, ∀ g, st.result = .ok g → g.service = st.service.name) ∧
      (steps.map Step.service = services ∧ (∀ f ∈ report.failed, f.2 ≠ .cancelled) ∨
        ∃ before last failed, steps = before ++ [last] ∧ last.result = .error .cancelled ∧
          report.failed = failed ++ [(last.service.name, .cancelled)] ∧
          ∀ f ∈ failed, f.2 ≠ .cancelled)) ∧
    ((∀ f ∈ report.failed, f.2 ≠ .cancelled) →
      (∀ sent sent' request, w.answers sent request = w.answers sent' request) →
      (∀ st ∈ steps, ¬ st.FailsToWrite p) →
      ∃ w₂, (Report.ofRun World.workspace p (survivors steps)).run w =
          (⟨report.succeeded, []⟩, w₂) ∧
        w₂.files = w'.files) := by
  rw [ofRun_eq] at h
  cases h
  obtain ⟨hp, hall⟩ := @history_services p services w
  refine ⟨⟨hp, rfl, rfl, rfl, length_filterMap _, fun st hst g hg => ?_, ?_⟩, fun hne hconst hf => ?_⟩
  · rw [eq_step_of_mem_history hst] at hg
    exact run_generated (outcome_run.trans (by rw [hg]))
  · rcases hall with ⟨hall, hne⟩ | ⟨before, last, hs, hl, hne⟩
    · exact Or.inl ⟨hall, Step.forall_failure?_iff.mpr hne⟩
    · have hfailed := Step.forall_failure?_iff.mpr hne
      refine Or.inr ⟨before, last, before.filterMap Step.failure?, hs, hl, ?_, hfailed⟩
      simp [hs, Step.failure?, hl]
  · have halike : w.Alike w := ⟨rfl, rfl, rfl, hconst, fun n hn => ⟨n, Nat.le_refl n, hn⟩⟩
    obtain ⟨w₂, hw₂, ha⟩ := ofRun_survivors halike (Step.forall_failure?_iff.mp hne) hf
    exact ⟨w₂, hw₂, ha.files⟩

lemma schemaAt_ping : pingTree.schemaAt [] "schema.json" = .ok (pingSchema, pingRaw) := by
  have hfile : pingTree.find true [] "schema.json" =
      .ok (["schema.json"], .file (.text pingText)) :=
    find_ping "schema.json" [] (by decide) rfl
  have hread : pingTree.readText [] "schema.json" = .ok pingText := by
    rw [FileTree.readText, hfile]
    rfl
  have hraw : Json.ofText? pingText = some pingRaw := by
    have hs : (Json.ofText? pingText).isSome := by decide +kernel
    obtain ⟨raw, hr⟩ := Option.isSome_iff_exists.mp hs
    rw [pingRaw, hr]
    rfl
  have hschema : Introspection.decode pingRaw = .ok pingSchema :=
    eq_ok_of_toOption (by decide +kernel)
  simp [FileTree.schemaAt, hread, hraw, hschema, Except.mapError, bind, Except.bind, pure,
    Except.pure]

def lostService : Service := { pingService with name := "lost", source := .file "lost.json" }

lemma outcome_load_lost : pingWorld.outcome (loadSchema World.workspace lostService) =
    (.error (.file "lost.json" .missing), pingWorld) := by
  have hdirectory : pingTree.label? [] = some .directory := rfl
  have hroot : pingTree.get? [] = some pingTree := rfl
  have hplace : pingTree.locate true [] "lost.json" = .ok ["lost.json"] := by
    rw [FileTree.locate, if_neg (by decide), FileTree.steps_of_isName (by decide),
      FileTree.startOf_of_isName (by decide)]
    exact FileTree.follow_name hdirectory (by decide) (by decide)
      fun _ => linkless_pingTree.not_link hroot
  have hread : pingTree.readText [] "lost.json" = .error .missing := by
    rw [FileTree.readText, FileTree.find, hplace]
    rfl
  have hschema : pingTree.schemaAt [] "lost.json" = .error (.file "lost.json" .missing) := by
    rw [FileTree.schemaAt, hread]
    rfl
  exact (outcome_readSchema "lost.json").trans (congrArg (·, pingWorld) hschema)

lemma outcome_lost : pingWorld.outcome (run World.workspace pingProject lostService) =
    (.error (.file "lost.json" .missing), pingWorld) := by
  rw [outcome_run_bind rfl, World.outcome_bind, outcome_load_lost]

lemma outcome_ping : ∃ generated w',
    pingWorld.outcome (run World.workspace pingProject pingService) = (.ok generated, w') := by
  obtain ⟨generated, w', h⟩ := generated_ping
  have hload : pingWorld.outcome (loadSchema World.workspace pingService) =
      (.ok (pingSchema, pingRaw), pingWorld) :=
    (outcome_readSchema "schema.json").trans (congrArg (·, pingWorld) schemaAt_ping)
  exact ⟨generated, w', (outcome_run_of_load rfl hload).trans h⟩

theorem ofRun_accounts_ping : ∃ generated w' w₂,
    (Report.ofRun World.workspace pingProject [lostService, pingService]).run pingWorld =
      (⟨[generated], [("lost", .file "lost.json" .missing)]⟩, w') ∧
    (Report.ofRun World.workspace pingProject [pingService]).run pingWorld =
      (⟨[generated], []⟩, w₂) ∧
    w₂.files = w'.files := by
  obtain ⟨generated, w', hping⟩ := outcome_ping
  have hlost : step pingProject lostService pingWorld =
      ⟨lostService, pingWorld, .error (.file "lost.json" .missing), pingWorld⟩ := by
    rw [step, outcome_lost]
  have hstep : step pingProject pingService pingWorld =
      ⟨pingService, pingWorld, .ok generated, w'⟩ := by
    rw [step, hping]
  have hsteps : history pingProject [lostService, pingService] pingWorld =
      [⟨lostService, pingWorld, .error (.file "lost.json" .missing), pingWorld⟩,
        ⟨pingService, pingWorld, .ok generated, w'⟩] := by
    simp [history, hlost, hstep, Step.isCancelled]
  have hrun : (Report.ofRun World.workspace pingProject [lostService, pingService]).run pingWorld =
      (⟨[generated], [("lost", .file "lost.json" .missing)]⟩, w') := by
    rw [ofRun_eq, hsteps]
    rfl
  have hwrites : ∀ st ∈ history pingProject [lostService, pingService] pingWorld,
      ¬ st.FailsToWrite pingProject := by
    rw [hsteps]
    simp only [List.forall_mem_cons]
    refine ⟨?_, ?_, by simp⟩
    · rintro ⟨v, v', schema, raw, output, e, hu, hl, -⟩
      rw [hu.eq_of_none rfl, outcome_load_lost] at hl
      cases hl
    · rintro ⟨v, v', schema, raw, output, e, -, -, -, he, -⟩
      cases he
  obtain ⟨-, h⟩ := ofRun_accounts hrun
  obtain ⟨w₂, hw₂, hfiles⟩ := h (by simp) (fun _ _ _ => rfl) hwrites
  rw [hsteps] at hw₂
  exact ⟨generated, w', w₂, hrun, hw₂, hfiles⟩

end Survivors

end GraphqlBindings.Service

import Mathlib.Tactic.Lemma
import GraphqlBindings.Proofs.Lists
import GraphqlBindings.Service.Run
import GraphqlBindings.Service.World

namespace GraphqlBindings

namespace World

variable {α β ε : Type} {v w w' : World}

def outcome (w : World) (action : ExceptT Error (StateM World) α) : Except Error α × World :=
  action.run w

@[simp] lemma outcome_pure {a : α} : w.outcome (pure a) = (.ok a, w) := rfl

@[simp] lemma outcome_throw {e : Error} : w.outcome (throw e : ExceptT Error (StateM World) α) =
    (.error e, w) := rfl

lemma outcome_bind {x : ExceptT Error (StateM World) α} {f : α → ExceptT Error (StateM World) β} :
    w.outcome (x >>= f) = match w.outcome x with
      | (.ok a, w') => w'.outcome (f a)
      | (.error e, w') => (.error e, w') := by
  change (ExceptT.bindCont f (x.run w).1 : StateM World (Except Error β)) (x.run w).2 = _
  rw [outcome]
  rcases x.run w with ⟨r, w'⟩
  cases r <;> rfl

@[simp] lemma outcome_attempt {effect : StateM World (Except ε α)} {error : ε → Error} :
    w.outcome (Workspace.attempt effect error) = ((effect w).1.mapError error, (effect w).2) := rfl

@[simp] lemma outcome_settle {result : Except ε α} {error : ε → Error} :
    w.outcome (Workspace.settle result error) = (result.mapError error, w) := rfl

@[simp] lemma outcome_check : w.outcome workspace.check =
    (if w.isCancelled.1 then .error .cancelled else .ok (), w.isCancelled.2) := rfl

lemma outcome_read {path : String} : w.outcome (workspace.read path) =
    ((w.files.readText w.directory path).mapError (.file path), w) := rfl

lemma outcome_filesBelow {root : String} {error : FileTree.WalkFault → Error} :
    w.outcome (Workspace.attempt (workspace.filesBelow root) error) =
      ((w.files.filesBelow w.directory root).mapError error, w) := rfl

lemma outcome_bind_cases {x : ExceptT Error (StateM World) α}
    {f : α → ExceptT Error (StateM World) β} {r : Except Error β}
    (h : w.outcome (x >>= f) = (r, w')) :
    (∃ e, r = .error e ∧ w.outcome x = (.error e, w')) ∨
      ∃ a v, w.outcome x = (.ok a, v) ∧ v.outcome (f a) = (r, w') := by
  rw [outcome_bind] at h
  rcases hx : w.outcome x with ⟨_ | a, v⟩ <;> rw [hx] at h
  · cases h
    exact Or.inl ⟨_, rfl, rfl⟩
  · exact Or.inr ⟨a, v, rfl, h⟩

lemma outcome_settle_bind {result : Except ε α} {error : ε → Error}
    {f : α → ExceptT Error (StateM World) β} {r : Except Error β}
    (h : w.outcome (Workspace.settle result error >>= f) = (r, w')) :
    (∃ e, result = .error e ∧ r = .error (error e) ∧ w' = w) ∨
      ∃ a, result = .ok a ∧ w.outcome (f a) = (r, w') := by
  rw [outcome_bind, outcome_settle] at h
  cases result with
  | error e =>
    cases h
    exact Or.inl ⟨e, rfl, rfl, rfl⟩
  | ok a => exact Or.inr ⟨a, rfl, h⟩

structure Unwritten (v w : World) : Prop where
  eq : w = { v with patience := w.patience }
  patience : v.patience = none → w.patience = none

lemma Unwritten.refl (w : World) : w.Unwritten w := ⟨rfl, id⟩

lemma Unwritten.files (h : v.Unwritten w) : w.files = v.files := by rw [h.eq]

lemma Unwritten.directory (h : v.Unwritten w) : w.directory = v.directory := by rw [h.eq]

lemma Unwritten.trans {u : World} (h : u.Unwritten v) (h' : v.Unwritten w) : u.Unwritten w :=
  ⟨by rw [h'.eq, h.eq], h'.patience ∘ h.patience⟩

lemma Unwritten.eq_of_none (h : v.Unwritten w) (hp : v.patience = none) : w = v := by
  rw [h.eq, h.patience hp, ← hp]

lemma outcome_check_bind {f : Unit → ExceptT Error (StateM World) β} {r : Except Error β}
    (h : w.outcome (workspace.check >>= f) = (r, w')) :
    (r = .error .cancelled ∧ w.patience ≠ none ∧ w.Unwritten w') ∨
      ∃ v, w.Unwritten v ∧ v.outcome (f ()) = (r, w') := by
  rw [outcome_bind, outcome_check] at h
  rcases hw : w.patience with _ | _ | checks <;> rw [isCancelled, hw] at h
  · exact Or.inr ⟨w, .refl w, h⟩
  · cases h
    exact Or.inl ⟨rfl, by simp, .refl _⟩
  · exact Or.inr ⟨{ w with patience := some checks }, ⟨rfl, by simp [hw]⟩, h⟩

end World

section Reading

variable {t : FileTree} {here : FileTree.Place} {w w' : World}

def FileTree.operationsAt (t : FileTree) (here : Place) (schema : Schema) (path : String) :
    Except Error (List Operation) := do
  let source ← (t.readText here path).mapError (.file path)
  (Operation.ofText schema path source).mapError (.document path)

def FileTree.operations (t : FileTree) (here : Place) (schema : Schema) (root : String) :
    Except Error (List Operation) := do
  let files ← (t.filesBelow here root).mapError (.walk root)
  let found ← (Service.documentPaths files).mapM (t.operationsAt here schema)
  return found.flatten

lemma FileTree.operations_error {files : List String} {root path : String} {schema : Schema}
    {e : Error} (hf : t.filesBelow here root = .ok files) (hp : path ∈ Service.documentPaths files)
    (he : t.operationsAt here schema path = .error e) :
    ∃ e', t.operations here schema root = .error e' := by
  obtain ⟨e', hm⟩ := exists_mapM_error hp he
  exact ⟨e', by simp [operations, hf, hm, Except.mapError, bind, Except.bind]⟩

def FileTree.schemaAt (t : FileTree) (here : Place) (path : String) :
    Except Error (Schema × Json) := do
  let text ← (t.readText here path).mapError (.file path)
  let raw ← (Json.ofText? text).elim (.error .notJson) .ok
  let schema ← (Introspection.decode raw).mapError .introspection
  return (schema, raw)

namespace Service

lemma outcome_readSchema (path : String) : w.outcome (readSchema World.workspace path) =
    (w.files.schemaAt w.directory path, w) := by
  rw [readSchema, World.outcome_bind, World.outcome_read]
  rcases hr : w.files.readText w.directory path with f | text
  · simp [FileTree.schemaAt, hr, Except.mapError, bind, Except.bind]
  · rcases hj : Json.ofText? text with _ | raw <;> simp only [Except.mapError, hj]
    · simp [FileTree.schemaAt, hr, hj, Except.mapError, bind, Except.bind]
    · rcases hd : Introspection.decode raw with f | schema <;>
        simp only [World.outcome_bind, World.outcome_settle, World.outcome_pure,
          Except.mapError] <;>
        simp [FileTree.schemaAt, hr, hj, hd, Except.mapError, bind, Except.bind, pure, Except.pure]

lemma outcome_operationsOf {schema : Schema} {paths : List String} :
    w.outcome (operationsOf World.workspace schema paths) =
      ((paths.mapM (w.files.operationsAt w.directory schema)).map List.flatten, w) := by
  induction paths with
  | nil => rfl
  | cons path rest ih =>
    rw [operationsOf, World.outcome_bind, World.outcome_read, List.mapM_cons]
    rcases hr : w.files.readText w.directory path with f | source
    · simp [FileTree.operationsAt, hr, Except.mapError, Except.map, bind, Except.bind]
    · rcases ho : Operation.ofText schema path source with f | operations <;>
        simp only [Except.mapError, World.outcome_bind, World.outcome_settle, ho, ih]
      · simp [FileTree.operationsAt, hr, ho, Except.mapError, Except.map, bind, Except.bind]
      · generalize rest.mapM (w.files.operationsAt w.directory schema) = found
        cases found <;> simp only [Except.map, World.outcome_pure] <;>
          simp [FileTree.operationsAt, hr, ho, Except.mapError, bind, Except.bind, pure,
            Except.pure]

lemma outcome_documents {root : String} :
    w.outcome (documents World.workspace root) =
      (((w.files.filesBelow w.directory root).mapError (.walk root)).map documentPaths, w) := by
  rw [documents, World.outcome_bind, World.outcome_filesBelow]
  cases w.files.filesBelow w.directory root <;> rfl

lemma outcome_documents_bind {schema : Schema} {root : String} {α : Type} {r : Except Error α}
    {f : List Operation → ExceptT Error (StateM World) α}
    (h : w.outcome (do
      let paths ← documents World.workspace root
      let operations ← operationsOf World.workspace schema paths
      f operations) = (r, w')) :
    (∃ e, w.files.operations w.directory schema root = .error e ∧ r = .error e ∧ w' = w) ∨
      ∃ operations, w.files.operations w.directory schema root = .ok operations ∧
        w.outcome (f operations) = (r, w') := by
  rw [World.outcome_bind, outcome_documents] at h
  rcases hf : w.files.filesBelow w.directory root with e | files <;>
    simp only [hf, Except.mapError, Except.map, World.outcome_bind, outcome_operationsOf] at h
  · cases h
    exact Or.inl ⟨_, by simp [FileTree.operations, hf, Except.mapError, bind, Except.bind],
      rfl, rfl⟩
  · rcases hd : (documentPaths files).mapM (w.files.operationsAt w.directory schema)
        with e | found <;>
      simp only [hd] at h
    · cases h
      exact Or.inl ⟨e, by simp [FileTree.operations, hf, hd, Except.mapError, bind, Except.bind],
        rfl, rfl⟩
    · exact Or.inr ⟨found.flatten, by simp [FileTree.operations, hf, hd, Except.mapError, bind,
        Except.bind, pure, Except.pure], h⟩

end Service

end Reading

namespace Service

section Steps

variable {m : Type → Type} [Monad m]

def prepared (p : Project) (s : Service) (schema : Schema) (raw : Json) (t : FileTree)
    (here : FileTree.Place) : Except Error Output := do
  let sdl ← checkedSdl schema
  let operations ← t.operations here schema s.operations
  s.output p schema raw sdl operations

def commit (w : Workspace m) (s : Service) (output : Output) : ExceptT Error m Generated := do
  Workspace.attempt (w.makeDirectories s.client) (.file s.client)
  let files ← writeFiles w s.client output.files
  return ⟨s.name, output.operations, output.declarations, files⟩

variable {p : Project} {s : Service} {schema : Schema} {raw : Json} {w w' : World}
  {result : Except Error Generated}

theorem generate_cases (h : w.outcome (generate World.workspace p s schema raw) = (result, w')) :
    (∃ e, result = .error e ∧ w.Unwritten w' ∧
      (e = .cancelled ∧ w.patience ≠ none ∨
        s.prepared p schema raw w.files w.directory = .error e)) ∨
    ∃ output v, s.prepared p schema raw w.files w.directory = .ok output ∧ w.Unwritten v ∧
      v.outcome (s.commit World.workspace output) = (result, w') := by
  rw [generate] at h
  rcases World.outcome_check_bind h with ⟨rfl, hp, hu⟩ | ⟨v₁, h₁, h⟩
  · exact Or.inl ⟨_, rfl, hu, Or.inl ⟨rfl, hp⟩⟩
  rcases World.outcome_settle_bind h with ⟨e, hs, rfl, rfl⟩ | ⟨sdl, hs, h⟩
  · exact Or.inl ⟨e, rfl, h₁, Or.inr (by simp [prepared, hs, bind, Except.bind])⟩
  rcases World.outcome_check_bind h with ⟨rfl, hp, hu⟩ | ⟨v₂, h₂, h⟩
  · exact Or.inl ⟨_, rfl, h₁.trans hu, Or.inl ⟨rfl, fun hn => hp (h₁.patience hn)⟩⟩
  have hv := h₁.trans h₂
  rcases outcome_documents_bind h with ⟨e, ho, rfl, rfl⟩ | ⟨operations, ho, h⟩ <;>
    rw [hv.files, hv.directory] at ho
  · exact Or.inl ⟨e, rfl, hv, Or.inr (by simp [prepared, hs, ho, bind, Except.bind])⟩
  rcases World.outcome_check_bind h with ⟨rfl, hp, hu⟩ | ⟨v₃, h₃, h⟩
  · exact Or.inl ⟨_, rfl, hv.trans hu, Or.inl ⟨rfl, fun hn => hp (hv.patience hn)⟩⟩
  rcases World.outcome_settle_bind h with ⟨e, hout, rfl, rfl⟩ | ⟨output, hout, h⟩
  · exact Or.inl ⟨e, rfl, hv.trans h₃, Or.inr (by simp [prepared, hs, ho, hout, bind, Except.bind])⟩
  have hp : s.prepared p schema raw w.files w.directory = .ok output := by
    simp [prepared, hs, ho, hout, bind, Except.bind]
  rcases World.outcome_check_bind h with ⟨rfl, hp, hu⟩ | ⟨v₄, h₄, h⟩
  · exact Or.inl ⟨_, rfl, (hv.trans h₃).trans hu,
      Or.inl ⟨rfl, fun hn => hp ((hv.trans h₃).patience hn)⟩⟩
  exact Or.inr ⟨output, v₄, hp, (hv.trans h₃).trans h₄, h⟩

lemma outcome_generate (hn : w.patience = none)
    {output : Output}
    (hp : s.prepared p schema raw w.files w.directory = .ok output) :
    w.outcome (generate World.workspace p s schema raw) =
      w.outcome (s.commit World.workspace output) := by
  rcases hg : w.outcome (generate World.workspace p s schema raw) with ⟨r, w'⟩
  rcases generate_cases hg with ⟨e, -, -, ⟨-, hw⟩ | he⟩ | ⟨output', v, hp', hu, hc⟩
  · exact absurd hn hw
  · cases hp.symm.trans he
  · cases hp.symm.trans hp'
    rw [← hu.eq_of_none hn, hc]

lemma outcome_run_bind (hn : w.patience = none) : w.outcome (run World.workspace p s) =
    w.outcome (loadSchema World.workspace s >>= fun found =>
      generate World.workspace p s found.1 found.2) := by
  rw [run, World.outcome_bind, World.outcome_check, World.isCancelled, hn]
  rfl

lemma outcome_run_of_load {v : World} (hn : w.patience = none)
    (hl : w.outcome (loadSchema World.workspace s) = (.ok (schema, raw), v)) :
    w.outcome (run World.workspace p s) = v.outcome (generate World.workspace p s schema raw) := by
  rw [outcome_run_bind hn, World.outcome_bind, hl]

end Steps

end Service

end GraphqlBindings

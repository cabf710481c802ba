import Mathlib.Order.Basic
import GraphqlBindings.Proofs.Service.Outcome

/-! What a service comes to does not depend on what was asked before it, nor on how much longer the
run could have gone on. -/

namespace GraphqlBindings

namespace World

variable {α β ε : Type} {u v w v' : World}

structure Before (v w : World) : Prop where
  directory : w.directory = v.directory
  answers : w.answers = v.answers
  patience : ∀ n, v.patience = some n → ∃ k ≤ n, w.patience = some k

lemma Before.refl (w : World) : w.Before w := ⟨rfl, rfl, fun n hn => ⟨n, Nat.le_refl n, hn⟩⟩

lemma Before.trans (h : u.Before v) (h' : v.Before w) : u.Before w where
  directory := h'.directory.trans h.directory
  answers := h'.answers.trans h.answers
  patience n hn := by
    obtain ⟨k, hk, hv⟩ := h.patience n hn
    obtain ⟨l, hl, hw⟩ := h'.patience k hv
    exact ⟨l, Nat.le_trans hl hk, hw⟩

/-- The second world is like the first one, and may be checked at least as often. Its replies do
not depend on what was sent before. -/
structure Alike (v w : World) : Prop where
  files : w.files = v.files
  directory : w.directory = v.directory
  answers : w.answers = v.answers
  constant : ∀ sent sent' request, v.answers sent request = v.answers sent' request
  patience : ∀ n, w.patience = some n → ∃ k ≤ n, v.patience = some k

lemma Alike.of_before (h : v.Alike w) (hb : v.Before v') (hf : v'.files = v.files) :
    v'.Alike w where
  files := h.files.trans hf.symm
  directory := h.directory.trans hb.directory.symm
  answers := h.answers.trans hb.answers.symm
  constant sent sent' request := by
    rw [hb.answers]
    exact h.constant sent sent' request
  patience n hn := by
    obtain ⟨k, hk, hv⟩ := h.patience n hn
    obtain ⟨l, hl, hv'⟩ := hb.patience k hv
    exact ⟨l, Nat.le_trans hl hk, hv'⟩

structure Steady (x : ExceptT Error (StateM World) α) : Prop where
  before : ∀ {w w' : World} {r : Except Error α}, w.outcome x = (r, w') → w.Before w'
  same : ∀ {v w v' : World} {r : Except Error α}, v.Alike w → v.outcome x = (r, v') →
    r ≠ .error .cancelled → ∃ w', w.outcome x = (r, w') ∧ v'.Alike w'

lemma Steady.of_outcome {x : ExceptT Error (StateM World) α} {r : Except Error α}
    (h : ∀ w, World.outcome w x = (r, w)) : Steady x where
  before hw := by
    rw [h] at hw
    cases hw
    exact .refl _
  same hvw hv _ := by
    rw [h] at hv ⊢
    cases hv
    exact ⟨_, rfl, hvw⟩

lemma Steady.pure (a : α) : Steady (Pure.pure a) := .of_outcome fun _ => rfl

lemma Steady.throw (e : Error) : Steady (throw e : ExceptT Error (StateM World) α) :=
  .of_outcome fun _ => rfl

lemma Steady.bind {x : ExceptT Error (StateM World) α}
    {f : α → ExceptT Error (StateM World) β} (hx : Steady x) (hf : ∀ a, Steady (f a)) :
    Steady (x >>= f) where
  before h := by
    rcases outcome_bind_cases h with ⟨e, -, h₁⟩ | ⟨a, v, h₁, h₂⟩
    · exact hx.before h₁
    · exact (hx.before h₁).trans ((hf a).before h₂)
  same hvw h hne := by
    rcases outcome_bind_cases h with ⟨e, rfl, h₁⟩ | ⟨a, u, h₁, h₂⟩
    · obtain ⟨w', hw, hvw'⟩ := hx.same hvw h₁ (by simpa using hne)
      exact ⟨w', by rw [outcome_bind, hw], hvw'⟩
    · obtain ⟨w₁, hw₁, hvw₁⟩ := hx.same hvw h₁ (by simp)
      obtain ⟨w', hw, hvw'⟩ := (hf a).same hvw₁ h₂ hne
      exact ⟨w', by rw [outcome_bind, hw₁]; exact hw, hvw'⟩

lemma Steady.settle (result : Except ε α) (error : ε → Error) :
    Steady (Workspace.settle result error) :=
  .of_outcome fun _ => rfl

lemma Steady.check : Steady workspace.check where
  before {w w' r} h := by
    rw [outcome_check, isCancelled] at h
    rcases hw : w.patience with _ | _ | n <;> rw [hw] at h <;> cases h
    · exact .refl w
    · exact .refl w
    · refine ⟨rfl, rfl, fun k hk => ⟨n, ?_, rfl⟩⟩
      rw [hw] at hk
      cases hk
      exact Nat.le_succ n
  same {v w v' r} hvw h hne := by
    rw [outcome_check, isCancelled] at h ⊢
    -- the other world has more patience, so that it is not cancelled either
    rcases hv : v.patience with _ | _ | k <;> rw [hv] at h <;> cases h
    · rcases hw : w.patience with _ | n
      · exact ⟨w, rfl, hvw⟩
      · obtain ⟨k, -, hk⟩ := hvw.patience n hw
        rw [hv] at hk
        cases hk
    · exact absurd rfl hne
    · rcases hw : w.patience with _ | n
      · exact ⟨w, rfl, hvw.files, hvw.directory, hvw.answers, hvw.constant,
          fun n hn => by simp [hw] at hn⟩
      · obtain ⟨l, hl, hk⟩ := hvw.patience n hw
        rw [hv] at hk
        cases hk
        obtain ⟨n, rfl⟩ := Nat.exists_eq_add_of_lt (Nat.lt_of_lt_of_le (Nat.succ_pos k) hl)
        refine ⟨_, rfl, hvw.files, hvw.directory, hvw.answers, hvw.constant,
          fun m hm => ⟨k, ?_, rfl⟩⟩
        cases hm
        omega

lemma Steady.reading {effect : StateM World (Except ε α)} {error : ε → Error}
    (result : FileTree → FileTree.Place → Except ε α)
    (heffect : ∀ w, effect w = (result w.files w.directory, w)) :
    Steady (Workspace.attempt effect error) where
  before h := by
    rw [outcome_attempt, heffect] at h
    cases h
    exact .refl _
  same hvw h _ := by
    rw [outcome_attempt, heffect] at h ⊢
    cases h
    rw [hvw.files, hvw.directory]
    exact ⟨_, rfl, hvw⟩

lemma Steady.writing {effect : StateM World (Except ε α)} {error : ε → Error}
    (result : FileTree → FileTree.Place → Except ε α × FileTree)
    (heffect : ∀ w, effect w = ((result w.files w.directory).1,
      { w with files := (result w.files w.directory).2 })) :
    Steady (Workspace.attempt effect error) where
  before h := by
    rw [outcome_attempt, heffect] at h
    cases h
    exact ⟨rfl, rfl, fun n hn => ⟨n, Nat.le_refl n, hn⟩⟩
  same hvw h _ := by
    rw [outcome_attempt, heffect] at h ⊢
    cases h
    rw [hvw.files, hvw.directory]
    exact ⟨_, rfl, rfl, rfl, hvw.answers, hvw.constant, hvw.patience⟩

lemma Steady.read (path : String) : Steady (workspace.read path) :=
  .reading (fun t here => t.readText here path) fun _ => rfl

lemma writeText_eq (path text : String) (w : World) : workspace.writeText path text w =
    ((w.files.writeText w.directory path text).map fun _ => (),
      { w with files := (w.files.writeText w.directory path text).toOption.getD w.files }) := by
  change w.writeText path text = _
  rw [World.writeText]
  cases w.files.writeText w.directory path text <;> rfl

lemma Steady.write (path text : String) : Steady (workspace.write path text) :=
  .writing (fun t here => ((t.writeText here path text).map fun _ => (),
    (t.writeText here path text).toOption.getD t)) (writeText_eq path text)

lemma introspect_send (c : Client) : ∃ request, ∀ w : World,
    (c.introspect workspace.send : StateM World _) w =
      (c.introspect (m := Id) (fun _ => w.answers w.sent request),
        { w with sent := request :: w.sent }) := by
  let q : Client.Query := ⟨Introspection.document, some Introspection.operationName, .object []⟩
  refine ⟨c.request q.body, fun w => ?_⟩
  have hsend : workspace.send (c.request q.body) w = (w.answers w.sent (c.request q.body),
    { w with sent := c.request q.body :: w.sent }) := rfl
  simp only [Client.introspect, Client.executeOperation, Client.execute]
  change StateT.bind (StateT.bind (StateT.bind (workspace.send (c.request q.body)) _) _) _ w = _
  simp only [StateT.bind, hsend]
  cases w.answers w.sent (c.request q.body) <;> rfl

lemma Steady.introspect (c : Client) :
    Steady (Workspace.attempt (c.introspect workspace.send) .client) := by
  obtain ⟨request, hc⟩ := introspect_send c
  constructor
  · intro w w' r h
    rw [outcome_attempt, hc] at h
    cases h
    exact ⟨rfl, rfl, fun n hn => ⟨n, Nat.le_refl n, hn⟩⟩
  · intro v w v' r hvw h _
    rw [outcome_attempt, hc] at h ⊢
    cases h
    rw [hvw.answers, hvw.constant w.sent v.sent]
    exact ⟨_, rfl, hvw.files, hvw.directory, rfl, hvw.constant, hvw.patience⟩

end World

namespace Service

open World (Steady)

variable {p : Project} {s : Service} {schema : Schema} {raw : Json} {paths : List String}
  {root : String} {files : List (String × String)}

lemma steady_loadSchema (s : Service) : Steady (loadSchema World.workspace s) := by
  rw [loadSchema]
  split
  · exact (Steady.settle _ _).bind fun client => .introspect client
  · refine (Steady.read _).bind fun text => ?_
    split
    · exact .throw _
    · exact (Steady.settle _ _).bind fun schema => .pure _

lemma outcome_loadSchema (s : Service) :
    ∃ (loaded : FileTree → FileTree.Place → (Http.Request → Option Http.Reply) →
        Except Error (Schema × Json)) (sent : List Http.Request → List Http.Request),
      ∀ w : World, w.outcome (loadSchema World.workspace s) =
        (loaded w.files w.directory (w.answers w.sent), { w with sent := sent w.sent }) := by
  rw [loadSchema]
  split
  · next url _ =>
    cases hc : s.schemaClient url with
    | error f => exact ⟨fun _ _ _ => .error (.client (.settings f)), id, fun w => rfl⟩
    | ok client =>
      obtain ⟨request, hi⟩ := World.introspect_send client
      refine ⟨fun _ _ answer =>
        (client.introspect (m := Id) fun _ => answer request).mapError .client,
        (request :: ·), fun w => ?_⟩
      change w.outcome (Workspace.attempt (client.introspect World.workspace.send) .client) = _
      rw [World.outcome_attempt, hi]
  · next path _ =>
    exact ⟨fun t here _ => t.schemaAt here path, id, fun w => outcome_readSchema path⟩

lemma steady_operationsOf (schema : Schema) (paths : List String) :
    Steady (operationsOf World.workspace schema paths) := by
  induction paths with
  | nil => exact .pure _
  | cons path rest ih =>
    exact (Steady.read _).bind fun source => (Steady.settle _ _).bind fun operations =>
      ih.bind fun others => .pure _

lemma steady_documents (root : String) : Steady (documents World.workspace root) :=
  (Steady.reading (fun t here => t.filesBelow here root) fun _ => rfl).bind fun _ => .pure _

lemma steady_writeFiles (root : String) (files : List (String × String)) :
    Steady (writeFiles World.workspace root files) := by
  induction files with
  | nil => exact .pure _
  | cons file rest ih => exact (Steady.write _ _).bind fun _ => ih.bind fun _ => .pure _

lemma steady_makeDirectories (root : String) :
    Steady (Workspace.attempt (World.workspace.makeDirectories root) (.file root)) :=
  .writing (fun t here => t.makeDirectories here root) fun _ => rfl

lemma steady_generate (p : Project) (s : Service) (schema : Schema) (raw : Json) :
    Steady (generate World.workspace p s schema raw) := by
  rw [generate]
  refine Steady.check.bind fun _ => (Steady.settle _ _).bind fun sdl => ?_
  refine Steady.check.bind fun _ => (steady_documents _).bind fun paths => ?_
  refine (steady_operationsOf _ _).bind fun operations => ?_
  refine Steady.check.bind fun _ => (Steady.settle _ _).bind fun output => ?_
  refine Steady.check.bind fun _ => (steady_makeDirectories _).bind fun _ => ?_
  exact (steady_writeFiles _ _).bind fun files => .pure _

theorem steady_run (p : Project) (s : Service) : Steady (run World.workspace p s) :=
  Steady.check.bind fun _ => (steady_loadSchema s).bind fun (schema, raw) =>
    steady_generate p s schema raw

end Service

end GraphqlBindings

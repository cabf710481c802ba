import GraphqlBindings.Proofs.FileTree.Relisted
import GraphqlBindings.Proofs.Service.Again
import GraphqlBindings.Proofs.Text

/-! The order in which directories are listed has no influence on a service: its documents are in an
order of their own, and everything else is found under its name. -/

namespace GraphqlBindings

open FileTree (SameNodes)

namespace World

variable {α β ε : Type} {v w : World}

structure Relisted (v w : World) : Prop where
  files : v.files.SameNodes w.files
  directory : w.directory = v.directory
  answers : w.answers = v.answers
  sent : w.sent = v.sent
  patience : w.patience = v.patience

structure Agree (v w : World) (x : ExceptT Error (StateM World) α) : Prop where
  result : (w.outcome x).1 = (v.outcome x).1
  after : Relisted (v.outcome x).2 (w.outcome x).2

lemma isCancelled_files : w.isCancelled.2.files = w.files := by
  rw [isCancelled]
  split <;> rfl

lemma isCancelled_directory : w.isCancelled.2.directory = w.directory := by
  rw [isCancelled]
  split <;> rfl

lemma agree_pure (h : v.Relisted w) (a : α) :
    Agree v w (pure a : ExceptT Error (StateM World) α) := ⟨rfl, h⟩

lemma Agree.bind {x : ExceptT Error (StateM World) α} {f : α → ExceptT Error (StateM World) β}
    (hx : Agree v w x) (hf : ∀ a, (v.outcome x).2.Relisted (w.outcome x).2 →
      Agree (v.outcome x).2 (w.outcome x).2 (f a)) :
    Agree v w (x >>= f) := by
  obtain ⟨hr, ha⟩ := hx
  constructor <;> rw [outcome_bind, outcome_bind] <;>
    generalize v.outcome x = a, w.outcome x = b at hr ha hf ⊢ <;>
    obtain ⟨r, v'⟩ := a <;> obtain ⟨r', w'⟩ := b <;> obtain rfl : r' = r := hr <;> cases r'
  · rfl
  · exact (hf _ ha).result
  · exact ha
  · exact (hf _ ha).after

lemma agree_settle (h : v.Relisted w) (result : Except ε α) (error : ε → Error) :
    Agree v w (Workspace.settle result error) := ⟨rfl, h⟩

lemma agree_check (h : v.Relisted w) : Agree v w workspace.check := by
  have hc : w.isCancelled.1 = v.isCancelled.1 ∧ Relisted v.isCancelled.2 w.isCancelled.2 := by
    rw [isCancelled, isCancelled, h.patience]
    split
    · exact ⟨rfl, h⟩
    · exact ⟨rfl, h⟩
    · exact ⟨rfl, h.files, h.directory, h.answers, h.sent, rfl⟩
  refine ⟨?_, hc.2⟩
  rw [outcome_check, outcome_check, hc.1]

lemma agree_attempt {effect : StateM World (Except ε α)} {error : ε → Error}
    (h : v.Relisted w) (result : FileTree → FileTree.Place → Except ε α × FileTree)
    (heffect : ∀ u, effect u = ((result u.files u.directory).1,
      { u with files := (result u.files u.directory).2 }))
    (hsame : ∀ {t t' : FileTree} {here : FileTree.Place}, t.SameNodes t' →
      (result t' here).1 = (result t here).1 ∧ (result t here).2.SameNodes (result t' here).2) :
    Agree v w (Workspace.attempt effect error) := by
  obtain ⟨hr, ht⟩ := @hsame _ _ v.directory h.files
  constructor <;> rw [outcome_attempt, outcome_attempt, heffect, heffect, h.directory]
  · exact congrArg (Except.mapError error) hr
  · exact ⟨ht, rfl, h.answers, h.sent, h.patience⟩

lemma agree_read (h : v.Relisted w) (path : String) : Agree v w (workspace.read path) :=
  agree_attempt h (fun t here => (t.readText here path, t)) (fun _ => rfl)
    fun ht => ⟨ht.readText, ht⟩

lemma agree_write (h : v.Relisted w) (path text : String) :
    Agree v w (workspace.write path text) := by
  refine agree_attempt h (fun t here => ((t.writeText here path text).map fun _ => (),
    (t.writeText here path text).toOption.getD t)) (writeText_eq path text) fun {t t' here} ht => ?_
  have hw : FileTree.SameResult (t.writeText here path text) (t'.writeText here path text) :=
    ht.writeText
  dsimp only
  generalize t.writeText here path text = r, t'.writeText here path text = r' at hw ⊢
  cases hw with
  | ok hu => exact ⟨rfl, hu⟩
  | error f => exact ⟨rfl, ht⟩

lemma agree_makeDirectories (h : v.Relisted w) (path : String) (error : FileTree.Fault → Error) :
    Agree v w (Workspace.attempt (workspace.makeDirectories path) error) :=
  agree_attempt h (fun t here => t.makeDirectories here path) (fun _ => rfl)
    SameNodes.makeDirectories

end World

namespace Service

open World

variable {v w : World} {p : Project} {s : Service} {schema : Schema} {raw : Json} {root : String}

lemma agree_operationsOf (h : v.Relisted w) (schema : Schema) (paths : List String) :
    Agree v w (operationsOf workspace schema paths) := by
  induction paths generalizing v w with
  | nil => exact agree_pure h _
  | cons path rest ih =>
    refine (agree_read h path).bind fun source h => (agree_settle h _ _).bind fun operations h => ?_
    exact (ih h).bind fun others h => agree_pure h _

lemma agree_writeFiles (h : v.Relisted w) (root : String) (files : List (String × String)) :
    Agree v w (writeFiles workspace root files) := by
  induction files generalizing v w with
  | nil => exact agree_pure h _
  | cons file rest ih =>
    refine (agree_write h (Path.join root file.1) file.2).bind fun _ h => ?_
    exact (ih h).bind fun others h => agree_pure h _

lemma agree_documents (h : v.Relisted w)
    (hd : SameDocuments v.files w.files v.directory root) :
    Agree v w (documents workspace root) := by
  constructor <;> rw [outcome_documents, outcome_documents]
  · have hp := hd.paths
    rw [h.directory]
    generalize v.files.filesBelow v.directory root = r,
      w.files.filesBelow v.directory root = r' at hp ⊢
    cases r <;> cases r' <;> simp_all [Except.map, Except.mapError]
  · exact h

theorem agree_generate (h : v.Relisted w)
    (hd : SameDocuments v.files w.files v.directory s.operations) :
    Agree v w (generate workspace p s schema raw) := by
  rw [generate]
  refine (agree_check h).bind fun _ h => (agree_settle h _ _).bind fun sdl h => ?_
  refine (agree_check h).bind fun _ h => ?_
  refine (agree_documents h ?_).bind fun paths h =>
    (agree_operationsOf h _ _).bind fun operations h => ?_
  · simpa only [outcome_check, outcome_settle, isCancelled_files, isCancelled_directory] using hd
  · refine (agree_check h).bind fun _ h => (agree_settle h _ _).bind fun output h => ?_
    refine (agree_check h).bind fun _ h => (agree_makeDirectories h _ _).bind fun _ h => ?_
    exact (agree_writeFiles h _ _).bind fun files h => agree_pure h _

section Documents

lemma mem_documentPaths_iff {files : List String} {path : String} :
    path ∈ documentPaths files ↔ path ∈ files ∧ Path.extension? path = some "graphql" := by
  rw [documentPaths, List.mem_mergeSort, List.mem_filter, isDocument, beq_iff_eq]

lemma pairwise_documentPaths {files : List String} (hn : files.Nodup) :
    (documentPaths files).Pairwise fun a b => Text.bytes a < Text.bytes b := by
  have ht : ∀ a b c : String, decide (a ≤ b) = true → decide (b ≤ c) = true →
      decide (a ≤ c) = true := by
    intro a b c hab hbc
    exact decide_eq_true (String.le_trans (of_decide_eq_true hab) (of_decide_eq_true hbc))
  have hl : ∀ a b : String, (decide (a ≤ b) || decide (b ≤ a)) = true := by
    intro a b
    simpa using String.le_total a b
  have hs := (List.pairwise_mergeSort ht hl (files.filter isDocument)).imp of_decide_eq_true
  have hd : (documentPaths files).Nodup :=
    (List.mergeSort_perm ..).nodup_iff.mpr (hn.filter _)
  -- no two of them are equal, so the order is strict
  refine (hs.and hd).imp fun ⟨hle, hne⟩ => ?_
  rw [← Text.lt_iff_bytes]
  exact String.not_le.mp fun h => hne (String.le_antisymm hle h)

lemma documentPaths_eq {files files' : List String} (hn : files.Nodup) (hn' : files'.Nodup)
    (h : ∀ f, f ∈ files' ↔ f ∈ files) : documentPaths files' = documentPaths files := by
  have hp : (documentPaths files').Perm (documentPaths files) :=
    ((List.mergeSort_perm ..).trans (((List.perm_ext_iff_of_nodup hn' hn).mpr h).filter _)).trans
      (List.mergeSort_perm ..).symm
  refine hp.eq_of_pairwise (fun a b _ _ hab hba => ?_) (pairwise_documentPaths hn')
    (pairwise_documentPaths hn)
  exact absurd hba (List.lt_asymm hab)

lemma outcome_documents_of_finds {w : World} {result : Except FileTree.WalkFault (List String)}
    (hr : w.files.filesBelow w.directory root = result)
    (h : FileTree.Finds w.files w.directory root result) :
    ∃ paths, w.outcome (documents workspace root) = (.ok paths, w) ∧
      (∀ path, path ∈ paths ↔ w.files.IsFileBelow w.directory root path ∧
        Path.extension? path = some "graphql") ∧
      paths.Pairwise fun a b => Text.bytes a < Text.bytes b := by
  obtain ⟨files, hok, hn, hm⟩ := h
  refine ⟨documentPaths files, ?_, fun path => ?_, pairwise_documentPaths hn⟩
  · rw [outcome_documents, hr, hok]
    rfl
  · rw [mem_documentPaths_iff, hm]

lemma sameDocuments_of_finds {t t' : FileTree} {here : FileTree.Place}
    (hs : t.SameNodes t') (h : FileTree.Finds t here root (t.filesBelow here root))
    (h' : FileTree.Finds t' here root (t'.filesBelow here root)) :
    SameDocuments t t' here root where
  paths := by
    obtain ⟨files, hok, hn, hm⟩ := h
    obtain ⟨files', hok', hn', hm'⟩ := h'
    have hsame (f) : f ∈ files' ↔ f ∈ files := by rw [hm', hm, hs.isFileBelow]
    rw [hok, hok', Except.map, Except.map, documentPaths_eq hn hn' hsame]
  texts _ _ _ _ := hs.readText

/-- Nothing that a service makes depends on the order in which directories are listed, provided that
every path below that of its documents can be followed, and that no link leads back. -/
theorem generate_relisted {w : World} {t : FileTree} {root : String} (hw : w.files.WellNamed)
    (hr : w.files.Relisted t) (hf : w.files.Followable w.directory root)
    (ha : w.files.Acyclic w.directory root) :
    let w' := { w with files := t }
    ∃ paths : List String,
      (∀ path, path ∈ paths ↔ w.files.IsFileBelow w.directory root path ∧
        Path.extension? path = some "graphql") ∧
      paths.Pairwise (fun a b => Text.bytes a < Text.bytes b) ∧
      w.outcome (documents workspace root) = (.ok paths, w) ∧
      w'.outcome (documents workspace root) = (.ok paths, w') ∧
      (∀ schema, (w'.outcome (documents workspace root >>= operationsOf workspace schema)).1 =
        (w.outcome (documents workspace root >>= operationsOf workspace schema)).1) ∧
      ∀ (p : Project) (s : Service) (schema : Schema) (raw : Json), s.operations = root →
        s.prepared p schema raw w'.files w'.directory =
          s.prepared p schema raw w.files w.directory ∧
        let (result, after) := w.outcome (generate workspace p s schema raw)
        let (result', after') := w'.outcome (generate workspace p s schema raw)
        result' = result ∧ ∀ place, after'.files.label? place = after.files.label? place := by
  intro w'
  have hs := hr.sameNodes hw
  have hrel : w.Relisted w' := ⟨hs, rfl, rfl, rfl, rfl⟩
  have hfinds := FileTree.filesBelow_finds hw hf ha
  have hfinds' : FileTree.Finds t w.directory root (t.filesBelow w.directory root) :=
    FileTree.filesBelow_finds (hr.wellNamed hw) (hs.followable hf) (hs.acyclic ha)
  have hdocs : SameDocuments w.files t w.directory root := sameDocuments_of_finds hs hfinds hfinds'
  have hagree : Agree w w' (documents workspace root) := agree_documents hrel hdocs
  obtain ⟨paths, hout, hm, hsorted⟩ := outcome_documents_of_finds rfl hfinds
  refine ⟨paths, hm, hsorted, hout, ?_, fun schema => ?_, ?_⟩
  · have hresult := hagree.result
    rw [hout] at hresult
    exact Prod.ext hresult (by rw [outcome_documents])
  · exact (hagree.bind fun paths h => agree_operationsOf h schema paths).result
  · rintro p s schema raw rfl
    have hg : Agree w w' (generate workspace p s schema raw) := agree_generate hrel hdocs
    refine ⟨?_, hg.result, hg.after.files⟩
    rw [prepared, prepared, hdocs.operations]

end Documents

section Linked

def libTree : FileTree := .directory [("z.graphql", .file (.text "query Z { x }"))]

def fileA : FileTree := .file (.text "query A { x }")

def fileB : FileTree := .file (.text "query B { x }")

def linkedTree : FileTree := .directory
  [("lib", libTree),
    ("ops", .directory [("b.graphql", fileB), ("a", .link "../lib"), ("a.graphql", fileA)])]

def relistedTree : FileTree := .directory
  [("ops", .directory [("a", .link "../lib"), ("a.graphql", fileA), ("b.graphql", fileB)]),
    ("lib", libTree)]

lemma wellNamed_lib : libTree.WellNamed :=
  .directory (by decide) (by decide) (by simpa using FileTree.WellNamed.file _)

lemma wellNamed_linked : linkedTree.WellNamed := by
  have hops : (FileTree.directory
      [("b.graphql", fileB), ("a", .link "../lib"), ("a.graphql", fileA)]).WellNamed :=
    .directory (by decide) (by decide) (by simpa using ⟨.file _, .link _, .file _⟩)
  exact .directory (by decide) (by decide) (by simpa using ⟨wellNamed_lib, hops⟩)

lemma relisted_linked : linkedTree.Relisted relistedTree := by
  refine .directory (by decide) fun name node node' h h' => ?_
  simp only [List.mem_cons, Prod.mk.injEq, List.not_mem_nil, or_false] at h h'
  rcases h with ⟨rfl, rfl⟩ | ⟨rfl, rfl⟩ <;> rcases h' with ⟨hn, rfl⟩ | ⟨hn, rfl⟩
  · exact absurd hn (by decide)
  · exact wellNamed_lib.relisted
  · refine .directory (by decide) fun name node node' h h' => ?_
    simp only [List.mem_cons, Prod.mk.injEq, List.not_mem_nil, or_false] at h h'
    rcases h with ⟨rfl, rfl⟩ | ⟨rfl, rfl⟩ | ⟨rfl, rfl⟩ <;>
      rcases h' with ⟨hn, rfl⟩ | ⟨hn, rfl⟩ | ⟨hn, rfl⟩ <;>
      first | exact absurd hn (by decide) | exact .file _ | exact .link _
  · exact absurd hn (by decide)

lemma census_linked : FileTree.Census linkedTree []
    [("ops", ["ops"]), ("ops/b.graphql", ["ops", "b.graphql"]), ("ops/a", ["lib"]),
      ("ops/a/z.graphql", ["lib", "z.graphql"]), ("ops/a.graphql", ["ops", "a.graphql"])] where
  located := by
    have hops : FileTree.steps "ops" = ["ops"] := by decide +kernel
    have hb : FileTree.steps "ops/b.graphql" = ["ops", "b.graphql"] := by decide +kernel
    have ha : FileTree.steps "ops/a" = ["ops", "a"] := by decide +kernel
    have hz : FileTree.steps "ops/a/z.graphql" = ["ops", "a", "z.graphql"] := by decide +kernel
    have hf : FileTree.steps "ops/a.graphql" = ["ops", "a.graphql"] := by decide +kernel
    have hlib : FileTree.steps "../lib" = ["..", "lib"] := by decide +kernel
    have hrel : ∀ path ∈ ["ops", "ops/b.graphql", "ops/a", "ops/a/z.graphql", "ops/a.graphql",
        "../lib"], Path.isAbsolute path = false := by decide
    simp only [List.forall_mem_cons] at hrel
    simp [FileTree.locate, FileTree.startOf, FileTree.linkLimit, FileTree.follow, linkedTree,
      libTree, fileA, fileB, List.lookup_cons, hops, hb, ha, hz, hf, hlib, hrel]
  found := by decide +kernel
  once := by decide +kernel

theorem documents_linked :
    let w : World := .ofFiles linkedTree []
    let w' := { w with files := relistedTree }
    linkedTree.WellNamed ∧ linkedTree.Relisted relistedTree ∧ linkedTree.Followable [] "ops" ∧
      linkedTree.Acyclic [] "ops" ∧
      ∃ paths, w.outcome (documents workspace "ops") = (.ok paths, w) ∧
        w'.outcome (documents workspace "ops") = (.ok paths, w') ∧ "ops/a/z.graphql" ∈ paths := by
  intro w w'
  have hf : linkedTree.Followable [] "ops" := census_linked.followable (by simp)
  have ha : linkedTree.Acyclic [] "ops" := census_linked.acyclic wellNamed_linked (by simp)
  obtain ⟨paths, hm, -, h, h', -⟩ :=
    generate_relisted (w := w) wellNamed_linked relisted_linked hf ha
  have hops : FileTree.StandsAt linkedTree [] "ops" ["ops"] .directory :=
    ⟨census_linked.located ("ops", ["ops"]) (by simp), by decide +kernel⟩
  have hlib : FileTree.StandsAt linkedTree [] "ops/a" ["lib"] .directory :=
    ⟨census_linked.located ("ops/a", ["lib"]) (by simp), by decide +kernel⟩
  have hz : FileTree.StandsAt linkedTree [] "ops/a/z.graphql" ["lib", "z.graphql"]
      (.file (.text "query Z { x }")) :=
    ⟨census_linked.located ("ops/a/z.graphql", ["lib", "z.graphql"]) (by simp), by decide +kernel⟩
  have hbelow : FileTree.Below linkedTree [] "ops" "ops/a/z.graphql" := by
    have ha : FileTree.Entry linkedTree [] "ops" (Path.join "ops" "a") :=
      .intro hops (by decide +kernel)
    have hz : FileTree.Entry linkedTree [] "ops/a" (Path.join "ops/a" "z.graphql") :=
      .intro hlib (by decide +kernel)
    exact .head ha (.single hz)
  refine ⟨wellNamed_linked, relisted_linked, hf, ha, paths, h, h', ?_⟩
  exact (hm _).mpr ⟨⟨hbelow, _, _, hz⟩, by decide +kernel⟩

end Linked

end Service

end GraphqlBindings

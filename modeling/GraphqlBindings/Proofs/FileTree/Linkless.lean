import GraphqlBindings.FileTree.Walk
import GraphqlBindings.Proofs.FileTree.Writing

namespace GraphqlBindings.FileTree

open GraphqlBindings.Path

inductive Named : FileTree → Prop
  | file (contents : Contents) : Named (.file contents)
  | link (target : String) : Named (.link target)
  | directory {entries : List (String × FileTree)} : (∀ e ∈ entries, IsName e.1) →
      (∀ e ∈ entries, Named e.2) → Named (.directory entries)

mutual

def pathsOf (path : String) : FileTree → List String
  | .file _ => [path]
  | .link _ => []
  | .directory entries => entryPaths path entries

def entryPaths (path : String) : List (String × FileTree) → List String
  | [] => []
  | (name, t) :: rest => pathsOf (join path name) t ++ entryPaths path rest

end

def joinAll (path : String) (names : List String) : String := names.foldl join path

section Walk

variable {t node : FileTree} {here place : Place} {path : String}
  {entries : List (String × FileTree)} {trail : Trail} {outside : List Place}

lemma walkEntries_eq (h : ∀ e ∈ entries, ∀ path place,
    walkNode t here trail outside path place e.2 = .ok (pathsOf path e.2)) :
    walkEntries t here trail outside path place entries = .ok (entryPaths path entries) := by
  induction entries with
  | nil => rw [walkEntries, entryPaths]
  | cons e rest ih =>
    obtain ⟨name, node⟩ := e
    rw [walkEntries, h (name, node) (by simp), ih fun e he => h e (by simp [he]), entryPaths]
    rfl

theorem walkNode_linkless (h : node.Linkless) :
    walkNode t here trail outside path place node = .ok (pathsOf path node) := by
  induction h generalizing trail outside path place with
  | file contents => rw [walkNode, pathsOf]
  | directory _ ih =>
    rw [walkNode, pathsOf]
    exact walkEntries_eq fun e he path place => ih e he

lemma mem_entryPaths {f : String} :
    f ∈ entryPaths path entries ↔ ∃ e ∈ entries, f ∈ pathsOf (join path e.1) e.2 := by
  induction entries with
  | nil => simp [entryPaths]
  | cons e rest ih => rw [entryPaths, List.mem_append, ih, List.exists_mem_cons_iff]

lemma mem_pathsOf {names : List String} {c : Contents} (h : node.get? names = some (.file c)) :
    joinAll path names ∈ pathsOf path node := by
  induction names generalizing node path with
  | nil =>
    obtain rfl : node = .file c := by simpa using h
    simp [pathsOf, joinAll]
  | cons name rest ih =>
    cases node with
    | file _ => simp at h
    | link _ => simp at h
    | directory entries =>
      obtain ⟨child, hl, hc⟩ := Option.bind_eq_some_iff.mp h
      obtain ⟨before, after, rfl, -⟩ := List.lookup_eq_some_iff.mp hl
      rw [pathsOf, mem_entryPaths]
      exact ⟨(name, child), by simp, ih hc⟩

theorem exists_joinAll (h : node.Named) : ∀ f ∈ pathsOf path node,
    ∃ names, (∀ n ∈ names, IsName n) ∧ f = joinAll path names := by
  induction h generalizing path with
  | file contents =>
    intro f hf
    rw [pathsOf, List.mem_singleton] at hf
    exact ⟨[], by simp, hf⟩
  | link target => simp [pathsOf]
  | directory hnames _ ih =>
    intro f hf
    rw [pathsOf] at hf
    obtain ⟨e, he, hf⟩ := mem_entryPaths.mp hf
    obtain ⟨names, hn, rfl⟩ := ih e he f hf
    exact ⟨e.1 :: names, List.forall_mem_cons.mpr ⟨hnames e he, hn⟩, rfl⟩

end Walk

section Reading

variable {t t' node : FileTree} {here place q : Place} {root : String} {names : List String}
  {followLast : Bool} {links : Nat}

lemma Linkless.of_get? (h : node.Linkless) {child : FileTree} (hc : node.get? names = some child) :
    child.Linkless := by
  induction names generalizing node with
  | nil =>
    obtain rfl : node = child := by simpa using hc
    exact h
  | cons name rest ih =>
    cases h with
    | file c => simp at hc
    | directory hp =>
      obtain ⟨below, hl, hc⟩ := Option.bind_eq_some_iff.mp hc
      exact ih (of_lookup (.directory hp) hl) hc

lemma Linkless.not_link (h : node.Linkless) (ht : t.get? place = some node) (target : String) :
    t.label? (place ++ names) ≠ some (.link target) := by
  rw [label?, get?_append, ht, Option.bind_some]
  cases hc : node.get? names with
  | none => simp
  | some child => cases h.of_get? hc <;> simp [label]

lemma follow_linkless_cons {entries : List (String × FileTree)} {name : String}
    (h : t.get? place = some (.directory entries)) (hp : (directory entries).Linkless)
    (hn : IsName name) : t.follow followLast links place (name :: names) =
      match entries.lookup name with
      | none => if names.isEmpty then .ok (place ++ [name]) else .error .missing
      | some _ => t.follow followLast links (place ++ [name]) names := by
  rw [follow, h]
  simp only [hn.2.2.1, hn.2.2.2, if_false]
  cases hl : entries.lookup name with
  | none => rfl
  | some child => cases hp.of_lookup hl <;> rfl

lemma follow_linkless (h : t.get? place = some node) (hp : node.Linkless)
    (hn : ∀ n ∈ names, IsName n) (hf : t.follow followLast links place names = .ok q) :
    q = place ++ names := by
  induction names generalizing place node with
  | nil =>
    rw [follow] at hf
    simpa using (Except.ok.inj hf).symm
  | cons name rest ih =>
    obtain ⟨entries, he⟩ := label?_eq_directory.mp (label?_of_follow_cons hf)
    obtain rfl : node = .directory entries := Option.some.inj (h.symm.trans he)
    obtain ⟨hname, hrest⟩ := List.forall_mem_cons.mp hn
    rw [follow_linkless_cons he hp hname] at hf
    cases hl : entries.lookup name with
    | none =>
      simp only [hl, List.isEmpty_iff] at hf
      split at hf
      · next hr =>
        rw [hr]
        exact (Except.ok.inj hf).symm
      · cases hf
    | some child =>
      simp only [hl] at hf
      have := ih (by rw [get?_concat he, hl]) (hp.of_lookup hl) hrest hf
      simpa using this

lemma follow_linkless_congr (h : t.get? place = some node) (h' : t'.get? place = some node)
    (hp : node.Linkless) (hn : ∀ n ∈ names, IsName n) :
    t'.follow followLast links place names = t.follow followLast links place names := by
  induction names generalizing place node with
  | nil => rw [follow, follow]
  | cons name rest ih =>
    obtain ⟨hname, hrest⟩ := List.forall_mem_cons.mp hn
    cases node with
    | file _ => rw [follow, follow, h, h']
    | link _ => rw [follow, follow, h, h']
    | directory entries =>
      rw [follow_linkless_cons h hp hname, follow_linkless_cons h' hp hname]
      cases hl : entries.lookup name with
      | none => rfl
      | some child =>
        exact ih (by rw [get?_concat h, hl]) (by rw [get?_concat h', hl]) (hp.of_lookup hl) hrest

lemma follow_of_get? {child : FileTree} (h : t.get? place = some node) (hp : node.Linkless)
    (hn : ∀ n ∈ names, IsName n) (hc : node.get? names = some child) :
    t.follow followLast links place names = .ok (place ++ names) := by
  induction names generalizing place node with
  | nil => rw [follow, List.append_nil]
  | cons name rest ih =>
    obtain ⟨hname, hrest⟩ := List.forall_mem_cons.mp hn
    cases hp with
    | file c => simp at hc
    | @directory entries hall =>
      obtain ⟨below, hl, hc⟩ := Option.bind_eq_some_iff.mp hc
      have hb : entries.lookup name = some below := hl
      have hp : (directory entries).Linkless := .directory hall
      rw [follow_linkless_cons h hp hname, hb]
      have hbelow : t.get? (place ++ [name]) = some below := by rw [get?_concat h, hb]
      simpa using ih hbelow (hp.of_lookup hb) hrest hc

lemma joinAll_ne_empty (hr : root ≠ "") (hn : ∀ n ∈ names, IsName n) : joinAll root names ≠ "" := by
  induction names generalizing root with
  | nil => exact hr
  | cons name rest ih =>
    obtain ⟨hname, hrest⟩ := List.forall_mem_cons.mp hn
    exact ih (join_ne_empty hname) hrest

lemma startOf_joinAll (hr : root ≠ "") (hn : ∀ n ∈ names, IsName n) :
    startOf here (joinAll root names) = startOf here root := by
  induction names generalizing root with
  | nil => rfl
  | cons name rest ih =>
    obtain ⟨hname, hrest⟩ := List.forall_mem_cons.mp hn
    exact (ih (join_ne_empty hname) hrest).trans (startOf_join hr hname)

lemma names_joinAll (hr : root ≠ "") (hn : ∀ n ∈ names, IsName n) :
    Path.names (joinAll root names) = Path.names root ++ names := by
  induction names generalizing root with
  | nil => simp [joinAll]
  | cons name rest ih =>
    obtain ⟨hname, hrest⟩ := List.forall_mem_cons.mp hn
    change Path.names (joinAll (join root name) rest) = _
    rw [ih (join_ne_empty hname) hrest, names_join hr hname, List.append_assoc]
    rfl

lemma endsInSlash_joinAll (hr : root ≠ "") (hne : names ≠ []) (hn : ∀ n ∈ names, IsName n) :
    endsInSlash (joinAll root names) = false := by
  induction names generalizing root with
  | nil => exact absurd rfl hne
  | cons name rest ih =>
    obtain ⟨hname, hrest⟩ := List.forall_mem_cons.mp hn
    by_cases h : rest = []
    · subst h
      exact endsInSlash_join hr hname
    · exact ih (join_ne_empty hname) h hrest

lemma steps_joinAll (hr : root ≠ "") (hne : names ≠ []) (hn : ∀ n ∈ names, IsName n) :
    steps (joinAll root names) = Path.names root ++ names := by
  simp [steps, names_joinAll hr hn, endsInSlash_joinAll hr hne hn]

lemma find_joinAll {name : String} {child : FileTree} (h : t.get? here = some node)
    (hp : node.Linkless) (hn : ∀ n ∈ name :: names, IsName n)
    (hc : node.get? (name :: names) = some child) :
    t.find followLast here (joinAll name names) = .ok (here ++ name :: names, child) := by
  obtain ⟨hname, hrest⟩ := List.forall_mem_cons.mp hn
  have hsteps : steps (joinAll name names) = name :: names := by
    by_cases hne : names = []
    · subst hne
      exact steps_of_isName hname
    · rw [steps_joinAll hname.1 hne hrest, names_of_isName hname]
      rfl
  refine find_eq_ok.mpr ⟨?_, by rw [get?_append, h, Option.bind_some, hc]⟩
  rw [locate, if_neg (by simpa using joinAll_ne_empty hname.1 hrest), hsteps,
    startOf_joinAll hname.1 hrest, startOf_of_isName hname]
  exact follow_of_get? h hp hn hc

lemma leads_of_find (h : t.find false here root = .ok (place, node)) (hp : node.Linkless) :
    root ≠ "" ∧ t.get? place = some node ∧
      ∃ left, t.Leads linkLimit (startOf here root) (steps root) left place := by
  obtain ⟨hl, hg⟩ := find_eq_ok.mp h
  rw [locate] at hl
  split at hl
  · cases hl
  · next hr =>
    refine ⟨by simpa using hr, hg, (follow_cases hl).resolve_right ?_⟩
    cases hp <;> simp [label?, hg, label]

lemma exists_locate_joinAll (h : t.find false here root = .ok (place, node)) (hp : node.Linkless) :
    ∃ left, ∀ t', t.Extends t' → ∀ followLast names, names ≠ [] → (∀ n ∈ names, IsName n) →
      t'.locate followLast here (joinAll root names) = t'.follow followLast left place names := by
  obtain ⟨hr, -, left, hl⟩ := leads_of_find h hp
  obtain ⟨left, hl⟩ := hl.of_steps
  refine ⟨left, fun t' hx followLast names hne hn => ?_⟩
  rw [locate, if_neg (by simpa using joinAll_ne_empty hr hn), startOf_joinAll hr hn,
    steps_joinAll hr hne hn, (hl.mono hx).follow_append (Or.inr hne)]

lemma locate_joinAll (h : t.find false here root = .ok (place, node)) (hp : node.Linkless)
    (hx : t.Extends t') (hkeep : t'.get? place = some node) (hn : ∀ n ∈ names, IsName n) :
    t'.locate true here (joinAll root names) = t.locate true here (joinAll root names) ∧
      ∀ q, t.locate true here (joinAll root names) = .ok q → q = place ++ names := by
  obtain ⟨hr, hnode, left, hl⟩ := leads_of_find h hp
  by_cases hne : names = []
  · subst hne
    have hlocate {t : FileTree}
        (hl : t.Leads linkLimit (startOf here root) (steps root) left place) :
        t.locate true here root = .ok place := by
      rw [locate, if_neg (by simpa using hr), hl.follow]
    rw [joinAll, List.foldl_nil, List.append_nil, hlocate hl, hlocate (hl.mono hx)]
    exact ⟨rfl, fun q hq => (Except.ok.inj hq).symm⟩
  · obtain ⟨left, hlocate⟩ := exists_locate_joinAll h hp
    rw [hlocate t (.refl t) true names hne hn, hlocate t' hx true names hne hn]
    exact ⟨follow_linkless_congr hnode hkeep hp hn, fun q hq => follow_linkless hnode hp hn hq⟩

theorem readText_joinAll (h : t.find false here root = .ok (place, node)) (hp : node.Linkless)
    (hx : t.Extends t') (hkeep : t'.get? place = some node) (hn : ∀ n ∈ names, IsName n) :
    t'.readText here (joinAll root names) = t.readText here (joinAll root names) := by
  obtain ⟨-, hnode, -⟩ := leads_of_find h hp
  obtain ⟨hlocate, hplace⟩ := locate_joinAll h hp hx hkeep hn
  have hfind : t'.find true here (joinAll root names) = t.find true here (joinAll root names) := by
    rw [find, find, hlocate]
    cases hq : t.locate true here (joinAll root names) with
    | error f => rfl
    | ok q =>
      have hget : t'.get? q = t.get? q := by
        rw [hplace q hq, get?_append, get?_append, hnode, hkeep]
      simp [bind, Except.bind, hget]
  rw [readText, readText, hfind]

theorem filesBelow_linkless (h : t.find false here root = .ok (place, node)) (hp : node.Linkless) :
    t.filesBelow here root = .ok (pathsOf root node) := by
  rw [filesBelow, h]
  exact walkNode_linkless hp

end Reading

end GraphqlBindings.FileTree

import Mathlib.Logic.Relation
import GraphqlBindings.FileTree.Walk
import GraphqlBindings.Proofs.FileTree.Writing

/-! A walk in which every path can be followed, and in which no directory comes up below itself,
ends with the paths of all files, each once. -/

namespace GraphqlBindings.FileTree

open GraphqlBindings.Path

inductive WellNamed : FileTree → Prop
  | file (contents : Contents) : WellNamed (.file contents)
  | link (target : String) : WellNamed (.link target)
  | directory {entries : List (String × FileTree)} : (entries.map Prod.fst).Nodup →
      (∀ e ∈ entries, IsName e.1) → (∀ e ∈ entries, WellNamed e.2) →
      WellNamed (.directory entries)

structure StandsAt (t : FileTree) (here : Place) (path : String) (place : Place) (k : Label) :
    Prop where
  located : t.locate true here path = .ok place
  label_eq : t.label? place = some k

inductive Entry (t : FileTree) (here : Place) (path : String) : String → Prop
  | intro {place : Place} {name : String} : StandsAt t here path place .directory →
      t.label? (place ++ [name]) ≠ none → Entry t here path (join path name)

abbrev Below (t : FileTree) (here : Place) : String → String → Prop :=
  Relation.ReflTransGen (Entry t here)

def IsFileBelow (t : FileTree) (here : Place) (root path : String) : Prop :=
  Below t here root path ∧ ∃ place c, StandsAt t here path place (.file c)

def Followable (t : FileTree) (here : Place) (root : String) : Prop :=
  ∀ path, Below t here root path → ∃ place k, StandsAt t here path place k

def Acyclic (t : FileTree) (here : Place) (root : String) : Prop :=
  ∀ path inner place, Below t here root path → Relation.TransGen (Entry t here) path inner →
    StandsAt t here path place .directory → ¬ StandsAt t here inner place .directory

section Names

variable {t node : FileTree} {place : Place} {entries : List (String × FileTree)}
  {e : String × FileTree} {name : String}

lemma WellNamed.of_get? (h : t.WellNamed) (hg : t.get? place = some node) : node.WellNamed := by
  induction place generalizing t with
  | nil =>
    obtain rfl : t = node := by simpa using hg
    exact h
  | cons name rest ih =>
    cases h with
    | file c => simp at hg
    | link target => simp at hg
    | @directory entries hd hnames hall =>
      obtain ⟨child, hl, hc⟩ := Option.bind_eq_some_iff.mp hg
      exact ih (hall (name, child) ((mem_iff_lookup hd).mpr hl)) hc

lemma WellNamed.of_label? (h : t.WellNamed) (hd : t.label? place = some .directory)
    (hk : t.label? (place ++ [name]) ≠ none) : IsName name := by
  obtain ⟨entries, he⟩ := label?_eq_directory.mp hd
  cases h.of_get? he with
  | directory hnodup hnames _ =>
    rw [label?_concat he] at hk
    obtain ⟨node, hn⟩ := Option.ne_none_iff_exists'.mp (Option.map_eq_none_iff.not.mp hk)
    exact hnames (name, node) ((mem_iff_lookup hnodup).mpr hn)

lemma mem_entryDirectories {here : Place} {child : FileTree} (hl : entries.lookup name = some child)
    (hp : place ∈ directories (here ++ [name]) child) : place ∈ entryDirectories here entries := by
  induction entries with
  | nil => simp at hl
  | cons e rest ih =>
    rw [lookup_cons_ite] at hl
    rw [entryDirectories, List.mem_append]
    split at hl
    · next he =>
      obtain rfl := Option.some.inj hl
      exact Or.inl (he ▸ hp)
    · exact Or.inr (ih hl)

lemma mem_directories (here : Place) (h : t.label? place = some .directory) :
    here ++ place ∈ directories here t := by
  induction place generalizing t here with
  | nil =>
    obtain ⟨entries, he⟩ := label?_eq_directory.mp h
    obtain rfl : t = .directory entries := by simpa using he
    simp [directories]
  | cons name rest ih =>
    obtain ⟨below, hb⟩ := label?_eq_directory.mp h
    cases t with
    | file _ => simp at hb
    | link _ => simp at hb
    | directory entries =>
      obtain ⟨child, hl, hc⟩ := Option.bind_eq_some_iff.mp hb
      rw [directories, List.append_cons]
      exact List.mem_cons_of_mem _ (mem_entryDirectories hl (ih _ (label?_directory hc)))

end Names

section Paths

variable {t : FileTree} {here place q : Place} {root path f : String} {k k' : Label}

lemma StandsAt.eq (h : StandsAt t here path place k) (h' : StandsAt t here path q k') :
    place = q ∧ k = k' := by
  obtain rfl : place = q := Except.ok.inj (h.located.symm.trans h'.located)
  exact ⟨rfl, Option.some.inj (h.label_eq.symm.trans h'.label_eq)⟩

lemma StandsAt.ne_empty (h : StandsAt t here path place k) : path ≠ "" := by
  rintro rfl
  cases h.located

lemma StandsAt.exists_get? (h : StandsAt t here path place k) :
    ∃ node, t.get? place = some node ∧ node.label = k :=
  Option.map_eq_some_iff.mp h.label_eq

lemma StandsAt.exists_find (h : StandsAt t here path place k) :
    ∃ q node, t.find false here path = .ok (q, node) := by
  have hl := h.located
  rw [locate] at hl
  split at hl
  · cases hl
  · next hp =>
    have hk : t.label? place ≠ none := by simp [h.label_eq]
    obtain ⟨left, hs⟩ := (follow_cases hl).resolve_right <| by
      rintro ⟨-, hn | ⟨hf, -⟩⟩
      · exact hk hn
      · cases hf
    obtain ⟨q, hq, hn⟩ := hs.exists_follow false hk
    obtain ⟨node, hg⟩ := Option.ne_none_iff_exists'.mp (label?_eq_none.not.mp hn)
    exact ⟨q, node, find_eq_ok.mpr ⟨by rw [locate, if_neg hp, hq], hg⟩⟩

lemma standsAt_of_find {node : FileTree} (h : t.find false here path = .ok (place, node))
    (hn : ∀ target, node ≠ .link target) : StandsAt t here path place node.label := by
  obtain ⟨hl, hg⟩ := find_eq_ok.mp h
  have hk : t.label? place = some node.label := by rw [label?, hg]; rfl
  refine ⟨?_, hk⟩
  rw [locate] at hl ⊢
  split at hl
  · cases hl
  · next hp =>
    -- it is no link, so the last step would have been the same with links followed
    obtain ⟨left, hs⟩ := (follow_cases hl).resolve_right <| by
      rintro ⟨-, h | ⟨-, target, h⟩⟩
      · simp [hk] at h
      · rw [hk] at h
        cases node <;> simp [label] at h
        exact hn _ rfl
    rw [if_neg hp, hs.follow]

lemma find_join {node : FileTree} {name : String} (h : StandsAt t here path place .directory)
    (hn : IsName name) (hg : t.get? (place ++ [name]) = some node) :
    t.find false here (join path name) = .ok (place ++ [name], node) := by
  obtain ⟨hp, left, hl⟩ := (locate_directory_iff h.label_eq).mp h.located
  refine find_eq_ok.mpr ⟨?_, hg⟩
  rw [locate, if_neg (by simpa using join_ne_empty hn), steps_join hp hn, startOf_join hp hn,
    hl.follow_append (Or.inr (by simp))]
  exact follow_name h.label_eq hn.2.2.1 hn.2.2.2 (by simp)

lemma Entry.names (hw : t.WellNamed) (h : Entry t here path f) :
    ∃ name, Path.names f = Path.names path ++ [name] := by
  obtain ⟨hs, hk⟩ := h
  exact ⟨_, names_join hs.ne_empty (hw.of_label? hs.label_eq hk)⟩

lemma Below.names_initial (hw : t.WellNamed) (h : Below t here path f) :
    Path.names path <+: Path.names f := by
  induction h with
  | refl => exact List.prefix_rfl
  | tail _ he ih =>
    obtain ⟨name, hn⟩ := he.names hw
    exact hn ▸ ih.trans (List.prefix_append _ _)

lemma isFileBelow_self {c : Contents} (h : StandsAt t here path place (.file c)) :
    IsFileBelow t here path f ↔ f = path := by
  constructor
  · rintro ⟨hb, -⟩
    rcases Relation.ReflTransGen.cases_head hb with rfl | ⟨_, ⟨hd, -⟩, -⟩
    · rfl
    · cases (h.eq hd).2
  · rintro rfl
    exact ⟨.refl, place, c, h⟩

lemma isFileBelow_directory {entries : List (String × FileTree)}
    (h : StandsAt t here path place .directory) (hg : t.get? place = some (.directory entries))
    (hn : (entries.map Prod.fst).Nodup) :
    IsFileBelow t here path f ↔ ∃ e ∈ entries, IsFileBelow t here (join path e.1) f := by
  constructor
  · rintro ⟨hb, q, c, hf⟩
    rcases Relation.ReflTransGen.cases_head hb with rfl | ⟨_, ⟨hd, hk⟩, hb⟩
    · cases (h.eq hf).2
    · obtain ⟨rfl, -⟩ := h.eq hd
      rw [label?_concat hg] at hk
      obtain ⟨node, hl⟩ := Option.ne_none_iff_exists'.mp (Option.map_eq_none_iff.not.mp hk)
      exact ⟨(_, node), (mem_iff_lookup hn).mpr hl, hb, q, c, hf⟩
  · rintro ⟨e, he, hb, hf⟩
    refine ⟨.head (.intro h ?_) hb, hf⟩
    simp [label?_concat hg, (mem_iff_lookup hn).mp he]

end Paths

section Walk

variable {t : FileTree} {here place : Place} {path : String} {outside : List Place}
  {trail : Trail}

structure Walkable (t : FileTree) (here : Place) (outside : List Place) (path : String) : Prop where
  followable : Followable t here path
  acyclic : Acyclic t here path
  outside : ∀ inner place, Below t here path inner → StandsAt t here inner place .directory →
    place ∈ outside

def Finds (t : FileTree) (here : Place) (path : String)
    (result : Except WalkFault (List String)) : Prop :=
  ∃ files, result = .ok files ∧ files.Nodup ∧ ∀ f, f ∈ files ↔ IsFileBelow t here path f

def FindsAll (t : FileTree) (here : Place) (path : String) (entries : List (String × FileTree))
    (result : Except WalkFault (List String)) : Prop :=
  ∃ files, result = .ok files ∧ files.Nodup ∧
    ∀ f, f ∈ files ↔ ∃ e ∈ entries, IsFileBelow t here (join path e.1) f

lemma Walkable.enter (h : Walkable t here outside path)
    (hd : StandsAt t here path place .directory) {name : String}
    (hk : t.label? (place ++ [name]) ≠ none) :
    Walkable t here (outside.erase place) (join path name) := by
  have he : Entry t here path (join path name) := .intro hd hk
  refine ⟨fun inner hb => h.followable inner (.head he hb), fun p inner q hb => ?_,
    fun inner q hb hq => ?_⟩
  · exact h.acyclic p inner q (.head he hb)
  · have hne : q ≠ place := by
      rintro rfl
      exact h.acyclic path inner q .refl (.head' he hb) hd hq
    exact (List.mem_erase_of_ne hne).mpr (h.outside inner q (.head he hb) hq)

structure Listed (t : FileTree) (here : Place) (outside : List Place) (path : String)
    (place : Place) (entries : List (String × FileTree)) : Prop where
  nodup : (entries.map Prod.fst).Nodup
  isName : ∀ e ∈ entries, IsName e.1
  get? : ∀ e ∈ entries, t.get? (place ++ [e.1]) = some e.2
  walkable : ∀ e ∈ entries, Walkable t here outside (join path e.1)

lemma Walkable.listed (hw : t.WellNamed) (h : Walkable t here outside path)
    {entries : List (String × FileTree)} (hd : StandsAt t here path place .directory)
    (hg : t.get? place = some (.directory entries)) :
    Listed t here (outside.erase place) path place entries := by
  cases hw.of_get? hg with
  | directory hnodup hnames _ =>
    have hget (e) (he : e ∈ entries) : t.get? (place ++ [e.1]) = some e.2 := by
      rw [get?_concat hg, (mem_iff_lookup hnodup).mp he]
    exact ⟨hnodup, hnames, hget, fun e he => h.enter hd (by simp [label?, hget e he])⟩

lemma Listed.finds {entries : List (String × FileTree)}
    {result : Except WalkFault (List String)}
    (h : Listed t here outside path place entries) (hd : StandsAt t here path place .directory)
    (hg : t.get? place = some (.directory entries)) (hf : FindsAll t here path entries result) :
    Finds t here path result := by
  obtain ⟨files, hok, hn, hm⟩ := hf
  exact ⟨files, hok, hn, fun f => (hm f).trans (isFileBelow_directory hd hg h.nodup).symm⟩

lemma Finds.file {c : Contents} (h : StandsAt t here path place (.file c)) :
    Finds t here path (.ok [path]) :=
  ⟨[path], rfl, List.nodup_singleton path, fun f => by
    rw [List.mem_singleton, isFileBelow_self h]⟩

lemma Listed.tail {e : String × FileTree} {rest : List (String × FileTree)}
    (h : Listed t here outside path place (e :: rest)) :
    Listed t here outside path place rest where
  nodup := (List.nodup_cons.mp h.nodup).2
  isName e he := h.isName e (List.mem_cons_of_mem _ he)
  get? e he := h.get? e (List.mem_cons_of_mem _ he)
  walkable e he := h.walkable e (List.mem_cons_of_mem _ he)

lemma FindsAll.cons (hw : t.WellNamed) (hp : path ≠ "") {name : String} {node : FileTree}
    {rest : List (String × FileTree)} {first others : Except WalkFault (List String)}
    (h : Listed t here outside path place ((name, node) :: rest))
    (hf : Finds t here (join path name) first) (hr : FindsAll t here path rest others) :
    FindsAll t here path ((name, node) :: rest) (do return (← first) ++ (← others)) := by
  obtain ⟨files, rfl, hnf, hmf⟩ := hf
  obtain ⟨more, rfl, hnm, hmm⟩ := hr
  have hnames := List.nodup_cons.mp h.nodup
  refine ⟨files ++ more, rfl, List.nodup_append'.mpr ⟨hnf, hnm, fun f hf hm => ?_⟩, fun f => ?_⟩
  · -- the name behind the directory tells which entry a file is below
    obtain ⟨e, he, hb⟩ := (hmm f).mp hm
    have h₁ := ((hmf f).mp hf).1.names_initial hw
    have h₂ := hb.1.names_initial hw
    rw [names_join hp (h.isName _ List.mem_cons_self)] at h₁
    rw [names_join hp (h.isName e (List.mem_cons_of_mem _ he))] at h₂
    have hl := List.prefix_of_prefix_length_le h₁ h₂ (by simp)
    have hl := hl.eq_of_length (by simp)
    have hne : name = e.1 := by simpa using hl
    exact hnames.1 (List.mem_map.mpr ⟨e, he, hne.symm⟩)
  · rw [List.mem_append, hmf, hmm, List.exists_mem_cons_iff]

theorem walkNode_finds (hw : t.WellNamed) {node : FileTree}
    (hfind : t.find false here path = .ok (place, node)) (h : Walkable t here outside path) :
    Finds t here path (walkNode t here trail outside path place node) := by
  revert hfind h
  -- by the recursion of the walk, for nodes and for the entries of a directory at the same time
  refine walkNode.induct t here
    (fun trail outside path place node => t.find false here path = .ok (place, node) →
      Walkable t here outside path →
      Finds t here path (walkNode t here trail outside path place node))
    (fun trail outside path place entries => StandsAt t here path place .directory →
      Listed t here outside path place entries →
      FindsAll t here path entries (walkEntries t here trail outside path place entries))
    ?file ?directory ?broken ?linked ?loop ?linkedFile ?nil ?cons trail outside path place node
  case file =>
    intro trail outside path place c hfind h
    rw [walkNode]
    exact .file (standsAt_of_find hfind (by simp))
  case directory =>
    intro trail outside path place entries ih hfind h
    have hd := standsAt_of_find hfind (by simp)
    have hg := (find_eq_ok.mp hfind).2
    have hl := h.listed hw hd hg
    rw [walkNode]
    exact hl.finds hd hg (ih hd hl)
  case broken =>
    -- the path can be followed
    intro trail outside path place target fault hfind _ h
    obtain ⟨q, k, hs⟩ := h.followable path .refl
    obtain ⟨node, hg, -⟩ := hs.exists_get?
    cases (find_eq_ok.mpr ⟨hs.located, hg⟩).symm.trans hfind
  case linked =>
    intro trail outside path place target q entries hfind hq ih _ h
    obtain ⟨hl, hg⟩ := find_eq_ok.mp hfind
    have hd : StandsAt t here path q .directory := ⟨hl, label?_directory hg⟩
    have hlist := h.listed hw hd hg
    rw [walkNode, hfind]
    simp only [hq, dif_pos]
    exact hlist.finds hd hg (ih hd hlist)
  case loop =>
    -- a directory that the walk is already in would come up below itself
    intro trail outside path place target q entries hfind hq _ h
    obtain ⟨hl, hg⟩ := find_eq_ok.mp hfind
    exact absurd (h.outside path q .refl ⟨hl, label?_directory hg⟩) hq
  case linkedFile =>
    rintro trail outside path place target ⟨q, node⟩ hno hfind - h
    obtain ⟨hl, hg⟩ := find_eq_ok.mp hfind
    rw [walkNode, hfind]
    cases node with
    | directory entries => exact absurd rfl (hno q entries)
    | link target => exact absurd (by rw [label?, hg]; rfl) ((locate_ok hl).2 target)
    | file c => exact .file ⟨hl, by rw [label?, hg]; rfl⟩
  case nil =>
    intro trail outside path place _ _
    rw [walkEntries]
    exact ⟨[], rfl, List.nodup_nil, by simp⟩
  case cons =>
    intro trail outside path place name node rest ihn ihr hd h
    rw [walkEntries]
    refine .cons hw hd.ne_empty h (ihn ?_ (h.walkable _ List.mem_cons_self)) (ihr hd h.tail)
    exact find_join hd (h.isName _ List.mem_cons_self) (h.get? _ List.mem_cons_self)

theorem filesBelow_finds (hw : t.WellNamed) (hf : Followable t here path)
    (ha : Acyclic t here path) : Finds t here path (t.filesBelow here path) := by
  have hwalk : Walkable t here (directories [] t) path :=
    ⟨hf, ha, fun inner place _ hs => mem_directories [] hs.label_eq⟩
  obtain ⟨q, k, hs⟩ := hf path .refl
  obtain ⟨place, node, hfind⟩ := hs.exists_find
  rw [filesBelow, hfind]
  exact walkNode_finds hw hfind hwalk

end Walk

section Census

variable {t : FileTree} {here place : Place} {root path inner : String}
  {census : List (String × Place)}

def entryNames : FileTree → List String
  | .directory entries => entries.map Prod.fst
  | _ => []

structure Census (t : FileTree) (here : Place) (census : List (String × Place)) : Prop where
  located : ∀ e ∈ census, t.locate true here e.1 = .ok e.2
  found : ∀ e ∈ census, (t.get? e.2).any fun node =>
    node.entryNames.all fun name => join e.1 name ∈ census.map Prod.fst
  once : ((census.filter fun e => (t.get? e.2).any isDirectory).map Prod.snd).Nodup

lemma Census.exists_standsAt (h : Census t here census) (hp : path ∈ census.map Prod.fst) :
    ∃ place k, (path, place) ∈ census ∧ StandsAt t here path place k := by
  obtain ⟨⟨_, place⟩, he, rfl⟩ := List.mem_map.mp hp
  obtain ⟨node, hg, -⟩ := (Option.any_eq_true _ _).mp (h.found _ he)
  exact ⟨place, node.label, he, h.located _ he, by rw [label?, hg]; rfl⟩

lemma Census.entry (h : Census t here census) (hp : path ∈ census.map Prod.fst)
    (he : Entry t here path inner) : inner ∈ census.map Prod.fst := by
  obtain ⟨hs, hk⟩ := he
  obtain ⟨place, k, hm, hs'⟩ := h.exists_standsAt hp
  obtain ⟨rfl, rfl⟩ := hs'.eq hs
  obtain ⟨entries, hg⟩ := label?_eq_directory.mp hs.label_eq
  have hall := h.found _ hm
  rw [label?_concat hg] at hk
  obtain ⟨child, hl⟩ := Option.ne_none_iff_exists'.mp (Option.map_eq_none_iff.not.mp hk)
  obtain ⟨before, after, rfl, -⟩ := List.lookup_eq_some_iff.mp hl
  simp only [hg, Option.any_some, entryNames, List.all_eq_true, decide_eq_true_eq] at hall
  exact hall _ (by simp)

lemma Census.below (h : Census t here census) (hr : root ∈ census.map Prod.fst)
    (hb : Below t here root path) : path ∈ census.map Prod.fst := by
  induction hb with
  | refl => exact hr
  | tail _ he ih => exact h.entry ih he

lemma names_length_lt (hw : t.WellNamed) (h : Relation.TransGen (Entry t here) path inner) :
    (Path.names path).length < (Path.names inner).length := by
  induction h with
  | single he =>
    obtain ⟨name, hn⟩ := he.names hw
    simp [hn]
  | tail _ he ih =>
    obtain ⟨name, hn⟩ := he.names hw
    rw [hn, List.length_append]
    omega

theorem Census.followable (h : Census t here census) (hr : root ∈ census.map Prod.fst) :
    Followable t here root := by
  intro path hb
  obtain ⟨place, k, -, hs⟩ := h.exists_standsAt (h.below hr hb)
  exact ⟨place, k, hs⟩

theorem Census.acyclic (h : Census t here census) (hw : t.WellNamed)
    (hr : root ∈ census.map Prod.fst) : Acyclic t here root := by
  intro path inner place hb ht hs hs'
  have hdir {p : String} (hp : Below t here root p) (hs : StandsAt t here p place .directory) :
      (p, place) ∈ census.filter fun e => (t.get? e.2).any isDirectory := by
    obtain ⟨q, k, hm, hq⟩ := h.exists_standsAt (h.below hr hp)
    obtain ⟨rfl, rfl⟩ := hq.eq hs
    obtain ⟨entries, hg⟩ := label?_eq_directory.mp hs.label_eq
    exact List.mem_filter.mpr ⟨hm, by simp [hg, isDirectory]⟩
  -- both paths are the same entry of the census, but the inner one has more names
  have hb' := hb.trans ht.to_reflTransGen
  have heq := List.inj_on_of_nodup_map h.once (hdir hb hs) (hdir hb' hs') rfl
  obtain rfl : path = inner := congrArg Prod.fst heq
  exact absurd (names_length_lt hw ht) (Nat.lt_irrefl _)

end Census

end GraphqlBindings.FileTree

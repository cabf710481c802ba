import GraphqlBindings.FileTree.Basic
import GraphqlBindings.Proofs.Lists

namespace GraphqlBindings.FileTree

inductive Label where
  | file (contents : Contents)
  | link (target : String)
  | directory
deriving DecidableEq, Repr

def label : FileTree → Label
  | .file contents => .file contents
  | .link target => .link target
  | .directory _ => .directory

def label? (t : FileTree) (place : Place) : Option Label := (t.get? place).map label

lemma label_eq_directory {t : FileTree} :
    t.label = .directory ↔ ∃ entries, t = .directory entries := by
  cases t <;> simp [label]

section Get

variable {t : FileTree} {place below : Place} {name : String}

@[simp] lemma entry?_file {c : Contents} : entry? (file c) name = none := rfl

@[simp] lemma entry?_link {target : String} : entry? (link target) name = none := rfl

@[simp] lemma entry?_directory {entries : List (String × FileTree)} :
    entry? (directory entries) name = entries.lookup name := rfl

@[simp] lemma get?_nil : t.get? [] = some t := by rw [get?]

@[simp] lemma get?_cons : t.get? (name :: place) = (t.entry? name).bind (·.get? place) := by
  rw [get?]

lemma get?_append : t.get? (place ++ below) = (t.get? place).bind (·.get? below) := by
  induction place generalizing t with
  | nil => simp
  | cons name rest ih =>
    rw [List.cons_append, get?_cons, get?_cons, Option.bind_assoc]
    simp only [ih]

lemma get?_concat {entries : List (String × FileTree)}
    (h : t.get? place = some (.directory entries)) :
    t.get? (place ++ [name]) = entries.lookup name := by
  simp [get?_append, h]

lemma label?_eq_directory :
    t.label? place = some .directory ↔ ∃ entries, t.get? place = some (.directory entries) := by
  simp [label?, label_eq_directory]

lemma label?_directory {entries : List (String × FileTree)}
    (h : t.get? place = some (.directory entries)) : t.label? place = some .directory :=
  label?_eq_directory.mpr ⟨entries, h⟩

lemma label?_concat {entries : List (String × FileTree)}
    (h : t.get? place = some (.directory entries)) :
    t.label? (place ++ [name]) = (entries.lookup name).map label := by
  rw [label?, get?_concat h]

lemma label?_of_get?_concat (h : t.get? (place ++ [name]) ≠ none) :
    t.label? place = some .directory := by
  rw [get?_append] at h
  cases ht : t.get? place with
  | none => simp [ht] at h
  | some node => cases node <;> simp_all [label?, label]

lemma label?_of_prefix (h : t.label? place = some .directory) (hp : below <+: place) :
    t.label? below = some .directory := by
  obtain ⟨r, rfl⟩ := hp
  cases r with
  | nil => simpa using h
  | cons name rest =>
    have hn : t.get? (below ++ [name]) ≠ none := fun hn => by
      rw [List.append_cons, label?, get?_append, hn] at h
      simp at h
    exact label?_of_get?_concat hn

lemma label?_eq_none : t.label? place = none ↔ t.get? place = none := by simp [label?]

end Get

section Set

variable {t new old : FileTree} {place p q : Place} {name n : String}
  {entries : List (String × FileTree)}

lemma lookup_setEntry :
    (setEntry name new entries).lookup n = if n = name then some new else entries.lookup n := by
  induction entries with
  | nil => simp [setEntry, lookup_cons_ite]
  | cons entry rest ih =>
    obtain ⟨k, v⟩ := entry
    by_cases hk : name = k
    · subst hk
      by_cases h : n = name <;> simp [setEntry, lookup_cons_ite, h]
    · by_cases hn : n = k
      · simp [setEntry, hk, hn, Ne.symm hk]
      · simp [setEntry, lookup_cons_ite, hk, hn, ih]

lemma setEntry_of_lookup (h : entries.lookup name = some new) :
    setEntry name new entries = entries := by
  induction entries with
  | nil => simp at h
  | cons entry rest ih =>
    obtain ⟨k, v⟩ := entry
    rw [lookup_cons_ite] at h
    by_cases hk : name = k
    · subst hk
      simp_all [setEntry]
    · simp [setEntry, hk, ih (by simpa [hk] using h)]

lemma setEntry_setEntry :
    setEntry name new (setEntry name old entries) = setEntry name new entries := by
  induction entries with
  | nil => simp [setEntry]
  | cons entry rest ih =>
    by_cases hk : name = entry.1 <;> simp [setEntry, hk, ih]

lemma setEntry_comm {a b : FileTree} (hne : n ≠ name) (hn : entries.lookup n ≠ none)
    (hname : entries.lookup name ≠ none) :
    setEntry name b (setEntry n a entries) = setEntry n a (setEntry name b entries) := by
  induction entries with
  | nil => simp at hn
  | cons entry rest ih =>
    obtain ⟨k, v⟩ := entry
    by_cases h : n = k
    · subst h
      simp [setEntry, hne.symm]
    · by_cases h' : name = k
      · subst h'
        simp [setEntry, hne]
      · simp only [lookup_cons_ite, h, h', if_false] at hn hname
        simp [setEntry, h, h', ih hn hname]

def HasParent (t : FileTree) (place : Place) : Prop :=
  ∀ d name, place = d ++ [name] → t.label? d = some .directory

lemma hasParent_nil : t.HasParent [] := by
  rintro d name h
  simp at h

lemma hasParent_singleton (h : t.label? p = some .directory) : t.HasParent (p ++ [name]) := by
  rintro d n h'
  obtain ⟨rfl, -⟩ := List.append_inj' h' rfl
  exact h

lemma hasParent_of_get? (h : t.get? p ≠ none) : t.HasParent p := by
  rintro d name rfl
  exact label?_of_get?_concat h

lemma hasParent_cons (h : t.HasParent (name :: p)) :
    ∃ entries, t = .directory entries ∧
      (p = [] ∨ ∃ node, entries.lookup name = some node ∧ node.HasParent p) := by
  rcases List.eq_nil_or_concat' p with rfl | ⟨d, n, rfl⟩
  · obtain ⟨entries, he⟩ := label?_eq_directory.mp (h [] name rfl)
    exact ⟨entries, by simpa using he, Or.inl rfl⟩
  · obtain ⟨below, hb⟩ := label?_eq_directory.mp (h (name :: d) n rfl)
    cases t with
    | file _ => simp at hb
    | link _ => simp at hb
    | directory entries =>
      refine ⟨entries, rfl, Or.inr ?_⟩
      rw [get?_cons] at hb
      cases hl : entries.lookup name with
      | none => simp [hl] at hb
      | some node =>
        refine ⟨node, rfl, hasParent_singleton ?_⟩
        exact label?_eq_directory.mpr ⟨below, by simpa [hl] using hb⟩

lemma get?_set_append (h : t.HasParent p) : (t.set new p).get? (p ++ q) = new.get? q := by
  induction p generalizing t with
  | nil => simp [set]
  | cons name rest ih =>
    obtain ⟨entries, rfl, hr⟩ := hasParent_cons h
    rcases hr with rfl | ⟨node, hn, hp⟩
    · cases hl : entries.lookup name with
      | none => simp [set, hl, lookup_setEntry]
      | some old => simp [set, hl, lookup_setEntry]
    · simp [set, hn, lookup_setEntry, ih hp]

lemma get?_set_self (h : t.HasParent p) : (t.set new p).get? p = some new := by
  simpa using get?_set_append (q := []) h

lemma get?_set_of_unrelated (h : ¬ p <+: q) (h' : ¬ q <+: p) :
    (t.set new p).get? q = t.get? q := by
  induction p generalizing t q with
  | nil => exact absurd (List.nil_prefix) h
  | cons name rest ih =>
    cases q with
    | nil => exact absurd (List.nil_prefix) h'
    | cons n below =>
      cases t with
      | file _ => rfl
      | link _ => rfl
      | directory entries =>
        simp only [set]
        split
        · next node hl =>
          by_cases hn : n = name
          · subst hn
            have hr : ¬ rest <+: below := fun hp => h (List.cons_prefix_cons.mpr ⟨rfl, hp⟩)
            have hb : ¬ below <+: rest := fun hp => h' (List.cons_prefix_cons.mpr ⟨rfl, hp⟩)
            simpa [lookup_setEntry, hl] using ih (t := node) hr hb
          · simp [lookup_setEntry, hn]
        · next hl =>
          split
          · next hr =>
            have hn : n ≠ name := by
              rintro rfl
              rw [List.isEmpty_iff] at hr
              exact h (List.cons_prefix_cons.mpr ⟨rfl, hr ▸ List.nil_prefix⟩)
            simp [lookup_setEntry, hn]
          · rfl

lemma get?_set_above (hq : q ≠ []) :
    (t.set new (p ++ q)).get? p = (t.get? p).map (·.set new q) := by
  induction p generalizing t with
  | nil => simp
  | cons name rest ih =>
    have hr : ¬ rest ++ q = [] := by simp [hq]
    cases t with
    | file _ => rfl
    | link _ => rfl
    | directory entries =>
      cases hl : entries.lookup name with
      | none => simp [set, hl, hr]
      | some node => simp [set, hl, lookup_setEntry, ih]

lemma label_set (h : p ≠ []) : (t.set new p).label = t.label := by
  cases p with
  | nil => exact absurd rfl h
  | cons name rest =>
    cases t with
    | file _ => rfl
    | link _ => rfl
    | directory entries =>
      simp only [set]
      split
      · rfl
      · split <;> rfl

lemma label?_set_of_not_above (h : ¬ p <+: q) : (t.set new p).label? q = t.label? q := by
  by_cases hq : q <+: p
  · obtain ⟨r, rfl⟩ := hq
    have hr : r ≠ [] := by
      rintro rfl
      simp at h
    rw [label?, label?, get?_set_above hr, Option.map_map]
    exact congrArg (Option.map · _) (funext fun node => label_set hr)
  · rw [label?, label?, get?_set_of_unrelated h hq]

lemma get?_set_of_leaf (hold : ∀ node, t.get? p = some node → ∃ c, node = .file c)
    (hq : t.get? q ≠ none) (h : ¬ q <+: p) : (t.set new p).get? q = t.get? q := by
  refine get?_set_of_unrelated (fun hp => ?_) h
  obtain ⟨r, rfl⟩ := hp
  cases r with
  | nil => simp at h
  | cons name rest =>
    rw [get?_append] at hq
    cases hn : t.get? p with
    | none => simp [hn] at hq
    | some node =>
      obtain ⟨c, rfl⟩ := hold node hn
      simp [hn] at hq

lemma set_of_get? (h : t.get? p = some new) : t.set new p = t := by
  induction p generalizing t with
  | nil => simpa [set] using h.symm
  | cons name rest ih =>
    cases t with
    | file _ => rfl
    | link _ => rfl
    | directory entries =>
      rw [get?_cons] at h
      cases hl : entries.lookup name with
      | none => simp [hl] at h
      | some node =>
        have hn : node.set new rest = node := ih (by simpa [hl] using h)
        simp [set, hl, hn, setEntry_of_lookup hl]

lemma set_set : (t.set old p).set new p = t.set new p := by
  induction p generalizing t with
  | nil => rfl
  | cons name rest ih =>
    cases t with
    | file _ => rfl
    | link _ => rfl
    | directory entries =>
      cases hl : entries.lookup name with
      | some node => simp [set, hl, lookup_setEntry, setEntry_setEntry, ih]
      | none =>
        by_cases hr : rest = []
        · subst hr
          simp [set, hl, lookup_setEntry, setEntry_setEntry]
        · simp [set, hl, List.isEmpty_iff, hr]

lemma set_comm {a b : FileTree} (hp : t.get? p ≠ none) (hq : t.get? q ≠ none) (h : ¬ p <+: q)
    (h' : ¬ q <+: p) : (t.set a p).set b q = (t.set b q).set a p := by
  induction p generalizing t q with
  | nil => exact absurd List.nil_prefix h
  | cons n rest ih =>
    cases q with
    | nil => exact absurd List.nil_prefix h'
    | cons m below =>
      cases t with
      | file _ => rfl
      | link _ => rfl
      | directory entries =>
        rw [get?_cons] at hp hq
        cases hn : entries.lookup n with
        | none => simp [hn] at hp
        | some x =>
          cases hm : entries.lookup m with
          | none => simp [hm] at hq
          | some y =>
            by_cases hnm : n = m
            · subst hnm
              obtain rfl : x = y := Option.some.inj (hn.symm.trans hm)
              have hx : (x.set a rest).set b below = (x.set b below).set a rest :=
                ih (by simpa [hn] using hp) (by simpa [hn] using hq)
                  (fun hr => h (List.cons_prefix_cons.mpr ⟨rfl, hr⟩))
                  fun hr => h' (List.cons_prefix_cons.mpr ⟨rfl, hr⟩)
              simp [set, hn, lookup_setEntry, setEntry_setEntry, hx]
            · have hc : setEntry m (y.set b below) (setEntry n (x.set a rest) entries) =
                  setEntry n (x.set a rest) (setEntry m (y.set b below) entries) :=
                setEntry_comm hnm (by simp [hn]) (by simp [hm])
              simp [set, hn, hm, lookup_setEntry, hnm, Ne.symm hnm, hc]

def IsLeaf (t : FileTree) : Prop := ∀ name, t.entry? name = none

lemma isLeaf_file (contents : Contents) : (file contents).IsLeaf := fun _ => rfl

lemma isLeaf_empty : (directory []).IsLeaf := fun _ => rfl

lemma IsLeaf.get? (h : t.IsLeaf) (hp : p ≠ []) : t.get? p = none := by
  cases p with
  | nil => exact absurd rfl hp
  | cons name rest => rw [get?_cons, h name]; rfl

lemma label?_set (hp : t.HasParent p) (hnew : new.IsLeaf)
    (hold : ∀ node, t.get? p = some node → node.IsLeaf) :
    (t.set new p).label? q = if q = p then some new.label else t.label? q := by
  by_cases h : p <+: q
  · obtain ⟨r, rfl⟩ := h
    cases r with
    | nil => simp [label?, get?_set_self hp]
    | cons name rest =>
      have hn : t.get? (p ++ name :: rest) = none := by
        rw [get?_append]
        cases ht : t.get? p with
        | none => rfl
        | some node => exact (hold node ht).get? (by simp)
      rw [if_neg (by simp), label?, label?, get?_set_append hp, hnew.get? (by simp), hn]
  · rw [label?_set_of_not_above h, if_neg]
    rintro rfl
    exact h List.prefix_rfl

end Set

section Extends

variable {t t' t'' new : FileTree} {p : Place}

structure Extends (t t' : FileTree) : Prop where
  directory : ∀ p, t.label? p = some .directory → t'.label? p = some .directory
  link : ∀ p target, t'.label? p = some (.link target) ↔ t.label? p = some (.link target)
  file : ∀ p contents, t.label? p = some (.file contents) →
    ∃ contents', t'.label? p = some (.file contents')

lemma Extends.refl (t : FileTree) : t.Extends t :=
  ⟨fun _ h => h, fun _ _ => Iff.rfl, fun _ contents h => ⟨contents, h⟩⟩

lemma Extends.of_none (h : t.Extends t') (hp : t'.label? p = none) : t.label? p = none := by
  cases hk : t.label? p with
  | none => rfl
  | some k =>
    cases k with
    | file c =>
      obtain ⟨c', hc⟩ := h.file p c hk
      simp [hp] at hc
    | link target => simp [(h.link p target).mpr hk] at hp
    | directory => simp [h.directory p hk] at hp

lemma Extends.trans (h : t.Extends t') (h' : t'.Extends t'') : t.Extends t'' where
  directory p hp := h'.directory p (h.directory p hp)
  link p target := (h'.link p target).trans (h.link p target)
  file p contents hp := by
    obtain ⟨c, hc⟩ := h.file p contents hp
    exact h'.file p c hc

lemma extends_set_file {contents : Contents} (hp : t.HasParent p)
    (hold : ∀ node, t.get? p = some node → ∃ c, node = .file c) :
    t.Extends (t.set (.file contents) p) := by
  have hl (q) : (t.set (.file contents) p).label? q =
      if q = p then some (.file contents) else t.label? q :=
    label?_set hp (isLeaf_file _) fun node hn => by
      obtain ⟨c, rfl⟩ := hold node hn
      exact isLeaf_file c
  have hp' (k) (hk : t.label? p = some k) : ∃ c, k = .file c := by
    obtain ⟨node, hn, rfl⟩ := Option.map_eq_some_iff.mp hk
    obtain ⟨c, rfl⟩ := hold node hn
    exact ⟨c, rfl⟩
  refine ⟨fun q hq => ?_, fun q target => ?_, fun q c hq => ?_⟩ <;> rw [hl] <;> split
  · next h =>
    subst h
    obtain ⟨c, hc⟩ := hp' _ hq
    cases hc
  · exact hq
  · next h =>
    subst h
    refine ⟨fun h => by simp at h, fun h => ?_⟩
    obtain ⟨c, hc⟩ := hp' _ h
    cases hc
  · exact Iff.rfl
  · exact ⟨contents, rfl⟩
  · exact ⟨c, hq⟩

lemma extends_set_directory (hp : t.HasParent p) (hold : t.get? p = none) :
    t.Extends (t.set (.directory []) p) := by
  have hl (q) : (t.set (.directory []) p).label? q =
      if q = p then some .directory else t.label? q :=
    label?_set hp isLeaf_empty fun node hn => by simp [hold] at hn
  have hp' : t.label? p = none := label?_eq_none.mpr hold
  refine ⟨fun q hq => ?_, fun q target => ?_, fun q c hq => ⟨c, ?_⟩⟩ <;> rw [hl] <;> split
  · rfl
  · exact hq
  · next h => simp [h, hp']
  · exact Iff.rfl
  · next h => simp [h, hp'] at hq
  · exact hq

end Extends

section Linkless

variable {t new node : FileTree} {place p : Place} {name : String}
  {entries : List (String × FileTree)}

inductive Linkless : FileTree → Prop
  | file (contents : Contents) : Linkless (.file contents)
  | directory {entries : List (String × FileTree)} : (∀ e ∈ entries, Linkless e.2) →
      Linkless (.directory entries)

lemma Linkless.of_lookup (h : (FileTree.directory entries).Linkless)
    (hl : entries.lookup name = some node) : node.Linkless := by
  obtain ⟨before, after, rfl, -⟩ := List.lookup_eq_some_iff.mp hl
  rcases h with _ | ⟨hp⟩
  exact hp (name, node) (by simp)

lemma mem_setEntry {e : String × FileTree} (h : e ∈ setEntry name new entries) :
    e ∈ entries ∨ e.2 = new := by
  induction entries with
  | nil =>
    rw [setEntry, List.mem_singleton] at h
    exact Or.inr (congrArg Prod.snd h)
  | cons first rest ih =>
    rw [setEntry] at h
    split at h <;> rcases List.mem_cons.mp h with rfl | h
    · exact Or.inr rfl
    · exact Or.inl (List.mem_cons_of_mem _ h)
    · exact Or.inl List.mem_cons_self
    · exact (ih h).imp_left (List.mem_cons_of_mem _)

lemma Linkless.setEntry (h : (FileTree.directory entries).Linkless) (hnew : new.Linkless) :
    (FileTree.directory (setEntry name new entries)).Linkless := by
  rcases h with _ | ⟨hall⟩
  exact .directory fun e he => (mem_setEntry he).elim (hall e) fun hn => hn ▸ hnew

lemma Linkless.set (h : t.Linkless) (hnew : new.Linkless) : (t.set new p).Linkless := by
  induction p generalizing t with
  | nil => exact hnew
  | cons name rest ih =>
    cases h with
    | file c => exact .file c
    | @directory entries hall =>
      have hd : (FileTree.directory entries).Linkless := .directory hall
      cases hl : entries.lookup name with
      | some node => simpa [FileTree.set, hl] using hd.setEntry (ih (hd.of_lookup hl))
      | none =>
        by_cases hr : rest = []
        · simpa [FileTree.set, hl, hr] using hd.setEntry hnew
        · simpa [FileTree.set, hl, List.isEmpty_iff, hr] using hd

def LinklessAt (t : FileTree) (place : Place) : Prop :=
  ∃ node, t.get? place = some node ∧ node.Linkless

lemma LinklessAt.set (h : t.LinklessAt place) (hp : t.HasParent p)
    (hold : ∀ node, t.get? p = some node → ∃ c, node = .file c) (hnew : new.Linkless) :
    (t.set new p).LinklessAt place := by
  obtain ⟨node, hn, hl⟩ := h
  by_cases hpre : place <+: p
  · obtain ⟨rest, rfl⟩ := hpre
    by_cases hr : rest = []
    · subst hr
      rw [List.append_nil] at hp ⊢
      exact ⟨new, get?_set_self hp, hnew⟩
    · exact ⟨node.set new rest, by rw [get?_set_above hr, hn]; rfl, hl.set hnew⟩
  · exact ⟨node, by rw [get?_set_of_leaf hold (by simp [hn]) hpre, hn], hl⟩

end Linkless

end GraphqlBindings.FileTree

import GraphqlBindings.Proofs.FileTree.Labels
import GraphqlBindings.Proofs.FileTree.Paths
import GraphqlBindings.Proofs.Lists

namespace GraphqlBindings.FileTree

open GraphqlBindings.Path

inductive Leads (t : FileTree) : Nat → Place → List String → Nat → Place → Prop
  | here {links : Nat} {here : Place} : Leads t links here [] links here
  | dot {links left : Nat} {here there : Place} {rest : List String} :
      t.label? here = some .directory → Leads t links here rest left there →
      Leads t links here ("." :: rest) left there
  | up {links left : Nat} {here there : Place} {rest : List String} :
      t.label? here = some .directory → Leads t links here.dropLast rest left there →
      Leads t links here (".." :: rest) left there
  | link {links left : Nat} {here there : Place} {rest : List String} {name target : String} :
      t.label? here = some .directory → name ≠ "." → name ≠ ".." →
      t.label? (here ++ [name]) = some (.link target) →
      Leads t links (startOf here target) (steps target ++ rest) left there →
      Leads t (links + 1) here (name :: rest) left there
  | entry {links left : Nat} {here there : Place} {rest : List String} {name : String} {k : Label} :
      t.label? here = some .directory → name ≠ "." → name ≠ ".." →
      t.label? (here ++ [name]) = some k → (∀ target, k ≠ .link target) →
      Leads t links (here ++ [name]) rest left there → Leads t links here (name :: rest) left there

section

variable {t t' : FileTree} {followLast : Bool} {links left : Nat} {here there place : Place}
  {names rest : List String} {name path : String}

lemma Leads.mono (h : t.Leads links here names left there) (hx : t.Extends t') :
    t'.Leads links here names left there := by
  induction h with
  | here => exact .here
  | dot hd _ ih => exact .dot (hx.directory _ hd) ih
  | up hd _ ih => exact .up (hx.directory _ hd) ih
  | link hd h1 h2 hl _ ih => exact .link (hx.directory _ hd) h1 h2 ((hx.link _ _).mpr hl) ih
  | @entry _ _ _ _ _ _ k hd h1 h2 hk hn _ ih =>
    cases k with
    | link target => exact absurd rfl (hn target)
    | directory => exact .entry (hx.directory _ hd) h1 h2 (hx.directory _ hk) hn ih
    | file c =>
      obtain ⟨c', hc'⟩ := hx.file _ c hk
      exact .entry (hx.directory _ hd) h1 h2 hc' (fun _ => by simp) ih

lemma Leads.of_append {all : List String} (h : t.Leads links here all left there)
    (ha : all = names ++ rest) :
    ∃ l d, t.Leads links here names l d ∧ t.Leads l d rest left there := by
  induction h generalizing names with
  | here =>
    obtain ⟨rfl, rfl⟩ := List.append_eq_nil_iff.mp ha.symm
    exact ⟨_, _, .here, .here⟩
  | dot hd hl ih =>
    rcases List.cons_eq_append_iff.mp ha with ⟨rfl, rfl⟩ | ⟨names, rfl, rfl⟩
    · exact ⟨_, _, .here, .dot hd hl⟩
    · obtain ⟨l, d, h1, h2⟩ := ih rfl
      exact ⟨l, d, .dot hd h1, h2⟩
  | up hd hl ih =>
    rcases List.cons_eq_append_iff.mp ha with ⟨rfl, rfl⟩ | ⟨names, rfl, rfl⟩
    · exact ⟨_, _, .here, .up hd hl⟩
    · obtain ⟨l, d, h1, h2⟩ := ih rfl
      exact ⟨l, d, .up hd h1, h2⟩
  | link hd h1 h2 hk hl ih =>
    rcases List.cons_eq_append_iff.mp ha with ⟨rfl, rfl⟩ | ⟨names, rfl, rfl⟩
    · exact ⟨_, _, .here, .link hd h1 h2 hk hl⟩
    · obtain ⟨l, d, h3, h4⟩ := ih (List.append_assoc _ _ _).symm
      exact ⟨l, d, .link hd h1 h2 hk h3, h4⟩
  | entry hd h1 h2 hk hn hl ih =>
    rcases List.cons_eq_append_iff.mp ha with ⟨rfl, rfl⟩ | ⟨names, rfl, rfl⟩
    · exact ⟨_, _, .here, .entry hd h1 h2 hk hn hl⟩
    · obtain ⟨l, d, h3, h4⟩ := ih rfl
      exact ⟨l, d, .entry hd h1 h2 hk hn h3, h4⟩

section Step

variable (hd : t.label? here = some .directory)
include hd

lemma follow_dot :
    t.follow followLast links here ("." :: rest) = t.follow followLast links here rest := by
  obtain ⟨entries, he⟩ := label?_eq_directory.mp hd
  rw [follow]
  simp [he]

lemma follow_up :
    t.follow followLast links here (".." :: rest) =
      t.follow followLast links here.dropLast rest := by
  obtain ⟨entries, he⟩ := label?_eq_directory.mp hd
  rw [follow]
  simp [he]

variable (h1 : name ≠ ".") (h2 : name ≠ "..")
include h1 h2

lemma follow_last (hn : t.label? (here ++ [name]) = none) :
    t.follow followLast links here [name] = .ok (here ++ [name]) := by
  obtain ⟨entries, he⟩ := label?_eq_directory.mp hd
  rw [label?_eq_none, get?_concat he] at hn
  rw [follow]
  simp [he, h1, h2, hn]

lemma follow_last_link {target : String} (hl : t.label? (here ++ [name]) = some (.link target)) :
    t.follow false links here [name] = .ok (here ++ [name]) := by
  obtain ⟨entries, he⟩ := label?_eq_directory.mp hd
  obtain ⟨node, hn, hk⟩ := Option.map_eq_some_iff.mp hl
  rw [get?_concat he] at hn
  cases node <;> simp [label] at hk
  rw [follow]
  simp [he, h1, h2, hn]

lemma follow_link {target : String} (hl : t.label? (here ++ [name]) = some (.link target))
    (hr : followLast ∨ rest ≠ []) :
    t.follow followLast (links + 1) here (name :: rest) =
      t.follow followLast links (startOf here target) (steps target ++ rest) := by
  obtain ⟨entries, he⟩ := label?_eq_directory.mp hd
  obtain ⟨node, hn, hk⟩ := Option.map_eq_some_iff.mp hl
  rw [get?_concat he] at hn
  cases node <;> simp [label] at hk
  have hlast : ¬ (rest.isEmpty ∧ !followLast) := by
    rcases hr with h | h <;> simp [h]
  rw [follow]
  simp only [he, h1, h2, hn, hk, if_false, if_neg hlast]

lemma follow_entry {k : Label} (hk : t.label? (here ++ [name]) = some k)
    (hn : ∀ target, k ≠ .link target) :
    t.follow followLast links here (name :: rest) =
      t.follow followLast links (here ++ [name]) rest := by
  obtain ⟨entries, he⟩ := label?_eq_directory.mp hd
  obtain ⟨node, hm, rfl⟩ := Option.map_eq_some_iff.mp hk
  rw [get?_concat he] at hm
  rw [follow]
  cases node with
  | link target => exact absurd rfl (hn target)
  | file _ => simp only [he, h1, h2, hm, if_false]
  | directory _ => simp only [he, h1, h2, hm, if_false]

lemma follow_name (hno : followLast → ∀ target, t.label? (here ++ [name]) ≠ some (.link target)) :
    t.follow followLast links here [name] = .ok (here ++ [name]) := by
  cases hk : t.label? (here ++ [name]) with
  | none => exact follow_last hd h1 h2 hk
  | some k =>
    cases k with
    | link target =>
      cases followLast with
      | false => exact follow_last_link hd h1 h2 hk
      | true => exact absurd hk (hno rfl target)
    | _ => rw [follow_entry hd h1 h2 hk (by simp), follow]

end Step

lemma label?_of_follow_cons (h : t.follow followLast links here (name :: rest) = .ok place) :
    t.label? here = some .directory := by
  rw [follow] at h
  split at h
  · next he => exact label?_directory he
  · cases h

lemma Leads.follow_append (h : t.Leads links here names left there) (hr : followLast ∨ rest ≠ []) :
    t.follow followLast links here (names ++ rest) = t.follow followLast left there rest := by
  induction h with
  | here => rfl
  | dot hd _ ih => rw [List.cons_append, follow_dot hd, ih]
  | up hd _ ih => rw [List.cons_append, follow_up hd, ih]
  | link hd h1 h2 hl _ ih =>
    rw [List.cons_append, follow_link hd h1 h2 hl (hr.imp_right fun h => by simp [h]),
      ← List.append_assoc, ih]
  | entry hd h1 h2 hk hn _ ih => rw [List.cons_append, follow_entry hd h1 h2 hk hn, ih]

lemma Leads.follow (h : t.Leads links here names left there) :
    t.follow true links here names = .ok there := by
  have hf : t.follow true links here (names ++ []) = t.follow true left there [] :=
    h.follow_append (Or.inl rfl)
  rwa [List.append_nil, FileTree.follow] at hf

lemma Leads.of_dot (h : t.Leads links here ["."] left there) : there = here := by
  have hf := h.follow
  rw [FileTree.follow] at hf
  split at hf
  · rw [if_pos rfl, FileTree.follow] at hf
    exact (Except.ok.inj hf).symm
  · cases hf

lemma Leads.of_steps (h : t.Leads links here (steps path) left there) :
    ∃ left, t.Leads links here (Path.names path) left there := by
  obtain ⟨l, d, hn, hr⟩ := h.of_append rfl
  split at hr
  · exact ⟨l, hr.of_dot ▸ hn⟩
  · cases hr
    exact ⟨_, hn⟩

lemma Leads.exists_follow (followLast : Bool) (h : t.Leads links here names left there)
    (ht : t.label? there ≠ none) :
    ∃ place, t.follow followLast links here names = .ok place ∧ t.label? place ≠ none := by
  induction h with
  | @here links here => exact ⟨here, by rw [FileTree.follow], ht⟩
  | dot hd _ ih => simpa only [follow_dot hd] using ih ht
  | up hd _ ih => simpa only [follow_up hd] using ih ht
  | @link _ _ _ _ rest _ _ hd h1 h2 hl _ ih =>
    by_cases hr : followLast ∨ rest ≠ []
    · simpa only [follow_link hd h1 h2 hl hr] using ih ht
    · simp only [not_or, Bool.not_eq_true, not_not] at hr
      obtain ⟨rfl, rfl⟩ := hr
      exact ⟨_, follow_last_link hd h1 h2 hl, by simp [hl]⟩
  | entry hd h1 h2 hk hn _ ih => simpa only [follow_entry hd h1 h2 hk hn] using ih ht

lemma follow_cases (h : t.follow followLast links here names = .ok place) :
    (∃ left, t.Leads links here names left place) ∨
      (∃ d name, place = d ++ [name] ∧ t.label? d = some .directory) ∧
        (t.label? place = none ∨
          followLast = false ∧ ∃ target, t.label? place = some (.link target)) := by
  fun_induction FileTree.follow t followLast links here names with
  | case1 links here =>
    cases h
    exact Or.inl ⟨links, .here⟩
  | case2 links here rest entries he ih =>
    exact (ih h).imp_left (Exists.imp fun _ => .dot (label?_directory he))
  | case3 links here rest entries he _ ih =>
    exact (ih h).imp_left (Exists.imp fun _ => .up (label?_directory he))
  | case4 links here name rest entries he h1 h2 hn hr =>
    cases h
    exact Or.inr ⟨⟨_, _, rfl, label?_directory he⟩, Or.inl (by simp [label?_concat he, hn])⟩
  | case6 links here name rest entries he h1 h2 target hl hr =>
    cases h
    exact Or.inr ⟨⟨_, _, rfl, label?_directory he⟩,
      Or.inr ⟨by simpa using hr.2, target, by simp [label?_concat he, hl, label]⟩⟩
  | case8 here name rest entries he h1 h2 target hl hr links ih =>
    exact (ih h).imp_left (Exists.imp fun _ => .link (label?_directory he) h1 h2
      (by simp [label?_concat he, hl, label]))
  | case9 links here name rest entries he h1 h2 node hn hl ih =>
    have hk : t.label? (here ++ [name]) = some node.label := by simp [label?_concat he, hl]
    have hno (target) : node.label ≠ .link target := fun ht => by
      cases node <;> simp [label] at ht
      exact hn _ rfl
    exact (ih h).imp_left (Exists.imp fun _ => .entry (label?_directory he) h1 h2 hk hno)
  | case5 => cases h
  | case7 => cases h
  | case10 => cases h

lemma Leads.exists_label (h : t.Leads links here names left there)
    (hs : names ≠ [] ∨ ∃ k, t.label? here = some k ∧ ∀ target, k ≠ .link target) :
    ∃ k, t.label? there = some k ∧ ∀ target, k ≠ .link target := by
  induction h with
  | here => exact hs.resolve_left (by simp)
  | dot hd _ ih => exact ih (Or.inr ⟨_, hd, by simp⟩)
  | up hd _ ih =>
    exact ih (Or.inr ⟨_, label?_of_prefix hd (List.dropLast_prefix _), by simp⟩)
  | link hd h1 h2 hl _ ih =>
    refine ih (Or.inr ⟨_, label?_of_prefix hd ?_, by simp⟩)
    rw [startOf]
    split
    · exact List.nil_prefix
    · exact List.prefix_rfl
  | entry hd h1 h2 hk hn _ ih => exact ih (Or.inr ⟨_, hk, hn⟩)

lemma hasParent_of_follow (h : t.follow followLast links here names = .ok place)
    (hs : names ≠ [] ∨ t.HasParent here) : t.HasParent place := by
  rcases follow_cases h with ⟨left, hl⟩ | ⟨⟨d, name, rfl, hd⟩, -⟩
  · by_cases hn : names = []
    · subst hn
      cases hl
      exact hs.resolve_left (by simp)
    · obtain ⟨k, hk, -⟩ := hl.exists_label (Or.inl hn)
      exact hasParent_of_get? fun h => by simp [label?, h] at hk
  · exact hasParent_singleton hd

lemma not_link_of_follow (h : t.follow true links here names = .ok place) (hn : names ≠ [])
    (target : String) : t.label? place ≠ some (.link target) := by
  rcases follow_cases h with ⟨left, hl⟩ | ⟨-, hp | ⟨hf, -⟩⟩
  · obtain ⟨k, hk, hno⟩ := hl.exists_label (Or.inl hn)
    rw [hk]
    simpa using hno target
  · simp [hp]
  · simp at hf

lemma follow_mono (h : t.follow followLast links here names = .ok place) (hx : t.Extends t') :
    t'.follow followLast links here names = .ok place := by
  fun_induction FileTree.follow t followLast links here names with
  | case1 links here => rwa [FileTree.follow]
  | case2 links here rest entries he ih =>
    rw [follow_dot (hx.directory _ (label?_directory he)), ih h]
  | case3 links here rest entries he _ ih =>
    rw [follow_up (hx.directory _ (label?_directory he)), ih h]
  | case4 links here name rest entries he h1 h2 hn hr =>
    cases h
    have hd := hx.directory _ (label?_directory he)
    have hl : t.label? (here ++ [name]) = none := by simp [label?_concat he, hn]
    -- a directory or a file may be there now, but no link that would lead elsewhere
    rw [List.isEmpty_iff.mp hr]
    cases hk : t'.label? (here ++ [name]) with
    | none => exact follow_last hd h1 h2 hk
    | some k =>
      have hno (target) : k ≠ .link target := by
        rintro rfl
        simp [(hx.link _ _).mp hk] at hl
      rw [follow_entry hd h1 h2 hk hno, FileTree.follow]
  | case6 links here name rest entries he h1 h2 target hl hr =>
    cases h
    have hd := hx.directory _ (label?_directory he)
    rw [List.isEmpty_iff.mp hr.1, show followLast = false by simpa using hr.2]
    exact follow_last_link hd h1 h2 ((hx.link _ target).mpr (by simp [label?_concat he, hl, label]))
  | case8 here name rest entries he h1 h2 target hl hr links ih =>
    have hd := hx.directory _ (label?_directory he)
    have hl' : t'.label? (here ++ [name]) = some (.link target) :=
      (hx.link _ target).mpr (by simp [label?_concat he, hl, label])
    have hr' : followLast ∨ rest ≠ [] := by
      cases followLast <;> simp_all [List.isEmpty_iff]
    rw [follow_link hd h1 h2 hl' hr', ih h]
  | case9 links here name rest entries he h1 h2 node hn hl ih =>
    have hd := hx.directory _ (label?_directory he)
    have hk : t.label? (here ++ [name]) = some node.label := by simp [label?_concat he, hl]
    cases node with
    | link target => exact absurd rfl (hn target)
    | directory _ => rw [follow_entry hd h1 h2 (hx.directory _ hk) (by simp), ih h]
    | file c =>
      obtain ⟨c', hc'⟩ := hx.file _ c hk
      rw [follow_entry hd h1 h2 hc' (by simp), ih h]
  | case5 => cases h
  | case7 => cases h
  | case10 => cases h

lemma find_eq_ok {node : FileTree} : t.find followLast here path = .ok (place, node) ↔
    t.locate followLast here path = .ok place ∧ t.get? place = some node := by
  rw [find, bind_eq_ok]
  constructor
  · rintro ⟨q, hl, hg⟩
    cases hq : t.get? q with
    | none => simp [hq] at hg
    | some found =>
      obtain ⟨rfl, rfl⟩ : q = place ∧ found = node := by simpa [hq] using hg
      exact ⟨hl, hq⟩
  · rintro ⟨hl, hg⟩
    exact ⟨place, hl, by simp [hg]⟩

end

end GraphqlBindings.FileTree

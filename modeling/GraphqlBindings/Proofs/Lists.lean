import Mathlib.Data.List.Nodup
import Mathlib.Tactic.Lemma

namespace GraphqlBindings

section Distinct

variable {α : Type} [BEq α]

lemma eraseDups_sublist_and_nodup [LawfulBEq α] (xs : List α) :
    xs.eraseDups.Sublist xs ∧ xs.eraseDups.Nodup := by
  induction hn : xs.length using Nat.strongRecOn generalizing xs with
  | ind n ih =>
    cases xs with
    | nil => simp
    | cons x rest =>
      have hl : (rest.filter fun y => !y == x).length < n := by
        have := List.length_filter_le (fun y => !y == x) rest
        rw [List.length_cons] at hn
        omega
      obtain ⟨hs, hd⟩ := ih _ hl _ rfl
      rw [List.eraseDups_cons]
      exact ⟨(hs.trans List.filter_sublist).cons_cons x, List.nodup_cons.mpr ⟨by simp, hd⟩⟩

lemma nodup_eraseDups [LawfulBEq α] (xs : List α) : xs.eraseDups.Nodup :=
  (eraseDups_sublist_and_nodup xs).2

lemma nodup_of_length_eraseDups [LawfulBEq α] {xs : List α}
    (h : xs.eraseDups.length = xs.length) : xs.Nodup :=
  (eraseDups_sublist_and_nodup xs).1.eq_of_length h ▸ nodup_eraseDups xs

lemma eraseDups_of_nodup [LawfulBEq α] {xs : List α} (h : xs.Nodup) : xs.eraseDups = xs := by
  induction xs with
  | nil => rfl
  | cons x rest ih =>
    obtain ⟨hx, hd⟩ := List.nodup_cons.mp h
    have hf : rest.filter (fun y => !y == x) = rest := by
      refine List.filter_eq_self.mpr fun y hy => ?_
      rw [Bool.not_eq_true', beq_eq_false_iff_ne]
      rintro rfl
      exact hx hy
    rw [List.eraseDups_cons, hf, ih hd]

end Distinct

lemma lookup_eq_none_of_not_mem {α : Type} {entries : List (String × α)} {key : String}
    (h : key ∉ entries.map Prod.fst) : entries.lookup key = none := by
  rw [List.lookup_eq_none_iff]
  rintro ⟨k, v⟩ hm
  rw [bne_iff_ne]
  rintro rfl
  exact h (List.mem_map.mpr ⟨_, hm, rfl⟩)

lemma lookup_cons_ite {α : Type} {entry : String × α} {entries : List (String × α)}
    {key : String} : (entry :: entries).lookup key =
      if key = entry.1 then some entry.2 else entries.lookup key := by
  obtain ⟨k, v⟩ := entry
  by_cases h : key = k
  · simp [h]
  · simp [List.lookup_cons, h, beq_eq_false_iff_ne.mpr h]

lemma mem_iff_lookup {α : Type} {entries : List (String × α)} {entry : String × α}
    (hd : (entries.map Prod.fst).Nodup) :
    entry ∈ entries ↔ entries.lookup entry.1 = some entry.2 := by
  induction entries with
  | nil => simp
  | cons first rest ih =>
    obtain ⟨hf, hr⟩ := List.nodup_cons.mp hd
    rw [List.mem_cons, lookup_cons_ite, ih hr, Prod.ext_iff]
    by_cases h : entry.1 = first.1
    · have hnone : rest.lookup entry.1 = none := lookup_eq_none_of_not_mem (h ▸ hf)
      rw [if_pos h, hnone, Option.some_inj]
      simp [h, eq_comm]
    · simp [h]

lemma lookup_filter_contains {α : Type} {entries : List (String × α)} {names : List String}
    {key : String} (h : key ∈ names) :
    (entries.filter fun (k, _) => names.contains k).lookup key = entries.lookup key := by
  induction entries with
  | nil => rfl
  | cons entry rest ih =>
    obtain ⟨k, v⟩ := entry
    by_cases hk : key = k
    · subst hk
      simp [h]
    · by_cases hc : k ∈ names <;>
        simpa [List.filter_cons, hc, List.lookup_cons, beq_eq_false_iff_ne.mpr hk] using ih

lemma takeWhile_dropWhile_append {α : Type} {p : α → Bool} {xs rest : List α}
    (hxs : ∀ x ∈ xs, p x = true) (hrest : ∀ x ∈ rest.head?, p x = false) :
    (xs ++ rest).takeWhile p = xs ∧ (xs ++ rest).dropWhile p = rest := by
  rw [List.takeWhile_append_of_pos hxs, List.dropWhile_append_of_pos hxs]
  cases rest with
  | nil => simp
  | cons x rest =>
    have hx : p x = false := hrest x rfl
    simp [hx]

lemma exists_forall₂ {α β : Type} {R S : α → β → Prop} {xs : List α}
    (h : ∀ x ∈ xs, ∃ y, R x y ∧ S x y) :
    ∃ ys, List.Forall₂ R xs ys ∧ List.Forall₂ S xs ys := by
  induction xs with
  | nil => exact ⟨[], .nil, .nil⟩
  | cons x rest ih =>
    rw [List.forall_mem_cons] at h
    obtain ⟨y, hr, hs⟩ := h.1
    obtain ⟨ys, hrs, hss⟩ := ih h.2
    exact ⟨y :: ys, .cons hr hrs, .cons hs hss⟩

lemma map_eq_of_forall₂ {α β γ : Type} {R : α → β → Prop} {f : α → γ} {xs xs' : List α}
    {ys : List β} (h : List.Forall₂ R xs ys) (h' : List.Forall₂ R xs' ys)
    (hu : ∀ {x x' y}, R x y → R x' y → f x = f x') : xs.map f = xs'.map f := by
  induction h generalizing xs' with
  | nil =>
    cases h'
    rfl
  | cons hx _ ih =>
    cases h' with
    | cons hx' h' => rw [List.map_cons, List.map_cons, hu hx hx', ih h']

lemma exists_mem_of_forall₂ {α β : Type} {R : α → β → Prop} {xs : List α} {ys : List β}
    (h : List.Forall₂ R xs ys) {y : β} (hy : y ∈ ys) : ∃ x ∈ xs, R x y := by
  induction h with
  | nil => simp at hy
  | cons hxy _ ih =>
    rcases List.mem_cons.mp hy with rfl | hy
    · exact ⟨_, List.mem_cons_self, hxy⟩
    · obtain ⟨x, hx, hr⟩ := ih hy
      exact ⟨x, List.mem_cons_of_mem _ hx, hr⟩

section Results

variable {α β ε : Type}

lemma bind_eq_ok {x : Except ε α} {f : α → Except ε β} {b : β} :
    x >>= f = .ok b ↔ ∃ a, x = .ok a ∧ f a = .ok b := by
  cases x <;> simp [bind, Except.bind]

lemma eq_ok_of_toOption {x : Except ε α} {a : α} (h : x.toOption = some a) : x = .ok a := by
  cases x with
  | error e => cases h
  | ok b => exact congrArg Except.ok (Option.some.inj h)

lemma exists_eq_ok {x : Except ε α} (h : x.toOption.isSome) : ∃ a, x = .ok a :=
  (Option.isSome_iff_exists.mp h).imp fun _ ha => eq_ok_of_toOption ha

lemma mapM_eq_ok_iff {f : α → Except ε β} {xs : List α} {ys : List β} :
    xs.mapM f = .ok ys ↔ xs.map f = ys.map .ok := by
  induction xs generalizing ys with
  | nil => simp [pure, Except.pure, eq_comm]
  | cons x rest ih =>
    rw [List.mapM_cons]
    cases hx : f x with
    | error e => cases ys <;> simp [bind, Except.bind, hx]
    | ok y =>
      cases hr : rest.mapM f with
      | error e =>
        have hn : ∀ ys, rest.map f ≠ List.map .ok ys := fun ys h => by simp [ih.mpr h] at hr
        cases ys with
        | nil => simp [bind, Except.bind]
        | cons y' ys => simp [bind, Except.bind, hx, hn]
      | ok zs =>
        cases ys with
        | nil => simp [bind, Except.bind, pure, Except.pure]
        | cons y' ys => simp [bind, Except.bind, pure, Except.pure, hx, ← ih, hr]

lemma mapM_congr {f g : α → Except ε β} {xs : List α} (h : ∀ x ∈ xs, f x = g x) :
    xs.mapM f = xs.mapM g := by
  induction xs with
  | nil => rfl
  | cons x xs ih =>
    rw [List.mapM_cons, List.mapM_cons, h x (by simp), ih fun y hy => h y (by simp [hy])]

lemma mapM_isOk {f : α → Except ε β} {xs : List α} (h : ∀ x ∈ xs, ∃ y, f x = .ok y) :
    ∃ ys, xs.mapM f = .ok ys := by
  induction xs with
  | nil => exact ⟨[], rfl⟩
  | cons x rest ih =>
    obtain ⟨y, hy⟩ := h x List.mem_cons_self
    obtain ⟨ys, hys⟩ := ih fun x hx => h x (List.mem_cons_of_mem _ hx)
    rw [mapM_eq_ok_iff] at hys
    exact ⟨y :: ys, mapM_eq_ok_iff.mpr (by simp [hy, hys])⟩

lemma exists_mapM_error {f : α → Except ε β} {xs : List α} {x : α} {e : ε} (hx : x ∈ xs)
    (h : f x = .error e) : ∃ e', xs.mapM f = .error e' := by
  cases hm : xs.mapM f with
  | error e' => exact ⟨e', rfl⟩
  | ok ys =>
    have hy : f x ∈ ys.map Except.ok := mapM_eq_ok_iff.mp hm ▸ List.mem_map_of_mem hx
    simp [h] at hy

lemma mapM_eq_some_iff {f : α → Option β} {xs : List α} {ys : List β} :
    xs.mapM f = some ys ↔ List.Forall₂ (fun x y => f x = some y) xs ys := by
  induction xs generalizing ys with
  | nil => cases ys <;> simp [List.mapM_nil]
  | cons x rest ih => cases ys <;> simp [List.mapM_cons, Option.bind_eq_some_iff, ← ih]

end Results

end GraphqlBindings

import GraphqlBindings.Json.Basic
import GraphqlBindings.Proofs.Lists

namespace GraphqlBindings.Keyed

variable {α : Type}

def Sorted (entries : List (String × α)) : Prop := entries.Pairwise fun a b => a.1 < b.1

lemma Sorted.nodup_keys {entries : List (String × α)} (h : Sorted entries) :
    (entries.map Prod.fst).Nodup := by
  refine List.Pairwise.map Prod.fst ?_ h
  rintro ⟨k, v⟩ ⟨k', v'⟩ hlt (rfl : k = k')
  exact String.lt_irrefl k hlt

lemma Sorted.eq_of_mem_iff {a b : List (String × α)} (ha : Sorted a) (hb : Sorted b)
    (h : ∀ entry, entry ∈ a ↔ entry ∈ b) : a = b := by
  have hp : a.Perm b := (List.perm_ext_iff_of_nodup (ha.nodup_keys.of_map _)
    (hb.nodup_keys.of_map _)).mpr h
  exact hp.eq_of_pairwise (fun x y _ _ hxy hyx => absurd hyx (String.lt_asymm hxy)) ha hb

section Put

variable {key : String} {value : α} {entries : List (String × α)}

lemma perm_put (h : key ∉ entries.map Prod.fst) :
    (put key value entries).Perm ((key, value) :: entries) := by
  induction entries with
  | nil => exact List.Perm.refl _
  | cons entry rest ih =>
    obtain ⟨k, v⟩ := entry
    simp only [List.map_cons, List.mem_cons, not_or] at h
    rw [put, if_neg h.1]
    split
    · exact List.Perm.refl _
    · exact ((ih h.2).cons (k, v)).trans (List.Perm.swap _ _ _)

lemma eq_or_mem_of_mem_put {entry : String × α} (h : entry ∈ put key value entries) :
    entry = (key, value) ∨ entry ∈ entries := by
  induction entries with
  | nil => exact .inl (List.mem_singleton.mp h)
  | cons first rest ih =>
    obtain ⟨k, v⟩ := first
    rw [put] at h
    split at h
    · exact (List.mem_cons.mp h).imp_right (List.mem_cons_of_mem _)
    · split at h
      · exact List.mem_cons.mp h
      · rcases List.mem_cons.mp h with rfl | h
        · exact .inr List.mem_cons_self
        · exact (ih h).imp_right (List.mem_cons_of_mem _)

lemma sorted_put (hs : Sorted entries) : Sorted (put key value entries) := by
  induction entries with
  | nil => exact List.pairwise_singleton _ _
  | cons entry rest ih =>
    obtain ⟨k, v⟩ := entry
    obtain ⟨hk, hr⟩ := List.pairwise_cons.mp hs
    rw [put]
    split
    · next heq => exact List.pairwise_cons.mpr ⟨fun e he => heq ▸ hk e he, hr⟩
    · next hne =>
      split
      · next hlt =>
        refine List.pairwise_cons.mpr ⟨fun e he => ?_, hs⟩
        rcases List.mem_cons.mp he with rfl | he
        · exact hlt
        · exact String.lt_trans hlt (hk e he)
      · next hnlt =>
        refine List.pairwise_cons.mpr ⟨fun e he => ?_, ih hr⟩
        rcases eq_or_mem_of_mem_put he with rfl | he
        · rcases Std.lt_trichotomy key k with hlt | heq | hgt
          · exact absurd hlt hnlt
          · exact absurd heq hne
          · exact hgt
        · exact hk e he

lemma lookup_put {k : String} :
    (put key value entries).lookup k = if k = key then some value else entries.lookup k := by
  induction entries with
  | nil => rw [put, lookup_cons_ite]
  | cons entry rest ih =>
    obtain ⟨k', v⟩ := entry
    rw [put]
    split
    · next hk =>
      subst hk
      by_cases h : k = key <;> simp [lookup_cons_ite, h]
    · next hk =>
      split
      · rw [lookup_cons_ite]
      · by_cases h : k = k'
        · subst h
          simp [Ne.symm hk]
        · simp [lookup_cons_ite, h, ih]

end Put

lemma sorted_ofList (entries : List (String × α)) : Sorted (ofList entries) :=
  List.foldlRecOn entries _ .nil fun _ hs _ _ => sorted_put hs

lemma mem_of_mem_ofList {entries : List (String × α)} {entry : String × α}
    (h : entry ∈ ofList entries) : entry ∈ entries := by
  have hall : ∀ e ∈ ofList entries, e ∈ entries := by
    rw [ofList]
    refine List.foldlRecOn (motive := fun sorted => ∀ e ∈ sorted, e ∈ entries) entries _
      (by simp) fun sorted hs first hf e he => ?_
    rcases eq_or_mem_of_mem_put he with rfl | he
    · exact hf
    · exact hs e he
  exact hall entry h

lemma perm_foldl_put (entries sorted : List (String × α))
    (hd : ((entries ++ sorted).map Prod.fst).Nodup) :
    (entries.foldl (fun sorted (k, v) => put k v sorted) sorted).Perm (entries ++ sorted) := by
  induction entries generalizing sorted with
  | nil => exact List.Perm.refl _
  | cons entry rest ih =>
    obtain ⟨k, v⟩ := entry
    have hn : k ∉ sorted.map Prod.fst := by
      rw [List.cons_append, List.map_cons, List.nodup_cons, List.map_append] at hd
      exact fun hm => hd.1 (List.mem_append_right _ hm)
    have hp : (rest ++ put k v sorted).Perm ((k, v) :: rest ++ sorted) :=
      ((perm_put hn).append_left rest).trans List.perm_middle
    exact (ih (put k v sorted) ((hp.map Prod.fst).nodup_iff.mpr hd)).trans hp

lemma mem_ofList {entries : List (String × α)} (hd : (entries.map Prod.fst).Nodup)
    {entry : String × α} : entry ∈ ofList entries ↔ entry ∈ entries := by
  have hp := perm_foldl_put entries [] (by simpa using hd)
  rw [List.append_nil] at hp
  exact hp.mem_iff

lemma Sorted.ofList_eq {entries : List (String × α)} (h : Sorted entries) :
    ofList entries = entries :=
  (sorted_ofList entries).eq_of_mem_iff h fun _ => mem_ofList h.nodup_keys

end GraphqlBindings.Keyed

import GraphqlBindings.Proofs.Naming.Scope

namespace GraphqlBindings.NameScope

open GraphqlBindings.Naming (rawMark stripRawMark)
open GraphqlBindings.Text (isAsciiDigit)

inductive Call where
  | unique (name : String)
  | claim (name : String)
  | contains (name : String)

def handedOut (s : NameScope) : Call → List String
  | .unique name => [(s.unique name).1]
  | .claim name => if (s.claim name).1 then [name] else []
  | .contains _ => []

def after (s : NameScope) : Call → NameScope
  | .unique name => (s.unique name).2
  | .claim name => (s.claim name).2
  | .contains _ => s

def run (s : NameScope) : List Call → List String × NameScope
  | [] => ([], s)
  | call :: rest =>
    let (names, s') := (s.after call).run rest
    (s.handedOut call ++ names, s')

section Steps

variable (s : NameScope)

lemma taken_after (call : Call) : (s.after call).taken = s.handedOut call ++ s.taken := by
  cases call with
  | unique name => rfl
  | claim name => cases h : s.contains name <;> simp [after, handedOut, claim, h]
  | contains name => rfl

lemma handedOut_nodup (call : Call) : (s.handedOut call).Nodup := by
  cases call with
  | unique name => simp [handedOut]
  | claim name => cases h : s.contains name <;> simp [handedOut, claim, h]
  | contains name => exact List.nodup_nil

lemma handedOut_free {call : Call} {name : String} (h : name ∈ s.handedOut call) :
    name ∉ s.taken := by
  cases call with
  | unique asked => exact List.mem_singleton.mp h ▸ s.free_notMem asked
  | claim asked => cases hc : s.contains asked <;> simp_all [handedOut, claim]
  | contains asked => simp [handedOut] at h

lemma run_cons (call : Call) (rest : List Call) : s.run (call :: rest) =
    (s.handedOut call ++ ((s.after call).run rest).1, ((s.after call).run rest).2) := rfl

lemma run_spec (calls : List Call) :
    (s.run calls).1.Nodup ∧ (∀ name ∈ (s.run calls).1, name ∉ s.taken) ∧
      (s.run calls).2.taken.Perm ((s.run calls).1 ++ s.taken) := by
  induction calls generalizing s with
  | nil => simp [run]
  | cons call rest ih =>
    obtain ⟨hd, hf, hp⟩ := ih (s.after call)
    simp only [taken_after, List.mem_append, not_or] at hf hp
    rw [run_cons]
    refine ⟨?_, ?_, ?_⟩
    · refine List.nodup_append.mpr ⟨s.handedOut_nodup call, hd, ?_⟩
      rintro a ha b hb rfl
      exact (hf a hb).1 ha
    · intro name hm
      rcases List.mem_append.mp hm with hm | hm
      · exact s.handedOut_free hm
      · exact (hf name hm).2
    · rw [List.append_assoc]
      exact hp.trans (List.perm_append_comm_assoc ..)

lemma run_unique (names : List String) : s.run (names.map .unique) = s.uniques names := by
  induction names generalizing s with
  | nil => rfl
  | cons name rest ih =>
    rw [List.map_cons, run_cons, ih]
    rfl

lemma nodup_uniques (names : List String) :
    (s.uniques names).1.Nodup ∧ ∀ ident ∈ (s.uniques names).1, ident ∉ s.taken := by
  obtain ⟨hd, hf, -⟩ := s.run_spec (names.map .unique)
  rw [run_unique] at hd hf
  exact ⟨hd, hf⟩

end Steps

section Numbers

def EndsInDigit (base : String) : Prop :=
  ∃ digit ∈ base.toList.getLast?, isAsciiDigit digit = true

structure Numbers (name base sep : String) : Prop where
  unmarked : name = rawMark ++ base ∨ base = name ∧ ∀ rest, name ≠ rawMark ++ rest
  separated : EndsInDigit base ∧ sep = "_" ∨ ¬ EndsInDigit base ∧ sep = ""

lemma stripRawMark_cases (name : String) : name = rawMark ++ stripRawMark name ∨
    stripRawMark name = name ∧ ∀ rest, name ≠ rawMark ++ rest := by
  rw [stripRawMark]
  split
  · next rest h => exact .inl (String.toList_injective (by simp [h, rawMark]))
  · next h =>
    refine .inr ⟨rfl, ?_⟩
    rintro rest rfl
    exact h rest.toList (by simp [rawMark])

lemma numberingStem_cases (name : String) :
    EndsInDigit (stripRawMark name) ∧ numberingStem name = stripRawMark name ++ "_" ∨
      ¬ EndsInDigit (stripRawMark name) ∧ numberingStem name = stripRawMark name := by
  rw [EndsInDigit, numberingStem]
  cases hc : (stripRawMark name).toList.getLast? with
  | none => simp
  | some c => by_cases hd : isAsciiDigit c = true <;> simp [hd]

lemma exists_numbers (name : String) :
    ∃ base sep, Numbers name base sep ∧ ∀ k, numbered name k = base ++ sep ++ toString k := by
  rcases numberingStem_cases name with ⟨hd, hs⟩ | ⟨hd, hs⟩
  · exact ⟨stripRawMark name, "_", ⟨stripRawMark_cases name, .inl ⟨hd, rfl⟩⟩,
      fun k => by rw [numbered, hs]⟩
  · exact ⟨stripRawMark name, "", ⟨stripRawMark_cases name, .inr ⟨hd, rfl⟩⟩,
      fun k => by rw [numbered, hs, String.append_empty]⟩

lemma free_eq_numbered_bounded {s : NameScope} {name : String} (h : name ∈ s.taken) :
    ∃ k, 2 ≤ k ∧ k ≤ s.taken.length + 2 ∧ s.free name = numbered name k ∧
      numbered name k ∉ s.taken ∧ ∀ j, 2 ≤ j → j < k → numbered name j ∈ s.taken := by
  obtain ⟨k, he, hf, hb⟩ := free_eq_numbered h
  obtain ⟨i, hi, hi'⟩ := s.exists_numbered_free name
  -- No more numbers are tried in vain than there are names.
  have hk : k ≤ i := by
    by_contra hlt
    exact hi' (hb i (by omega))
  rw [List.mem_range] at hi
  refine ⟨k + 2, by omega, by omega, he, hf, fun j h2 hj => ?_⟩
  obtain ⟨j, rfl⟩ := Nat.exists_eq_add_of_le' h2
  exact hb j (by omega)

end Numbers

/-- After any calls of a new scope, the names that they handed out are distinct, and they are the
names that it contains. A free name is handed out as it is; for one that is taken the search goes
from two on to the first number that makes it free, and reaches it. -/
theorem run_distinct (calls : List Call) :
    let names := (empty.run calls).1
    let s := (empty.run calls).2
    names.Nodup ∧ (∀ name, s.contains name = true ↔ name ∈ names) ∧
      ∀ name, (s.contains name = false → (s.unique name).1 = name) ∧
        (s.contains name = true → ∃ base sep k, Numbers name base sep ∧
          2 ≤ k ∧ k ≤ names.length + 2 ∧ (s.unique name).1 = base ++ sep ++ toString k ∧
          s.contains (base ++ sep ++ toString k) = false ∧
          ∀ j, 2 ≤ j → j < k → s.contains (base ++ sep ++ toString j) = true) := by
  obtain ⟨hd, -, hp⟩ := empty.run_spec calls
  dsimp only
  generalize (empty.run calls).1 = names at hd hp
  generalize (empty.run calls).2 = s at hp
  rw [taken_empty, List.append_nil] at hp
  refine ⟨hd, fun name => by rw [contains_iff, hp.mem_iff], fun name => ⟨?_, ?_⟩⟩
  · intro hfree
    exact free_eq_self ((s.contains_eq_false_iff name).mp hfree)
  · intro htaken
    obtain ⟨k, h2, hk, he, hf, hb⟩ := free_eq_numbered_bounded ((s.contains_iff name).mp htaken)
    obtain ⟨base, sep, hnumbers, hn⟩ := exists_numbers name
    simp only [hn] at he hf hb
    refine ⟨base, sep, k, hnumbers, h2, hp.length_eq ▸ hk, he, ?_, fun j h2 hj => ?_⟩
    · exact (s.contains_eq_false_iff _).mpr hf
    · exact (s.contains_iff _).mpr (hb j h2 hj)

-- A number that was asked for is passed over, and a mark is not numbered.
example : (empty.run [.unique "v1", .claim "v1_2", .unique "v1", .claim "v1_3", .unique "r#type",
    .unique "r#type"]).1 = ["v1", "v1_2", "v1_3", "r#type", "type2"] := by
  decide +kernel

end GraphqlBindings.NameScope

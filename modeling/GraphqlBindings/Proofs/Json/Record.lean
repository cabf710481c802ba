import Mathlib.Data.List.Nodup
import Mathlib.Data.List.Zip
import GraphqlBindings.Json.Basic
import GraphqlBindings.Proofs.Lists

namespace GraphqlBindings.Json

inductive Distinct : Json → Prop
  | null : Distinct .null
  | bool (b : Bool) : Distinct (.bool b)
  | number (n : Number) : Distinct (.number n)
  | string (s : String) : Distinct (.string s)
  | array {items : List Json} (hi : ∀ item ∈ items, Distinct item) : Distinct (.array items)
  | object {members : List (String × Json)} (hk : (members.map Prod.fst).Nodup)
      (hm : ∀ m ∈ members, Distinct m.2) : Distinct (.object members)

def slot? (fields : List String) (name : String) : Json → Option Json
  | .object members => members.lookup name
  | .array items => (fields.zip items).lookup name
  | _ => none

def IsRecord (fields : List String) : Json → Prop
  | .object _ => True
  | .array items => items.length ≤ fields.length
  | _ => False

section Distinct

@[simp] lemma distinct_null : Distinct .null := .null

@[simp] lemma distinct_bool {b : Bool} : Distinct (.bool b) := .bool b

@[simp] lemma distinct_string {s : String} : Distinct (.string s) := .string s

@[simp] lemma distinct_ofOption {s : Option String} : Distinct (.ofOption s) := by
  cases s <;> simp [ofOption]

@[simp] lemma distinct_array {items : List Json} :
    Distinct (.array items) ↔ ∀ item ∈ items, Distinct item :=
  ⟨fun | .array hi => hi, .array⟩

@[simp] lemma distinct_object {members : List (String × Json)} :
    Distinct (.object members) ↔ (members.map Prod.fst).Nodup ∧ ∀ m ∈ members, Distinct m.2 :=
  ⟨fun | .object hk hm => ⟨hk, hm⟩, fun ⟨hk, hm⟩ => .object hk hm⟩

end Distinct

section Entries

variable {fields : List String} {name : String} {j value : Json}

lemma mem_of_lookup {entries : List (String × Json)} (h : entries.lookup name = some value) :
    (name, value) ∈ entries := by
  obtain ⟨before, behind, he, -⟩ := List.lookup_eq_some_iff.mp h
  simp [he]

lemma slot?_of_member? (h : j.member? name = some value) (fields : List String) :
    IsRecord fields j ∧ ∀ name, slot? fields name j = j.member? name := by
  cases j with
  | object members => exact ⟨trivial, fun _ => rfl⟩
  | _ => cases h

lemma Distinct.slot? (h : Distinct j) (he : slot? fields name j = some value) :
    Distinct value := by
  cases h with
  | object hk hm => exact hm _ (mem_of_lookup he)
  | array hi => exact hi _ (List.of_mem_zip (mem_of_lookup he)).2
  | _ => cases he

lemma Distinct.member? (h : Distinct j) (hm : j.member? name = some value) : Distinct value :=
  h.slot? ((slot?_of_member? hm []).2 name ▸ hm)

end Entries

namespace Record

variable {ε α : Type} {fields : List String} {j : Json} {r : Record} {name : String}
  {default : α} {decode : Json → Except ε α} {a : α}

lemma exists_of? (h : IsRecord fields j) : ∃ r, of? fields j = some r ∧ r.surplus = false := by
  cases j with
  | object members => exact ⟨_, rfl, rfl⟩
  | array items => exact ⟨_, rfl, decide_eq_false (Nat.not_lt.mpr h)⟩
  | _ => cases h

lemma isRecord_of? (h : of? fields j = some r) (hs : r.surplus = false) : IsRecord fields j := by
  cases j with
  | object members => trivial
  | array items =>
    obtain rfl := Option.some.inj h
    exact Nat.not_lt.mp (of_decide_eq_false hs)
  | _ => cases h

lemma lookup_entries (h : of? fields j = some r) (hn : name ∈ fields) :
    r.entries.lookup name = slot? fields name j := by
  cases j with
  | object members =>
    obtain rfl := Option.some.inj h
    exact lookup_filter_contains hn
  | array items =>
    obtain rfl := Option.some.inj h
    rfl
  | _ => cases h

def Given (decode : Json → Except ε α) (value : Option Json) (a : α) : Prop :=
  ∃ v, value = some v ∧ decode v = .ok a

def Defaults (default : α) (decode : Json → Except ε α) (value : Option Json) (a : α) : Prop :=
  value = none ∧ default = a ∨ Given decode value a

@[simp] lemma given_none : ¬ Given decode none a := by simp [Given]

@[simp] lemma given_some {v : Json} : Given decode (some v) a ↔ decode v = .ok a := by simp [Given]

@[simp] lemma defaults_none : Defaults default decode none a ↔ default = a := by simp [Defaults]

@[simp] lemma defaults_some {v : Json} :
    Defaults default decode (some v) a ↔ decode v = .ok a := by simp [Defaults]

lemma required_eq_ok (missing : ε) (h : of? fields j = some r) (hn : name ∈ fields) :
    r.required missing name decode = .ok a ↔ Given decode (slot? fields name j) a := by
  rw [required, lookup_entries h hn]
  cases Json.slot? fields name j <;> simp

lemma defaulting_eq_ok (h : of? fields j = some r) (hn : name ∈ fields) :
    r.defaulting default name decode = .ok a ↔
      Defaults default decode (slot? fields name j) a := by
  rw [defaulting, lookup_entries h hn]
  cases Json.slot? fields name j <;> simp

lemma surplus_of_check {surplus : ε} {faults : List (String × Option ε)} {u : Unit}
    (h : r.check surplus faults = .ok u) : r.surplus = false := by
  rw [check] at h
  split at h
  · cases h
  · cases hs : r.surplus <;> simp_all

lemma check_of_none {surplus : ε} {faults : List (String × Option ε)} (hs : r.surplus = false)
    (hf : ∀ fault ∈ faults, fault.2 = none) : r.check surplus faults = .ok () := by
  have hnone : (r.entries.findSome? fun entry => (faults.lookup entry.1).join) = none := by
    rw [List.findSome?_eq_none_iff]
    rintro ⟨key, value⟩ -
    cases hl : faults.lookup key with
    | none => rfl
    | some fault =>
      obtain ⟨before, behind, he, -⟩ := List.lookup_eq_some_iff.mp hl
      exact hf (key, fault) (by simp [he])
  rw [check, hnone, hs]
  rfl

end Record

end GraphqlBindings.Json

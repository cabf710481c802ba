import Mathlib.Data.List.Nodup
import Mathlib.Logic.Relation
import GraphqlBindings.Proofs.Code.Reading

namespace GraphqlBindings

open Relation (ReflTransGen)

section Without

mutual

def Json.without (path : List String) : Json → Json
  | .object members => .object (membersWithout path members)
  | .array items => .array (itemsWithout path items)
  | j => j

def itemsWithout (path : List String) : List Json → List Json
  | [] => []
  | j :: rest => j.without path :: itemsWithout path rest

def membersWithout : List String → List (String × Json) → List (String × Json)
  | _, [] => []
  | [], members => members
  | [last], (key, j) :: rest =>
    if key = last then membersWithout [last] rest else (key, j) :: membersWithout [last] rest
  | first :: next :: path, (key, j) :: rest =>
    (key, if key = first then j.without (next :: path) else j) ::
      membersWithout (first :: next :: path) rest

end

inductive Json.OmitsAt : List String → Json → Json → Prop
  | here {last : String} {members : List (String × Json)} : last ∈ members.map Prod.fst →
      OmitsAt [last] (.object members) (.object (members.filter fun m => m.1 ≠ last))
  | member {first next : String} {path : List String} {before after : List (String × Json)}
      {j j' : Json} : OmitsAt (next :: path) j j' → OmitsAt (first :: next :: path)
        (.object (before ++ (first, j) :: after)) (.object (before ++ (first, j') :: after))
  | item {path : List String} {before after : List Json} {j j' : Json} : OmitsAt path j j' →
      OmitsAt path (.array (before ++ j :: after)) (.array (before ++ j' :: after))

lemma membersWithout_eq_filter (last : String) (members : List (String × Json)) :
    membersWithout [last] members = members.filter fun m => m.1 ≠ last := by
  induction members with
  | nil => rfl
  | cons m rest ih =>
    rw [membersWithout, ih, List.filter_cons]
    by_cases hm : m.1 = last <;> simp [hm]

/-! To leave a member out of all objects is to leave it out of one object after the other. -/

mutual

lemma Json.reflTransGen_without : ∀ (path : List String) (j : Json), path ≠ [] →
    ReflTransGen (Json.OmitsAt path) j (j.without path)
  | [last], .object members, _ => by
    rw [Json.without, membersWithout_eq_filter]
    by_cases h : last ∈ members.map Prod.fst
    · exact .single (.here h)
    · have hsame : members.filter (fun m => m.1 ≠ last) = members := by
        refine List.filter_eq_self.mpr fun m hm => decide_eq_true fun he => h ?_
        exact List.mem_map.mpr ⟨m, hm, he⟩
      rw [hsame]
  | first :: next :: path, .object members, _ => by
    rw [Json.without]
    exact reflTransGen_membersWithout first next path [] members
  | path, .array items, hp => by
    rw [Json.without]
    exact reflTransGen_itemsWithout path hp [] items
  | _, .null, _ | _, .bool _, _ | _, .number _, _ | _, .string _, _ => by
    rw [Json.without] <;> simp

lemma reflTransGen_itemsWithout (path : List String) (hp : path ≠ []) :
    ∀ before items : List Json, ReflTransGen (Json.OmitsAt path) (.array (before ++ items))
      (.array (before ++ itemsWithout path items))
  | before, [] => by rw [itemsWithout]
  | before, j :: rest => by
    have hj := ReflTransGen.lift (fun j => Json.array (before ++ j :: rest))
      (fun _ _ => Json.OmitsAt.item) _ _ (Json.reflTransGen_without path j hp)
    have hrest := reflTransGen_itemsWithout path hp (before ++ [j.without path]) rest
    rw [List.append_assoc, List.append_assoc] at hrest
    rw [itemsWithout]
    exact hj.trans hrest

lemma reflTransGen_membersWithout (first next : String) (path : List String) :
    ∀ before members : List (String × Json),
    ReflTransGen (Json.OmitsAt (first :: next :: path)) (.object (before ++ members))
      (.object (before ++ membersWithout (first :: next :: path) members))
  | before, [] => by rw [membersWithout]
  | before, (key, j) :: rest => by
    have hrest := fun j' => reflTransGen_membersWithout first next path (before ++ [(key, j')]) rest
    simp only [List.append_assoc, List.cons_append, List.nil_append] at hrest
    rw [membersWithout]
    split_ifs with hk
    · subst hk
      have hj := ReflTransGen.lift (fun j => Json.object (before ++ (key, j) :: rest))
        (fun _ _ => Json.OmitsAt.member) _ _
        (Json.reflTransGen_without (next :: path) j (List.cons_ne_nil _ _))
      exact hj.trans (hrest _)
    · exact hrest j

end

end Without

/-- The field of a struct for a path of keys. Below the first of them it is a field of the struct
that the first one's type is made of. -/
inductive FieldAt (structs : List Declaration) : Declaration → List String → FieldDeclaration → Prop
  | here {d : Declaration} {fields : List FieldDeclaration} {f : FieldDeclaration} :
      d.body = .fields fields → f ∈ fields → FieldAt structs d [f.key] f
  | inside {d e : Declaration} {fields : List FieldDeclaration} {f inner : FieldDeclaration}
      {path : List String} : d.body = .fields fields → f ∈ fields → e ∈ structs →
      f.type.base = e.name → FieldAt structs e path inner →
      FieldAt structs d (f.key :: path) inner

def Declaration.KeysDistinct (d : Declaration) : Prop :=
  ∀ fields, d.body = .fields fields → (fields.map FieldDeclaration.key).Nodup

namespace FieldAt

variable {structs : List Declaration} {d : Declaration} {path : List String}
  {f f' : FieldDeclaration}

lemma path_ne_nil (h : FieldAt structs d path f) : path ≠ [] := by
  cases h <;> exact List.cons_ne_nil _ _

lemma unique (hu : ∀ d ∈ structs, ∀ e ∈ structs, d.name = e.name → d = e)
    (hs : ∀ e ∈ structs, e.KeysDistinct) (hd : d.KeysDistinct) (h : FieldAt structs d path f)
    (h' : FieldAt structs d path f') : f' = f := by
  induction h with
  | @here _ fields f hb hf =>
    generalize hp : [f.key] = keys at h'
    cases h' with
    | here hb' hf' =>
      obtain rfl := DeclarationBody.fields.inj (hb.symm.trans hb')
      exact List.inj_on_of_nodup_map (hd _ hb) hf' hf (List.cons.inj hp).1.symm
    | inside _ _ _ _ hin => exact absurd (List.cons.inj hp).2.symm hin.path_ne_nil
  | @inside _ e fields f _ path hb hf he hbase hin ih =>
    generalize hp : f.key :: path = keys at h'
    cases h' with
    | here hb' hf' => exact absurd (List.cons.inj hp).2 hin.path_ne_nil
    | inside hb' hf' he' hbase' hin' =>
      obtain ⟨hkey, rfl⟩ := List.cons.inj hp
      obtain rfl := DeclarationBody.fields.inj (hb.symm.trans hb')
      obtain rfl := List.inj_on_of_nodup_map (hd _ hb) hf hf' hkey
      obtain rfl := hu _ he _ he' (hbase.symm.trans hbase')
      exact ih (hs _ he) hin'

end FieldAt

section Objects

variable {model : List Declaration} {fields : List FieldDeclaration} {f : FieldDeclaration}
  {members : List (String × Json)}

lemma BodyReads.filter (hkeys : (fields.map FieldDeclaration.key).Nodup) (hf : f ∈ fields)
    (ho : f.type.isOption = true) (h : BodyReads model (.fields fields) (.object members)) :
    BodyReads model (.fields fields) (.object (members.filter fun m => m.1 ≠ f.key)) := by
  cases h with
  | fields hcount hmissing hreads =>
    refine .fields (fun f' hf' => ?_) (fun f' hf' hn => ?_) fun f' hf' j hj => ?_
    · exact Nat.le_trans ((List.filter_sublist.map _).count_le _) (hcount f' hf')
    · by_cases hk : f'.key = f.key
      · exact List.inj_on_of_nodup_map hkeys hf' hf hk ▸ ho
      · refine hmissing f' hf' fun hin => hn ?_
        obtain ⟨m, hm, he⟩ := List.mem_map.mp hin
        exact List.mem_map.mpr ⟨m, List.mem_filter.mpr ⟨hm, by simpa [he] using hk⟩, he⟩
    · exact hreads f' hf' j (List.mem_filter.mp hj).1

lemma BodyReads.replace {members' : List (String × Json)}
    (hkeys : (fields.map FieldDeclaration.key).Nodup) (hf : f ∈ fields)
    (h : BodyReads model (.fields fields) (.object members))
    (hnames : members'.map Prod.fst = members.map Prod.fst)
    (hm : ∀ m ∈ members', m ∈ members ∨ m.1 = f.key ∧ TypeReads model f.type m.2) :
    BodyReads model (.fields fields) (.object members') := by
  cases h with
  | fields hcount hmissing hreads =>
    refine .fields (hnames ▸ hcount) (hnames ▸ hmissing) fun f' hf' j hj => ?_
    rcases hm _ hj with hj | ⟨hk, hread⟩
    · exact hreads f' hf' j hj
    · exact List.inj_on_of_nodup_map hkeys hf' hf hk ▸ hread

end Objects

section Reads

variable {model structs : List Declaration} {d e : Declaration} {path : List String}
  {f : FieldDeclaration} {type : CodeType} {j : Json}
  (hu : ∀ d ∈ model, ∀ e ∈ model, d.name = e.name → d = e)
include hu

lemma typeReads_named_iff (he : e ∈ model) :
    TypeReads model (.named e.name) j ↔ BodyReads model e.body j := by
  constructor
  · intro h
    cases h with
    | @declared _ d _ hf hb =>
      have hn : d.name = e.name := by simpa using List.find?_some hf
      exact hu d (List.mem_of_find?_eq_some hf) e he hn ▸ hb
    | foreign hn _ => exact absurd (List.mem_map_of_mem he) hn
  · exact TypeReads.of_mem hu he

lemma TypeReads.of_omitsAt {j' : Json} (he : e ∈ model) (hb : type.base = e.name)
    (hbody : ∀ j j', Json.OmitsAt path j j' → BodyReads model e.body j → BodyReads model e.body j')
    (hj : j.OmitsAt path j') (h : TypeReads model type j) : TypeReads model type j' := by
  induction type generalizing j j' with
  | named name =>
    obtain rfl : name = e.name := hb
    rw [typeReads_named_iff hu he] at h ⊢
    exact hbody j j' hj h
  | option inner ih =>
    cases h with
    | absent => cases hj
    | present h => exact .present (ih hb hj h)
  | vec inner ih =>
    cases h with
    | vec hitems =>
      cases hj with
      | item hj =>
        rw [List.forall_mem_append, List.forall_mem_cons] at hitems
        obtain ⟨hbefore, hitem, hafter⟩ := hitems
        refine .vec ?_
        rw [List.forall_mem_append, List.forall_mem_cons]
        exact ⟨hbefore, ih hb hj hitem, hafter⟩
  | boxed inner ih =>
    cases h with
    | boxed h => exact .boxed (ih hb hj h)

lemma TypeReads.not_omitsAt {j' : Json} (he : e ∈ model) (hb : type.base = e.name)
    (hbody : ∀ j j', Json.OmitsAt path j j' → ¬ BodyReads model e.body j')
    (hj : j.OmitsAt path j') : ¬ TypeReads model type j' := by
  induction type generalizing j j' with
  | named name =>
    obtain rfl : name = e.name := hb
    rw [typeReads_named_iff hu he]
    exact hbody j j' hj
  | option inner ih =>
    intro h
    cases h with
    | absent => cases hj
    | present h => exact ih hb hj h
  | vec inner ih =>
    intro h
    cases h with
    | vec hitems =>
      cases hj with
      | item hj => exact ih hb hj (hitems _ (by simp))
  | boxed inner ih =>
    intro h
    cases h with
    | boxed h => exact ih hb hj h

lemma FieldAt.of_omitsAt {j' : Json} (hm : structs ⊆ model) (hs : ∀ e ∈ structs, e.KeysDistinct)
    (hd : d.KeysDistinct) (h : FieldAt structs d path f) (ho : f.type.isOption = true)
    (hj : j.OmitsAt path j') (hr : BodyReads model d.body j) : BodyReads model d.body j' := by
  induction h generalizing j j' with
  | @here d fields f hb hf =>
    have hkeys := hd _ hb
    rw [hb] at hr ⊢
    cases hj with
    | here => exact hr.filter hkeys hf ho
    | item => cases hr
  | @inside d e fields f inner path hb hf he hbase hin ih =>
    have hkeys := hd _ hb
    rw [hb] at hr ⊢
    cases hj with
    | here => exact absurd rfl hin.path_ne_nil
    | item => cases hr
    | @member _ _ _ before after v v' hj =>
      cases hr with
      | fields hcount hmissing hreads =>
        have hread := hreads f hf v (List.mem_append_right _ List.mem_cons_self)
        have hread' := hread.of_omitsAt hu (hm he) hbase (fun _ _ hj => ih (hs e he) ho hj) hj
        refine BodyReads.replace hkeys hf (.fields hcount hmissing hreads) (by simp) fun m hm' => ?_
        rcases List.mem_append.mp hm' with hm' | hm'
        · exact .inl (List.mem_append_left _ hm')
        · rcases List.mem_cons.mp hm' with rfl | hm'
          · exact .inr ⟨rfl, hread'⟩
          · exact .inl (List.mem_append_right _ (List.mem_cons_of_mem _ hm'))

lemma FieldAt.not_omitsAt {j' : Json} (hm : structs ⊆ model) (h : FieldAt structs d path f)
    (ho : f.type.isOption = false) (hj : j.OmitsAt path j') : ¬ BodyReads model d.body j' := by
  induction h generalizing j j' with
  | @here d fields f hb hf =>
    rw [hb]
    intro hr
    cases hj with
    | here =>
      cases hr with
      | fields _ hmissing _ =>
        have := hmissing f hf (by simp)
        simp [ho] at this
    | item => cases hr
  | @inside d e fields f inner path hb hf he hbase hin ih =>
    rw [hb]
    intro hr
    cases hj with
    | here => exact absurd rfl hin.path_ne_nil
    | item => cases hr
    | @member _ _ _ before after v v' hj =>
      cases hr with
      | fields _ _ hreads =>
        have hread := hreads f hf v' (List.mem_append_right _ List.mem_cons_self)
        exact TypeReads.not_omitsAt hu (hm he) hbase (fun _ _ hj => ih ho hj) hj hread

lemma FieldAt.reads_without (hm : structs ⊆ model) (hs : ∀ e ∈ structs, e.KeysDistinct)
    (hd : d.KeysDistinct) (h : FieldAt structs d path f) (ho : f.type.isOption = true)
    (hj : BodyReads model d.body j) : BodyReads model d.body (j.without path) := by
  have hchain := Json.reflTransGen_without path j h.path_ne_nil
  generalize j.without path = left at hchain ⊢
  induction hchain with
  | refl => exact hj
  | tail _ hstep ih => exact h.of_omitsAt hu hm hs hd ho hstep ih

lemma FieldAt.without_eq (hm : structs ⊆ model) (h : FieldAt structs d path f)
    (ho : f.type.isOption = false) (hj : BodyReads model d.body (j.without path)) :
    j.without path = j := by
  rcases (Json.reflTransGen_without path j h.path_ne_nil).cases_tail with he | ⟨_, -, hstep⟩
  · exact he
  · exact absurd hj (h.not_omitsAt hu hm ho hstep)

end Reads

end GraphqlBindings

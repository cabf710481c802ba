import GraphqlBindings.Proofs.FileTree.Writing

namespace GraphqlBindings.FileTree

open GraphqlBindings.Path

variable {t t' t'' : FileTree} {here p q : Place} {path root text : String} {c : Contents}
  {files : List (String × String)} {puts : List (Place × String)}

def IsFileAt (t : FileTree) (p : Place) : Prop := ∃ c, t.get? p = some (.file c)

lemma get?_of_label?_file (h : t.label? p = some (.file c)) : t.get? p = some (.file c) := by
  obtain ⟨node, hn, hk⟩ := Option.map_eq_some_iff.mp h
  cases node <;> simp [label] at hk
  rw [hn, hk]

lemma IsFileAt.label? (h : t.IsFileAt p) : ∃ c, t.label? p = some (.file c) := by
  obtain ⟨c, hc⟩ := h
  exact ⟨c, by rw [FileTree.label?, hc]; rfl⟩

lemma IsFileAt.mono (h : t.IsFileAt p) (hx : t.Extends t') : t'.IsFileAt p := by
  obtain ⟨c, hc⟩ := h.label?
  obtain ⟨c', hc'⟩ := hx.file p c hc
  exact ⟨c', get?_of_label?_file hc'⟩

lemma IsFileAt.extends_set (h : t.IsFileAt p) : t.Extends (t.set (.file c) p) := by
  obtain ⟨c', hc⟩ := h
  refine extends_set_file (hasParent_of_get? (by simp [hc])) fun node hn => ⟨c', ?_⟩
  exact Option.some.inj (hn.symm.trans hc)

lemma IsFileAt.eq_of_prefix (hp : t.IsFileAt p) (hq : t.IsFileAt q) (h : p <+: q) : p = q := by
  obtain ⟨r, rfl⟩ := h
  obtain ⟨c, hc⟩ := hp
  obtain ⟨c', hc'⟩ := hq
  cases r with
  | nil => simp
  | cons name rest => simp [get?_append, hc] at hc'

lemma IsFileAt.set_comm {c' : Contents} (hp : t.IsFileAt p) (hq : t.IsFileAt q) (h : p ≠ q) :
    (t.set (.file c) p).set (.file c') q = (t.set (.file c') q).set (.file c) p := by
  have hpn : t.get? p ≠ none := by
    obtain ⟨_, h⟩ := hp
    simp [h]
  have hqn : t.get? q ≠ none := by
    obtain ⟨_, h⟩ := hq
    simp [h]
  exact FileTree.set_comm hpn hqn (fun hpq => h (hp.eq_of_prefix hq hpq))
    fun hqp => h (hq.eq_of_prefix hp hqp).symm

def putAll (t : FileTree) (puts : List (Place × String)) : FileTree :=
  puts.foldl (fun t w => t.set (.file (.text w.2)) w.1) t

lemma putAll_set (hp : t.IsFileAt p) (hw : ∀ w ∈ puts, t.IsFileAt w.1)
    (hm : p ∈ puts.map Prod.fst) : (t.set (.file c) p).putAll puts = t.putAll puts := by
  induction puts generalizing t with
  | nil => simp at hm
  | cons w rest ih =>
    obtain ⟨q, text⟩ := w
    have hq : t.IsFileAt q := hw (q, text) (by simp)
    change ((t.set _ p).set _ q).putAll rest = (t.set _ q).putAll rest
    by_cases h : p = q
    · subst h
      rw [set_set]
    · have hx : t.Extends (t.set (.file (.text text)) q) := hq.extends_set
      rw [hp.set_comm hq h]
      refine ih (hp.mono hx) (fun w hw' => (hw w (by simp [hw'])).mono hx) ?_
      exact (List.mem_cons.mp hm).resolve_left h

structure Located (t : FileTree) (here : Place) (root : String) (files : List (String × String))
    (puts : List (Place × String)) : Prop where
  locate : List.Forall₂ (fun f w => t.locate true here (join root f.1) = .ok w.1 ∧ w.2 = f.2)
    files puts
  isFileAt : ∀ w ∈ puts, t.IsFileAt w.1

lemma Located.exists_mem {f : String × String} (h : t.Located here root files puts)
    (hf : f ∈ files) : ∃ w ∈ puts, t.locate true here (join root f.1) = .ok w.1 := by
  obtain ⟨i, hi, rfl⟩ := List.getElem_of_mem hf
  have hi' : i < puts.length := h.locate.length_eq ▸ hi
  exact ⟨puts[i], List.getElem_mem hi', (h.locate.get hi hi').1⟩

lemma writeText_eq (h : t.locate true here path = .ok p) (hp : t.IsFileAt p) :
    t.writeText here path text = .ok (t.set (.file (.text text)) p) := by
  obtain ⟨c, hc⟩ := hp
  simp [writeText, h, hc, bind, Except.bind]

lemma Located.writes (h : t.Located here root files puts) :
    Writes here root files t (t.putAll puts) := by
  induction puts generalizing t files with
  | nil =>
    obtain ⟨hl, -⟩ := h
    cases hl
    exact .nil
  | cons w puts ih =>
    obtain ⟨hl, hfiles⟩ := h
    rcases hl with _ | ⟨⟨hlocate, htext⟩, hrest⟩
    have hw := hfiles w (by simp)
    have hx : t.Extends (t.set (.file (.text w.2)) w.1) := hw.extends_set
    refine .cons (htext ▸ writeText_eq hlocate hw) (ih ⟨hrest.imp fun f v hv => ?_, fun v hv => ?_⟩)
    · exact ⟨locate_mono hv.1 hx, hv.2⟩
    · exact (hfiles v (by simp [hv])).mono hx

lemma Writes.exists_located (h : Writes here root files t t') :
    ∃ puts, t'.Located here root files puts ∧ t'.putAll puts = t' := by
  induction h with
  | nil => exact ⟨[], ⟨.nil, by simp⟩, rfl⟩
  | @cons name text rest t t₁ t' hw hr ih =>
    obtain ⟨p, hl, -, hq⟩ := label?_writeText hw
    obtain ⟨puts, hputs, hput⟩ := ih
    have hp : t₁.label? p = some (.file (.text text)) := by simp [hq]
    have hfile : t'.IsFileAt p := IsFileAt.mono ⟨_, get?_of_label?_file hp⟩ hr.isExtended
    refine ⟨(p, text) :: puts, ⟨.cons ⟨locate_mono hl hr.isExtended, rfl⟩ hputs.locate, ?_⟩, ?_⟩
    · exact List.forall_mem_cons.mpr ⟨hfile, hputs.isFileAt⟩
    · change (t'.set (.file (.text text)) p).putAll puts = t'
      by_cases hm : p ∈ puts.map Prod.fst
      · rw [putAll_set hfile hputs.isFileAt hm, hput]
      · -- nothing else is written to the place, so that the text is there still
        have hstay : t'.label? p = t₁.label? p := by
          refine (hr.label? p).resolve_right ?_
          rintro ⟨f, hf, hfl⟩
          obtain ⟨w, hw, hwl⟩ := hputs.exists_mem hf
          exact hm (List.mem_map.mpr ⟨w, hw, Except.ok.inj (hwl.symm.trans hfl)⟩)
        rw [set_of_get? (get?_of_label?_file (hstay.trans hp)), hput]

theorem Writes.again (h : Writes here root files t t') : Writes here root files t' t' := by
  obtain ⟨puts, hl, hput⟩ := h.exists_located
  have hw := hl.writes
  rwa [hput] at hw

lemma Located.retext {files' : List (String × String)} (h : t.Located here root files puts)
    (hn : files'.map Prod.fst = files.map Prod.fst) :
    ∃ puts', t.Located here root files' puts' := by
  obtain ⟨hl, hf⟩ := h
  induction hl generalizing files' with
  | nil =>
    obtain rfl : files' = [] := by simpa using hn
    exact ⟨[], .nil, by simp⟩
  | @cons f w rest puts hlocate _ ih =>
    obtain ⟨⟨name, text⟩, rest', rfl⟩ : ∃ f' rest', files' = f' :: rest' := by
      cases files' with
      | nil => simp at hn
      | cons f' rest' => exact ⟨f', rest', rfl⟩
    simp only [List.map_cons, List.cons.injEq] at hn
    obtain ⟨rfl, hn⟩ := hn
    rw [List.forall_mem_cons] at hf
    obtain ⟨puts', hl', hf'⟩ := ih hn hf.2
    exact ⟨(w.1, text) :: puts', .cons ⟨hlocate.1, rfl⟩ hl', List.forall_mem_cons.mpr ⟨hf.1, hf'⟩⟩

theorem Writes.over {files' : List (String × String)} (h : Writes here root files t t')
    (hn : files'.map Prod.fst = files.map Prod.fst) : ∃ t'', Writes here root files' t' t'' := by
  obtain ⟨puts, hl, -⟩ := h.exists_located
  obtain ⟨puts', hl'⟩ := hl.retext hn
  exact ⟨_, hl'.writes⟩

theorem get?_of_apart (hd : t.makeDirectories here root = (.ok (), t'))
    (hw : Writes here root files t' t'') (hp : t.get? p ≠ none)
    (h : ∀ path ∈ files.map (fun f => join root f.1) ++ ancestors root, ∀ q,
      t''.locate true here path = .ok q → p <+: q → t.label? q = some .directory) :
    t''.get? p = t.get? p := by
  have hgrown := makeDirectories_grown hd
  have h₁ : t'.get? p = t.get? p := by
    refine hgrown.get? p hp fun q hpq hn => ?_
    rcases hgrown.label? q with hq | ⟨-, -, path, hm, hl⟩
    · rw [hq, hn]
    · have hq := h path (List.mem_append_right _ hm) q (locate_mono hl hw.isExtended) hpq
      simp [hn] at hq
  refine (hw.get? (h₁ ▸ hp) fun f hf q hl hpq => ?_).trans h₁
  -- a file is there after it has been written, and no directory
  obtain ⟨puts, hputs, -⟩ := hw.exists_located
  obtain ⟨v, hv, hvl⟩ := hputs.exists_mem hf
  obtain rfl : v.1 = q := Except.ok.inj (hvl.symm.trans hl)
  obtain ⟨c, hc⟩ := (hputs.isFileAt v hv).label?
  have hq := h _ (List.mem_append_left _ (List.mem_map_of_mem hf)) _ hl hpq
  simp [(hgrown.isExtended.trans hw.isExtended).directory _ hq] at hc

theorem makeDirectories_again (h : path = "" ∨ t.isDirectoryAt here path) :
    t.makeDirectories here path = (.ok (), t) := by
  by_cases hp : path = ""
  · subst hp
    rfl
  · have hd := h.resolve_left hp
    obtain ⟨above, ha⟩ := ancestors_of_ne hp
    obtain ⟨place, hplace, hl⟩ := isDirectoryAt_iff.mp hd
    obtain ⟨-, left, hw⟩ := (locate_directory_iff hl).mp hplace
    obtain ⟨q, hf, hq⟩ := hw.exists_follow false (by simp [hl])
    have hm : t.makeDirectory here path = .error .existing := by
      cases hg : t.get? q with
      | none => exact absurd (label?_eq_none.mpr hg) hq
      | some node => simp [makeDirectory, hf, hg, bind, Except.bind]
    rw [makeDirectories, ha, makeFirst, hm]
    simp [orDirectory, hd]

end GraphqlBindings.FileTree

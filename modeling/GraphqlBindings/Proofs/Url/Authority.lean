import GraphqlBindings.Proofs.Lists
import GraphqlBindings.Proofs.Naming.Legal
import GraphqlBindings.Url.Basic

namespace GraphqlBindings.Url

open GraphqlBindings.Text

def isHostChar (c : Char) : Bool := isAsciiLetter c || isAsciiDigit c || c == '-' || c == '.'

section Characters

variable {c : Char}

lemma isHostChar_range (h : isHostChar c) : c.toNat = 45 ∨ c.toNat = 46 ∨
    (48 ≤ c.toNat ∧ c.toNat ≤ 57) ∨ (65 ≤ c.toNat ∧ c.toNat ≤ 90) ∨
      (97 ≤ c.toNat ∧ c.toNat ≤ 122) := by
  simp only [isHostChar, Bool.or_eq_true, beq_iff_eq] at h
  rcases h with (h | rfl) | rfl
  · have := (isAlnum_iff c).mp h
    omega
  · simp
  · simp

lemma isHostChar_of_digit (h : isAsciiDigit c) : isHostChar c := by simp [isHostChar, h]

lemma isSchemeChar_of_isHostChar (h : isHostChar c) : isSchemeChar c := by
  simp only [isHostChar, isSchemeChar, Bool.or_eq_true] at h ⊢
  tauto

lemma ne_of_isHostChar (h : isHostChar c) {d : Char} (hd : isHostChar d = false) : c ≠ d := by
  rintro rfl
  simp [h] at hd

lemma lt_of_plain (h : isHostChar c ∨ c = ':') : 0x20 < c.toNat := by
  rcases h with h | rfl
  · have := isHostChar_range h
    omega
  · decide

lemma not_isBlank (h : isHostChar c ∨ c = ':') : isBlank c = false := by
  have hr : 0x20 < c.toNat ∧ c.toNat ≤ 122 := by
    rcases h with h | rfl
    · have := isHostChar_range h
      omega
    · decide
  simp only [isBlank, Bool.or_eq_false_iff, Bool.and_eq_false_iff, decide_eq_false_iff_not,
    beq_eq_false_iff_ne]
  omega

lemma not_endsAuthority (h : isHostChar c ∨ c = ':') : endsAuthority true c = false := by
  rcases h with h | rfl
  · simp [endsAuthority, ne_of_isHostChar h (d := '/') (by decide),
      ne_of_isHostChar h (d := '?') (by decide), ne_of_isHostChar h (d := '#') (by decide),
      ne_of_isHostChar h (d := '\\') (by decide)]
  · decide

end Characters

section Clean

def isEdge (c : Char) : Bool := decide (c.toNat ≤ 0x20)

def cleanEnd (cs : List Char) : List Char :=
  (cs.reverse.dropWhile isEdge).reverse.filter fun c => !(c == '\t' || c == '\n' || c == '\r')

lemma clean_eq_cleanEnd {cs : List Char} (h : ∀ c ∈ cs.head?, 0x20 < c.toNat) :
    clean cs = cleanEnd cs := by
  have hdrop : cs.dropWhile isEdge = cs := by
    cases cs with
    | nil => rfl
    | cons c rest =>
      have hc := h c rfl
      have he : isEdge c = false := decide_eq_false (by omega)
      rw [List.dropWhile_cons, he]
      rfl
  change ((cs.dropWhile isEdge).reverse.dropWhile isEdge).reverse.filter _ = _
  rw [hdrop]
  rfl

lemma cleanEnd_append {a b : List Char} (ha : a ≠ []) (h : ∀ c ∈ a, 0x20 < c.toNat) :
    cleanEnd (a ++ b) = a ++ cleanEnd b := by
  have hback : a.reverse.dropWhile isEdge = a.reverse := by
    obtain ⟨c, rest, hr⟩ := List.exists_cons_of_ne_nil (List.reverse_ne_nil_iff.mpr ha)
    have hc := h c (List.mem_reverse.mp (hr ▸ List.mem_cons_self))
    have he : isEdge c = false := decide_eq_false (by omega)
    simp [hr, he]
  have hdrop : (b.reverse ++ a.reverse).dropWhile isEdge =
      b.reverse.dropWhile isEdge ++ a.reverse := by
    rw [List.dropWhile_append, hback]
    split
    · next he => rw [List.isEmpty_iff.mp he, List.nil_append]
    · rfl
  have hkeep : a.filter (fun c => !(c == '\t' || c == '\n' || c == '\r')) = a := by
    refine List.filter_eq_self.mpr fun c hc => ?_
    have hlt := h c hc
    have hne (d : Char) (hd : d.toNat ≤ 0x20) : (c == d) = false := by
      rw [beq_eq_false_iff_ne]
      rintro rfl
      omega
    simp [hne '\t' (by decide), hne '\n' (by decide), hne '\r' (by decide)]
  rw [cleanEnd, List.reverse_append, hdrop, List.reverse_append, List.reverse_reverse,
    List.filter_append, hkeep, cleanEnd]

lemma clean_append {a b : List Char} (ha : a ≠ []) (h : ∀ c ∈ a, 0x20 < c.toNat) :
    clean (a ++ b) = a ++ cleanEnd b := by
  rw [clean_eq_cleanEnd, cleanEnd_append ha h]
  obtain ⟨c, rest, rfl⟩ := List.exists_cons_of_ne_nil ha
  simpa using h c List.mem_cons_self

lemma cleanEnd_of_slash {path : List Char} (h : path = [] ∨ path.head? = some '/') :
    cleanEnd path = [] ∨ (cleanEnd path).head? = some '/' := by
  rcases h with rfl | h
  · exact Or.inl rfl
  · obtain ⟨rest, rfl⟩ := List.head?_eq_some_iff.mp h
    have hc : cleanEnd (['/'] ++ rest) = ['/'] ++ cleanEnd rest :=
      cleanEnd_append (by simp) (by simp)
    exact Or.inr (by simpa using congrArg List.head? hc)

end Clean

section Scheme

variable {c : Char} {cs rest : List Char}

lemma splitScheme_colon (hcs : ∀ x ∈ c :: cs, isSchemeChar x) :
    splitScheme (c :: cs ++ ':' :: rest) =
      if isAsciiLetter c then some (.ofList ((c :: cs).flatMap toSmall), rest) else none := by
  have hrest : ∀ x ∈ (':' :: rest).head?, isSchemeChar x = false := by
    rintro x hx
    obtain rfl : ':' = x := by simpa using hx
    decide
  obtain ⟨ht, hd⟩ := takeWhile_dropWhile_append hcs hrest
  rw [splitScheme, ht, hd]
  rfl

lemma splitScheme_none (hcs : ∀ x ∈ cs, isSchemeChar x)
    (hrest : rest = [] ∨ rest.head? = some '/') : splitScheme (cs ++ rest) = none := by
  have hhead : ∀ x ∈ rest.head?, isSchemeChar x = false := by
    intro x hx
    obtain rfl : x = '/' := by
      rcases hrest with rfl | hr
      · simp at hx
      · simpa [hr, eq_comm] using hx
    decide
  obtain ⟨ht, hd⟩ := takeWhile_dropWhile_append hcs hhead
  rw [splitScheme, ht, hd]
  rcases hrest with rfl | hr
  · cases cs <;> rfl
  · obtain ⟨more, rfl⟩ := List.head?_eq_some_iff.mp hr
    cases cs <;> simp

end Scheme

section Authority

variable {host portText tail slashes : List Char} {secure : Bool}

lemma splitHost_append (hh : ∀ c ∈ host, isHostChar c)
    (hp : portText = [] ∨ portText.head? = some ':') :
    splitHost false (host ++ portText) = (host, portText) := by
  induction host with
  | nil =>
    rcases hp with rfl | hp
    · rfl
    · obtain ⟨rest, rfl⟩ := List.head?_eq_some_iff.mp hp
      rfl
  | cons c rest ih =>
    obtain ⟨hc, hr⟩ := List.forall_mem_cons.mp hh
    have h₁ := ne_of_isHostChar hc (d := ':') (by decide)
    have h₂ := ne_of_isHostChar hc (d := '[') (by decide)
    have h₃ := ne_of_isHostChar hc (d := ']') (by decide)
    simp [splitHost, h₁, h₂, h₃, ih hr]

def authority? (secure : Bool) (host portText tail : List Char) : Option Url := do
  let parsed ← Host.parse? host
  let port ← port? portText
  let (path, query, fragment) := splitTail tail
  some
    { secure, user := "", password := "", host := parsed
      port := port.filter (· != usualPort secure)
      path := pathSegments (path.drop 1)
      query := query.map (encode isQueryUnsafe)
      fragment := fragment.map (encode isFragmentUnsafe) }

section Plain

variable (hne : host ≠ []) (hh : ∀ c ∈ host, isHostChar c)
  (hpc : ∀ c ∈ portText, isHostChar c ∨ c = ':')
include hh hpc

lemma plain_of_mem : ∀ c ∈ host ++ portText, isHostChar c ∨ c = ':' := by
  intro c hc
  rcases List.mem_append.mp hc with hc | hc
  · exact Or.inl (hh c hc)
  · exact hpc c hc

lemma splitUser_append : splitUser (host ++ portText) = none := by
  rw [splitUser, if_neg]
  intro hm
  have hat : isHostChar '@' ∨ '@' = ':' := plain_of_mem hh hpc '@' (by simpa using hm)
  exact absurd hat (by decide)

lemma takeAuthority_append (ht : tail = [] ∨ tail.head? = some '/') :
    (host ++ portText ++ tail).takeWhile (!endsAuthority true ·) = host ++ portText ∧
      (host ++ portText ++ tail).dropWhile (!endsAuthority true ·) = tail := by
  refine takeWhile_dropWhile_append (fun c hc => ?_) fun c hc => ?_
  · simp [not_endsAuthority (plain_of_mem hh hpc c hc)]
  · rcases ht with rfl | ht
    · simp at hc
    · obtain rfl : c = '/' := by simpa [ht, eq_comm] using hc
      decide

include hne

omit hpc in
lemma dropSlashes_append {rest : List Char} (hs : ∀ c ∈ slashes, c = '/') :
    (slashes ++ (host ++ rest)).dropWhile (fun c => c == '/' || c == '\\') = host ++ rest := by
  refine (takeWhile_dropWhile_append (fun c hc => by simp [hs c hc]) fun c hc => ?_).2
  obtain ⟨d, more, rfl⟩ := List.exists_cons_of_ne_nil hne
  obtain rfl : d = c := by simpa using hc
  have hd := hh d List.mem_cons_self
  simp [ne_of_isHostChar hd (d := '/') (by decide), ne_of_isHostChar hd (d := '\\') (by decide)]

lemma parseWeb_append (hs : ∀ c ∈ slashes, c = '/')
    (hp : portText = [] ∨ portText.head? = some ':') (ht : tail = [] ∨ tail.head? = some '/') :
    parseWeb secure (slashes ++ (host ++ portText ++ tail)) =
      authority? secure host portText tail := by
  obtain ⟨htake, hrest⟩ := takeAuthority_append hh hpc ht
  rw [parseWeb, List.append_assoc, dropSlashes_append hne hh hs, ← List.append_assoc, htake, hrest,
    splitUser_append hh hpc]
  simp only [Option.getD_none, splitHost_append hh hp, List.isEmpty_iff, hne]
  rfl

end Plain

lemma isAuthority_append (hne : host ≠ []) (hh : ∀ c ∈ host, isHostChar c)
    (ht : tail = [] ∨ tail.head? = some '/') :
    isAuthority true (host ++ tail) = (Host.parse? host).isSome := by
  have hpc : ∀ c ∈ ([] : List Char), isHostChar c ∨ c = ':' := by simp
  obtain ⟨htake, -⟩ := takeAuthority_append hh hpc ht
  have hsplit := splitHost_append hh (Or.inl rfl)
  have huser := splitUser_append hh hpc
  rw [List.append_nil] at htake hsplit huser
  simp [isAuthority, htake, huser, hsplit, hne, port?]

lemma isFile_append (hne : host ≠ []) (hh : ∀ c ∈ host, isHostChar c) :
    isFile (host ++ tail) = true := by
  obtain ⟨c, rest, rfl⟩ := List.exists_cons_of_ne_nil hne
  have hc := hh c List.mem_cons_self
  have h₁ := ne_of_isHostChar hc (d := '/') (by decide)
  have h₂ := ne_of_isHostChar hc (d := '\\') (by decide)
  rw [List.cons_append]
  cases rest ++ tail <;> simp [isFile, h₁, h₂]

lemma parse?_of_splitScheme {text scheme : String} (hne : host ≠ [])
    (hh : ∀ c ∈ host, isHostChar c) (ht : tail = [] ∨ tail.head? = some '/')
    (hs : splitScheme (clean text.toList) = some (scheme, host ++ tail)) :
    parse? text =
      if scheme = "https" ∨ scheme = "http" then
        (authority? (scheme == "https") host [] tail).map .web
      else if (scheme = "ws" ∨ scheme = "wss" ∨ scheme = "ftp") ∧ Host.parse? host = none then none
      else some (.other scheme) := by
  have hslash : ([] ++ (host ++ tail)).dropWhile (fun c => c == '/' || c == '\\') = host ++ tail :=
    dropSlashes_append hne hh (by simp)
  have hweb : parseWeb (scheme == "https") ([] ++ (host ++ [] ++ tail)) =
      authority? (scheme == "https") host [] tail :=
    parseWeb_append hne hh (by simp) (by simp) (Or.inl rfl) ht
  rw [List.nil_append] at hslash hweb
  rw [List.append_nil] at hweb
  rw [parse?, hs]
  simp only [bind, Option.bind, hslash, hweb, isAuthority_append hne hh ht]
  by_cases hw : scheme = "https" ∨ scheme = "http"
  · rw [if_pos hw, if_pos hw]
    cases authority? (scheme == "https") host [] tail <;> rfl
  · rw [if_neg hw, if_neg hw]
    by_cases hv : scheme = "ws" ∨ scheme = "wss" ∨ scheme = "ftp"
    · rw [if_pos hv]
      cases Host.parse? host <;> simp [hv]
    · have hno : ¬ ((scheme = "ws" ∨ scheme = "wss" ∨ scheme = "ftp") ∧
          Host.parse? host = none) := fun h => hv h.1
      rw [if_neg hv, if_neg hno, if_pos (isFile_append hne hh)]
      split
      · rfl
      · -- two slashes would be followed by an authority, but the host comes first
        split
        · next h =>
          obtain ⟨c, rest, rfl⟩ := List.exists_cons_of_ne_nil hne
          obtain ⟨rfl, -⟩ := List.cons.inj h
          exact absurd (hh '/' List.mem_cons_self) (by decide)
        · rfl

end Authority

end GraphqlBindings.Url

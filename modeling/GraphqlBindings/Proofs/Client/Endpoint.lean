import GraphqlBindings.Client.Settings
import GraphqlBindings.Proofs.Url.Authority

/-! Endpoints without a scheme. With a port behind a name, the name is read as the scheme of another
address; all others are taken to be secure web addresses. -/

namespace GraphqlBindings.Client

open GraphqlBindings.Text GraphqlBindings.Url

/-- An endpoint that is written without a scheme: a host, a port with its number, and a path, with
blanks around them. -/
structure Schemeless where
  before : List Char
  host : List Char
  port : Option (List Char × Nat)
  path : List Char
  after : List Char
  parsed : Host
  isBlank_before : ∀ c ∈ before, isBlank c
  isBlank_after : ∀ c ∈ after, isBlank c
  isHostChar_host : ∀ c ∈ host, isHostChar c
  parse_host : Host.parse? host = some parsed
  port_number : ∀ p ∈ port, p.1 ≠ [] ∧ (∀ c ∈ p.1, isAsciiDigit c) ∧ numberIn? 10 p.1 = some p.2 ∧
    p.2 ≤ 65535
  path_start : path = [] ∨ path.head? = some '/'
  path_end : ∀ c ∈ path.getLast?, isBlank c = false

namespace Schemeless

variable (e : Schemeless)

def portText : List Char := e.port.elim [] fun p => ':' :: p.1

def text : String := .ofList (e.before ++ (e.host ++ e.portText ++ e.path) ++ e.after)

def url : Url :=
  let (path, query, fragment) := splitTail (clean e.path)
  { secure := true, user := "", password := "", host := e.parsed
    port := (e.port.map Prod.snd).filter (· != 443)
    path := pathSegments (path.drop 1)
    query := query.map (encode isQueryUnsafe)
    fragment := fragment.map (encode isFragmentUnsafe) }

lemma host_ne_nil : e.host ≠ [] := by
  intro h
  have hp := e.parse_host
  rw [h, show Host.parse? [] = none by decide] at hp
  cases hp

lemma portText_start : e.portText = [] ∨ e.portText.head? = some ':' := by
  rw [portText]
  cases e.port with
  | none => exact Or.inl rfl
  | some p => exact Or.inr rfl

lemma plain_portText : ∀ c ∈ e.portText, isHostChar c ∨ c = ':' := by
  intro c hc
  rw [portText] at hc
  cases hp : e.port with
  | none => simp [hp] at hc
  | some p =>
    obtain ⟨-, hd, -⟩ := e.port_number p hp
    rcases List.mem_cons.mp (by simpa [hp] using hc) with rfl | hc
    · exact Or.inr rfl
    · exact Or.inl (isHostChar_of_digit (hd c hc))

lemma plain : ∀ c ∈ e.host ++ e.portText, isHostChar c ∨ c = ':' :=
  plain_of_mem e.isHostChar_host e.plain_portText

lemma port?_portText : port? e.portText = some (e.port.map Prod.snd) := by
  rw [portText]
  cases hp : e.port with
  | none => rfl
  | some p =>
    obtain ⟨hne, hd, hn, hle⟩ := e.port_number p hp
    have hall : p.1.all isAsciiDigit = true := List.all_eq_true.mpr hd
    have hlt : p.2 < 65536 := by omega
    simp [port?, hall, hne, hn, hlt]

lemma trim_text : trim e.text = .ofList (e.host ++ e.portText ++ e.path) := by
  have hne : e.host ++ e.portText ≠ [] := by simp [e.host_ne_nil]
  have hstart : trimStartChars (e.before ++ (e.host ++ e.portText ++ e.path) ++ e.after) =
      e.host ++ e.portText ++ e.path ++ e.after := by
    rw [trimStartChars, List.append_assoc e.before]
    refine (takeWhile_dropWhile_append e.isBlank_before fun c hc => ?_).2
    obtain ⟨d, rest, hd⟩ := List.exists_cons_of_ne_nil hne
    obtain rfl : d = c := by simpa [hd] using hc
    exact not_isBlank (e.plain d (hd ▸ List.mem_cons_self))
  have hend : ∀ c ∈ (e.host ++ e.portText ++ e.path).reverse.head?, isBlank c = false := by
    intro c hc
    rw [List.head?_reverse, List.getLast?_append] at hc
    cases hp : e.path.getLast? with
    | some d => exact e.path_end c (by simpa [hp] using hc)
    | none => exact not_isBlank (e.plain c (List.mem_of_getLast? (by simpa [hp] using hc)))
  rw [trim, text, String.toList_ofList, hstart, trimEndChars, List.reverse_append]
  rw [(takeWhile_dropWhile_append (by simpa using e.isBlank_after) hend).2, List.reverse_reverse]

def tail : List Char := cleanEnd e.path

lemma tail_start : e.tail = [] ∨ e.tail.head? = some '/' := cleanEnd_of_slash e.path_start

lemma clean_path : clean e.path = e.tail := by
  refine clean_eq_cleanEnd fun c hc => ?_
  rcases e.path_start with hp | hp
  · simp [hp] at hc
  · obtain rfl : '/' = c := by simpa [hp] using hc
    decide

lemma clean_append_path (front : List Char) (h : ∀ c ∈ front, 0x20 < c.toNat) :
    clean (front ++ (e.host ++ e.portText ++ e.path)) =
      front ++ (e.host ++ e.portText ++ e.tail) := by
  rw [← List.append_assoc, clean_append (by simp [e.host_ne_nil]), List.append_assoc, tail]
  intro c hc
  rcases List.mem_append.mp hc with hc | hc
  · exact h c hc
  · exact lt_of_plain (e.plain c hc)

lemma authority?_url : authority? true e.host e.portText e.tail = some e.url := by
  rw [authority?, e.parse_host, e.port?_portText, url, e.clean_path]
  rfl

lemma parse?_https :
    Url.parse? ("https://" ++ .ofList (e.host ++ e.portText ++ e.path)) = some (.web e.url) := by
  have hclean : clean ("https://" ++ String.ofList (e.host ++ e.portText ++ e.path)).toList =
      'h' :: "ttps".toList ++ ':' :: (['/', '/'] ++ (e.host ++ e.portText ++ e.tail)) := by
    have hfront : ∀ c ∈ "https://".toList, 0x20 < c.toNat := by simp
    have hlist : ("https://" ++ String.ofList (e.host ++ e.portText ++ e.path)).toList =
        "https://".toList ++ (e.host ++ e.portText ++ e.path) :=
      String.toList_append.trans (congrArg _ String.toList_ofList)
    rw [hlist, e.clean_append_path _ hfront]
    rfl
  have hweb : parseWeb true (['/', '/'] ++ (e.host ++ e.portText ++ e.tail)) =
      authority? true e.host e.portText e.tail :=
    parseWeb_append e.host_ne_nil e.isHostChar_host e.plain_portText (by simp) e.portText_start
      e.tail_start
  rw [e.authority?_url] at hweb
  have hscheme : String.ofList (('h' :: "ttps".toList).flatMap toSmall) = "https" := by
    decide +kernel
  have hchars : ∀ x ∈ 'h' :: "ttps".toList, isSchemeChar x := List.all_eq_true.mp (by decide)
  rw [parse?, hclean, splitScheme_colon hchars, if_pos (by decide), hscheme]
  simp only [bind, Option.bind, true_or, if_true, beq_self_eq_true, hweb]
  rfl

variable {e} {p : List Char × Nat}

def nameAsScheme (e : Schemeless) : String := .ofList (e.host.flatMap toSmall)

lemma address?_text : (Settings.ofEndpoint e.text).endpoint =
    (Url.parse? (.ofList (e.host ++ e.portText ++ e.path))).or (some (.web e.url)) := by
  rw [Settings.ofEndpoint, Settings.address?, e.trim_text, e.parse?_https]

lemma splitScheme_eq (e : Schemeless) :
    splitScheme (clean (e.host ++ e.portText ++ e.path)) = match e.port with
      | none => none
      | some p => if e.host.head?.any isAsciiLetter then some (e.nameAsScheme, p.1 ++ e.tail)
        else none := by
  have hc := e.clean_append_path [] (by simp)
  rw [List.nil_append, List.nil_append] at hc
  have hscheme : ∀ c ∈ e.host, isSchemeChar c := fun c h =>
    isSchemeChar_of_isHostChar (e.isHostChar_host c h)
  rw [hc]
  cases hp : e.port with
  | none =>
    rw [portText, hp, Option.elim, List.append_nil]
    exact splitScheme_none hscheme e.tail_start
  | some p =>
    obtain ⟨c, rest, hh⟩ := List.exists_cons_of_ne_nil e.host_ne_nil
    have hs : splitScheme (c :: rest ++ ':' :: (p.1 ++ e.tail)) = _ :=
      splitScheme_colon (hh ▸ hscheme)
    simpa [portText, hp, hh, nameAsScheme] using hs

lemma parse?_port (hp : e.port = some p) (hl : e.host.head?.any isAsciiLetter) :
    Url.parse? (.ofList (e.host ++ e.portText ++ e.path)) =
      if e.nameAsScheme = "https" ∨ e.nameAsScheme = "http" then
        (authority? (e.nameAsScheme == "https") p.1 [] e.tail).map .web
      else if (e.nameAsScheme = "ws" ∨ e.nameAsScheme = "wss" ∨ e.nameAsScheme = "ftp") ∧
        Host.parse? p.1 = none then none
      else some (.other e.nameAsScheme) := by
  -- digits are characters of a host, so the port is read as one
  obtain ⟨hne, hdigits, -⟩ := e.port_number p hp
  have hhost : ∀ c ∈ p.1, isHostChar c := fun c hc => isHostChar_of_digit (hdigits c hc)
  refine parse?_of_splitScheme hne hhost e.tail_start ?_
  rw [String.toList_ofList, splitScheme_eq, hp]
  exact if_pos hl

lemma url_of_web {s : Settings} {u : Url} (h : s.endpoint = some (.web u)) : s.url = .ok u := by
  rw [Settings.url, h]

lemma url_of_other {s : Settings} {scheme : String} (h : s.endpoint = some (.other scheme)) :
    s.url = .error (.foreignScheme scheme) := by
  rw [Settings.url, h]

/-- An endpoint without a scheme is a secure address if it has no port, if its host does not begin
with a letter, or if its name is a scheme of web addresses and its port cannot be a host. -/
theorem url_of_schemeless (e : Schemeless)
    (h : e.port = none ∨ e.host.head?.any isAsciiLetter = false ∨
      e.nameAsScheme ∈ ["http", "https", "ws", "wss", "ftp"] ∧
        ∀ p ∈ e.port, Host.parse? p.1 = none) :
    (Settings.ofEndpoint e.text).url = .ok e.url := by
  suffices hp : Url.parse? (.ofList (e.host ++ e.portText ++ e.path)) = none by
    apply url_of_web
    rw [address?_text, hp, Option.none_or]
  have hnone (hs : splitScheme (clean (e.host ++ e.portText ++ e.path)) = none) :
      Url.parse? (.ofList (e.host ++ e.portText ++ e.path)) = none := by
    rw [parse?, String.toList_ofList, hs]
    rfl
  cases hp : e.port with
  | none => exact hnone (by rw [splitScheme_eq, hp])
  | some p =>
    by_cases hl : e.host.head?.any isAsciiLetter
    · obtain ⟨hn, hport⟩ := (h.resolve_left (by simp [hp])).resolve_left (by simp [hl])
      rw [parse?_port hp hl, authority?, hport p hp]
      simp only [List.mem_cons, List.not_mem_nil, or_false] at hn
      rcases hn with h | h | h | h | h <;> simp [h]
    · exact hnone (by rw [splitScheme_eq, hp]; exact if_neg hl)

theorem foreignScheme_of_port (e : Schemeless) {p : List Char × Nat} (hp : e.port = some p)
    (hl : e.host.head?.any isAsciiLetter) (hw : e.nameAsScheme ∉ ["http", "https"])
    (ho : e.nameAsScheme ∈ ["ws", "wss", "ftp"] → (Host.parse? p.1).isSome) :
    (Settings.ofEndpoint e.text).url = .error (.foreignScheme e.nameAsScheme) := by
  simp only [List.mem_cons, List.not_mem_nil, or_false, not_or] at hw ho
  have hno : ¬ ((e.nameAsScheme = "ws" ∨ e.nameAsScheme = "wss" ∨ e.nameAsScheme = "ftp") ∧
      Host.parse? p.1 = none) := fun ⟨hn, hnone⟩ => by
    have hsome := ho hn
    simp [hnone] at hsome
  apply url_of_other
  rw [address?_text, parse?_port hp hl, if_neg (by simp [hw]), if_neg hno]
  rfl

theorem url_of_web_port (e : Schemeless) {p : List Char × Nat} (hp : e.port = some p)
    (hl : e.host.head?.any isAsciiLetter) (hw : e.nameAsScheme ∈ ["https", "http"]) {h : Host}
    (hh : Host.parse? p.1 = some h) : (Settings.ofEndpoint e.text).url =
      .ok { e.url with secure := e.nameAsScheme == "https", host := h, port := none } := by
  have hauth : authority? (e.nameAsScheme == "https") p.1 [] e.tail =
      some { e.url with secure := e.nameAsScheme == "https", host := h, port := none } := by
    rw [authority?, hh, url, e.clean_path]
    rfl
  apply url_of_web
  rw [address?_text, parse?_port hp hl, if_pos (by simpa using hw), hauth]
  rfl

end Schemeless

def localEndpoint : Schemeless where
  before := []
  host := "localhost".toList
  port := some ("8080".toList, 8080)
  path := "/graphql".toList
  after := []
  parsed := .domain "localhost"
  isBlank_before := by simp
  isBlank_after := by simp
  isHostChar_host := List.all_eq_true.mp (by decide)
  parse_host := by decide +kernel
  port_number := by
    rintro p hp
    obtain rfl := Option.some.inj hp
    exact ⟨by decide, List.all_eq_true.mp (by decide), by decide, by decide⟩
  path_start := by decide
  path_end := by
    rintro c hc
    obtain rfl : 'l' = c := by simpa using hc
    decide

theorem local_not_reached : localEndpoint.text = "localhost:8080/graphql" ∧
    localEndpoint.url.text = "https://localhost:8080/graphql" ∧
    (Settings.ofEndpoint "localhost:8080/graphql").url = .error (.foreignScheme "localhost") := by
  have hname : localEndpoint.nameAsScheme = "localhost" := by decide +kernel
  refine ⟨by decide +kernel, by decide +kernel, ?_⟩
  exact hname ▸ localEndpoint.foreignScheme_of_port rfl (by decide) (by decide) (by decide)

end GraphqlBindings.Client

import Mathlib.Tactic.Lemma
import GraphqlBindings.Client.Basic
import GraphqlBindings.Proofs.Keyed
import GraphqlBindings.Proofs.Lists

namespace GraphqlBindings.Client

variable {α : Type}

def received (decode : Decoder α) : Option Http.Reply → Except Fault (Response α)
  | some reply => readReply decode reply
  | none => .error .noReply

def SendsOne (c : Client) {β : Type} (call : (m : Type → Type) → [Monad m] → Sender m → m β) :
    Prop :=
  ∃ body read, ∀ (m : Type → Type) [Monad m] [LawfulMonad m] (send : Sender m),
    call m send = read <$> send (c.request body)

section

variable {m : Type → Type} [Monad m] [LawfulMonad m] (send : Sender m) (c : Client)
  (decode : Decoder α)

lemma execute_eq (q : Query) :
    c.execute send decode q = received decode <$> send (c.request q.body) := by
  rw [execute, ← bind_pure_comp]
  apply bind_congr
  intro reply
  cases reply <;> rfl

lemma executeOperation_eq (name document : String) (vars : Json) :
    c.executeOperation send decode name document vars =
      (fun reply => (received decode reply).bind data) <$>
        send (c.request (Query.body ⟨document, some name, vars⟩)) := by
  rw [executeOperation, execute_eq, bind_pure_comp, Functor.map_map]

lemma introspect_eq : c.introspect send =
    (fun reply => ((received value reply).bind data).bind schemaOf) <$>
      send (c.request (Query.body ⟨Introspection.document, some Introspection.operationName,
        .object []⟩)) := by
  rw [introspect, executeOperation_eq, bind_pure_comp, Functor.map_map]

end

variable (c : Client) (decode : Decoder α)

lemma execute_sendsOne (q : Query) : c.SendsOne fun _ _ send => c.execute send decode q :=
  ⟨_, _, fun _ _ _ send => execute_eq send c decode q⟩

lemma executeOperation_sendsOne (name document : String) (vars : Json) :
    c.SendsOne fun _ _ send => c.executeOperation send decode name document vars :=
  ⟨_, _, fun _ _ _ send => executeOperation_eq send c decode name document vars⟩

lemma introspect_sendsOne : c.SendsOne fun _ _ send => c.introspect send :=
  ⟨_, _, fun _ _ _ send => introspect_eq send c⟩

end GraphqlBindings.Client

namespace GraphqlBindings

namespace Http

def lowerName (name : String) : String := .ofList (name.toList.map Char.toLower)

lemma eq_lowerName {name lower : String} (h : headerName? name = some lower) :
    lower = lowerName name := by
  rw [headerName?] at h
  split at h
  · cases h
  · exact (Option.some.inj h).symm

lemma lookup_fill {headers defaults : Headers} {name : String} :
    (headers.fill defaults).lookup name = (headers.lookup name).or (defaults.lookup name) := by
  rw [Headers.fill]
  induction defaults generalizing headers with
  | nil => simp
  | cons entry rest ih =>
    obtain ⟨key, value⟩ := entry
    rw [List.foldl_cons, ih, lookup_cons_ite]
    dsimp only
    split
    · next hk =>
      by_cases hn : name = key
      · subst hn
        obtain ⟨v, hv⟩ := Option.isSome_iff_exists.mp hk
        simp [hv]
      · simp [hn]
    · next hk =>
      rw [Keyed.lookup_put]
      by_cases hn : name = key
      · subst hn
        simp [Option.not_isSome_iff_eq_none.mp hk]
      · simp [hn]

end Http

open Http (lowerName)

namespace Client

variable {s s' : Settings} {headers : List (String × String)} {header : String × String}
  {name endpoint : String} {url : Url}

namespace Settings

def lastValue (headers : List (String × String)) (name : String) : Option String :=
  (headers.reverse.find? fun header => lowerName header.1 == lowerName name).map (·.2)

lemma lastValue_cons : lastValue (header :: headers) name =
    (lastValue headers name).or
      (if lowerName name = lowerName header.1 then some header.2 else none) := by
  rw [lastValue, lastValue, List.reverse_cons, List.find?_append]
  by_cases h : lowerName name = lowerName header.1
  · cases headers.reverse.find? fun header => lowerName header.1 == lowerName name <;> simp [h]
  · have hb : (lowerName header.1 == lowerName name) = false := beq_eq_false_iff_ne.mpr (Ne.symm h)
    simp [h, hb]

lemma eq_of_addHeader (h : s.addHeader header = .ok s') :
    s' = { s with headers := Keyed.put (lowerName header.1) header.2 s.headers } := by
  rw [addHeader] at h
  split at h
  · cases h
  · next lower hl =>
    split at h
    · rw [← Http.eq_lowerName hl]
      exact (Except.ok.inj h).symm
    · cases h

lemma lookup_withHeaders (h : s.withHeaders headers = .ok s') :
    s' = { s with headers := s'.headers } ∧ ∀ name, s'.headers.lookup (lowerName name) =
      (lastValue headers name).or (s.headers.lookup (lowerName name)) := by
  induction headers generalizing s with
  | nil =>
    obtain rfl := Except.ok.inj h
    exact ⟨rfl, fun _ => rfl⟩
  | cons header rest ih =>
    rw [withHeaders, List.foldlM_cons] at h
    obtain ⟨t, ht, h⟩ := bind_eq_ok.mp h
    obtain ⟨hs, hl⟩ := ih h
    obtain rfl := eq_of_addHeader ht
    refine ⟨hs, fun name => ?_⟩
    rw [hl, lastValue_cons, Option.or_assoc, Keyed.lookup_put]
    by_cases hn : lowerName name = lowerName header.1 <;> simp [hn]

end Settings

lemma lookup_request {c : Client} {body : String} :
    (c.request body).headers.lookup name = ((ownHeaders c.url).lookup name).or
      (if name = "user-agent" then some c.settings.userAgent
        else c.settings.headers.lookup name) := by
  rw [request, Http.lookup_fill, Settings.defaultHeaders, Keyed.lookup_put]

lemma lookup_ownHeaders (hc : name ≠ "content-type")
    (ha : name = "authorization" → authorization? url = none) :
    (ownHeaders url).lookup name = none := by
  rw [ownHeaders]
  by_cases hn : name = "authorization"
  · simp [ha hn, List.lookup_cons, beq_eq_false_iff_ne.mpr hc]
  · cases authorization? url <;>
      simp [List.lookup_cons, beq_eq_false_iff_ne.mpr hc, beq_eq_false_iff_ne.mpr hn]

/-- Each call of a client sends one request. It has the last value given for each name, but for the
names that are set otherwise: always the type of its content and the user agent, and the
authorization if the endpoint has a user. -/
theorem headers_sent (hs : (Settings.ofEndpoint endpoint).withHeaders headers = .ok s)
    (hu : s.url = .ok url) : ∃ c, ofSettings s = .ok c ∧ c.url = url ∧
      ((∀ (α : Type) (decode : Decoder α) q, c.SendsOne fun _ _ send => c.execute send decode q) ∧
        (∀ (α : Type) (decode : Decoder α) name document vars,
          c.SendsOne fun _ _ send => c.executeOperation send decode name document vars) ∧
        c.SendsOne fun _ _ send => c.introspect send) ∧
      ∀ body,
        (∀ name, lowerName name ≠ "content-type" → lowerName name ≠ "user-agent" →
          (lowerName name = "authorization" → authorization? url = none) →
          (c.request body).headers.lookup (lowerName name) = Settings.lastValue headers name) ∧
        (c.request body).headers.lookup "content-type" = some "application/json" ∧
        (c.request body).headers.lookup "user-agent" = some Settings.defaultUserAgent := by
  obtain ⟨hsettings, hlast⟩ := Settings.lookup_withHeaders hs
  have hagent : s.userAgent = Settings.defaultUserAgent := by rw [hsettings]; rfl
  have hvalid : Http.isHeaderValue s.userAgent = true := by rw [hagent]; decide +kernel
  refine ⟨⟨s, url⟩, by simp [ofSettings, hu, hvalid, bind, Except.bind, pure, Except.pure], rfl,
    ⟨fun _ decode q => execute_sendsOne _ decode q,
      fun _ decode name document vars => executeOperation_sendsOne _ decode name document vars,
      introspect_sendsOne _⟩, fun body => ⟨fun name hc ha hauth => ?_, ?_, ?_⟩⟩
  · rw [lookup_request, lookup_ownHeaders hc hauth, if_neg ha, Option.none_or, hlast]
    exact Option.or_none
  · rw [lookup_request, ownHeaders]
    cases authorization? url <;> simp [List.lookup_cons]
  · rw [lookup_request, lookup_ownHeaders (by decide) (by simp), if_pos rfl, hagent]
    rfl

theorem user_agent_not_sent : ∃ c : Client, (do
      let settings ← (Settings.ofEndpoint "http://127.0.0.1/graphql").withHeaders
        [("User-Agent", "probe/1")]
      ofSettings settings) = .ok c ∧
    Settings.lastValue [("User-Agent", "probe/1")] "user-agent" = some "probe/1" ∧
    ∀ body, (c.request body).headers.lookup "user-agent" = some "gqlclientgen/0.1.0 (Rust)" := by
  have hs : ∃ s url, (Settings.ofEndpoint "http://127.0.0.1/graphql").withHeaders
      [("User-Agent", "probe/1")] = .ok s ∧ s.url = .ok url := by
    refine ⟨_, ⟨false, "", "", .ipv4 0x7f000001, none, ["graphql"], none, none⟩, rfl, ?_⟩
    decide +kernel
  obtain ⟨s, url, hs, hu⟩ := hs
  obtain ⟨c, hc, -, -, hsent⟩ := headers_sent hs hu
  refine ⟨c, by rw [hs]; exact hc, by decide +kernel, fun body => (hsent body).2.2⟩

end Client

end GraphqlBindings

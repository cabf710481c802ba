import Mathlib.Tactic.Lemma
import Mathlib.Data.List.Forall2
import GraphqlBindings.Proofs.Client.Headers
import GraphqlBindings.Proofs.Lists

/-! Errors that a reply reports. Each call fails with all of them, in their order, unless one of
them has no places or no path and says so: then a reply with success is taken for unreadable, and
any other one for one without errors. -/

namespace GraphqlBindings.Client

open Json (Written)

def IsObject (w : Written) (members : List (String × Written)) : Prop :=
  w = .object (members.map fun m => (some m.1, m.2)) ∧ (members.map Prod.fst).Nodup

def Optionally (form : Written → Prop) (slot : Option Written) : Prop :=
  ∀ v, slot = some v → v = .null ∨ form v

def Fits (depth : Nat) (w : Written) : Prop := (w.value? depth).isSome

def IsInteger (w : Written) : Prop :=
  ∃ literal n, w = .number literal ∧ literal.value? = some (.integer n) ∧
    -signedLimit ≤ n ∧ n < signedLimit

def IsPlaced (w : Written) : Prop :=
  (∃ members line column, IsObject w members ∧ members.lookup "line" = some line ∧
      members.lookup "column" = some column ∧ IsInteger line ∧ IsInteger column) ∨
    ∃ line column, w = .array [line, column] ∧ IsInteger line ∧ IsInteger column

def errorDepth : Nat := Json.depthLimit - 3

def Reports (w : Written) (message : String) : Prop :=
  ∃ members, IsObject w members ∧ members.lookup "message" = some (.string (some message)) ∧
    Optionally (fun v => ∃ items, v = .array items ∧ ∀ item ∈ items, IsPlaced item)
      (members.lookup "locations") ∧
    Optionally (fun v => ∃ items, v = .array items ∧ Fits errorDepth v) (members.lookup "path") ∧
    Optionally (Fits errorDepth) (members.lookup "extensions")

def HasNullList (w : Written) : Prop :=
  ∃ members, IsObject w members ∧
    (members.lookup "locations" = some .null ∨ members.lookup "path" = some .null)

def IsReply (w : Written) (entries : List Written) (data : Option Written) : Prop :=
  ∃ members, IsObject w members ∧ members.lookup "errors" = some (.array entries) ∧
    members.lookup "data" = data

def Decodes {α : Type} (decode : Decoder α) (status : Nat) (data : Option Written) : Prop :=
  if Http.isSuccess status then Optionally (fun v => (decode (Json.depthLimit - 1) v).isSome) data
  else Optionally (Fits (Json.depthLimit - 1)) data

section Decoding

variable {α : Type} {w : Written} {members : List (String × Written)} {name message : String}
  {depth : Nat} {decode : Decoder α}

lemma exists_fields (names : List String) (h : IsObject w members) :
    ∃ fields, fields? names w = some fields ∧
      ∀ name ∈ names, fields.lookup name = members.lookup name := by
  obtain ⟨rfl, hd⟩ := h
  have hm : (members.map fun m => (some m.1, m.2)).mapM (fun (m : Option String × Written) =>
      m.1.map fun key => (key, m.2)) = some members := by
    rw [mapM_eq_some_iff, List.forall₂_map_left_iff]
    exact List.forall₂_same.mpr fun m _ => rfl
  have hk : ((members.filter fun m => names.contains m.1).map Prod.fst).Nodup :=
    hd.sublist (List.filter_sublist.map _)
  refine ⟨_, ?_, fun name hn => lookup_filter_contains hn⟩
  rw [fields?, hm]
  exact if_pos hk

lemma fieldOr_eq {default : α} {fields : List (String × Written)} :
    fieldOr default decode depth name fields =
      (fields.lookup name).elim (some default) (decode depth) := by
  rw [fieldOr]
  cases fields.lookup name <;> rfl

lemma listOf_eq_some {items : List Written} {xs : List α} :
    listOf decode (depth + 1) (.array items) = some xs ↔
      List.Forall₂ (fun item x => decode depth item = some x) items xs :=
  mapM_eq_some_iff

lemma exists_listOf {items : List Written} (h : ∀ item ∈ items, ∃ x, decode depth item = some x) :
    ∃ xs, listOf decode (depth + 1) (.array items) = some xs := by
  obtain ⟨xs, hx, -⟩ := exists_forall₂ (S := fun _ _ => True) fun item hi =>
    (h item hi).imp fun _ hx => ⟨hx, trivial⟩
  exact ⟨xs, listOf_eq_some.mpr hx⟩

lemma exists_optional {slot : Option Written} {form : Written → Prop} (h : Optionally form slot)
    (hf : ∀ v, form v → ∃ a, decode depth v = some a) :
    ∃ a, slot.elim (some none) (optional decode depth) = some a := by
  cases slot with
  | none => exact ⟨none, rfl⟩
  | some v =>
    rcases h v rfl with rfl | hv
    · exact ⟨none, rfl⟩
    · obtain ⟨a, ha⟩ := hf v hv
      cases v with
      | null => exact ⟨none, rfl⟩
      | _ => exact ⟨some a, by simp [optional, ha]⟩

lemma exists_elim {slot : Option Written} {form : Written → Prop} {default : α}
    (h : Optionally form slot) (hn : slot ≠ some .null)
    (hf : ∀ v, form v → ∃ a, decode depth v = some a) :
    ∃ a, slot.elim (some default) (decode depth) = some a := by
  cases slot with
  | none => exact ⟨default, rfl⟩
  | some v =>
    apply hf v
    apply (h v rfl).resolve_left
    rintro rfl
    exact hn rfl

lemma exists_signed (depth : Nat) (h : IsInteger w) : ∃ n, signed depth w = some n := by
  obtain ⟨literal, n, rfl, hn, hb⟩ := h
  exact ⟨n, by simp [signed, hn, hb]⟩

lemma exists_location (h : IsPlaced w) : ∃ l, location (depth + 1) w = some l := by
  rcases h with ⟨members, line, column, hw, hl, hc, il, ic⟩ | ⟨line, column, rfl, il, ic⟩
  all_goals
    obtain ⟨n, hn⟩ := exists_signed depth il
    obtain ⟨k, hk⟩ := exists_signed depth ic
    refine ⟨⟨n, k⟩, ?_⟩
  · obtain ⟨fields, hf, hs⟩ := exists_fields ["line", "column"] hw
    simp [location, nested, hf, hs, hl, hc, hn, hk]
  · simp [location, nested, fields?, List.lookup_cons, hn, hk]

lemma responseError_object (h : IsObject w members) : responseError (depth + 1) w =
    (members.lookup "message").bind fun v => (text depth v).bind fun message =>
      ((members.lookup "locations").elim (some []) (listOf location depth)).bind fun locations =>
      ((members.lookup "path").elim (some []) (listOf value depth)).bind fun path =>
      ((members.lookup "extensions").elim (some none) (optional value depth)).bind fun extensions =>
        some ⟨message, locations, path, extensions⟩ := by
  obtain ⟨fields, hf, hs⟩ := exists_fields ["message", "locations", "path", "extensions"] h
  simp [responseError, nested, hf, hs, fieldOr_eq]

lemma response_object (h : IsObject w members) : response decode (depth + 1) w =
    ((members.lookup "data").elim (some none) (optional decode depth)).bind fun data =>
      ((members.lookup "errors").elim (some []) (listOf responseError depth)).bind fun errors =>
        some ⟨data, errors⟩ := by
  obtain ⟨fields, hf, hs⟩ := exists_fields ["data", "errors"] h
  have hno : isArray w = false := by rw [h.1]; rfl
  simp [response, nested, hf, hs, hno, fieldOr_eq]

lemma listOf_null : listOf decode depth .null = none := by
  cases depth <;> rfl

lemma responseError_of_hasNullList (h : HasNullList w) : responseError (depth + 1) w = none := by
  obtain ⟨members, hw, hl | hp⟩ := h
  -- a missing list is empty, but null is none
  · simp [responseError_object hw, hl, listOf_null]
  · simp [responseError_object hw, hp, listOf_null]

end Decoding

section Replies

variable {w : Written} {entries : List Written} {messages : List String} {data : Option Written}
  {reply : Http.Reply} {α : Type} {decode : Decoder α}

lemma valuesOf?_eq (depth : Nat) (items : List Written) :
    Json.valuesOf? depth items = items.mapM (value depth) := by
  induction items with
  | nil => rfl
  | cons item rest ih => rw [Json.valuesOf?, List.mapM_cons, ih]; rfl

lemma exists_responseError {message : String} (h : Reports w message) (hn : ¬ HasNullList w) :
    ∃ e, responseError (errorDepth + 1) w = some e ∧ e.message = message := by
  obtain ⟨members, hw, hm, hl, hp, hx⟩ := h
  have hlocations : ∃ ls, (members.lookup "locations").elim (some [])
      (listOf location errorDepth) = some ls := by
    refine exists_elim hl (fun hv => hn ⟨members, hw, Or.inl hv⟩) ?_
    rintro v ⟨items, rfl, hi⟩
    exact exists_listOf fun item hm => exists_location (hi item hm)
  have hpath : ∃ ps, (members.lookup "path").elim (some [])
      (listOf value errorDepth) = some ps := by
    refine exists_elim hp (fun hv => hn ⟨members, hw, Or.inr hv⟩) ?_
    rintro v ⟨items, rfl, hf⟩
    obtain ⟨j, hj⟩ := Option.isSome_iff_exists.mp hf
    obtain ⟨ps, hps, -⟩ := Option.map_eq_some_iff.mp hj
    exact ⟨ps, by rw [← hps, valuesOf?_eq]; rfl⟩
  have hextensions : ∃ x, (members.lookup "extensions").elim (some none)
      (optional value errorDepth) = some x :=
    exists_optional hx fun v hv => Option.isSome_iff_exists.mp hv
  obtain ⟨ls, hls⟩ := hlocations
  obtain ⟨ps, hps⟩ := hpath
  obtain ⟨x, hx⟩ := hextensions
  refine ⟨⟨message, ls, ps, x⟩, ?_, rfl⟩
  simp [responseError_object hw, hm, hls, hps, hx, text]

lemma exists_errors (h : List.Forall₂ Reports entries messages)
    (hn : ∀ e ∈ entries, ¬ HasNullList e) :
    ∃ errors, listOf responseError (errorDepth + 2) (.array entries) = some errors ∧
      errors.map (·.message) = messages := by
  simp only [listOf_eq_some]
  induction h with
  | nil => exact ⟨[], .nil, rfl⟩
  | cons hr _ ih =>
    rw [List.forall_mem_cons] at hn
    obtain ⟨e, he, hm⟩ := exists_responseError hr hn.1
    obtain ⟨es, hes, hms⟩ := ih hn.2
    exact ⟨e :: es, .cons he hes, by rw [List.map_cons, hm, hms]⟩

lemma errors_eq_none (h : ∃ e ∈ entries, HasNullList e) :
    listOf responseError (errorDepth + 2) (.array entries) = none := by
  obtain ⟨e, he, hn⟩ := h
  cases hl : listOf responseError (errorDepth + 2) (.array entries) with
  | none => rfl
  | some xs =>
    obtain ⟨x, -, hx⟩ := exists_mem_of_forall₂ (listOf_eq_some.mp hl).flip he
    simp [responseError_of_hasNullList hn] at hx

lemma ofText?_eq (hw : Written.ofText? reply.body = some w) (hr : IsReply w entries data) :
    Response.ofText? decode reply.body =
      (data.elim (some none) (optional decode (errorDepth + 2))).bind fun d =>
        (listOf responseError (errorDepth + 2) (.array entries)).bind fun errors =>
          some ⟨d, errors⟩ := by
  obtain ⟨members, ho, he, rfl⟩ := hr
  rw [Response.ofText?, hw, Option.bind_some]
  change response decode (errorDepth + 2 + 1) w = _
  rw [response_object ho, he]
  rfl

lemma exists_data (h : Decodes decode reply.status data)
    (hs : Http.isSuccess reply.status = true) :
    ∃ d, data.elim (some none) (optional decode (errorDepth + 2)) = some d := by
  rw [Decodes, if_pos hs] at h
  exact exists_optional h fun v hv => Option.isSome_iff_exists.mp hv

lemma exists_value (h : Decodes decode reply.status data)
    (hs : Http.isSuccess reply.status = false) :
    ∃ d, data.elim (some none) (optional value (errorDepth + 2)) = some d := by
  rw [Decodes, if_neg (by simp [hs])] at h
  exact exists_optional h fun v hv => Option.isSome_iff_exists.mp hv

theorem readReply_rejected (hw : Written.ofText? reply.body = some w) (hr : IsReply w entries data)
    (hd : Decodes decode reply.status data) {errors : List ResponseError} (hne : errors ≠ [])
    (he : listOf responseError (errorDepth + 2) (.array entries) = some errors) :
    readReply decode reply = .error (.rejected ⟨reply.status, errors, reply.body⟩) := by
  rw [readReply]
  cases hs : Http.isSuccess reply.status with
  | true =>
    obtain ⟨d, hd⟩ := exists_data hd hs
    simp [ofText?_eq hw hr, hd, he, Response.hasErrors, hne]
  | false =>
    obtain ⟨d, hd⟩ := exists_value hd hs
    simp [ofText?_eq hw hr, hd, he]

theorem readReply_lost (hw : Written.ofText? reply.body = some w) (hr : IsReply w entries data)
    (hn : ∃ e ∈ entries, HasNullList e) : readReply decode reply =
      if Http.isSuccess reply.status then .error .unreadable
      else .error (.rejected ⟨reply.status, [], reply.body⟩) := by
  have hnone {β : Type} {decode : Decoder β} : Response.ofText? decode reply.body = none := by
    simp [ofText?_eq hw hr, errors_eq_none hn]
  rw [readReply, hnone, hnone]
  rfl

end Replies

section Calls

variable {w : Written} {entries : List Written} {messages : List String} {data : Option Written}
  {reply : Http.Reply}

def FailsWith (reply : Http.Reply) (data : Option Written) (fault : Fault) : Prop :=
  ∀ {m : Type → Type} [Monad m] [LawfulMonad m] (send : Sender m) (c : Client),
    (∀ request, send request = pure (some reply)) →
    (∀ (α : Type) (decode : Decoder α), Decodes decode reply.status data →
      (∀ q, c.execute send decode q = pure (.error fault)) ∧
      ∀ name document vars,
        c.executeOperation send decode name document vars = pure (.error fault)) ∧
    (Decodes value reply.status data → c.introspect send = pure (.error fault))

lemma failsWith {fault : Fault}
    (h : ∀ {α : Type} {decode : Decoder α}, Decodes decode reply.status data →
      readReply decode reply = .error fault) : FailsWith reply data fault := by
  intro m _ _ send c hsend
  refine ⟨fun α decode hd => ⟨fun q => ?_, fun name document vars => ?_⟩, fun hd => ?_⟩
  · rw [execute_eq, hsend, map_pure, received, h hd]
  · rw [executeOperation_eq, hsend, map_pure, received, h hd]
    rfl
  · rw [introspect_eq, hsend, map_pure, received, h hd]
    rfl

/-- Whatever its status, a reply that reports errors makes each call fail with them, one for each
entry and with the messages in their order, if no entry has places or a path that are null. -/
theorem errors_returned (hw : Written.ofText? reply.body = some w) (hr : IsReply w entries data)
    (hne : entries ≠ []) (hm : List.Forall₂ Reports entries messages)
    (hn : ∀ e ∈ entries, ¬ HasNullList e) :
    ∃ errors, errors.map (·.message) = messages ∧
      FailsWith reply data (.rejected ⟨reply.status, errors, reply.body⟩) := by
  obtain ⟨errors, he, hmessages⟩ := exists_errors hm hn
  have hnil : errors ≠ [] := by
    rintro rfl
    obtain rfl : messages = [] := hmessages.symm
    exact hne (List.forall₂_nil_right_iff.mp hm)
  exact ⟨errors, hmessages, failsWith fun hd => readReply_rejected hw hr hd hnil he⟩

theorem errors_lost (hw : Written.ofText? reply.body = some w) (hr : IsReply w entries data)
    (hn : ∃ e ∈ entries, HasNullList e) : FailsWith reply data
      (if Http.isSuccess reply.status then .unreadable
        else .rejected ⟨reply.status, [], reply.body⟩) := by
  refine failsWith fun _ => ?_
  rw [readReply_lost hw hr hn]
  split <;> rfl

def boomBody : String :=
  "\x7b\"data\":null,\"errors\":[\x7b\"message\":\"boom\",\"locations\":null\x7d]\x7d"

def boomEntry : Written :=
  .object [(some "message", .string (some "boom")), (some "locations", .null)]

theorem boom_lost : Reports boomEntry "boom" ∧
    (∃ w, Written.ofText? boomBody = some w ∧ IsReply w [boomEntry] (some .null)) ∧
    FailsWith ⟨200, boomBody⟩ (some .null) .unreadable ∧
    FailsWith ⟨502, boomBody⟩ (some .null) (.rejected ⟨502, [], boomBody⟩) := by
  have he : IsObject boomEntry [("message", .string (some "boom")), ("locations", .null)] :=
    ⟨rfl, by decide⟩
  have hreports : Reports boomEntry "boom" := by
    refine ⟨_, he, rfl, fun v hv => Or.inl (Option.some.inj hv).symm, ?_, ?_⟩
    · exact fun v hv => nomatch hv
    · exact fun v hv => nomatch hv
  have hw : Written.ofText? boomBody =
    some (.object [(some "data", .null), (some "errors", .array [boomEntry])]) := by cbv
  have hr : IsReply (.object [(some "data", .null), (some "errors", .array [boomEntry])])
      [boomEntry] (some .null) :=
    ⟨[("data", .null), ("errors", .array [boomEntry])], ⟨rfl, by decide⟩, rfl, rfl⟩
  have hn : ∃ e ∈ [boomEntry], HasNullList e :=
    ⟨boomEntry, List.mem_singleton_self _, _, he, Or.inl rfl⟩
  exact ⟨hreports, ⟨_, hw, hr⟩, @errors_lost _ _ _ ⟨200, boomBody⟩ hw hr hn,
    @errors_lost _ _ _ ⟨502, boomBody⟩ hw hr hn⟩

end Calls

end GraphqlBindings.Client

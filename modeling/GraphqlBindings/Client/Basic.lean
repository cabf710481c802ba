import GraphqlBindings.Client.Settings
import GraphqlBindings.Client.Response
import GraphqlBindings.Json.Writer
import GraphqlBindings.Schema.Introspection
import GraphqlBindings.Schema.Query

namespace GraphqlBindings.Text

def base64Alphabet : List Char :=
  "ABCDEFGHIJKLMNOPQRSTUVWXYZabcdefghijklmnopqrstuvwxyz0123456789+/".toList

def base64Char (n : Nat) : Char := base64Alphabet.getD (n % 64) '='

def base64Chars : List UInt8 → List Char
  | a :: b :: c :: rest =>
    let n := (a.toNat * 256 + b.toNat) * 256 + c.toNat
    base64Char (n / 0x40000) :: base64Char (n / 0x1000) :: base64Char (n / 0x40) ::
      base64Char n :: base64Chars rest
  | [a, b] =>
    let n := (a.toNat * 256 + b.toNat) * 256
    [base64Char (n / 0x40000), base64Char (n / 0x1000), base64Char (n / 0x40), '=']
  | [a] =>
    let n := a.toNat * 256 * 256
    [base64Char (n / 0x40000), base64Char (n / 0x1000), '=', '=']
  | [] => []

def base64 (bytes : List UInt8) : String := .ofList (base64Chars bytes)

end GraphqlBindings.Text

namespace GraphqlBindings

structure Client.Rejection where
  status : Nat
  errors : List Client.ResponseError
  body : String
deriving Repr, Inhabited

namespace Client

def Rejection.reason (r : Rejection) : String :=
  if Http.isSuccess r.status then ((r.errors.head?).map (·.message)).getD "graphql error"
  else "graphql http error: " ++ Http.statusText r.status

def Rejection.isUnauthorized (r : Rejection) : Bool := r.status == 401 || r.status == 403

inductive Fault where
  | settings (fault : SettingsFault)
  | noReply
  | unreadable
  | rejected (rejection : Rejection)
  | noData
  | noSchema (fault : Introspection.Fault)
deriving Repr, Inhabited

end Client

def Introspection.Fault.message : Introspection.Fault → String
  | .noSchema => "schema load error: introspection payload has no __schema"
  | .shape => "json error: not an introspection result"
  | .noInner kind => s!"json error: {kind} type reference without ofType"
  | .noName kind => s!"json error: {kind} type reference without name"

def Client.Fault.message : Client.Fault → String
  | .settings fault => fault.message
  | .noReply => "http error: no reply"
  | .unreadable => "json error: not a response"
  | .rejected r => "graphql error: " ++ r.reason
  | .noData => "graphql response has no data"
  | .noSchema fault => fault.message

structure Client where
  settings : Client.Settings
  url : Url
deriving DecidableEq, Repr, Inhabited

namespace Client

def ofSettings (settings : Settings) : Except SettingsFault Client := do
  let url ← settings.url
  if Http.isHeaderValue settings.userAgent then return ⟨settings, url⟩ else .error .userAgent

structure Query where
  document : String
  operationName : Option String
  vars : Json
deriving Repr, Inhabited

def Query.body (q : Query) : String :=
  (Json.object ([("query", .string q.document)] ++
    (q.operationName.map fun name => ("operationName", Json.string name)).toList ++
    [("variables", q.vars)])).compact

def Settings.defaultHeaders (s : Settings) : Http.Headers :=
  Keyed.put "user-agent" s.userAgent s.headers

def decodedText? (encoded : String) : Option String :=
  String.fromUTF8? ⟨(Url.decodeBytes encoded.toList).toArray⟩

def authorization? (url : Url) : Option String := do
  let user ← decodedText? url.user
  let password := if url.password.isEmpty then none else decodedText? url.password
  if user.isEmpty ∧ password.isNone then none
  else some ("Basic " ++ Text.base64 (user ++ ":" ++ password.getD "").toUTF8.toList)

def ownHeaders (url : Url) : Http.Headers :=
  ((authorization? url).map fun value => ("authorization", value)).toList ++
    [("content-type", "application/json")]

def request (c : Client) (body : String) : Http.Request where
  url := { c.url with user := "", password := "" }
  headers := (ownHeaders c.url).fill c.settings.defaultHeaders
  body := body

def readReply {α : Type} (decode : Decoder α) (reply : Http.Reply) :
    Except Fault (Response α) :=
  if Http.isSuccess reply.status then
    match Response.ofText? decode reply.body with
    | none => .error .unreadable
    | some r =>
      if r.hasErrors then .error (.rejected ⟨reply.status, r.errors, reply.body⟩) else .ok r
  else
    let errors := ((Response.ofText? value reply.body).map (·.errors)).getD []
    .error (.rejected ⟨reply.status, errors, reply.body⟩)

section Calls

variable {m : Type → Type} [Monad m] {α : Type}

abbrev Sender (m : Type → Type) := Http.Request → m (Option Http.Reply)

def execute (send : Sender m) (c : Client) (decode : Decoder α) (q : Query) :
    m (Except Fault (Response α)) := do
  match ← send (c.request q.body) with
  | some reply => return readReply decode reply
  | none => return .error .noReply

def data (r : Response α) : Except Fault α :=
  match r.data with
  | some data => .ok data
  | none => .error .noData

def executeOperation (send : Sender m) (c : Client) (decode : Decoder α) (name document : String)
    (vars : Json) : m (Except Fault α) := do
  let result ← c.execute send decode ⟨document, some name, vars⟩
  return result.bind data

def schemaOf (data : Json) : Except Fault (Schema × Json) :=
  match Introspection.decode data with
  | .ok schema => .ok (schema, data)
  | .error fault => .error (.noSchema fault)

def introspect (send : Sender m) (c : Client) : m (Except Fault (Schema × Json)) := do
  let result ← c.executeOperation send value Introspection.operationName Introspection.document
    (.object [])
  return result.bind schemaOf

end Calls

end Client

end GraphqlBindings

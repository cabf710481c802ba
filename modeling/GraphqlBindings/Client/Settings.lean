import GraphqlBindings.Http.Exchange
import GraphqlBindings.Text.Lines

namespace GraphqlBindings.Client

inductive SettingsFault where
  | headerName (name : String)
  | headerValue (name : String)
  | noEndpoint (endpoint : String)
  | foreignScheme (scheme : String)
  | userAgent
deriving DecidableEq, Repr, Inhabited

def SettingsFault.message : SettingsFault → String
  | .headerName name => s!"config error: invalid header name {name}: invalid HTTP header name"
  | .headerValue name =>
    s!"config error: invalid value for header {name}: failed to parse header value"
  | .noEndpoint endpoint => s!"config error: invalid endpoint: {endpoint}"
  | .foreignScheme scheme => s!"config error: endpoint scheme {scheme} is not http or https"
  | .userAgent => "http error: builder error"

structure Settings where
  written : String
  endpoint : Option Url.Address
  timeout : Nat
  userAgent : String
  verifiesTls : Bool
  headers : Http.Headers
deriving DecidableEq, Repr, Inhabited

namespace Settings

def defaultTimeout : Nat := 30000

def defaultUserAgent : String := "gqlclientgen/0.1.0 (Rust)"

def address? (written : String) : Option Url.Address :=
  (Url.parse? written).or (Url.parse? ("https://" ++ written))

def ofEndpoint (endpoint : String) : Settings where
  written := Text.trim endpoint
  endpoint := address? (Text.trim endpoint)
  timeout := defaultTimeout
  userAgent := defaultUserAgent
  verifiesTls := true
  headers := []

def addHeader (s : Settings) (header : String × String) : Except SettingsFault Settings :=
  match Http.headerName? header.1 with
  | none => .error (.headerName header.1)
  | some name =>
    if Http.isHeaderValue header.2 then .ok { s with headers := Keyed.put name header.2 s.headers }
    else .error (.headerValue name)

def withHeaders (s : Settings) (headers : List (String × String)) :
    Except SettingsFault Settings :=
  headers.foldlM addHeader s

def url (s : Settings) : Except SettingsFault Url :=
  match s.endpoint with
  | some (.web url) => .ok url
  | some (.other scheme) => .error (.foreignScheme scheme)
  | none => .error (.noEndpoint s.written)

end Settings

end GraphqlBindings.Client

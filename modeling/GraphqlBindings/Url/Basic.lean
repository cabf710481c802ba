import GraphqlBindings.Url.Host

namespace GraphqlBindings

structure Url where
  secure : Bool
  user : String
  password : String
  host : Url.Host
  port : Option Nat
  path : List String
  query : Option String
  fragment : Option String
deriving DecidableEq, Repr, Inhabited

namespace Url

inductive Address where
  | web (url : Url)
  | other (scheme : String)
deriving DecidableEq, Repr, Inhabited

def usualPort (secure : Bool) : Nat := if secure then 443 else 80

def clean (cs : List Char) : List Char :=
  let isEdge (c : Char) : Bool := decide (c.toNat ≤ 0x20)
  let cs := (cs.dropWhile isEdge).reverse.dropWhile isEdge
  cs.reverse.filter fun c => !(c == '\t' || c == '\n' || c == '\r')

def isSchemeChar (c : Char) : Bool :=
  Text.isAsciiLetter c || Text.isAsciiDigit c || c == '+' || c == '-' || c == '.'

def splitScheme (cs : List Char) : Option (String × List Char) :=
  match cs.takeWhile isSchemeChar, cs.dropWhile isSchemeChar with
  | c :: rest, ':' :: after =>
    if Text.isAsciiLetter c then some (.ofList ((c :: rest).flatMap Text.toSmall), after) else none
  | _, _ => none

def endsAuthority (special : Bool) (c : Char) : Bool :=
  c == '/' || c == '?' || c == '#' || (special && c == '\\')

def splitUser (authority : List Char) : Option (List Char × List Char) :=
  if authority.contains '@' then
    some ((authority.reverse.dropWhile (· != '@')).drop 1 |>.reverse,
      (authority.reverse.takeWhile (· != '@')).reverse)
  else none

def splitHost (inBrackets : Bool) : List Char → List Char × List Char
  | [] => ([], [])
  | c :: rest =>
    if c = ':' ∧ !inBrackets then ([], c :: rest)
    else
      let inBrackets := if c = '[' then true else if c = ']' then false else inBrackets
      let (host, rest) := splitHost inBrackets rest
      (c :: host, rest)

def port? : List Char → Option (Option Nat)
  | [] => some none
  | ':' :: ds =>
    if !ds.all Text.isAsciiDigit then none
    else if ds.isEmpty then some none
    else do
      let n ← numberIn? 10 ds
      if n < 65536 then some (some n) else none
  | _ => none

def isSingleDot (segment : List Char) : Bool :=
  ["." , "%2e", "%2E"].contains (String.ofList segment)

def isDoubleDot (segment : List Char) : Bool :=
  ["..", "%2e%2e", "%2e%2E", "%2E%2e", "%2E%2E", "%2e.", "%2E.", ".%2e", ".%2E"].contains
    (String.ofList segment)

def walkPath (walked : List String) : List (List Char) → List String
  | [] => walked.reverse
  | segment :: rest =>
    if isDoubleDot segment then
      walkPath (if rest.isEmpty then "" :: walked.drop 1 else walked.drop 1) rest
    else if isSingleDot segment then
      walkPath (if rest.isEmpty then "" :: walked else walked) rest
    else walkPath (encode isPathUnsafe segment :: walked) rest

def pathSegments (cs : List Char) : List String :=
  walkPath [] (splitAtChar '/' (cs.map fun c => if c = '\\' then '/' else c))

def splitTail (cs : List Char) : List Char × Option (List Char) × Option (List Char) :=
  let beforeHash := cs.takeWhile (· != '#')
  let fragment := match cs.dropWhile (· != '#') with
    | _ :: rest => some rest
    | [] => none
  let query := match beforeHash.dropWhile (· != '?') with
    | _ :: rest => some rest
    | [] => none
  (beforeHash.takeWhile (· != '?'), query, fragment)

def credentials (cs : List Char) : String × String :=
  (encode isUserUnsafe (cs.takeWhile (· != ':')),
    encode isUserUnsafe ((cs.dropWhile (· != ':')).drop 1))

def parseWeb (secure : Bool) (cs : List Char) : Option Url := do
  let cs := cs.dropWhile fun c => c == '/' || c == '\\'
  let authority := cs.takeWhile (!endsAuthority true ·)
  let rest := cs.dropWhile (!endsAuthority true ·)
  let (userinfo, hostAndPort) := (splitUser authority).getD ([], authority)
  let (user, password) := credentials userinfo
  let (hostText, portText) := splitHost false hostAndPort
  if hostText.isEmpty then none
  let host ← Host.parse? hostText
  let port ← port? portText
  let (path, query, fragment) := splitTail rest
  pure
    { secure, user, password, host
      port := port.filter (· != usualPort secure)
      path := pathSegments (path.drop 1)
      query := query.map (encode isQueryUnsafe)
      fragment := fragment.map (encode isFragmentUnsafe) }

def isAuthority (special : Bool) (cs : List Char) : Bool :=
  let authority := cs.takeWhile (!endsAuthority special ·)
  let (userinfo, hostAndPort) := (splitUser authority).getD ([], authority)
  let (hostText, portText) := splitHost false hostAndPort
  let portText := portText.takeWhile (· != '\\')
  let isBareAt := authority == ['@'] && decide (authority.length < cs.length)
  if hostText.isEmpty then
    !special && portText.isEmpty && credentials userinfo == ("", "") && !isBareAt
  else (if special then (Host.parse? hostText).isSome else Host.isOpaque hostText) &&
    (port? portText).isSome

def isFile (cs : List Char) : Bool :=
  let isSlash (c : Char) : Bool := c == '/' || c == '\\'
  match cs with
  | a :: b :: rest =>
    if isSlash a && isSlash b then
      let host := rest.takeWhile (!endsAuthority true ·)
      let isDrive := match host with
        | [letter, mark] => Text.isAsciiLetter letter && (mark == ':' || mark == '|')
        | _ => false
      host.isEmpty || isDrive || (Host.parse? host).isSome
    else true
  | _ => true

def parse? (text : String) : Option Address := do
  let (scheme, rest) ← splitScheme (clean text.toList)
  if scheme = "https" ∨ scheme = "http" then
    let url ← parseWeb (scheme == "https") rest
    pure (.web url)
  else if scheme = "ws" ∨ scheme = "wss" ∨ scheme = "ftp" then
    if isAuthority true (rest.dropWhile fun c => c == '/' || c == '\\') then pure (.other scheme)
    else none
  else if scheme = "file" then if isFile rest then pure (.other scheme) else none
  else match rest with
    | '/' :: '/' :: authority => if isAuthority false authority then pure (.other scheme) else none
    | _ => pure (.other scheme)

def userText (u : Url) : String :=
  if u.user.isEmpty ∧ u.password.isEmpty then ""
  else u.user ++ (if u.password.isEmpty then "" else ":" ++ u.password) ++ "@"

def portText (u : Url) : String :=
  match u.port with
  | some n => ":" ++ toString n
  | none => ""

def target (u : Url) : String :=
  "/" ++ "/".intercalate u.path ++ (match u.query with
    | some q => "?" ++ q
    | none => "")

def text (u : Url) : String :=
  (if u.secure then "https" else "http") ++ "://" ++ u.userText ++ u.host.text ++ u.portText ++
    u.target ++ (match u.fragment with
      | some f => "#" ++ f
      | none => "")

end Url

end GraphqlBindings

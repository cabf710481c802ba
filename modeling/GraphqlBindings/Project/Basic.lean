import GraphqlBindings.Naming.Identifier
import GraphqlBindings.Text.Lines
import GraphqlBindings.Project.Variables
import GraphqlBindings.FileTree.Basic
import GraphqlBindings.Yaml.Node
import GraphqlBindings.Json.Basic

namespace GraphqlBindings

inductive SchemaSource where
  | url (url : String)
  | file (path : String)
deriving DecidableEq, Repr, Inhabited

structure Service where
  name : String
  package : String
  source : SchemaSource
  headers : List (String × String)
  operations : String
  client : String
deriving DecidableEq, Repr, Inhabited

structure Project where
  version : Nat
  runtime : String
  naming : Naming
  services : List Service
deriving DecidableEq, Repr, Inhabited

namespace Project

open GraphqlBindings.Yaml (Node)
open GraphqlBindings.Text

inductive Fault where
  | unreadable
  | unsupportedVersion (version : Nat)
  | noRuntime
  | noServices
  | noServiceName
  | repeatedService (name : String)
  | invalidPackage (service package : String)
  | twoSources (service : String)
  | noSource (service : String)
  | unsetVariable (service name : String)
  | unknownService (name : String)
deriving DecidableEq, Repr, Inhabited

def Fault.message : Fault → String
  | .unreadable => "yaml error"
  | .unsupportedVersion v => s!"config error: unsupported config version {v} (expected 1)"
  | .noRuntime => "config error: runtime_crate must not be empty"
  | .noServices => "config error: no services configured"
  | .noServiceName => "config error: service name must not be empty"
  | .repeatedService name => s!"config error: service {name} is configured twice"
  | .invalidPackage service package =>
    "config error: service " ++ service ++ ": package " ++ quote package ++
      " is not a valid identifier"
  | .twoSources service => s!"config error: service {service}: set either url or schema, not both"
  | .noSource service => s!"config error: service {service}: one of url or schema is required"
  | .unsetVariable service name =>
    s!"config error: service {service}: environment variable {name} is not set"
  | .unknownService name => s!"config error: unknown service {name}"

structure WrittenService where
  name : String
  package : String
  url : Option String
  schema : Option String
  headers : List (String × String)
  operations : String
  client : String
deriving Repr, Inhabited

structure WrittenProject where
  version : Nat
  runtime : String
  naming : Naming
  services : List WrittenService
deriving Repr, Inhabited

def text : Node → Option String
  | .scalar _ _ text => some text
  | _ => none

def nullTexts : List String := ["null", "Null", "NULL", "~"]

def nullTag : String := "tag:yaml.org,2002:null"

def optionalText : Node → Option (Option String)
  | .scalar .plain none text =>
    some (if text.isEmpty || nullTexts.contains text then none else some text)
  | .scalar .plain (some tag) text =>
    if tag = nullTag then if nullTexts.contains text then some none else none
    else some (some text)
  | .scalar _ _ text => some (some text)
  | _ => none

def literalText (tag : String) : Node → Option String
  | .scalar .plain _ text => some text
  | .scalar .literal (some t) text => if t = tag then some text else none
  | _ => none

def flag (n : Node) : Option Bool := do
  let text ← literalText "tag:yaml.org,2002:bool" n
  if ["true", "True", "TRUE"].contains text then some true
  else if ["false", "False", "FALSE"].contains text then some false
  else none

def digitIn? (base : Nat) (c : Char) : Option Nat := do
  let d ← Yaml.hexValue? c
  if d < base then some d else none

def digitsIn? (base : Nat) (cs : List Char) : Option Nat :=
  if cs.isEmpty then none
  else cs.foldl (fun n c => do pure ((← n) * base + (← digitIn? base c))) (some 0)

/-- An unsigned number in decimal, or in another base behind its mark. A leading zero makes a
text of a decimal one. -/
def natText? (cs : List Char) : Option Nat :=
  let unsigned := if cs.head? = some '+' then cs.drop 1 else cs
  match unsigned with
  | '0' :: 'x' :: ds => digitsIn? 16 ds
  | '0' :: 'o' :: ds => digitsIn? 8 ds
  | '0' :: 'b' :: ds => digitsIn? 2 ds
  | '0' :: _ :: _ => none
  | ds => digitsIn? 10 ds

def number (n : Node) : Option Nat := do
  let text ← literalText "tag:yaml.org,2002:int" n
  let value ← natText? text.toList
  if value < Nat.pow 2 32 then some value else none

def entry (e : Node × Node) : Option (String × Node) := do
  let key ← text e.1
  pure (key, e.2)

def entries : Node → Option (List (String × Node))
  | .mapping es => es.mapM entry
  | .scalar .plain _ text => if text.isEmpty then some [] else none
  | _ => none

def fields (allowed : List String) (n : Node) : Option (List (String × Node)) := do
  let es ← entries n
  guard (es.all fun (key, _) => allowed.contains key)
  guard (decide (es.map (·.1)).Nodup)
  pure es

def items : Node → Option (List Node)
  | .sequence ns => some ns
  | .scalar .plain _ text => if text.isEmpty then some [] else none
  | _ => none

def directory (n : Node) : Option String := do
  let fs ← fields ["root"] n
  text (← fs.lookup "root")

def header (e : String × Node) : Option (String × String) := do
  let value ← text e.2
  pure (e.1, value)

def headers (n : Node) : Option (List (String × String)) := do
  let es ← (← entries n).mapM header
  pure (Keyed.ofList es)

def namingOptions (n : Node) : Option Naming := do
  let fs ← fields ["preserve_acronyms"] n
  match fs.lookup "preserve_acronyms" with
  | some n => return ⟨← flag n⟩
  | none => return ⟨true⟩

def service (n : Node) : Option WrittenService := do
  let fs ← fields ["name", "package", "url", "schema", "headers", "operations", "client"] n
  let name ← text (← fs.lookup "name")
  let package ← text (← fs.lookup "package")
  let url ← match fs.lookup "url" with
    | some n => optionalText n
    | none => some none
  let schema ← match fs.lookup "schema" with
    | some n => optionalText n
    | none => some none
  let headers ← match fs.lookup "headers" with
    | some n => headers n
    | none => some []
  let operations ← directory (← fs.lookup "operations")
  let client ← directory (← fs.lookup "client")
  return ⟨name, package, url, schema, headers, operations, client⟩

def defaultRuntime : String := "gqlclientgen"

def written (n : Node) : Option WrittenProject := do
  let fs ← fields ["version", "runtime_crate", "naming", "services"] n
  let version ← number (← fs.lookup "version")
  let runtime ← match fs.lookup "runtime_crate" with
    | some n => text n
    | none => some defaultRuntime
  let naming ← match fs.lookup "naming" with
    | some n => namingOptions n
    | none => some ⟨true⟩
  let services ← (← items (← fs.lookup "services")).mapM service
  return ⟨version, runtime, naming, services⟩

def isIdentifier (name : String) : Bool :=
  match name.toList with
  | [] => false
  | c :: rest => (isAsciiLetter c || c == '_') && name != "_" &&
      rest.all fun c => isAsciiLetter c || isAsciiDigit c || c == '_'

def WrittenService.source (s : WrittenService) : Except Fault SchemaSource :=
  match s.url, s.schema with
  | some url, none => .ok (.url url)
  | none, some path => .ok (.file path)
  | some _, some _ => .error (.twoSources s.name)
  | none, none => .error (.noSource s.name)

def checkServices (earlier : List String) : List WrittenService → Except Fault Unit
  | [] => .ok ()
  | s :: rest => do
    if isBlankText s.name then .error .noServiceName
    if earlier.contains s.name then .error (.repeatedService s.name)
    if !isIdentifier s.package then .error (.invalidPackage s.name s.package)
    let _ ← s.source
    checkServices (s.name :: earlier) rest

def supportedVersion : Nat := 1

def check (p : WrittenProject) : Except Fault Unit := do
  if p.version ≠ supportedVersion then .error (.unsupportedVersion p.version)
  if isBlankText p.runtime then .error .noRuntime
  if p.services.isEmpty then .error .noServices
  checkServices [] p.services

def SchemaSource.below (base : String) : SchemaSource → SchemaSource
  | .url url => .url url
  | .file path => .file (Path.join base path)

def expandHeader (service : String) (env : Environment) (h : String × String) :
    Except Fault (String × String) :=
  match expand env h.2 with
  | .ok value => .ok (h.1, value)
  | .error name => .error (.unsetVariable service name)

def resolveService (base : String) (env : Environment) (s : WrittenService) :
    Except Fault Service := do
  let source ← s.source
  let headers ← s.headers.mapM (expandHeader s.name env)
  return ⟨s.name, s.package, SchemaSource.below base source, headers,
    Path.join base s.operations, Path.join base s.client⟩

def resolve (base : String) (env : Environment) (p : WrittenProject) : Except Fault Project := do
  check p
  let services ← p.services.mapM (resolveService base env)
  return ⟨p.version, p.runtime, p.naming, services⟩

def ofYaml (base : String) (env : Environment) (text : String) : Except Fault Project :=
  match (Node.ofText? text).bind written with
  | some p => resolve base env p
  | none => .error .unreadable

def select (p : Project) (names : List String) : Except Fault (List Service) :=
  match names.find? fun name => !p.services.any (·.name == name) with
  | some unknown => .error (.unknownService unknown)
  | none => .ok (p.services.filter fun s => names.isEmpty || names.contains s.name)

end Project

end GraphqlBindings

import GraphqlBindings.Service.Workspace
import GraphqlBindings.Json.Writer
import GraphqlBindings.Json.Written

/-!
Generating the clients of services. A service that fails does not stop the others; only a wish to
stop does. It is looked for before each step, and never while the files of a client are written.
-/

namespace GraphqlBindings

namespace Service

structure Output where
  operations : Nat
  declarations : Nat
  files : List (String × String)
deriving DecidableEq, Repr, Inhabited

def operationTypes (g : Generator) :
    List Operation → Except Generator.Fault (List (Operation × OperationTypes))
  | [] => .ok []
  | op :: rest => do
    let (types, g) ← g.operationTypes op
    let others ← operationTypes g rest
    return (op, types) :: others

def checkedSdl (schema : Schema) : Except Error String := do
  schema.validate.mapError .schema
  let sdl ← (Sdl.render schema).mapError .schema
  (Sdl.check sdl).mapError .schemaText
  return sdl

def output (p : Project) (s : Service) (schema : Schema) (raw : Json) (sdl : String)
    (operations : List Operation) : Except Error Output := do
  let g := Generator.ofSchema s.package schema p.naming
  let schemaTypes ← g.schemaTypes.mapError .schema
  let types ← (operationTypes g operations).mapError .generator
  let declarations := schemaTypes ++ types.flatMap (·.2.declarations)
  let methods := types.map fun (op, types) => types.clientMethod op
  return {
    operations := operations.length
    declarations := declarations.length
    files :=
      [("schema.introspect.json", raw.pretty ++ "\n"),
        ("schema.graphql", sdl),
        ("model.rs", Model.render ⟨s.package, declarations⟩),
        ("client.rs", renderClient p.naming s.package p.runtime methods),
        ("mod.rs", renderModule s.package)] }

variable {m : Type → Type} [Monad m]

structure Generated where
  service : String
  operations : Nat
  declarations : Nat
  files : List String
deriving DecidableEq, Repr, Inhabited

def readSchema (w : Workspace m) (path : String) : ExceptT Error m (Schema × Json) := do
  let text ← w.read path
  match Json.ofText? text with
  | none => throw .notJson
  | some raw =>
    let schema ← Workspace.settle (Introspection.decode raw) .introspection
    return (schema, raw)

def schemaClient (s : Service) (url : String) : Except Client.SettingsFault Client := do
  let settings ← (Client.Settings.ofEndpoint url).withHeaders s.headers
  Client.ofSettings settings

def loadSchema (w : Workspace m) (s : Service) : ExceptT Error m (Schema × Json) := do
  match s.source with
  | .url url =>
    let client ← Workspace.settle (s.schemaClient url) fun f => .client (.settings f)
    Workspace.attempt (client.introspect w.send) .client
  | .file path => readSchema w path

def writeFiles (w : Workspace m) (root : String) :
    List (String × String) → ExceptT Error m (List String)
  | [] => return []
  | (name, text) :: rest => do
    w.write (Path.join root name) text
    let others ← writeFiles w root rest
    return Path.join root name :: others

def generate (w : Workspace m) (p : Project) (s : Service) (schema : Schema) (raw : Json) :
    ExceptT Error m Generated := do
  w.check
  let sdl ← Workspace.settle (checkedSdl schema) id
  w.check
  let operations ← operationsOf w schema (← documents w s.operations)
  w.check
  let output ← Workspace.settle (s.output p schema raw sdl operations) id
  w.check
  Workspace.attempt (w.makeDirectories s.client) (.file s.client)
  let files ← writeFiles w s.client output.files
  return ⟨s.name, output.operations, output.declarations, files⟩

def run (w : Workspace m) (p : Project) (s : Service) : ExceptT Error m Generated := do
  w.check
  let (schema, raw) ← loadSchema w s
  generate w p s schema raw

end Service

structure Report where
  succeeded : List Service.Generated
  failed : List (String × Error)
deriving Repr, Inhabited

namespace Report

def isSuccess (r : Report) : Bool := r.failed.isEmpty

variable {m : Type → Type} [Monad m]

def ofRun (w : Workspace m) (p : Project) : List Service → m Report
  | [] => return ⟨[], []⟩
  | s :: rest => do
    match ← (Service.run w p s).run with
    | .ok generated =>
      let report ← ofRun w p rest
      return { report with succeeded := generated :: report.succeeded }
    | .error .cancelled => return ⟨[], [(s.name, .cancelled)]⟩
    | .error e =>
      let report ← ofRun w p rest
      return { report with failed := (s.name, e) :: report.failed }

end Report

end GraphqlBindings

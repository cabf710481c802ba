import GraphqlBindings.Client.Basic
import GraphqlBindings.FileTree.Walk
import GraphqlBindings.Generator.Operation
import GraphqlBindings.Operation.Resolve
import GraphqlBindings.Project.Basic
import GraphqlBindings.Schema.Sdl

namespace GraphqlBindings

inductive Error where
  | project (fault : Project.Fault)
  | client (fault : Client.Fault)
  | notJson
  | introspection (fault : Introspection.Fault)
  | schema (fault : Schema.Fault)
  | schemaText (position : Language.Position)
  | document (path : String) (fault : Operation.Fault)
  | generator (fault : Generator.Fault)
  | file (path : String) (fault : FileTree.Fault)
  | walk (root : String) (fault : FileTree.WalkFault)
  | cancelled
deriving Repr, Inhabited

def Error.message : Error → String
  | .project fault => fault.message
  | .client fault => fault.message
  | .notJson => "json error: not a value"
  | .introspection fault => fault.message
  | .schema fault => fault.message
  | .schemaText p => s!"schema load error: schema parse error: Parse error at {p.text}"
  | .document path fault => path ++ ": " ++ fault.message
  | .generator fault => fault.message
  | .file path fault => s!"i/o error on {path}: {fault.message}"
  | .walk root fault => s!"i/o error on {root}: {fault.message}"
  | .cancelled => "cancelled"

/-- Operations on the surroundings of a run, as effects of `m`. `filesBelow` follows links and
gives paths in any order. -/
structure Workspace (m : Type → Type) where
  readText : String → m (Except FileTree.Fault String)
  filesBelow : String → m (Except FileTree.WalkFault (List String))
  makeDirectories : String → m (Except FileTree.Fault Unit)
  writeText : String → String → m (Except FileTree.Fault Unit)
  send : Client.Sender m
  isCancelled : m Bool

namespace Workspace

variable {m : Type → Type} [Monad m] {ε α : Type}

def attempt (effect : m (Except ε α)) (error : ε → Error) : ExceptT Error m α :=
  ExceptT.mk do return (← effect).mapError error

def settle (result : Except ε α) (error : ε → Error) : ExceptT Error m α :=
  ExceptT.mk (return result.mapError error)

def check (w : Workspace m) : ExceptT Error m Unit :=
  ExceptT.mk do return if ← w.isCancelled then .error .cancelled else .ok ()

def read (w : Workspace m) (path : String) : ExceptT Error m String :=
  attempt (w.readText path) (.file path)

def write (w : Workspace m) (path text : String) : ExceptT Error m Unit :=
  attempt (w.writeText path text) (.file path)

end Workspace

def Project.load {m : Type → Type} [Monad m] (w : Workspace m) (env : Project.Environment)
    (path : String) : ExceptT Error m Project := do
  let text ← w.read path
  Workspace.settle (Project.ofYaml (Path.parent path) env text) .project

end GraphqlBindings

namespace GraphqlBindings.Service

def isDocument (path : String) : Bool := Path.extension? path == some "graphql"

def documentPaths (files : List String) : List String :=
  (files.filter isDocument).mergeSort fun a b => decide (a ≤ b)

variable {m : Type → Type} [Monad m]

def documents (w : Workspace m) (root : String) : ExceptT Error m (List String) := do
  let files ← Workspace.attempt (w.filesBelow root) (.walk root)
  return documentPaths files

def operationsOf (w : Workspace m) (schema : Schema) :
    List String → ExceptT Error m (List Operation)
  | [] => return []
  | path :: rest => do
    let source ← w.read path
    let operations ← Workspace.settle (Operation.ofText schema path source) (.document path)
    let others ← operationsOf w schema rest
    return operations ++ others

end GraphqlBindings.Service

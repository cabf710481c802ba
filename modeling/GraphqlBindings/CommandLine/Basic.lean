import GraphqlBindings.CommandLine.Arguments
import GraphqlBindings.Service.Run

namespace GraphqlBindings.CommandLine

def programName : String := "gqlclientgen"

def versionText : String := programName ++ " 0.1.0\n"

def optionWidth : Nat := 29

def helpLine (option explanation : String) : String :=
  "  " ++ option ++ "".pushn ' ' (optionWidth - option.length) ++ explanation ++ "\n"

def usage : String := "Usage: " ++ programName ++ " [OPTIONS]"

def helpText (env : Project.Environment) : String :=
  "generate typed graphql clients\n\n" ++ usage ++ "\n\nOptions:\n" ++
    helpLine "-c, --config <CONFIG>"
      ("project configuration file [env: " ++ configVariable ++ "=" ++
        (env.value? configVariable).getD "" ++ "] [default: " ++ defaultConfig ++ "]") ++
    helpLine "-s, --service <NAME>" "only generate these services (repeatable)" ++
    helpLine "    --log-level <LOG_LEVEL>"
      ("log level, used when RUST_LOG is not set [default: " ++ LogLevel.info.name ++
        "] [possible values: " ++ ", ".intercalate (LogLevel.all.map (·.name)) ++ "]") ++
    helpLine "-h, --help" "Print help" ++
    helpLine "-V, --version" "Print version"

structure Outcome where
  exitCode : Nat
  output : String
  complaints : List String
deriving DecidableEq, Repr, Inhabited

def Outcome.failure (complaint : String) : Outcome := ⟨1, "", [complaint]⟩

def Outcome.ofReport (r : Report) : Outcome where
  exitCode := if r.isSuccess then 0 else 1
  output := ""
  complaints := r.failed.map fun (name, e) => name ++ ": " ++ e.message

variable {m : Type → Type} [Monad m]

def selected (w : Workspace m) (env : Project.Environment) (a : Arguments) :
    ExceptT Error m (Project × List Service) := do
  let project ← Project.load w env a.config
  let services ← Workspace.settle (project.select a.services) .project
  return (project, services)

def generate (w : Workspace m) (env : Project.Environment) (a : Arguments) : m Outcome := do
  match ← (selected w env a).run with
  | .error e => return .failure e.message
  | .ok (project, services) => return .ofReport (← Report.ofRun w project services)

def run (w : Workspace m) (env : Project.Environment) (arguments : List String) : m Outcome :=
  match Demand.ofArguments env arguments with
  | .run a => generate w env a
  | .help => return ⟨0, helpText env, []⟩
  | .version => return ⟨0, versionText, []⟩
  | .misuse => return ⟨2, "", [usage]⟩

end GraphqlBindings.CommandLine

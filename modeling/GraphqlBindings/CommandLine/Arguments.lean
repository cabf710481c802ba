import GraphqlBindings.Project.Variables

namespace GraphqlBindings.CommandLine

inductive LogLevel where
  | error
  | warn
  | info
  | debug
  | trace
deriving DecidableEq, Repr, Inhabited

namespace LogLevel

def all : List LogLevel := [.error, .warn, .info, .debug, .trace]

def name : LogLevel → String
  | .error => "error"
  | .warn => "warn"
  | .info => "info"
  | .debug => "debug"
  | .trace => "trace"

def ofName? (name : String) : Option LogLevel := all.find? (·.name == name)

end LogLevel

structure Arguments where
  config : String
  services : List String
  logLevel : LogLevel
deriving DecidableEq, Repr, Inhabited

inductive Demand where
  | run (arguments : Arguments)
  | help
  | version
  | misuse
deriving DecidableEq, Repr, Inhabited

inductive Setting where
  | config
  | service
  | logLevel
deriving DecidableEq, Repr, Inhabited

inductive Argument where
  | setting (setting : Setting) (value : Option String)
  | help
  | version
  | unknown
deriving DecidableEq, Repr, Inhabited

def attached : List Char → Option String
  | [] => none
  | '=' :: value => some (.ofList value)
  | value => some (.ofList value)

def shortOption : List Char → Argument
  | 'c' :: rest => .setting .config (attached rest)
  | 's' :: rest => .setting .service (attached rest)
  | 'h' :: _ => .help
  | 'V' :: _ => .version
  | _ => .unknown

def longOption (name : String) (value : Option String) : Argument :=
  match name, value with
  | "config", value => .setting .config value
  | "service", value => .setting .service value
  | "log-level", value => .setting .logLevel value
  | "help", none => .help
  | "version", none => .version
  | _, _ => .unknown

def Argument.ofText (text : String) : Argument :=
  match text.toList with
  | '-' :: '-' :: cs =>
    longOption (.ofList (cs.takeWhile (· != '=')))
      (match cs.dropWhile (· != '=') with
        | _ :: value => some (.ofList value)
        | [] => none)
  | '-' :: cs => shortOption cs
  | _ => .unknown

def isValue (text : String) : Bool := text.toList.head? != some '-' || text == "-"

structure Given where
  config : Option String
  services : List String
  logLevel : Option LogLevel
deriving DecidableEq, Repr, Inhabited

def Given.none : Given := ⟨Option.none, [], Option.none⟩

def Given.add (g : Given) (setting : Setting) (value : String) : Option Given :=
  match setting with
  | .service => some { g with services := g.services ++ [value] }
  | .config =>
    if g.config.isSome ∨ value.isEmpty then Option.none else some { g with config := some value }
  | .logLevel =>
    if g.logLevel.isSome then Option.none
    else (LogLevel.ofName? value).map fun level => { g with logLevel := some level }

def configVariable : String := "GQLCLIENTGEN_CONFIG"

def defaultConfig : String := "gqlclientgen.yml"

def Given.finish (env : Project.Environment) (g : Given) : Demand :=
  let config := (g.config.or (env.value? configVariable)).getD defaultConfig
  if config.isEmpty then .misuse else .run ⟨config, g.services, g.logLevel.getD .info⟩

def readArguments (env : Project.Environment) (g : Given) : List String → Demand
  | [] => g.finish env
  | ["--"] => g.finish env
  | text :: rest =>
    match Argument.ofText text with
    | .help => .help
    | .version => .version
    | .unknown => .misuse
    | .setting setting (some value) =>
      match g.add setting value with
      | some g => readArguments env g rest
      | none => .misuse
    | .setting setting none =>
      match rest with
      | value :: rest =>
        match (if isValue value then g.add setting value else none) with
        | some g => readArguments env g rest
        | none => .misuse
      | [] => .misuse

def Demand.ofArguments (env : Project.Environment) (arguments : List String) : Demand :=
  readArguments env .none arguments

end GraphqlBindings.CommandLine

/-!
References to environment variables in configured texts. `${env.NAME}` stands for the variable's
value, and `${env.NAME:-text}` for the text if the variable is not set. Two dollars are one;
everything else stands for itself.
-/

namespace GraphqlBindings.Project

abbrev Environment := List (String × String)

def Environment.value? (env : Environment) (name : String) : Option String :=
  (env.reverse.find? (·.1 == name)).map (·.2)

def splitDefault : List Char → List Char × Option (List Char)
  | ':' :: '-' :: rest => ([], some rest)
  | c :: rest => let (name, default) := splitDefault rest; (c :: name, default)
  | [] => ([], none)

def variableName? : List Char → Option (List Char)
  | 'e' :: 'n' :: 'v' :: '.' :: name => some name
  | _ => none

def resolveReference (env : Environment) (body : List Char) : Except String (List Char) :=
  let (name, default) := match splitDefault body with
    | ([], _) => (body, none)
    | split => split
  let unresolved := '$' :: '{' :: body ++ ['}']
  match variableName? name with
  | none => .ok (default.getD unresolved)
  | some key =>
    match env.value? (.ofList key) with
    | some value => .ok value.toList
    | none =>
      match default with
      | some default => .ok default
      | none => .error (.ofList key)

def splitBrace : List Char → Option (List Char × List Char)
  | [] => none
  | '}' :: rest => some ([], rest)
  | c :: rest => (splitBrace rest).map fun (body, rest) => (c :: body, rest)

def expandChars (env : Environment) : Nat → List Char → Except String (List Char)
  | 0, _ => .ok []
  | fuel + 1, cs =>
    match cs with
    | [] => .ok []
    | '$' :: '$' :: rest => do return '$' :: (← expandChars env fuel rest)
    | '$' :: '{' :: rest =>
      match splitBrace rest with
      | some (body, rest) => do
        let value ← resolveReference env body
        return value ++ (← expandChars env fuel rest)
      | none => do return '$' :: '{' :: (← expandChars env fuel rest)
    | c :: rest => do return c :: (← expandChars env fuel rest)

def expand (env : Environment) (text : String) : Except String String := do
  let cs := text.toList
  return .ofList (← expandChars env (cs.length + 1) cs)

end GraphqlBindings.Project

import GraphqlBindings.Schema.Basic

/-!
Resolving documents: operations have distinct names, their root types exist, variables are of
input types, and every field is one of its parent type, with selections exactly if its own type
has fields. Fragments are passed over.
-/

namespace GraphqlBindings

inductive Selection where
  | field (label : Option String) (name : String) (definition : SchemaField)
      (selections : List Selection)
  | inlineFragment (condition : Option String)
  | fragmentSpread (name : String)
deriving Repr, Inhabited

def responseKey (label : Option String) (name : String) : String := label.getD name

structure Variable where
  name : String
  type : TypeRef
  default : Option String
deriving DecidableEq, Repr, Inhabited

/-- `source` is the text of the whole document, and `path` the file it was read from. -/
structure Operation where
  name : String
  kind : OperationKind
  vars : List Variable
  selections : List Selection
  source : String
  path : String
deriving Repr, Inhabited

end GraphqlBindings

namespace GraphqlBindings.Operation

open GraphqlBindings.Language (Position Document Definition OperationDefinition VariableDefinition
  Value)

inductive Fault where
  | unreadable (position : Position)
  | anonymous (position : Position)
  | nameless (position : Position) (kind : OperationKind)
  | repeated (position : Position) (name : String)
  | noRoot (position : Position) (kind : OperationKind)
  | noInputType (position : Position) (name type : String)
  | unknownField (position : Position) (field type : String)
  | missingSelections (position : Position) (field type : String)
  | surplusSelections (position : Position) (field type : String)
  | noOperations
deriving DecidableEq, Repr, Inhabited

def Fault.message : Fault → String
  | .unreadable p => s!"query parse error: Parse error at {p.text}"
  | .anonymous p => s!"{p.text}: anonymous operations are not supported"
  | .nameless p kind => s!"{p.text}: {kind.keyword} has no name"
  | .repeated p name => s!"{p.text}: operation {name} is defined twice"
  | .noRoot p kind => s!"{p.text}: schema does not support {kind.keyword} operations"
  | .noInputType p name type =>
    s!"{p.text}: variable ${name} has unknown or non-input type {type}"
  | .unknownField p field type => s!"{p.text}: unknown field \x60{field}\x60 on type \x60{type}\x60"
  | .missingSelections p field type =>
    s!"{p.text}: field \x60{field}\x60 of type \x60{type}\x60 needs a selection set"
  | .surplusSelections p field type =>
    s!"{p.text}: field \x60{field}\x60 of type \x60{type}\x60 has no fields to select"
  | .noOperations => "document defines no operations"

def isInputType (s : Schema) (name : String) : Bool :=
  isBuiltinScalar name || ((s.get? name).map (·.kind.isInput)).getD false

def compositeType? (s : Schema) (name : String) : Option SchemaType :=
  (s.get? name).filter (·.kind.isComposite)

def resolveVariable (s : Schema) (v : VariableDefinition) : Except Fault Variable :=
  if isInputType s v.type.baseName then
    .ok ⟨v.name, v.type, v.default.map Value.literal⟩
  else .error (.noInputType v.position v.name v.type.baseName)

mutual

def resolveSelection (s : Schema) (parent : SchemaType) :
    Language.Selection → Except Fault Selection
  | .field position label name _ _ selections =>
    match parent.field? name with
    | none => .error (.unknownField position name parent.name)
    | some definition =>
      match compositeType? s definition.type.baseName, selections with
      | none, [] => .ok (.field label name definition [])
      | none, _ :: _ =>
        .error (.surplusSelections position name definition.type.baseName)
      | some _, [] => .error (.missingSelections position name definition.type.baseName)
      | some target, first :: rest => do
        let selected ← resolveSelection s target first
        let others ← resolveSelections s target rest
        return .field label name definition (selected :: others)
  | .inlineFragment condition _ _ => .ok (.inlineFragment condition)
  | .fragmentSpread name _ => .ok (.fragmentSpread name)

def resolveSelections (s : Schema) (parent : SchemaType) :
    List Language.Selection → Except Fault (List Selection)
  | [] => .ok []
  | first :: rest => do
    let selected ← resolveSelection s parent first
    let others ← resolveSelections s parent rest
    return selected :: others

end

def rootType? (s : Schema) (kind : OperationKind) : Option SchemaType :=
  (s.rootName? kind).bind s.get?

def resolve (s : Schema) (path source : String) (earlier : List String)
    (d : OperationDefinition) : Except Fault Operation := do
  let name ← match d.name with
    | some name => .ok name
    | none => .error (.nameless d.position d.kind)
  if earlier.contains name then .error (.repeated d.position name) else
  let root ← match rootType? s d.kind with
    | some root => .ok root
    | none => .error (.noRoot d.position d.kind)
  let vars ← d.vars.mapM (resolveVariable s)
  let selections ← resolveSelections s root d.selections
  return ⟨name, d.kind, vars, selections, source, path⟩

def resolveAll (s : Schema) (path source : String) (earlier : List String) :
    List Definition → Except Fault (List Operation)
  | [] => .ok []
  | .fragment .. :: rest => resolveAll s path source earlier rest
  | .selections position _ :: _ => .error (.anonymous position)
  | .operation d :: rest => do
    let operation ← resolve s path source earlier d
    let operations ← resolveAll s path source (operation.name :: earlier) rest
    return operation :: operations

def ofDocument (s : Schema) (path source : String) (d : Document) :
    Except Fault (List Operation) := do
  let operations ← resolveAll s path source [] d.definitions
  if operations.isEmpty then .error .noOperations else .ok operations

def ofText (s : Schema) (path source : String) : Except Fault (List Operation) :=
  match Document.read source with
  | .error position => .error (.unreadable position)
  | .ok document => ofDocument s path source document

end GraphqlBindings.Operation

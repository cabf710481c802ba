import GraphqlBindings.Generator.Basic
import GraphqlBindings.Code.Client

/-!
The declarations of an operation: its variables, its response, and a struct for each field of the
response that has fields of its own. An operation that cannot be declared takes no names.
-/

namespace GraphqlBindings

/-- What is generated for an operation. `operation` is the type that stands for it, and `nested`
has the structs inside the response, outer ones first. -/
structure OperationTypes where
  name : String
  kind : OperationKind
  operation : String
  method : String
  request : Declaration
  response : Declaration
  nested : List Declaration
deriving DecidableEq, Repr, Inhabited

def OperationTypes.declarations (t : OperationTypes) : List Declaration :=
  t.request :: t.response :: t.nested

def OperationTypes.clientMethod (t : OperationTypes) (op : Operation) : ClientMethod where
  name := t.method
  operationName := op.name
  kind := op.kind
  operation := t.operation
  request := t.request.name
  response := t.response.name
  query := op.source

namespace Generator

inductive Fault where
  | unsupported (operation : String) (construct : Construct)
  | nameTaken (name : String)
deriving DecidableEq, Repr, Inhabited

def Fault.message : Fault → String
  | .unsupported operation construct =>
    "operation " ++ operation ++ ": " ++ construct.text ++ " is not supported"
  | .nameTaken name => s!"generated type name {name} is already taken"

def variableFields (g : Generator) (scope : NameScope) : List Variable → List FieldDeclaration
  | [] => []
  | v :: rest =>
    let (ident, scope) := scope.unique (g.naming.fieldIdent v.name)
    ⟨ident, v.name, v.type.shape (g.namedType v.type.baseName) false, none⟩ ::
      g.variableFields scope rest

def request (g : Generator) (name : String) (op : Operation) : Declaration where
  name := name
  doc := some ("variables of \x60" ++ op.kind.keyword ++ " " ++ op.name ++ "\x60")
  body := .fields (g.variableFields .empty op.vars)

structure ResponseStruct where
  fields : List FieldDeclaration
  nested : List Declaration
deriving DecidableEq, Repr, Inhabited

def ResponseStruct.cons (field : FieldDeclaration) (structs : List Declaration)
    (s : ResponseStruct) : ResponseStruct :=
  ⟨field :: s.fields, structs ++ s.nested⟩

def responseField (g : Generator) (idents : NameScope) (key : String) (definition : SchemaField)
    (base : CodeType) : FieldDeclaration where
  ident := idents.free (g.naming.fieldIdent key)
  key := key
  type := definition.type.shape base false
  doc := definition.description

mutual

def responseStruct (g : Generator) (owner : String) (scope : NameScope)
    (selections : List Selection) : Except Construct ResponseStruct × NameScope :=
  match _h : groupFields [] selections with
  | .error construct => (.error construct, scope)
  | .ok groups => g.groupStructs owner .empty scope groups
termination_by 2 * selectionsSize selections + 1
decreasing_by
  have := groupsSize_groupFields _h
  simp only [groupsSize] at this
  omega

def groupStructs (g : Generator) (owner : String) (idents scope : NameScope) :
    List KeyGroup → Except Construct ResponseStruct × NameScope
  | [] => (.ok ⟨[], []⟩, scope)
  | k :: rest =>
    let later := (idents.unique (g.naming.fieldIdent k.key)).2
    if k.selections.isEmpty then
      match g.groupStructs owner later scope rest with
      | (.error construct, scope) => (.error construct, scope)
      | (.ok others, scope) =>
        let base := g.namedType k.definition.type.baseName
        (.ok (others.cons (g.responseField idents k.key k.definition base) []), scope)
    else
      let (name, scope) := scope.unique (owner ++ g.naming.typeIdent k.key)
      match g.responseStruct name scope k.selections with
      | (.error construct, scope) => (.error construct, scope)
      | (.ok inner, scope) =>
        match g.groupStructs owner later scope rest with
        | (.error construct, scope) => (.error construct, scope)
        | (.ok others, scope) =>
          (.ok (others.cons (g.responseField idents k.key k.definition (.named name))
            (⟨name, none, .fields inner.fields⟩ :: inner.nested)), scope)
termination_by groups => 2 * groupsSize groups
decreasing_by all_goals simp only [groupsSize]; omega

end

def operationName (g : Generator) (op : Operation) : String :=
  g.naming.typeIdent op.name ++ "Operation"

def requestName (g : Generator) (op : Operation) : String := g.naming.typeIdent op.name ++ "Request"

def responseName (g : Generator) (op : Operation) : String :=
  g.naming.typeIdent op.name ++ "Response"

def methodName (g : Generator) (op : Operation) : String := g.naming.fieldIdent op.name

def operationNames (g : Generator) (op : Operation) : List String :=
  [g.operationName op, g.requestName op, g.responseName op]

def takenName? (g : Generator) (op : Operation) : Option String :=
  ((g.operationNames op).find? g.types.contains).or
    ([g.methodName op].find? g.methods.contains)

def claim (g : Generator) (op : Operation) : Generator :=
  { g with
    types := (g.operationNames op).foldl NameScope.insert g.types
    methods := g.methods.insert (g.methodName op) }

/-- Declares an operation: what comes of it, and the generator after it, also if it fails. Nothing
is named before the operation has been checked. -/
def declare (g : Generator) (op : Operation) : Except Fault OperationTypes × Generator :=
  match unsupported? op.selections with
  | some construct => (.error (.unsupported op.name construct), g)
  | none =>
    match g.takenName? op with
    | some name => (.error (.nameTaken name), g)
    | none =>
      let claimed := g.claim op
      match g.responseStruct (g.responseName op) claimed.types op.selections with
      | (.error construct, scope) =>
        (.error (.unsupported op.name construct), { claimed with types := scope })
      | (.ok s, scope) =>
        (.ok ⟨op.name, op.kind, g.operationName op, g.methodName op,
          g.request (g.requestName op) op, ⟨g.responseName op, none, .fields s.fields⟩, s.nested⟩,
          { claimed with types := scope })

def operationTypes (g : Generator) (op : Operation) :
    Except Fault (OperationTypes × Generator) :=
  match g.declare op with
  | (.error fault, _) => .error fault
  | (.ok types, g) => .ok (types, g)

end Generator

end GraphqlBindings

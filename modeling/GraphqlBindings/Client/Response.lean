import GraphqlBindings.Json.Written

/-!
Responses: the data of an operation and the errors that came with it. A response is read as it is
written, since of members without a meaning only the form counts. Records may be arrays of their
fields.
-/

namespace GraphqlBindings.Client

open Json (Written)

structure ErrorLocation where
  line : Int
  column : Int
deriving DecidableEq, Repr, Inhabited

structure ResponseError where
  message : String
  locations : List ErrorLocation
  path : List Json
  extensions : Option Json
deriving Repr, Inhabited

structure Response (α : Type) where
  data : Option α
  errors : List ResponseError
deriving Repr, Inhabited

abbrev Decoder (α : Type) := Nat → Written → Option α

def fields? (names : List String) : Written → Option (List (String × Written))
  | .object members => do
    let members ← members.mapM fun (key, value) => key.map fun key => (key, value)
    let known := members.filter fun (key, _) => names.contains key
    if (known.map (·.1)).Nodup then some known else none
  | .array items => if items.length ≤ names.length then some (names.zip items) else none
  | _ => none

def isArray : Written → Bool
  | .array _ => true
  | _ => false

def nested {α : Type} (decode : Decoder α) : Decoder α
  | 0, _ => none
  | depth + 1, w => decode depth w

def text : Decoder String
  | _, .string text => text
  | _, _ => none

def signedLimit : Int := 0x8000000000000000

def signed : Decoder Int
  | _, .number literal =>
    match literal.value? with
    | some (.integer n) => if -signedLimit ≤ n ∧ n < signedLimit then some n else none
    | _ => none
  | _, _ => none

def value : Decoder Json := fun depth w => w.value? depth

def listOf {α : Type} (decode : Decoder α) : Decoder (List α) :=
  nested fun depth w =>
    match w with
    | .array items => items.mapM (decode depth)
    | _ => none

def optional {α : Type} (decode : Decoder α) : Decoder (Option α)
  | _, .null => some none
  | depth, w => (decode depth w).map some

def fieldOr {α : Type} (default : α) (decode : Decoder α) (depth : Nat) (name : String)
    (fields : List (String × Written)) : Option α :=
  match fields.lookup name with
  | some w => decode depth w
  | none => some default

def location : Decoder ErrorLocation :=
  nested fun depth w => do
    let fields ← fields? ["line", "column"] w
    let line ← signed depth (← fields.lookup "line")
    let column ← signed depth (← fields.lookup "column")
    pure { line, column }

def responseError : Decoder ResponseError :=
  nested fun depth w => do
    let fields ← fields? ["message", "locations", "path", "extensions"] w
    let message ← text depth (← fields.lookup "message")
    let locations ← fieldOr [] (listOf location) depth "locations" fields
    let path ← fieldOr [] (listOf value) depth "path" fields
    let extensions ← fieldOr none (optional value) depth "extensions" fields
    pure { message, locations, path, extensions }

def response {α : Type} (decode : Decoder α) : Decoder (Response α) :=
  nested fun depth w => do
    let fields ← fields? ["data", "errors"] w
    if isArray w ∧ fields.isEmpty then none
    let data ← fieldOr none (optional decode) depth "data" fields
    let errors ← fieldOr [] (listOf responseError) depth "errors" fields
    pure { data, errors }

def Response.ofText? {α : Type} (decode : Decoder α) (text : String) : Option (Response α) :=
  (Written.ofText? text).bind (response decode Json.depthLimit)

def Response.hasErrors {α : Type} (r : Response α) : Bool := !r.errors.isEmpty

def ErrorLocation.json (l : ErrorLocation) : Json :=
  .object [("line", Json.integer l.line), ("column", Json.integer l.column)]

def ResponseError.json (e : ResponseError) : Json :=
  .object [("message", .string e.message), ("locations", .array (e.locations.map (·.json))),
    ("path", .array e.path), ("extensions", e.extensions.getD .null)]

def Response.json (r : Response Json) : Json :=
  .object [("data", r.data.getD .null), ("errors", .array (r.errors.map (·.json)))]

end GraphqlBindings.Client

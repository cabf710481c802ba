import GraphqlBindings.Decimal.Binary64

namespace GraphqlBindings.Keyed

variable {α : Type}

def put (key : String) (value : α) : List (String × α) → List (String × α)
  | [] => [(key, value)]
  | (k, v) :: rest =>
    if key = k then (key, value) :: rest
    else if key < k then (key, value) :: (k, v) :: rest
    else (k, v) :: put key value rest

def ofList (entries : List (String × α)) : List (String × α) :=
  entries.foldl (fun sorted (k, v) => put k v sorted) []

end GraphqlBindings.Keyed

namespace GraphqlBindings

namespace Json

inductive Number where
  | integer (value : Int)
  | double (value : Decimal.Binary64)
deriving DecidableEq, Repr, Inhabited

end Json

inductive Json where
  | null
  | bool (value : Bool)
  | number (value : Json.Number)
  | string (value : String)
  | array (items : List Json)
  | object (members : List (String × Json))
deriving BEq, Repr, Inhabited

namespace Json

def objectOf (members : List (String × Json)) : Json :=
  .object (Keyed.ofList members)

def member? (key : String) : Json → Option Json
  | object members => members.lookup key
  | _ => none

def integer (n : Int) : Json := .number (.integer n)

def ofOption (s : Option String) : Json := (s.map Json.string).getD .null

structure Record where
  entries : List (String × Json)
  surplus : Bool

namespace Record

variable {ε α : Type}

def of? (fields : List String) : Json → Option Record
  | .object members => some ⟨members.filter fun (key, _) => fields.contains key, false⟩
  | .array items => some ⟨fields.zip items, decide (fields.length < items.length)⟩
  | _ => none

def required (r : Record) (missing : ε) (name : String) (decode : Json → Except ε α) :
    Except ε α :=
  match r.entries.lookup name with
  | some value => decode value
  | none => .error missing

def defaulting (r : Record) (default : α) (name : String) (decode : Json → Except ε α) :
    Except ε α :=
  match r.entries.lookup name with
  | some value => decode value
  | none => .ok default

def fault? : Except ε α → Option ε
  | .error fault => some fault
  | .ok _ => none

def check (r : Record) (surplus : ε) (faults : List (String × Option ε)) : Except ε Unit :=
  match r.entries.findSome? fun (key, _) => (faults.lookup key).join with
  | some fault => .error fault
  | none => if r.surplus then .error surplus else .ok ()

end Record

end Json

end GraphqlBindings

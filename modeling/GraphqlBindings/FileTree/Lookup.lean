import GraphqlBindings.FileTree.Basic

namespace GraphqlBindings.FileTree

def linkLimit : Nat := 40

def steps (path : String) : List String :=
  Path.names path ++ if Path.endsInSlash path then ["."] else []

def startOf (here : Place) (path : String) : Place := if Path.isAbsolute path then [] else here

def follow (t : FileTree) (followLast : Bool) (links : Nat) (here : Place) :
    List String → Except Fault Place
  | [] => .ok here
  | name :: rest =>
    match t.get? here with
    | some (.directory entries) =>
      if name = "." then follow t followLast links here rest
      else if name = ".." then follow t followLast links here.dropLast rest
      else match entries.lookup name with
        | none => if rest.isEmpty then .ok (here ++ [name]) else .error .missing
        | some (.link target) =>
          if rest.isEmpty ∧ !followLast then .ok (here ++ [name])
          else match links with
            | 0 => .error .tooManyLinks
            | links + 1 => follow t followLast links (startOf here target) (steps target ++ rest)
        | some _ => follow t followLast links (here ++ [name]) rest
    | _ => .error .notDirectory
termination_by names => (links, names.length)

def locate (t : FileTree) (followLast : Bool) (here : Place) (path : String) :
    Except Fault Place :=
  if path.isEmpty then .error .missing
  else follow t followLast linkLimit (startOf here path) (steps path)

def find (t : FileTree) (followLast : Bool) (here : Place) (path : String) :
    Except Fault (Place × FileTree) := do
  let place ← t.locate followLast here path
  match t.get? place with
  | some found => .ok (place, found)
  | none => .error .missing

def readText (t : FileTree) (here : Place) (path : String) : Except Fault String := do
  match (← t.find true here path).2 with
  | .file (.text text) => .ok text
  | .file (.bytes _) => .error .notText
  | .directory _ => .error .isDirectory
  | .link _ => .error .tooManyLinks

def writeText (t : FileTree) (here : Place) (path text : String) : Except Fault FileTree := do
  let place ← t.locate true here path
  match t.get? place with
  | some (.directory _) => .error .isDirectory
  | _ => .ok (t.set (.file (.text text)) place)

def makeDirectory (t : FileTree) (here : Place) (path : String) : Except Fault FileTree := do
  let place ← follow t false linkLimit (startOf here path) (Path.names path)
  match t.get? place with
  | some _ => .error .existing
  | none => .ok (t.set (.directory []) place)

def isDirectoryAt (t : FileTree) (here : Place) (path : String) : Bool :=
  match t.find true here path with
  | .ok (_, found) => found.isDirectory
  | .error _ => false

def orDirectory (t : FileTree) (here : Place) (path : String) (f : Fault) :
    Except Fault Unit × FileTree :=
  if t.isDirectoryAt here path then (.ok (), t) else (.error f, t)

def makeFirst (t : FileTree) (here : Place) : List String → Except Fault Unit × FileTree
  | [] => (.ok (), t)
  | path :: above =>
    match t.makeDirectory here path with
    | .ok t => (.ok (), t)
    | .error .missing =>
      match t.makeFirst here above with
      | (.error f, t) => (.error f, t)
      | (.ok (), t) =>
        match t.makeDirectory here path with
        | .ok t => (.ok (), t)
        | .error f => t.orDirectory here path f
    | .error f => t.orDirectory here path f

def makeDirectories (t : FileTree) (here : Place) (path : String) :
    Except Fault Unit × FileTree :=
  t.makeFirst here (Path.ancestors path)

end GraphqlBindings.FileTree

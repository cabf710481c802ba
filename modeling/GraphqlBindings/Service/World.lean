import GraphqlBindings.Service.Workspace

namespace GraphqlBindings

/-- Paths are seen from `directory`. `answers` gives the reply to a request, which may depend on
those before; `sent` has them, the last one first. A run with `patience` is cancelled once it has
been checked so many times. -/
structure World where
  files : FileTree
  directory : FileTree.Place
  answers : List Http.Request → Http.Request → Option Http.Reply
  sent : List Http.Request
  patience : Option Nat

namespace World

def ofFiles (files : FileTree) (directory : FileTree.Place) : World where
  files := files
  directory := directory
  answers := fun _ _ => none
  sent := []
  patience := none

def readText (path : String) (w : World) : Except FileTree.Fault String × World :=
  (w.files.readText w.directory path, w)

def filesBelow (path : String) (w : World) : Except FileTree.WalkFault (List String) × World :=
  (w.files.filesBelow w.directory path, w)

def makeDirectories (path : String) (w : World) : Except FileTree.Fault Unit × World :=
  let (result, files) := w.files.makeDirectories w.directory path
  (result, { w with files })

def writeText (path text : String) (w : World) : Except FileTree.Fault Unit × World :=
  match w.files.writeText w.directory path text with
  | .ok files => (.ok (), { w with files })
  | .error f => (.error f, w)

def send (request : Http.Request) (w : World) : Option Http.Reply × World :=
  (w.answers w.sent request, { w with sent := request :: w.sent })

def isCancelled (w : World) : Bool × World :=
  match w.patience with
  | none => (false, w)
  | some 0 => (true, w)
  | some (checks + 1) => (false, { w with patience := some checks })

def workspace : Workspace (StateM World) where
  readText := readText
  filesBelow := filesBelow
  makeDirectories := makeDirectories
  writeText := writeText
  send := send
  isCancelled := isCancelled

end World

end GraphqlBindings

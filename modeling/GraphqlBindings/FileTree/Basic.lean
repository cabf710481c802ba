namespace GraphqlBindings

inductive FileTree.Contents where
  | text (text : String)
  | bytes (bytes : List UInt8)
deriving DecidableEq, Repr, Inhabited

inductive FileTree where
  | file (contents : FileTree.Contents)
  | link (target : String)
  | directory (entries : List (String × FileTree))
deriving Repr, Inhabited

namespace FileTree

inductive Fault where
  | missing
  | existing
  | notDirectory
  | isDirectory
  | tooManyLinks
  | notText
  | other (message : String)
deriving DecidableEq, Repr, Inhabited

def Fault.message : Fault → String
  | .missing => "No such file or directory (os error 2)"
  | .existing => "File exists (os error 17)"
  | .notDirectory => "Not a directory (os error 20)"
  | .isDirectory => "Is a directory (os error 21)"
  | .tooManyLinks => "Too many levels of symbolic links (os error 40)"
  | .notText => "stream did not contain valid UTF-8"
  | .other message => message

abbrev Place := List String

def isDirectory : FileTree → Bool
  | .directory _ => true
  | _ => false

def entry? (t : FileTree) (name : String) : Option FileTree :=
  match t with
  | .directory entries => entries.lookup name
  | _ => none

def get? (t : FileTree) : Place → Option FileTree
  | [] => some t
  | name :: rest => (t.entry? name).bind (·.get? rest)

def setEntry (name : String) (new : FileTree) :
    List (String × FileTree) → List (String × FileTree)
  | [] => [(name, new)]
  | (n, old) :: rest => if name = n then (n, new) :: rest else (n, old) :: setEntry name new rest

def set (t new : FileTree) : Place → FileTree
  | [] => new
  | name :: rest =>
    match t with
    | .directory entries =>
      match entries.lookup name with
      | some old => .directory (setEntry name (old.set new rest) entries)
      | none => if rest.isEmpty then .directory (setEntry name new entries) else t
    | _ => t

mutual

def directories (here : Place) : FileTree → List Place
  | .directory entries => here :: entryDirectories here entries
  | _ => []

def entryDirectories (here : Place) : List (String × FileTree) → List Place
  | [] => []
  | (name, t) :: rest => directories (here ++ [name]) t ++ entryDirectories here rest

end

mutual

def files (here : Place) : FileTree → List (Place × Contents)
  | .file contents => [(here, contents)]
  | .link _ => []
  | .directory entries => entryFiles here entries

def entryFiles (here : Place) : List (String × FileTree) → List (Place × Contents)
  | [] => []
  | (name, t) :: rest => files (here ++ [name]) t ++ entryFiles here rest

end

end FileTree

end GraphqlBindings

namespace GraphqlBindings.Path

def isAbsolute (path : String) : Bool := path.toList.head? == some '/'

def endsInSlash (path : String) : Bool := path.toList.getLast? == some '/'

def join (base path : String) : String :=
  if isAbsolute path ∨ base.isEmpty then path
  else if endsInSlash base then base ++ path
  else base ++ "/" ++ path

def splitNames : List Char → List (List Char)
  | [] => [[]]
  | c :: rest =>
    if c = '/' then [] :: splitNames rest
    else match splitNames rest with
      | [] => [[c]]
      | name :: names => (c :: name) :: names

def names (path : String) : List String :=
  ((splitNames path.toList).filter (!·.isEmpty)).map String.ofList

def trimReversed : List Char → List Char
  | '/' :: rest => trimReversed rest
  | '.' :: '/' :: rest => trimReversed rest
  | cs => cs

def parent (path : String) : String :=
  let cs := trimReversed path.toList.reverse
  let above := trimReversed (cs.dropWhile (· != '/'))
  if above.isEmpty ∧ isAbsolute path ∧ !cs.isEmpty then "/" else .ofList above.reverse

def upwards : Nat → String → List String
  | 0, _ => []
  | count + 1, path => if path.isEmpty then [] else path :: upwards count (parent path)

def ancestors (path : String) : List String := upwards path.length path

def extension? (path : String) : Option String := do
  let name ← (names path).getLast?
  let cs := name.toList.reverse
  match cs.dropWhile (· != '.') with
  | '.' :: _ :: _ => if name = ".." then none else some (.ofList (cs.takeWhile (· != '.')).reverse)
  | _ => none

end GraphqlBindings.Path

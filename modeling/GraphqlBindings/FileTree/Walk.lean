import GraphqlBindings.FileTree.Lookup

/-!
Walking through a directory: all files below it, links being followed. A link to a directory that
the walk is in would never end, and is a fault.
-/

namespace GraphqlBindings.FileTree

inductive WalkFault where
  | atPath (path : String) (fault : Fault)
  | loop (path ancestor : String)
deriving DecidableEq, Repr, Inhabited

def WalkFault.message : WalkFault → String
  | .atPath path fault => s!"IO error for operation on {path}: {fault.message}"
  | .loop path ancestor =>
    s!"File system loop found: {path} points to an ancestor {ancestor}"

abbrev Trail := List (Place × String)

mutual

/-- Paths of the files at and below a node, in the order of the listings. `outside` has the
directories that the walk is not in. -/
def walkNode (t : FileTree) (here : Place) (trail : Trail) (outside : List Place) (path : String)
    (place : Place) (node : FileTree) : Except WalkFault (List String) :=
  match node with
  | .file _ => .ok [path]
  | .directory entries =>
    walkEntries t here ((place, path) :: trail) (outside.erase place) path place entries
  | .link _ =>
    match t.find true here path with
    | .error fault => .error (.atPath path fault)
    | .ok (target, .directory entries) =>
      if _h : target ∈ outside then
        walkEntries t here ((target, path) :: trail) (outside.erase target) path target entries
      else .error (.loop path ((trail.lookup target).getD ""))
    | .ok _ => .ok [path]
termination_by (outside.length, sizeOf node)
decreasing_by
  · rcases Nat.lt_or_eq_of_le (List.length_erase_le (a := place) (l := outside)) with h | h
    · exact Prod.Lex.left _ _ h
    · rw [h]; exact Prod.Lex.right _ (by simp)
  · refine Prod.Lex.left _ _ ?_
    have := List.length_pos_of_mem _h
    rw [List.length_erase_of_mem _h]
    omega

def walkEntries (t : FileTree) (here : Place) (trail : Trail) (outside : List Place)
    (path : String) (place : Place) :
    List (String × FileTree) → Except WalkFault (List String)
  | [] => .ok []
  | (name, node) :: rest => do
    let first ← walkNode t here trail outside (Path.join path name) (place ++ [name]) node
    let others ← walkEntries t here trail outside path place rest
    return first ++ others
termination_by entries => (outside.length, sizeOf entries)

end

def filesBelow (t : FileTree) (here : Place) (root : String) :
    Except WalkFault (List String) :=
  match t.find false here root with
  | .error fault => .error (.atPath root fault)
  | .ok (place, node) => walkNode t here [] (directories [] t) root place node

end GraphqlBindings.FileTree

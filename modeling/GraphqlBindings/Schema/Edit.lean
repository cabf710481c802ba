import GraphqlBindings.Schema.Basic

/-!
Edits of a schema that has been read. None of them makes a new index, so that a schema may have
one that is out of date.
-/

namespace GraphqlBindings.Schema

inductive Edit where
  | rename (position : Nat) (name : String)
  | setKind (position : Nat) (kind : TypeKind)
  | remove (position : Nat)
  | push (type : SchemaType)
  | reverse
  | setRoot (kind : OperationKind) (name : Option String)
deriving DecidableEq, Repr, Inhabited

def setRoot (s : Schema) (name : Option String) : OperationKind → Schema
  | .query => { s with queryType := name }
  | .mutation => { s with mutationType := name }
  | .subscription => { s with subscriptionType := name }

def edit (s : Schema) : Edit → Schema
  | .rename position name => { s with types := s.types.modify position fun t => { t with name } }
  | .setKind position kind => { s with types := s.types.modify position fun t => { t with kind } }
  | .remove position => { s with types := s.types.eraseIdx position }
  | .push type => { s with types := s.types ++ [type] }
  | .reverse => { s with types := s.types.reverse }
  | .setRoot kind name => s.setRoot name kind

theorem index_edit (s : Schema) (e : Edit) : (s.edit e).index = s.index := by
  cases e with
  | setRoot kind => cases kind <;> rfl
  | _ => rfl

end GraphqlBindings.Schema

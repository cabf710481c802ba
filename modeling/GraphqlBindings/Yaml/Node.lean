import GraphqlBindings.Yaml.Lexer

/-!
Nodes of a YAML document. An alias is the node that it refers to; one that refers to a node around
it has no value.
-/

namespace GraphqlBindings.Yaml

inductive Node where
  | scalar (style : ScalarStyle) (tag : Option String) (text : String)
  | sequence (items : List Node)
  | mapping (entries : List (Node × Node))
  | cyclic
deriving Repr, Inhabited

namespace Node

def empty : Node := .scalar .plain none ""

end Node

structure Builder where
  tokens : List Token
  handles : List (String × String)
  anchors : List (String × Nat × Node)

namespace Builder

abbrev Build := StateT Builder Option

def peek : Build (Option Token) := do return (← get).tokens.head?

def advance : Build Unit := modify fun b => { b with tokens := b.tokens.drop 1 }

def fail {α : Type} : Build α := fun _ => none

def at? (ts : List Token) : Build Bool := do
  return ((← peek).map ts.contains).getD true

def register (name : String) : Build Nat := do
  let b ← get
  let number := b.anchors.length
  set { b with anchors := (name, number, Node.cyclic) :: b.anchors }
  return number

def complete (number : Nat) (node : Node) : Build Unit :=
  modify fun b =>
    { b with anchors := b.anchors.map fun (n, i, old) => (n, i, if i = number then node else old) }

def resolveTag (handle suffix : String) : Build String := do
  if handle.isEmpty then return suffix
  match (← get).handles.lookup handle with
  | some target => return target ++ suffix
  | none => fail

def properties : Build (Option Nat × Option String) := do
  match ← peek with
  | some (.anchor name) =>
    advance
    match ← peek with
    | some (.tag handle suffix) =>
      advance
      let tag ← resolveTag handle suffix
      return (some (← register name), some tag)
    | _ => return (some (← register name), none)
  | some (.tag handle suffix) =>
    advance
    match ← peek with
    | some (.anchor name) =>
      advance
      let tag ← resolveTag handle suffix
      return (some (← register name), some tag)
    | _ => return (none, some (← resolveTag handle suffix))
  | _ => return (none, none)

mutual

def node : Nat → Bool → Bool → Build Node
  | 0, _, _ => fail
  | fuel + 1, block, indentless => do
    match ← peek with
    | some (.alias name) =>
      advance
      match (← get).anchors.find? (·.1 == name) with
      | some (_, _, node) => return node
      | none => fail
    | _ =>
      let (anchor, tag) ← properties
      let result ← content fuel block indentless tag (anchor.isSome || tag.isSome)
      match anchor with
      | some number => complete number result
      | none => pure ()
      return result

def content : Nat → Bool → Bool → Option String → Bool → Build Node
  | 0, _, _, _, _ => fail
  | fuel + 1, block, indentless, tag, mayBeEmpty => do
    match ← peek with
    | some .blockEntry =>
      if indentless then return .sequence (← indentlessItems fuel)
      else if mayBeEmpty then return .scalar .plain tag ""
      else fail
    | some (.scalar style text) =>
      advance
      return .scalar style tag text
    | some .flowSequenceStart =>
      advance
      return .sequence (← flowItems fuel true)
    | some .flowMappingStart =>
      advance
      return .mapping (← flowEntries fuel true)
    | some .blockSequenceStart =>
      if block then
        advance
        return .sequence (← blockItems fuel)
      else if mayBeEmpty then return .scalar .plain tag ""
      else fail
    | some .blockMappingStart =>
      if block then
        advance
        return .mapping (← blockEntries fuel)
      else if mayBeEmpty then return .scalar .plain tag ""
      else fail
    | _ => if mayBeEmpty then return .scalar .plain tag "" else fail

def nodeUnless : Nat → List Token → Bool → Bool → Build Node
  | 0, _, _, _ => fail
  | fuel + 1, ends, block, indentless => do
    if ← at? ends then return .empty else node fuel block indentless

def blockItems : Nat → Build (List Node)
  | 0 => fail
  | fuel + 1 => do
    match ← peek with
    | some .blockEntry =>
      advance
      let item ← nodeUnless fuel [.blockEntry, .blockEnd] true false
      return item :: (← blockItems fuel)
    | some .blockEnd =>
      advance
      return []
    | _ => fail

def indentlessItems : Nat → Build (List Node)
  | 0 => fail
  | fuel + 1 => do
    match ← peek with
    | some .blockEntry =>
      advance
      let item ← nodeUnless fuel [.blockEntry, .key, .value, .blockEnd] true false
      return item :: (← indentlessItems fuel)
    | _ => return []

def blockValue : Nat → Build Node
  | 0 => fail
  | fuel + 1 => do
    if (← peek) = some .value then
      advance
      nodeUnless fuel [.key, .value, .blockEnd] true true
    else return .empty

def blockEntries : Nat → Build (List (Node × Node))
  | 0 => fail
  | fuel + 1 => do
    match ← peek with
    | some .key =>
      advance
      let key ← nodeUnless fuel [.key, .value, .blockEnd] true true
      let value ← blockValue fuel
      return (key, value) :: (← blockEntries fuel)
    | some .blockEnd =>
      advance
      return []
    | _ => fail

def flowValue : Nat → Token → Build Node
  | 0, _ => fail
  | fuel + 1, closing => do
    if (← peek) = some .value then
      advance
      nodeUnless fuel [.flowEntry, closing] false false
    else return .empty

def flowItems : Nat → Bool → Build (List Node)
  | 0, _ => fail
  | fuel + 1, first => do
    if (← peek) = some .flowSequenceEnd then
      advance
      return []
    if !first then
      if (← peek) = some .flowEntry then advance else fail
    match ← peek with
    | some .flowSequenceEnd =>
      advance
      return []
    | some .key =>
      advance
      let key ← nodeUnless fuel [.value, .flowEntry, .flowSequenceEnd] false false
      let value ← flowValue fuel .flowSequenceEnd
      return .mapping [(key, value)] :: (← flowItems fuel false)
    | _ =>
      let item ← node fuel false false
      return item :: (← flowItems fuel false)

def flowEntries : Nat → Bool → Build (List (Node × Node))
  | 0, _ => fail
  | fuel + 1, first => do
    if (← peek) = some .flowMappingEnd then
      advance
      return []
    if !first then
      if (← peek) = some .flowEntry then advance else fail
    match ← peek with
    | some .flowMappingEnd =>
      advance
      return []
    | some .key =>
      advance
      let key ← nodeUnless fuel [.value, .flowEntry, .flowMappingEnd] false false
      let value ← flowValue fuel .flowMappingEnd
      return (key, value) :: (← flowEntries fuel false)
    | _ =>
      let key ← node fuel false false
      return (key, .empty) :: (← flowEntries fuel false)

end

def directives : Nat → Bool → List (String × String) → Build (List (String × String))
  | 0, _, _ => fail
  | fuel + 1, versioned, handles => do
    match ← peek with
    | some (.version major minor) =>
      if versioned ∨ major ≠ 1 ∨ (minor ≠ 1 ∧ minor ≠ 2) then fail
      advance
      directives fuel true handles
    | some (.tagHandle handle target) =>
      if (handles.lookup handle).isSome then fail
      advance
      directives fuel versioned (handles ++ [(handle, target)])
    | _ => return handles

def standardHandles : List (String × String) := [("!", "!"), ("!!", "tag:yaml.org,2002:")]

def document : Build Node := do
  let length := (← get).tokens.length
  let fuel := 4 * length + 4
  let handles ← directives fuel false []
  modify fun b => { b with handles := handles ++ standardHandles }
  let root ← match ← peek with
    | none => if length = 0 then pure Node.empty else fail
    | some .documentStart =>
      advance
      match ← peek with
      | none | some .documentStart | some .documentEnd | some (.version ..)
      | some (.tagHandle ..) => pure Node.empty
      | _ => node fuel true false
    | _ => if (← get).tokens.length = length then node fuel true false else fail
  modify fun b => { b with tokens := b.tokens.dropWhile (· == .documentEnd) }
  match ← peek with
  | none => return root
  | some _ => fail

end Builder

def Node.ofText? (text : String) : Option Node := do
  let tokens ← tokens? text
  (Builder.document.run' ⟨tokens, [], []⟩)

end GraphqlBindings.Yaml

import Transclusion.Yaml.Token

/-!
The node tree of a YAML document. A tag is kept with its handle resolved; a scalar
knows whether its text decides what it stands for. An alias is the node that its
anchor names.
-/

namespace Transclusion.Yaml

inductive Node where
  | scalar (tag : Option Text) (open_ : Bool) (content : Text)
  | sequence (tag : Option Text) (items : List Node)
  | mapping (tag : Option Text) (entries : List (Node × Node))
  deriving Inhabited

namespace Node

def empty : Node := .scalar none true []

structure State where
  source : TokenSource
  handles : List (Text × Text) := []
  anchors : List (Text × Node) := []

abbrev Parse := StateT State (Except Fault)

def standardHandles : List (Text × Text) :=
  [(['!'], ['!']), (['!', '!'], "tag:yaml.org,2002:".toList)]

def peek : Parse Token := do
  let (token, source) ← (← get).source.first
  modify fun state => { state with source }
  return token

def drop : Parse Unit :=
  modify fun state => { state with source := state.source.drop }

def fail (fault : Fault) : Parse α := throw fault

structure Properties where
  anchor : Option Text := none
  tag : Option (Option Text × Text) := none

def Properties.isEmpty (properties : Properties) : Bool :=
  properties.anchor.isNone && properties.tag.isNone

/-- An anchor and a tag before a node, in either order. -/
def properties : Parse Properties := do
  match ← peek with
  | .anchor name =>
      drop
      match ← peek with
      | .tag handle uri => drop; return { anchor := some name, tag := some (handle, uri) }
      | _ => return { anchor := some name }
  | .tag handle uri =>
      drop
      match ← peek with
      | .anchor name => drop; return { anchor := some name, tag := some (handle, uri) }
      | _ => return { tag := some (handle, uri) }
  | _ => return {}

def resolveTag (properties : Properties) : Parse (Option Text) := do
  match properties.tag with
  | none => return none
  | some (none, uri) => return some uri
  | some (some handle, uri) =>
      match (← get).handles.lookup handle with
      | some start => return some (start ++ uri)
      | none => fail .nesting

def checkAnchor (properties : Properties) : Parse Unit := do
  match properties.anchor with
  | some name => if ((← get).anchors.lookup name).isSome then fail .document
  | none => return

def remember (properties : Properties) (node : Node) : Parse Node := do
  match properties.anchor with
  | some name => modify fun state => { state with anchors := (name, node) :: state.anchors }
  | none => pure ()
  return node

/-- Properties alone stand for an empty scalar; nothing at all is no node. -/
def emptyNode (found : Properties) (tag : Option Text) (implicit : Bool) : Parse Node := do
  if found.isEmpty then fail .nesting
  else
    checkAnchor found
    remember found (.scalar tag implicit [])

/-- Where a node stands, which decides what collections may begin there. -/
inductive Position where
  | flow
  | block
  | blockOrEntries
  deriving DecidableEq

/-- The node after a key or value mark of a block mapping, which may be missing. -/
def blockPart (node : Parse Node) : Parse Node := do
  match ← peek with
  | .key => return empty
  | .value => return empty
  | .blockEnd => return empty
  | _ => node

def blockValue (node : Parse Node) : Parse Node := do
  match ← peek with
  | .value =>
      drop
      blockPart node
  | _ => return empty

/-- The node after a key mark in a flow sequence, which may be missing. -/
def flowPart (node : Parse Node) : Parse Node := do
  match ← peek with
  | .value => return empty
  | .flowEntry => return empty
  | .flowSequenceEnd => return empty
  | _ => node

def flowValue (node : Parse Node) : Parse Node := do
  match ← peek with
  | .value =>
      drop
      match ← peek with
      | .flowEntry => return empty
      | .flowSequenceEnd => return empty
      | _ => node
  | _ => return empty

/-- The node after a key or value mark in a flow mapping, which may be missing. -/
def mapPart (node : Parse Node) : Parse Node := do
  match ← peek with
  | .value => return empty
  | .flowEntry => return empty
  | .flowMappingEnd => return empty
  | _ => node

mutual

def node (position : Position) : Nat → Parse Node
  | 0 => fail .nesting
  | fuel + 1 => do
      match ← peek with
      | .alias name =>
          drop
          match (← get).anchors.lookup name with
          | some found => return found
          | none => fail .document
      | _ =>
          let found ← properties
          let tag ← resolveTag found
          let implicit := tag.isNone || tag == some ['!']
          let kept := if implicit then none else tag
          match position, ← peek with
          | .blockOrEntries, .blockEntry =>
              checkAnchor found
              remember found (.sequence kept (← indentlessEntries fuel))
          | _, .scalar content plain =>
              drop
              checkAnchor found
              remember found (.scalar kept ((plain && tag.isNone) || tag == some ['!']) content)
          | _, .flowSequenceStart =>
              drop
              checkAnchor found
              remember found (.sequence kept (← flowItems true fuel))
          | _, .flowMappingStart =>
              drop
              checkAnchor found
              remember found (.mapping kept (← flowEntries true fuel))
          | .flow, _ => emptyNode found kept implicit
          | _, .blockSequenceStart =>
              drop
              checkAnchor found
              remember found (.sequence kept (← blockItems fuel))
          | _, .blockMappingStart =>
              drop
              checkAnchor found
              remember found (.mapping kept (← blockEntries fuel))
          | _, _ => emptyNode found kept implicit

def blockItems : Nat → Parse (List Node)
  | 0 => fail .nesting
  | fuel + 1 => do
      match ← peek with
      | .blockEntry =>
          drop
          let item ←
            match ← peek with
            | .blockEntry => pure empty
            | .blockEnd => pure empty
            | _ => node .block fuel
          return item :: (← blockItems fuel)
      | .blockEnd => drop; return []
      | _ => fail .nesting

def indentlessEntries : Nat → Parse (List Node)
  | 0 => fail .nesting
  | fuel + 1 => do
      match ← peek with
      | .blockEntry =>
          drop
          let item ←
            match ← peek with
            | .blockEntry => pure empty
            | .key => pure empty
            | .value => pure empty
            | .blockEnd => pure empty
            | _ => node .block fuel
          return item :: (← indentlessEntries fuel)
      | _ => return []

def blockEntries : Nat → Parse (List (Node × Node))
  | 0 => fail .nesting
  | fuel + 1 => do
      match ← peek with
      | .key =>
          drop
          let inner :=
            match fuel with
            | 0 => fail .nesting
            | fuel + 1 => node .blockOrEntries fuel
          let key ← blockPart inner
          let item ← blockValue inner
          return (key, item) :: (← blockEntries fuel)
      | .blockEnd => drop; return []
      | _ => fail .nesting

def flowItems (first : Bool) : Nat → Parse (List Node)
  | 0 => fail .nesting
  | fuel + 1 => do
      match ← peek with
      | .flowSequenceEnd => drop; return []
      | token =>
          if !first then
            match token with
            | .flowEntry => drop
            | _ => fail .nesting
          match ← peek with
          | .flowSequenceEnd => drop; return []
          | .key =>
              drop
              let inner :=
                match fuel with
                | 0 => fail .nesting
                | fuel + 1 => node .flow fuel
              let key ← flowPart inner
              let item ← flowValue inner
              return .mapping none [(key, item)] :: (← flowItems false fuel)
          | _ =>
              let item ← node .flow fuel
              return item :: (← flowItems false fuel)

def flowEntries (first : Bool) : Nat → Parse (List (Node × Node))
  | 0 => fail .nesting
  | fuel + 1 => do
      match ← peek with
      | .flowMappingEnd => drop; return []
      | token =>
          if !first then
            match token with
            | .flowEntry => drop
            | _ => fail .nesting
          match ← peek with
          | .flowMappingEnd => drop; return []
          | .key =>
              drop
              let inner :=
                match fuel with
                | 0 => fail .nesting
                | fuel + 1 => node .flow fuel
              let key ← mapPart inner
              let item ←
                match ← peek with
                | .value => drop; mapPart inner
                | _ => pure empty
              return (key, item) :: (← flowEntries false fuel)
          | _ =>
              let key ← node .flow fuel
              return (key, empty) :: (← flowEntries false fuel)

end

end Node

end Transclusion.Yaml

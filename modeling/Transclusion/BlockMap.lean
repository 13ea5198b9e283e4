import Transclusion.Text.Casefold

/-!
The blocks of a text, in order of first definition. Names are compared folded,
and single and multi-value blocks of one name are kept apart. The first
single-value definition of a name stays; multi-value definitions are joined by
line feeds. A display key is the name as first spelled, with the separator
after it when the block is multi-value.
-/

namespace Transclusion

structure Block where
  name : Text
  multi : Bool
  content : Text
  deriving DecidableEq, Repr

namespace Block

def answers (block : Block) (name : Text) (multi : Bool) : Bool :=
  Text.fold block.name == Text.fold name && block.multi == multi

end Block

/-- Texts joined by line feeds. -/
def joinLines (texts : List Text) : Text := ['\n'].intercalate texts

structure BlockMap where
  split : Text := ['_']
  blocks : List Block := []
  deriving DecidableEq, Repr

namespace BlockMap

def insert (name content : Text) (multi : Bool) : List Block → List Block
  | [] => [⟨name, multi, content⟩]
  | block :: rest =>
      if block.answers name multi then
        (if multi then { block with content := block.content ++ '\n' :: content } else block) :: rest
      else block :: insert name content multi rest

def add (map : BlockMap) (name content : Text) (multi : Bool) : BlockMap :=
  { map with blocks := insert name content multi map.blocks }

def find? (map : BlockMap) (name : Text) (multi : Bool) : Option Block :=
  map.blocks.find? fun block => block.answers name multi

def lookup (map : BlockMap) (name : Text) (multi : Bool) : Option Text :=
  (map.find? name multi).map (·.content)

def singleNames (map : BlockMap) : List Text :=
  (map.blocks.filter fun block => !block.multi).map (·.name)

def displayKey (map : BlockMap) (block : Block) : Text :=
  if block.multi then block.name ++ map.split else block.name

def items (map : BlockMap) : List (Text × Text) :=
  map.blocks.map fun block => (map.displayKey block, block.content)

def keys (map : BlockMap) : List Text := map.blocks.map map.displayKey

/-- Equal keys are one entry: the place of the first and the content of the last. -/
def assign (key content : Text) : List (Text × Text) → List (Text × Text)
  | [] => [(key, content)]
  | entry :: rest =>
      if entry.1 = key then (key, content) :: rest else entry :: assign key content rest

def toDictionary (map : BlockMap) : List (Text × Text) :=
  map.items.foldl (fun entries item => assign item.1 item.2 entries) []

/-- A display key names a single-value block first, and a multi-value block when
it ends with the separator. -/
def findKey? (map : BlockMap) (key : Text) : Option Block :=
  (map.find? key false).or
    (if map.split != [] && map.split.isSuffixOf key then
      map.find? (key.take (key.length - map.split.length)) true
    else none)

def get? (map : BlockMap) (key : Text) : Option Text := (map.findKey? key).map (·.content)

def contains (map : BlockMap) (key : Text) : Bool := (map.findKey? key).isSome

def size (map : BlockMap) : Nat := map.blocks.length

end BlockMap

end Transclusion

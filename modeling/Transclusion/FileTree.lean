import Transclusion.Path
import Transclusion.Text.Utf8

/-!
A tree of folders and files, and the operations on it that engine and commands
use. An operation that gives no tree leaves it as it was.
-/

namespace Transclusion

/-- Why the system refuses an operation. -/
inductive Refusal where
  | missing
  | taken
  | notFolder
  | isFolder
  | nameTooLong
  deriving DecidableEq, Repr

namespace Refusal

def number : Refusal → Nat
  | .missing => 2
  | .taken => 17
  | .notFolder => 20
  | .isFolder => 21
  | .nameTooLong => 36

def text : Refusal → String
  | .missing => "No such file or directory"
  | .taken => "File exists"
  | .notFolder => "Not a directory"
  | .isFolder => "Is a directory"
  | .nameTooLong => "File name too long"

end Refusal

inductive FileFault where
  | refused (refusal : Refusal) (path : String)
  | occupied (path : String)
  | absent (path : String)
  | nullCharacter
  deriving DecidableEq, Repr

namespace FileFault

def message : FileFault → String
  | .refused refusal path =>
      "[Errno " ++ toString refusal.number ++ "] " ++ refusal.text ++ ": " ++
        String.ofList (Text.quoted path.toList)
  | .occupied path => "Path exists but is not a directory: " ++ path
  | .absent path => "File not found: " ++ path
  | .nullCharacter => "embedded null byte"

/-- The reason alone, where the system gives one. -/
def reason : FileFault → String
  | .refused refusal _ => refusal.text
  | fault => fault.message

/-- Whether the fault is one of the files, and not of the path. -/
def isOfFiles : FileFault → Bool
  | .nullCharacter => false
  | _ => true

end FileFault

inductive FileNode where
  | folder
  | file (octets : List UInt8)
  deriving DecidableEq, Repr

/-- The names that lead from the root to a place in a tree. -/
abbrev Location := List String

structure FileTree where
  entries : List (Location × FileNode) := []

namespace FileTree

def node? (tree : FileTree) (location : Location) : Option FileNode :=
  if location = [] then some .folder else tree.entries.lookup location

def put (location : Location) (node : FileNode) (tree : FileTree) : FileTree :=
  if (tree.entries.lookup location).isSome then
    { entries := tree.entries.map fun entry =>
        if entry.1 = location then (location, node) else entry }
  else { entries := tree.entries ++ [(location, node)] }

def longestName : Nat := 255

def longestPath : Nat := 4095

/-- Follows names from a place; a step needs a folder to start from. -/
def follow (tree : FileTree) : Location → List String → Except Refusal Location
  | here, [] => .ok here
  | here, name :: rest =>
      match tree.node? here with
      | none => .error .missing
      | some (.file _) => .error .notFolder
      | some .folder =>
          if name = ".." then follow tree here.dropLast rest
          else if longestName < name.utf8ByteSize then .error .nameTooLong
          else follow tree (here ++ [name]) rest

def locate (tree : FileTree) (path : Path) : Except Refusal Location :=
  if longestPath < path.toString.utf8ByteSize then .error .nameTooLong
  else tree.follow [] path.names

/-- What stands at a path; names that lead nowhere are nothing. -/
def find? (tree : FileTree) (path : Path) : Except FileFault (Option FileNode) :=
  if !path.isNameable then .ok none
  else match tree.locate path with
  | .ok location => .ok (tree.node? location)
  | .error .nameTooLong => .error (.refused .nameTooLong path.toString)
  | .error _ => .ok none

def isPresent (tree : FileTree) (path : Path) : Except FileFault Bool := do
  return (← tree.find? path).isSome

def isFolder (tree : FileTree) (path : Path) : Except FileFault Bool := do
  return (← tree.find? path) == some .folder

def octetsAt (tree : FileTree) (path : Path) : Except FileFault (List UInt8) :=
  if !path.isNameable then .error .nullCharacter
  else match tree.locate path with
  | .error refusal => .error (.refused refusal path.toString)
  | .ok location =>
      match tree.node? location with
      | none => .error (.refused .missing path.toString)
      | some .folder => .error (.refused .isFolder path.toString)
      | some (.file octets) => .ok octets

/-- Makes one folder in a folder that is there. -/
def makeFolder (tree : FileTree) (path : Path) : Except Refusal FileTree :=
  match tree.locate path with
  | .error refusal => .error refusal
  | .ok location =>
      match tree.node? location with
      | some .folder => .ok tree
      | some (.file _) => .error .taken
      | none =>
          match tree.node? location.dropLast with
          | some .folder => .ok (tree.put location .folder)
          | some (.file _) => .error .notFolder
          | none => .error .missing

/-- Makes a folder and those above it that are missing; `depth` bounds how many. Those that were
made stay when the folder itself is refused. -/
def makeFolders (tree : FileTree) : Nat → Path → FileTree × Option FileFault
  | 0, path => (tree, some (.refused .missing path.toString))
  | depth + 1, path =>
      match tree.makeFolder path with
      | .ok tree => (tree, none)
      | .error .missing =>
          match tree.makeFolders depth path.parent with
          | (tree, some fault) => (tree, some fault)
          | (tree, none) =>
              match tree.makeFolder path with
              | .ok tree => (tree, none)
              | .error refusal => (tree, some (.refused refusal path.toString))
      | .error refusal => (tree, some (.refused refusal path.toString))

/-- What comes of asking for a folder at the path. -/
def withFolder (tree : FileTree) (path : Path) : FileTree × Option FileFault :=
  match tree.find? path with
  | .error fault => (tree, some fault)
  | .ok (some .folder) => (tree, none)
  | .ok (some (.file _)) => (tree, some (.occupied path.toString))
  | .ok none =>
      if path.isNameable then tree.makeFolders (path.names.length + 1) path
      else (tree, some .nullCharacter)

/-- The tree with a folder at the path. -/
def ensureFolder (tree : FileTree) (path : Path) : Except FileFault FileTree :=
  match tree.withFolder path with
  | (tree, none) => .ok tree
  | (_, some fault) => .error fault

/-- Puts a file in the place of whatever file is there. -/
def replaceFile (tree : FileTree) (path : Path) (octets : List UInt8) :
    Except FileFault FileTree :=
  if !path.isNameable then .error .nullCharacter
  else match tree.locate path with
  | .error refusal => .error (.refused refusal path.toString)
  | .ok location =>
      match tree.node? location with
      | some .folder => .error (.refused .isFolder path.toString)
      | _ => .ok (tree.put location (.file octets))

/-- Makes the folder of a file and writes it. The folder stays when writing fails. -/
def writeFile (tree : FileTree) (path : Path) (octets : List UInt8) :
    FileTree × Option FileFault :=
  match tree.withFolder path.parent with
  | (tree, some fault) => (tree, some fault)
  | (tree, none) =>
      match tree.replaceFile path octets with
      | .error fault => (tree, some fault)
      | .ok tree => (tree, none)

/-- The tree with more at the end of a file, which is made when it is not there. -/
def appendTo (tree : FileTree) (path : Path) (octets : List UInt8) :
    Except FileFault FileTree :=
  if !path.isNameable then .error .nullCharacter
  else match tree.locate path with
  | .error refusal => .error (.refused refusal path.toString)
  | .ok location =>
      match tree.node? location with
      | some .folder => .error (.refused .isFolder path.toString)
      | some (.file before) => .ok (tree.put location (.file (before ++ octets)))
      | none => .ok (tree.put location (.file octets))

/-- Names directly inside a place. -/
def childNames (tree : FileTree) (location : Location) : List String :=
  tree.entries.filterMap fun entry =>
    match entry.1.getLast? with
    | some name => if entry.1.dropLast = location then some name else none
    | none => none

/-- Everything below a folder, by its path from there. -/
def below (tree : FileTree) (path : Path) : List String :=
  match tree.locate path with
  | .ok location =>
      let inside := tree.entries.filterMap fun entry =>
        if location.isPrefixOf entry.1 && location != entry.1 then
          some (String.intercalate "/" (entry.1.drop location.length))
        else none
      inside.mergeSort fun first second => decide (first ≤ second)
  | .error _ => []

end FileTree

end Transclusion

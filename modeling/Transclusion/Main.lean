import Std.Time.Format
import Transclusion.Command.Run

/-!
The program itself: gathers from the system what a command needs, runs the command,
prints what it has to say, and writes the files that it changed.
-/

namespace Transclusion

def octetsOf (array : ByteArray) : List UInt8 := array.toList

/-- The tree with a folder or file of the system in it, and all that is below. -/
partial def gather (base : IO.FS.DirEntry) (path : Path) (tree : FileTree) : IO FileTree := do
  let place := base.root / path.toString
  if ← place.isDir then
    let mut tree := (tree.ensureFolder path).toOption.getD tree
    for entry in ← place.readDir do
      tree ← gather base (path.child entry.fileName) tree
    return tree
  else if ← place.pathExists then
    let octets ← IO.FS.readBinFile place
    let tree := (tree.ensureFolder path.parent).toOption.getD tree
    return tree.put path.names (.file (octetsOf octets))
  else return tree

/-- The variables of the environment, as the system lists them. -/
def environment : IO (List (String × String)) := do
  let octets ← IO.FS.readBinFile "/proc/self/environ"
  let text := (String.fromUTF8? octets).getD ""
  return (text.toList.splitOn '\x00').filterMap fun entry =>
    match entry.dropWhile (· != '=') with
    | [] => none
    | _ :: value => some (String.ofList (entry.takeWhile (· != '=')), String.ofList value)

/-- Paths that arguments and variables name, the current folder, and the project
folders above it. -/
def namedPaths (here : Surroundings) (arguments : List String) : List Path :=
  let named := match Command.readRequest arguments with
    | .ok request =>
        request.root.toList ++
          match request.task with
          | .save _ file _ => file.toList
          | _ => []
    | .error _ => []
  let root := (here.environment.lookup Surroundings.rootVariable).toList
  let above := Surroundings.ancestors here.folder.names.length here.folder
  (named ++ root).filterMap (fun text =>
      (here.resolve (((Path.ofString text).expandHome here.home).getD (Path.ofString text))).toOption) ++
    above.map (fun path => path.child Surroundings.projectFolder) ++ [here.folder]

/-- Paths outside of the project that its settings name. -/
def settingPaths (here : Surroundings) (tree : FileTree) (asked : Option String) : List Path :=
  let occasion : Command.Occasion := { surroundings := here }
  let work : Command.Work (List Path) := do
    let root ← Command.projectRoot occasion asked
    let data ← Command.settingsWork occasion fun tree environment =>
      Settings.load tree environment root
    let settings := Command.settingsAt occasion root data
    let storage ← Command.settle settings.storagePath
    let folder ← Command.settle settings.overrideFolder
    let journal ← Command.settle settings.logPath
    return root :: storage :: folder.toList ++ journal.toList
  match (work.run.run { workspace := { files := tree } }).1 with
  | .ok paths => paths
  | .error _ => []

/-- Makes a folder or file of the system what it is in the tree. -/
def store (base : IO.FS.DirEntry) (location : Location) (node : FileNode) : IO Unit := do
  let place := base.root / ("/" ++ String.intercalate "/" location)
  match node with
  | .folder => IO.FS.createDirAll place
  | .file octets =>
      IO.FS.createDirAll (place.parent.getD place)
      IO.FS.writeBinFile place (ByteArray.mk octets.toArray)

/-- What stands in the second tree and not in the first. -/
def changes (before after : FileTree) : List (Location × FileNode) :=
  after.entries.filter fun entry => before.node? entry.1 != some entry.2

def readsInput (arguments : List String) : Bool :=
  match Command.readRequest arguments with
  | .ok { task := .save _ none _, .. } => true
  | _ => false

end Transclusion

open Transclusion in
/-- Runs the command that the arguments name. -/
def main (arguments : List String) : IO UInt32 := do
  let current ← IO.currentDir
  let base : IO.FS.DirEntry := { root := current, fileName := "" }
  let given ← environment
  let here : Surroundings :=
    { folder := Path.ofString current.toString
      home := (given.lookup "HOME").getD ""
      environment := given }
  let asked := (Command.readRequest arguments).toOption.bind (·.root)
  let mut tree : FileTree := {}
  for path in namedPaths here arguments do
    tree ← gather base path tree
  for path in settingPaths here tree asked do
    tree ← gather base path tree
  let input ← if readsInput arguments then (← IO.getStdin).readToEnd else pure ""
  let stamp := (← Std.Time.PlainDateTime.now).format "uuuu-MM-dd HH:mm:ss,SSS"
  let occasion : Command.Occasion :=
    { surroundings := here, input := Text.unixLines input.toList, stamp }
  let (result, desk) := Command.run occasion arguments { files := tree }
  for (location, node) in changes tree desk.workspace.files do
    store base location node
  IO.print desk.output
  IO.eprint desk.errors
  match result with
  | .ok status => return UInt32.ofNat status
  | .error fault =>
      IO.eprintln fault.message
      return 1

import Transclusion.FileTree
import Transclusion.Session
import Transclusion.Text.Uppercase

/-!
The journal: which records go to a file, and to which one. Configuring another file
changes the file and the level; configuring the one that is written to changes
nothing. When the file cannot be opened, no file is written to any more.
-/

namespace Transclusion

namespace Severity

def rank : Severity → Nat
  | .debug => 10
  | .info => 20
  | .warning => 30
  | .error => 40
  | .critical => 50

end Severity

/-- A level of zero leaves it to the standard level. -/
structure Journal where
  level : Nat := Severity.debug.rank
  output : Option (Path × Nat) := none
  deriving DecidableEq, Repr

/-- What commands leave behind: files, and the journal. -/
structure Workspace where
  files : FileTree := {}
  journal : Journal := {}

namespace Journal

def levels : List (String × Nat) :=
  [("CRITICAL", 50), ("FATAL", 50), ("ERROR", 40), ("WARN", 30), ("WARNING", 30), ("INFO", 20),
   ("DEBUG", 10), ("NOTSET", 0)]

/-- The level of a name in any case; other names mean the level of information. -/
def levelOf (name : String) : Nat :=
  (levels.lookup (String.ofList (Text.upper name.toList))).getD Severity.info.rank

/-- The level from which on records are looked at. -/
def threshold (journal : Journal) : Nat :=
  if journal.level = 0 then Severity.warning.rank else journal.level

def sourceName : String := "textblocks"

/-- The sources whose records are kept: the program and its parts. -/
def isOwn (source : String) : Bool :=
  source == sourceName || (sourceName ++ ".").toList.isPrefixOf source.toList

/-- The file that a record goes to, if it goes to one. -/
def outputFor? (journal : Journal) (record : Record) : Option Path :=
  match journal.output with
  | some (path, level) =>
      if isOwn record.source && journal.threshold ≤ record.severity.rank
          && level ≤ record.severity.rank then
        some path
      else none
  | none => none

def writesTo (journal : Journal) (path : Path) : Bool :=
  match journal.output with
  | some (current, _) => current == path
  | none => false

def line (stamp : String) (record : Record) : String :=
  stamp ++ " " ++ record.severity.name ++ " " ++ record.source ++ ": " ++ record.message ++ "\n"

/-- No file is written to, and the level is the standard one. -/
def reset : Journal := { level := 0 }

end Journal

namespace Workspace

/-- Has records of a level and above written to a file. -/
def configure (path : Path) (level : Nat) (workspace : Workspace) :
    Workspace × Option FileFault :=
  if workspace.journal.writesTo path then (workspace, none)
  else
    match workspace.files.withFolder path.parent with
    | (files, some fault) => ({ workspace with files }, some fault)
    | (files, none) =>
        match files.appendTo path [] with
        | .error fault => ({ files, journal := { level } }, some fault)
        | .ok files => ({ files, journal := { level, output := some (path, level) } }, none)

/-- Writes a record, with the time that `stamp` says, to the file it goes to. -/
def write (stamp : String) (workspace : Workspace) (record : Record) : Workspace :=
  match workspace.journal.outputFor? record with
  | some path =>
      let line := (Journal.line stamp record).toUTF8.toList
      match workspace.files.appendTo path line with
      | .ok files => { workspace with files }
      | .error _ => workspace
  | none => workspace

def writeAll (stamp : String) (records : List Record) (workspace : Workspace) : Workspace :=
  records.foldl (write stamp) workspace

end Workspace

end Transclusion

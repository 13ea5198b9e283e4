import Transclusion.Command.Request
import Transclusion.Journal
import Transclusion.Settings.Sections

/-!
What commands work with: the place and time at which the program is called, the
files and the journal, and what was printed so far. Records of a command are written
to the journal as it stands when they are made.
-/

namespace Transclusion.Command

/-- A call of the program. `stamp` tells the time in the journal. -/
structure Occasion where
  surroundings : Surroundings
  input : Text := []
  stamp : String := ""

/-- Files, journal, and what was printed. -/
structure Desk where
  workspace : Workspace
  output : String := ""
  errors : String := ""

/-- Work at a desk. What was done and printed before a fault stays. -/
abbrev Work := ExceptT Fault (StateM Desk)

def settle {Answer : Type} (result : Except Fault Answer) : Work Answer :=
  match result with
  | .ok answer => return answer
  | .error fault => throw fault

def files : Work FileTree := do return (← get).workspace.files

def say (line : String) : Work Unit :=
  modify fun desk => { desk with output := desk.output ++ line ++ "\n" }

def complain (line : String) : Work Unit :=
  modify fun desk => { desk with errors := desk.errors ++ line ++ "\n" }

def prettyText (value : Value) : Except Fault String :=
  (Json.pretty 0 value).mapError fun cause =>
    match cause with
    | .key key => .badKey key
    | .digits => .noText

def sayJson (value : Value) : Work Unit := do say (← settle (prettyText value))

def complainJson (value : Value) : Work Unit := do complain (← settle (prettyText value))

/-- Keeps what an act did to the files, and writes its records to the journal. -/
def keepRecords (stamp : String) (records : List Record) (files : FileTree) : Work Unit :=
  modify fun desk =>
    { desk with workspace := { desk.workspace with files }.writeAll stamp records }

/-- The project root: the one that was asked for, or the one found from here. -/
def projectRoot (occasion : Occasion) (asked : Option String) : Work Path := do
  let here := occasion.surroundings
  match asked with
  | some text =>
      if text.isEmpty then settle (here.projectRoot (← files) none)
      else settle ((here.expand (Path.ofString text)).bind here.resolve)
  | none => settle (here.projectRoot (← files) none)

/-- Runs work on settings, whose records go to the journal. -/
def settingsWork {Answer : Type} (occasion : Occasion)
    (work : FileTree → List (String × String) → ExceptT Fault (Act Unit) Answer) :
    Work Answer := do
  let tree ← files
  let (result, session) := (work tree occasion.surroundings.environment).run.run { store := () }
  keepRecords occasion.stamp session.records tree
  settle result

def settingsAt (occasion : Occasion) (root : Path) (data : Value) : Settings :=
  { root, home := occasion.surroundings.home, data }

/-- Has the journal written as the settings say. -/
def configureJournal (occasion : Occasion) (settings : Settings) : Work Unit := do
  match ← settle settings.logPath with
  | none => return
  | some path =>
      let level := Journal.levelOf (← settle settings.logLevel)
      let path ← settle (occasion.surroundings.resolve path)
      let (workspace, fault) := (← get).workspace.configure path level
      modify fun desk => { desk with workspace }
      match fault with
      | some fault => throw (.yaml (.file fault))
      | none => return

/-- Engine and archive of a project, as its settings say. -/
def openEngine (occasion : Occasion) (asked : Option String) : Work (Engine × Archive) := do
  let root ← projectRoot occasion asked
  let data ← settingsWork occasion fun tree environment => Settings.load tree environment root
  let settings := settingsAt occasion root data
  configureJournal occasion settings
  let archive ← settle (settings.archive (← files))
  return (← settle settings.engine, archive)

/-- Runs work on an archive over the files of the desk. -/
def archiveWork {Answer : Type} (occasion : Occasion) (archive : Archive)
    (work : ArchiveWork Answer) : Work Answer := do
  let (result, session) := work.run.run { store := { archive with files := ← files } }
  keepRecords occasion.stamp session.records session.store.files
  settle result

/-- Reports a message under the code of a command. -/
def report (json : Bool) (code message : String) (details : Option Notice) : Work Unit :=
  if json then
    complainJson (.map
      ([(.text "error", .text code), (.text "message", .text message)] ++
        (details.map fun notice => (.text "details", notice.toValue)).toList))
  else complain ("Error: " ++ message)

/-- Faults that are reported end a command with status 1; others pass through. -/
def reporting {Answer : Type} (json : Bool) (code : Fault → String) (work : Work Answer)
    (next : Answer → Work Nat) : Work Nat := do
  match ← (ExceptT.lift work.run : Work (Except Fault Answer)) with
  | .ok answer => next answer
  | .error fault =>
      match fault.notice? with
      | some notice =>
          report json (code fault) notice.message (some notice)
          return 1
      | none => throw fault

end Transclusion.Command

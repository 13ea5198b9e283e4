import Transclusion.Journal
import Transclusion.Proofs.AppendedFiles
import Transclusion.Proofs.Octets

/-!
Runs of the journal: files are configured, some with success and some not, the journal is
reset, and records come in between. A record goes to the file that was configured last with
success and to no other. This holds as long as no file turns out not to open after its folder
was there: by then the journal has let go of the file before.
-/

namespace Transclusion

/-- What the journal is told: to write to a file, to write to none, or a record. -/
inductive JournalStep where
  | configure (path : Path) (level : String)
  | reset
  | record (stamp : String) (record : Record)
  deriving DecidableEq

/-- The file in charge of the records, and the level that it came with. -/
abbrev Charge := Option (Path × Nat)

namespace Journal

/-- The file that a record is due to. A level that says nothing leaves it to the standard one. -/
def dueTo (charge : Charge) (record : Record) : Option Path :=
  match charge with
  | some (path, level) =>
      if isOwn record.source && threshold { level } ≤ record.severity.rank then some path else none
  | none => none

theorem outputFor?_eq {journal : Journal} {charge : Charge} (same : journal.output = charge)
    (level : ∀ path level, charge = some (path, level) → journal.level = level) (record : Record) :
    journal.outputFor? record = dueTo charge record := by
  rw [outputFor?, same]
  cases charge with
  | none => rfl
  | some installed =>
    obtain ⟨path, given⟩ := installed
    have threshold_eq : journal.threshold = threshold { level := given } := by
      rw [threshold, threshold, level path given rfl]
    have above : given ≤ threshold { level := given } := by
      rw [threshold]
      split
      · next zero => simp [show given = 0 from zero]
      · exact Nat.le_refl given
    simp only [dueTo, threshold_eq]
    by_cases high : threshold { level := given } ≤ record.severity.rank
    · simp [high, above.trans high]
    · simp [high]

-- Every level that has a name lets critical records through.
theorem threshold_levelOf (name : String) :
    threshold { level := levelOf name } ≤ Severity.critical.rank := by
  have all : ∀ entry ∈ levels, threshold { level := entry.2 } ≤ Severity.critical.rank := by decide
  rw [levelOf]
  cases found : levels.lookup (String.ofList (Text.upper name.toList)) with
  | none => decide
  | some level =>
    obtain ⟨front, back, parts, _⟩ := List.lookup_eq_some_iff.mp found
    have listed : (String.ofList (Text.upper name.toList), level) ∈ levels := by simp [parts]
    exact all _ listed

theorem line_ne_nil (stamp : String) (record : Record) :
    (line stamp record).toUTF8.toList ≠ [] := by
  have octets : (line stamp record).toUTF8.toList = Text.encode (line stamp record).toList := by
    rw [Text.encode, String.ofList_toList]
  rw [octets, line, String.toList_append, Text.encode_append]
  simp [Text.encode_eq, String.utf8EncodeChar]

end Journal

namespace Workspace

/-- The workspace after a step, and the fault that the step raised. -/
def take (here : Surroundings) (step : JournalStep) (workspace : Workspace) :
    Workspace × Option Fault :=
  match step with
  | .configure path level =>
      match here.resolve path with
      | .error fault => (workspace, some fault)
      | .ok path =>
          let (workspace, fault) := workspace.configure path (Journal.levelOf level)
          (workspace, fault.map fun fault => .yaml (.file fault))
  | .reset => ({ workspace with journal := Journal.reset }, none)
  | .record stamp record => (workspace.write stamp record, none)

def takeAll (here : Surroundings) (steps : List JournalStep) (workspace : Workspace) : Workspace :=
  steps.foldl (fun workspace step => (workspace.take here step).1) workspace

/-- The file in charge after a step: the one that was configured with success, none after a
reset, and else the one before. The file that is in charge already keeps its level. -/
def chargeAfter (here : Surroundings) (step : JournalStep) (workspace : Workspace)
    (charge : Charge) : Charge :=
  match step with
  | .configure path level =>
      match here.resolve path, (workspace.take here step).2 with
      | .ok path, none =>
          if charge.any (·.1 == path) then charge else some (path, Journal.levelOf level)
      | _, _ => charge
  | .reset => none
  | .record _ _ => charge

/-- What a step owes to the file at a location. -/
def due (charge : Charge) (location : Location) : JournalStep → List UInt8
  | .record stamp record =>
      match Journal.dueTo charge record with
      | some path =>
          if location = path.names then (Journal.line stamp record).toUTF8.toList else []
      | none => []
  | _ => []

/-- What a run owes to the file at a location: a line for each record, in order. -/
def owed (here : Surroundings) (location : Location) :
    List JournalStep → Workspace → Charge → List UInt8
  | [], _, _ => []
  | step :: steps, workspace, charge =>
      due charge location step ++
        owed here location steps (workspace.take here step).1
          (workspace.chargeAfter here step charge)

/-- After the run every file has what it had before and what the run owes it, and nothing
else. -/
def Keeps (here : Surroundings) (workspace : Workspace) (charge : Charge)
    (steps : List JournalStep) : Prop :=
  ∀ location, (workspace.takeAll here steps).files.octetsIn location =
    workspace.files.octetsIn location ++ owed here location steps workspace charge

/-- A file is written to, and configuring the path gets a folder for another one that cannot
be opened. -/
structure Drops (here : Surroundings) (workspace : Workspace) (path : Path) : Prop where
  busy : workspace.journal.output ≠ none
  fails : ∃ absolute files fault, here.resolve path = .ok absolute ∧
    workspace.files.withFolder absolute.parent = (files, none) ∧
    files.appendTo absolute [] = .error fault

/-- The journal writes to the file in charge, which is there. -/
structure Serves (workspace : Workspace) (charge : Charge) : Prop where
  output : workspace.journal.output = charge
  level : ∀ path level, charge = some (path, level) → workspace.journal.level = level
  loud : ∀ path level, charge = some (path, level) →
    Journal.threshold { level } ≤ Severity.critical.rank
  receives : ∀ path level, charge = some (path, level) → workspace.files.Receives path

section Steps

variable {here : Surroundings} {workspace : Workspace} {charge : Charge} {path : Path}
  {level : Nat} {step : JournalStep}

theorem serves_none (idle : workspace.journal.output = none) : Serves workspace none :=
  ⟨idle, nofun, nofun, nofun⟩

/-- What comes of configuring a file. -/
theorem configure_cases (path : Path) (level : Nat) (workspace : Workspace) :
    (workspace.journal.writesTo path = true ∧ workspace.configure path level = (workspace, none)) ∨
    (∃ files fault, workspace.files.withFolder path.parent = (files, some fault) ∧
      workspace.configure path level = ({ workspace with files }, some fault)) ∨
    (∃ files fault, workspace.files.withFolder path.parent = (files, none) ∧
      files.appendTo path [] = .error fault ∧
      workspace.configure path level = ({ files, journal := { level } }, some fault)) ∨
    (∃ between files, workspace.files.withFolder path.parent = (between, none) ∧
      between.appendTo path [] = .ok files ∧ workspace.journal.writesTo path = false ∧
      workspace.configure path level =
        ({ files, journal := { level, output := some (path, level) } }, none)) := by
  rw [configure]
  cases same : workspace.journal.writesTo path with
  | true => exact Or.inl ⟨rfl, rfl⟩
  | false =>
    right
    rcases asked : workspace.files.withFolder path.parent with ⟨files, fault⟩
    cases fault with
    | some fault => exact Or.inl ⟨files, fault, rfl, rfl⟩
    | none =>
      right
      cases opened : files.appendTo path [] with
      | error fault => exact Or.inl ⟨files, fault, rfl, opened, by simp [opened]⟩
      | ok more => exact Or.inr ⟨files, more, rfl, opened, rfl, by simp [opened]⟩

/-- Configuring a file that is not dropped leaves the octets of all files, and what it
installs is there. -/
theorem serves_configure (serves : Serves workspace charge) {raw : Path} {name : String}
    (resolved : here.resolve raw = .ok path) (holds : ¬ workspace.Drops here raw) :
    Serves (workspace.take here (.configure raw name)).1
        (workspace.chargeAfter here (.configure raw name) charge) ∧
      ∀ location, (workspace.take here (.configure raw name)).1.files.octetsIn location =
        workspace.files.octetsIn location := by
  have down := Surroundings.down_of_resolve resolved
  have grows := FileTree.grows_withFolder workspace.files path.parent
  simp only [take, chargeAfter, resolved]
  rcases configure_cases path (Journal.levelOf name) workspace with
    ⟨current, done⟩ | ⟨files, fault, asked, done⟩ | ⟨files, fault, asked, failed, done⟩ |
      ⟨between, files, asked, opened, other, done⟩
  · -- the file is in charge already
    have same : charge.any (·.1 == path) = true := by
      rw [Journal.writesTo, serves.output] at current
      cases charge with
      | none => cases current
      | some installed => exact current
    simp only [done, Option.map_none, if_pos same]
    exact ⟨serves, fun _ => trivial⟩
  · rw [asked] at grows
    simp only [done, Option.map_some]
    exact ⟨⟨serves.output, serves.level, serves.loud, fun path level same =>
      grows.receives (serves.receives path level same)⟩, grows.octetsIn⟩
  · -- no file was written to, so none is dropped
    rw [asked] at grows
    have idle : charge = none := by
      rw [← serves.output]
      by_contra busy
      exact holds ⟨busy, path, files, fault, resolved, asked, failed⟩
    simp only [done, Option.map_some, idle]
    exact ⟨serves_none rfl, grows.octetsIn⟩
  · rw [asked] at grows
    have appends := FileTree.appends_of_appendTo down opened
    have differs : charge.any (·.1 == path) = false := by
      rw [Journal.writesTo, serves.output] at other
      cases charge with
      | none => rfl
      | some installed => exact other
    simp only [done, Option.map_none, differs, Bool.false_eq_true, if_false]
    refine ⟨⟨rfl, ?_, ?_, ?_⟩, fun location => ?_⟩
    · rintro _ _ ⟨⟩
      rfl
    · rintro _ _ ⟨⟩
      exact Journal.threshold_levelOf name
    · rintro _ _ ⟨⟩
      exact appends.receives
    · rw [appends.octetsIn, ite_self, List.append_nil]
      exact grows.octetsIn location

/-- A record goes to the file in charge when it is due there, and to no other file. -/
theorem serves_write (serves : Serves workspace charge) (stamp : String) (record : Record) :
    Serves (workspace.write stamp record) charge ∧
      ∀ location, (workspace.write stamp record).files.octetsIn location =
        workspace.files.octetsIn location ++ due charge location (.record stamp record) := by
  rw [write, Journal.outputFor?_eq serves.output serves.level]
  cases goes : Journal.dueTo charge record with
  | none => exact ⟨serves, fun location => by simp [due, goes]⟩
  | some path =>
    obtain ⟨level, rfl⟩ : ∃ level, charge = some (path, level) := by
      cases charge with
      | none => cases goes
      | some installed =>
        rw [Journal.dueTo] at goes
        split at goes
        · cases goes
          exact ⟨installed.2, rfl⟩
        · cases goes
    have receives := serves.receives path level rfl
    obtain ⟨files, opened, appends⟩ :=
      receives.exists_appendTo (Journal.line stamp record).toUTF8.toList
    simp only [opened, due, goes]
    refine ⟨⟨serves.output, serves.level, serves.loud, ?_⟩, appends.octetsIn⟩
    rintro _ _ ⟨⟩
    exact appends.receives

theorem serves_take (serves : Serves workspace charge)
    (holds : ∀ path level, step = .configure path level → ¬ workspace.Drops here path) :
    Serves (workspace.take here step).1 (workspace.chargeAfter here step charge) ∧
      ∀ location, (workspace.take here step).1.files.octetsIn location =
        workspace.files.octetsIn location ++ due charge location step := by
  cases step with
  | configure path name =>
    cases resolved : here.resolve path with
    | error fault =>
      simp only [take, chargeAfter, resolved]
      exact ⟨serves, fun _ => (List.append_nil _).symm⟩
    | ok absolute =>
      obtain ⟨served, same⟩ := serves_configure serves resolved (holds path name rfl)
      exact ⟨served, fun location => (same location).trans (List.append_nil _).symm⟩
  | reset => exact ⟨serves_none rfl, fun _ => (List.append_nil _).symm⟩
  | record stamp record => exact serves_write serves stamp record

/-- A step that drops no file owes what it writes. -/
theorem keeps_cons_iff (serves : Serves workspace charge)
    (holds : ∀ path level, step = .configure path level → ¬ workspace.Drops here path)
    (steps : List JournalStep) :
    workspace.Keeps here charge (step :: steps) ↔
      (workspace.take here step).1.Keeps here (workspace.chargeAfter here step charge) steps := by
  have written := (serves_take serves holds).2
  apply forall_congr'
  intro location
  rw [takeAll, List.foldl_cons, owed, written location, List.append_assoc]
  rfl

/-- When a file is dropped, a record that is due to it goes nowhere. -/
theorem not_keeps_of_drops (serves : Serves workspace charge) {raw : Path}
    (drops : workspace.Drops here raw) (name stamp : String) :
    ¬ workspace.Keeps here charge
      [.configure raw name, .record stamp ⟨.critical, Journal.sourceName, ""⟩] := by
  intro keeps
  obtain ⟨busy, absolute, files, fault, resolved, asked, failed⟩ := drops
  have grows := FileTree.grows_withFolder workspace.files absolute.parent
  rw [asked] at grows
  rw [serves.output] at busy
  obtain ⟨⟨path, level⟩, rfl⟩ := Option.ne_none_iff_exists'.mp busy
  -- the path is not the one in charge, since that one opens
  have other : workspace.journal.writesTo absolute = false := by
    by_contra current
    rw [Journal.writesTo, serves.output, Bool.not_eq_false, beq_iff_eq] at current
    subst current
    obtain ⟨after, opened, _⟩ := (grows.receives (serves.receives _ _ rfl)).exists_appendTo []
    rw [failed] at opened
    cases opened
  let record : Record := ⟨.critical, Journal.sourceName, ""⟩
  let after : Workspace := { files, journal := { level := Journal.levelOf name } }
  have took : workspace.take here (.configure raw name) = (after, some (.yaml (.file fault))) := by
    simp [take, resolved, configure, other, asked, failed, after]
  have charged : workspace.chargeAfter here (.configure raw name) (some (path, level)) =
      some (path, level) := by
    simp [chargeAfter, resolved, took]
  have silent : (after.take here (.record stamp record)).1 = after := rfl
  have owes : due (some (path, level)) path.names (.record stamp record) =
      (Journal.line stamp record).toUTF8.toList := by
    have own : Journal.isOwn record.source = true := by decide
    simp [due, Journal.dueTo, own, serves.loud path level rfl, record]
  have nothing : due (some (path, level)) path.names (.configure raw name) = [] := rfl
  have written := keeps path.names
  rw [takeAll, List.foldl_cons, List.foldl_cons, List.foldl_nil, took, silent, owed, owed, owed,
    charged, nothing, owes, List.append_nil, List.nil_append, grows.octetsIn] at written
  exact Journal.line_ne_nil stamp record (List.append_right_eq_self.mp written.symm)

end Steps

section Runs

variable {here : Surroundings} {workspace : Workspace} {charge : Charge}

theorem keeps_record (serves : Serves workspace charge) (stamp : String) (record : Record) :
    workspace.Keeps here charge [.record stamp record] := by
  rw [keeps_cons_iff serves fun path level other => by cases other]
  exact fun location => (List.append_nil _).symm

theorem keeps_iff_from (serves : Serves workspace charge) (steps : List JournalStep) :
    (∀ front, front <+: steps → ∀ stamp record,
        workspace.Keeps here charge (front ++ [.record stamp record])) ↔
      ∀ front path level, front ++ [.configure path level] <+: steps →
        ¬ (workspace.takeAll here front).Drops here path := by
  induction steps generalizing workspace charge with
  | nil =>
    constructor
    · intro _ front path level before
      simp at before
    · intro _ front before stamp record
      rw [List.prefix_nil.mp before]
      exact keeps_record serves stamp record
  | cons step steps ih =>
    -- once a file is dropped, both sides fail at that step
    by_cases dropped : ∃ path level, step = .configure path level ∧ workspace.Drops here path
    · obtain ⟨path, level, rfl, drops⟩ := dropped
      constructor
      · intro keeps
        exact absurd (keeps [.configure path level] (by simp) "" _)
          (not_keeps_of_drops serves drops level "")
      · intro calm
        exact absurd drops (calm [] path level (by simp))
    · have holds : ∀ path level, step = .configure path level → ¬ workspace.Drops here path :=
        fun path level same drops => dropped ⟨path, level, same, drops⟩
      have later := ih (serves_take serves holds).1
      constructor
      · intro keeps front path level before
        cases front with
        | nil =>
          obtain ⟨rfl, _⟩ := List.cons_prefix_cons.mp before
          exact holds path level rfl
        | cons first front =>
          obtain ⟨rfl, inRest⟩ := List.cons_prefix_cons.mp before
          refine later.mp ?_ front path level inRest
          intro earlier inRest stamp record
          exact (keeps_cons_iff serves holds _).mp
            (keeps _ (List.cons_prefix_cons.mpr ⟨rfl, inRest⟩) stamp record)
      · intro calm front before stamp record
        cases front with
        | nil => exact keeps_record serves stamp record
        | cons first front =>
          obtain ⟨rfl, inRest⟩ := List.cons_prefix_cons.mp before
          refine (keeps_cons_iff serves holds _).mpr (later.mpr ?_ front inRest stamp record)
          intro earlier path level inRest
          exact calm (first :: earlier) path level (List.cons_prefix_cons.mpr ⟨rfl, inRest⟩)

/-- Records are neither lost nor written twice. At any time of a run, each record that has come
is in the file that was configured last with success, in order, if the record is high enough
for the level that the file came with, and in no other file, whatever calls fail, exactly when
no call gets the folder of a file that cannot be opened while another file is written to. -/
theorem keeps_iff (here : Surroundings) (files : FileTree) (level : Nat)
    (steps : List JournalStep) :
    let start : Workspace := { files, journal := { level } }
    (∀ front, front <+: steps → ∀ stamp record,
        start.Keeps here none (front ++ [.record stamp record])) ↔
      ∀ front path level, front ++ [.configure path level] <+: steps →
        ¬ (start.takeAll here front).Drops here path :=
  keeps_iff_from (serves_none rfl) steps

end Runs

/-- A call for a folder fails to open it, and by then the file before is let go: the warning
that comes next is in no file. -/
theorem not_keeps_after_folder :
    let here : Surroundings := { folder := { root := "/", names := ["w"] }, home := "" }
    let start : Workspace := { files := { entries := [(["w"], .folder)] } }
    ¬ start.Keeps here none
      [.configure (Path.ofString "d/a.log") "INFO", .configure (Path.ofString "d") "INFO",
        .record "" ⟨.warning, "textblocks.core.x", "one"⟩] := by
  intro here start keeps
  have written := keeps ["w", "d", "a.log"]
  revert written
  decide +kernel

end Workspace

end Transclusion

import Transclusion.Comment
import Transclusion.Extraction
import Transclusion.Substitution

/-!
Formatting one text: definitions are stripped, shows are replaced, comments are
removed. A flag guards the whole pass, so a pass asked for while another runs
gives its text back unchanged and resolved content is never expanded again.
-/

namespace Transclusion

/-- What formatting met: display keys of the definitions, and the names shown
with and without content, each name once. -/
structure Report where
  defined : List Text := []
  shown : List Text := []
  missing : List Text := []

namespace Report

def insertNew (name : Text) (names : List Text) : List Text :=
  if names.contains name then names else names ++ [name]

/-- An answer with content counts as shown and one without as missing; a name
whose resolver failed counts as neither. -/
def addAnswer (report : Report) (answer : Substitution.Answer) : Report :=
  match answer.reply with
  | .failed => report
  | reply =>
      if reply.text.isEmpty then { report with missing := insertNew answer.name report.missing }
      else { report with shown := insertNew answer.name report.shown }

/-- Names in order of their characters. -/
def sorted (names : List Text) : List Text :=
  names.mergeSort fun first second => !decide (second < first)

end Report

inductive Stage where
  | definitions
  | shows
  | comments
  deriving DecidableEq, Repr

namespace Formatting

variable {Store Failure : Type}

def source : String := "textblocks.core.blocks.transformers"

def defaultStages : List Stage := [.definitions, .shows, .comments]

def stripDefinitions (grammar : Grammar) (text : Text) (report : Report) : Text × Report :=
  if grammar.mayDefine text then
    let stripped := Extraction.strip grammar text
    (stripped.text, { report with defined := report.defined ++ stripped.blocks.keys })
  else (text, report)

def runStage (grammar : Grammar) (resolve : Option (Resolver Store Failure)) (stage : Stage)
    (text : Text) (report : Report) : Act Store (Text × Report) :=
  match stage with
  | .definitions => return stripDefinitions grammar text report
  | .shows =>
      match resolve with
      | none => return (text, report)
      | some resolve => do
          let (filled, answers) ← Substitution.substitute grammar resolve text
          return (filled, answers.foldl Report.addAnswer report)
  | .comments => return (Comment.strip text, report)

def runStages (grammar : Grammar) (resolve : Option (Resolver Store Failure)) :
    List Stage → Text → Report → Act Store (Text × Report)
  | [], text, report => return (text, report)
  | stage :: rest, text, report => do
      let (text, report) ← runStage grammar resolve stage text report
      runStages grammar resolve rest text report

/-- Formats unless the session is busy, and is busy meanwhile. -/
def format (grammar : Grammar) (resolve : Option (Resolver Store Failure)) (stages : List Stage)
    (text : Text) (report : Report) : Act Store (Text × Report) := do
  if (← get).busy then
    Session.note .debug source "Skipping reentrant format call"
    return (text, report)
  else
    Session.setBusy true
    let result ← runStages grammar resolve stages text report
    Session.setBusy false
    return result

end Formatting

end Transclusion

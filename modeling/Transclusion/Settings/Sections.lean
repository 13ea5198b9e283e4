import Transclusion.Publication
import Transclusion.Settings.Layers
import Transclusion.Template.Folder

/-!
What settings say about the grammar, the languages, the storage, the templates and
the log of a project, and the engine and archive that they describe. A value that is
absent, empty or zero gives way to the standard one; paths are seen from the
project's root.
-/

namespace Transclusion

structure Settings where
  root : Path
  home : String
  data : Value

namespace Settings

/-- The value, provided that something can be looked up in it. -/
def withEntries : Value → Except Fault Value
  | .map entries => .ok (.map entries)
  | other => .error (.noEntries other)

/-- A section, empty when it is absent. -/
def part (settings : Settings) (name : String) : Except Fault Value := do
  match (← withEntries settings.data).get? name with
  | some value => if value.isTruthy then withEntries value else return .map []
  | none => return .map []

def textOr (standard : String) (value : Option Value) : String :=
  match value with
  | some value => if value.isTruthy then value.plain else standard
  | none => standard

def pathOf (settings : Settings) (text : String) : Except Fault Path :=
  (Surroundings.expandFrom settings.home (Path.ofString text)).map settings.root.join

/-- The path under a key, if one is set. -/
def optionalPath (settings : Settings) (value : Option Value) : Except Fault (Option Path) :=
  match value with
  | some value =>
      if value.isTruthy then (settings.pathOf value.plain).map some else .ok none
  | none => .ok none

def grammar (settings : Settings) : Except Fault Grammar := do
  return GrammarRules.grammar (← settings.part "grammar")

def language (settings : Settings) : Except Fault Language := do
  let part ← settings.part "language"
  let fallback := textOr "en" (part.get? "default")
  return { current := textOr fallback (part.get? "current"), fallback }

def storagePath (settings : Settings) : Except Fault Path := do
  let part ← settings.part "storage"
  settings.pathOf (textOr ".textblocks/documents" (part.get? "path"))

def itemsOf : Value → Except Fault (List Value)
  | .list items => .ok items
  | .map entries => .ok (entries.map (·.1))
  | .text content => .ok (content.toList.map fun c => .text (String.ofList [c]))
  | other => if other.isTruthy then .error (.noItems other) else .ok []

def storageFields (settings : Settings) : Except Fault (List String) := do
  let part ← settings.part "storage"
  return (← itemsOf ((part.get? "fields").getD .null)).map Value.plain

def capability (settings : Settings) : Except Fault String := do
  let part ← settings.part "storage"
  return textOr standardCapability (part.get? "capability")

def overrideFolder (settings : Settings) : Except Fault (Option Path) := do
  let part ← settings.part "templates"
  settings.optionalPath (part.get? "override_dir")

def namePattern (settings : Settings) : Except Fault Text := do
  let part ← settings.part "templates"
  return (textOr (String.ofList Template.standardPattern) (part.get? "name_pattern")).toList

def logLevel (settings : Settings) : Except Fault String := do
  let part ← settings.part "logging"
  return textOr "INFO" (part.get? "level")

def logPath (settings : Settings) : Except Fault (Option Path) := do
  let part ← settings.part "logging"
  settings.optionalPath (part.get? "path")

/-- The folder of templates, if one is set. -/
def templates (settings : Settings) : Except Fault (Option Template.Folder) := do
  match ← settings.overrideFolder with
  | none => return none
  | some root => return some { root, pattern := ← settings.namePattern }

/-- The archive in the configured folder. -/
def archive (settings : Settings) (files : FileTree) : Except Fault Archive := do
  let root ← settings.storagePath
  let enabledFields ← settings.storageFields
  let capability ← settings.capability
  return { shelf := .folder root, enabledFields, capability, files }

def engine (settings : Settings) : Except Fault Engine := do
  let grammar ← settings.grammar
  let language ← settings.language
  let templates ← settings.templates
  let capability ← settings.capability
  return { grammar, language, override := templates.map fun folder => folder.override []
           capability }

end Settings

end Transclusion

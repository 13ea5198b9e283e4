import Transclusion.Coercion
import Transclusion.Merge
import Transclusion.Session
import Transclusion.Settings.Schema
import Transclusion.Surroundings
import Transclusion.Text.Lowercase
import Transclusion.Text.Split
import Transclusion.Text.Uppercase

/-!
Settings in layers. Over the standard settings lie the YAML files of the project, in
order of their names, and over these the variables of the environment, in order of
theirs. A variable names a path by lower-cased segments between double underscores.
-/

namespace Transclusion.Settings

def mapping (entries : List (String × Value)) : Value :=
  .map (entries.map fun entry => (.text entry.1, entry.2))

def standardEntries : List (Value × Value) :=
  [(.text "grammar",
    mapping [("start_word", .text "start"), ("stop_word", .text "stop"),
      ("show_word", .text "show"), ("split_char", .text "_")]),
   (.text "storage",
    mapping [("path", .text ".textblocks/documents"), ("fields", .list [.text "body"]),
      ("capability", .text "textblocks")]),
   (.text "language", mapping [("default", .text "en"), ("current", .null)]),
   (.text "templates",
    mapping [("override_dir", .null), ("name_pattern", .text "textblock--\x7bname\x7d.j2")]),
   (.text "logging", mapping [("level", .text "INFO"), ("path", .null)])]

def source : String := "textblocks.core.config.manager"

def variablePrefix : List Char := "TEXTBLOCKS_".toList

/-- The entries of one file of settings. -/
def readFileEntries (files : FileTree) (path : Path) : Except Fault (List (Value × Value)) :=
  match YamlFile.read files path (.map []) with
  | .error cause => .error (cause.reported fun cause => .settings (.unreadable path cause))
  | .ok (.map entries) => .ok entries
  | .ok _ => .error (.settings (.notMapping path))

/-- A value written at a path of keys. What stands in the way gives place to a map. -/
def assignAt (value : Value) : List String → List (Value × Value) → List (Value × Value)
  | [], entries => entries
  | [key], entries => Value.assign (.text key) value entries
  | key :: rest, entries =>
      let inner :=
        match Value.at? entries key with
        | some (.map inner) => inner
        | _ => []
      Value.assign (.text key) (.map (assignAt value rest inner)) entries

/-- A variable of the environment that sets something. -/
structure Override where
  key : String
  raw : Text
  text : String

/-- The variable that names the project root sets nothing. -/
def isReserved (raw : Text) : Bool := Text.upper raw == "PROJECT_ROOT".toList

def overrideOf? (variable_ : String × String) : Option Override :=
  let key := variable_.1.toList
  let raw := key.drop variablePrefix.length
  if variablePrefix.isPrefixOf key && !raw.isEmpty && !isReserved raw then
    some ⟨variable_.1, raw, variable_.2⟩
  else none

/-- The variables that set something, in order of their names. -/
def overrides (environment : List (String × String)) : List Override :=
  (environment.mergeSort fun first second => decide (first.1 ≤ second.1)).filterMap overrideOf?

namespace Override

def path (given : Override) : List String :=
  (Text.split ['_', '_'] given.raw).map fun segment => String.ofList (Text.lower segment)

def apply (given : Override) (entries : List (Value × Value)) :
    Except Fault (List (Value × Value)) :=
  if given.path.any (·.isEmpty) then
    .error (.settings (.emptySegment given.key (String.ofList given.raw)))
  else
    match Coercion.coerce given.text.toList with
    | .error fault => .error (.number fault)
    | .ok value => .ok (assignAt value given.path entries)

end Override

variable {Store : Type}

def noteThat (message : String) : Act Store Unit := Session.note .debug source message

def layFiles (files : FileTree) :
    List Path → List (Value × Value) → ExceptT Fault (Act Store) (List (Value × Value))
  | [], entries => return entries
  | path :: rest, entries => do
      let noted : Act Store Unit := noteThat ("Loading project config " ++ path.toString)
      noted
      match readFileEntries files path with
      | .error fault => throw fault
      | .ok others => layFiles files rest (Value.mergeInto entries others)

def layOverrides :
    List Override → List (Value × Value) → ExceptT Fault (Act Store) (List (Value × Value))
  | [], entries => return entries
  | given :: rest, entries =>
      match given.apply entries with
      | .error fault => throw fault
      | .ok entries => do
          let noted : Act Store Unit :=
            noteThat ("Applying environment override TEXTBLOCKS_" ++ String.ofList given.raw)
          noted
          layOverrides rest entries

def folder (root : Path) : Path := (root.child Surroundings.projectFolder).child "config"

def validate (data : Value) : Except Fault Unit :=
  match problems data with
  | .ok [] => .ok ()
  | .ok found => .error (.settings (.invalid found))
  | .error fault => .error fault

/-- All layers together, not looked at for problems. -/
def layers (files : FileTree) (environment : List (String × String)) (root : Path) :
    ExceptT Fault (Act Store) (List (Value × Value)) := do
  match YamlFile.list files (folder root) with
  | .error fault => throw (.yaml (.file fault))
  | .ok paths => layOverrides (overrides environment) (← layFiles files paths standardEntries)

/-- The settings of a project, without problems. -/
def load (files : FileTree) (environment : List (String × String)) (root : Path) :
    ExceptT Fault (Act Store) Value := do
  let data := Value.map (← layers files environment root)
  match validate data with
  | .error fault => throw fault
  | .ok () => return data

/-- What stands at a path of keys. -/
def follow (value : Value) : List String → Option Value
  | [] => some value
  | key :: rest => (value.get? key).bind fun item => follow item rest

/-- What stands at a path written with dots. -/
def lookUp (data : Value) (key : String) : Option Value :=
  follow data ((Text.split ['.'] key.toList).map String.ofList)

end Transclusion.Settings

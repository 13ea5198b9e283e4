import Transclusion.Json
import Transclusion.Template.Fault
import Transclusion.Template.NamePattern
import Transclusion.YamlFile

/-!
What can go wrong, by cause. Faults of storage, of settings, of overrides and of
administration are reported with a message and a context; the others pass through
as they come from files, patterns and templates.
-/

namespace Transclusion

inductive StorageFault where
  | unknown (id : String)
  | badId (id : String)
  | unreadable (path : Path) (cause : YamlFault)
  | notMapping (path : Path)
  | fieldsNotMapping (path : Path)
  | unwritable (id : String) (path : Path) (cause : FileFault)
  | unavailable

inductive SettingsFault where
  | unreadable (path : Path) (cause : YamlFault)
  | notMapping (path : Path)
  | emptySegment (key raw : String)
  | invalid (problems : List String)

inductive Fault where
  | storage (fault : StorageFault)
  | settings (fault : SettingsFault)
  | override (block template : Text) (cause : Template.Fault)
  | inUse (fields : List String)
  | yaml (fault : YamlFault)
  | number (fault : Json.Fault)
  | pattern (fault : Template.NamePattern.Fault)
  | template (fault : Template.Fault)
  | noEntries (value : Value)
  | noItems (value : Value)
  | noPairs (value : Value)
  | badKey (key : Value)
  | noText
  | noHome

/-- Kinds of faults that are reported. -/
inductive Family where
  | general
  | settings
  | storage
  | unknownDocument
  | override
  | inUse
  deriving DecidableEq, Repr

namespace Family

def code : Family → String
  | .general => "TextBlocksError"
  | .settings => "ConfigurationError"
  | .storage => "StorageError"
  | .unknownDocument => "DocumentNotFoundError"
  | .override => "TemplateOverrideError"
  | .inUse => "EngineInUseError"

end Family

structure Notice where
  family : Family
  message : String := ""
  context : List (String × Value) := []

namespace Notice

def contextValue (notice : Notice) : Value :=
  .map (notice.context.map fun entry => (.text entry.1, entry.2))

def toValue (notice : Notice) : Value :=
  .map
    [(.text "message", .text notice.message), (.text "code", .text notice.family.code),
     (.text "context", notice.contextValue)]

end Notice

namespace YamlFault

/-- A fault of YAML itself is named and not described. -/
def message : YamlFault → String
  | .file fault => fault.message
  | .yaml (.octets fault) => fault.message
  | .yaml (.number text) => text
  | .yaml (.tooLarge text) => text
  | .yaml _ => "<yaml error>"

/-- A file that cannot be read, or that is no YAML, is reported by its reader;
octets that are no text, and scalars that are no number or too large, pass through. -/
def reported (make : YamlFault → Fault) : YamlFault → Fault
  | .yaml (.octets fault) => .yaml (.yaml (.octets fault))
  | .file .nullCharacter => .yaml (.file .nullCharacter)
  | .yaml (.number text) => .yaml (.yaml (.number text))
  | .yaml (.tooLarge text) => .yaml (.yaml (.tooLarge text))
  | fault => make fault

end YamlFault

namespace StorageFault

def notice : StorageFault → Notice
  | .unknown id =>
      { family := .unknownDocument, message := "Document not found: " ++ id
        context := [("document_id", .text id)] }
  | .badId id =>
      { family := .storage
        message := "Invalid document id: " ++ String.ofList (Text.quoted id.toList)
        context := [("document_id", .text id)] }
  | .unreadable path cause =>
      { family := .storage
        message := "Failed to read document " ++ path.name ++ ": " ++ cause.message
        context := [("path", .text path.toString)] }
  | .notMapping path =>
      { family := .storage, message := "Document " ++ path.name ++ " must be a mapping"
        context := [("path", .text path.toString)] }
  | .fieldsNotMapping path =>
      { family := .storage, message := "'fields' in " ++ path.name ++ " must be a mapping"
        context := [("path", .text path.toString)] }
  | .unwritable id path cause =>
      { family := .storage
        message := "Failed to write document " ++ id ++ ": " ++ cause.message
        context := [("document_id", .text id), ("path", .text path.toString)] }
  | .unavailable => { family := .storage, message := "backend unavailable" }

end StorageFault

namespace SettingsFault

def notice : SettingsFault → Notice
  | .unreadable path cause =>
      { family := .settings
        message := "Invalid configuration file " ++ path.toString ++ ": " ++ cause.message
        context := [("path", .text path.toString)] }
  | .notMapping path =>
      { family := .settings
        message := "Configuration file " ++ path.toString ++ " must contain a mapping"
        context := [("path", .text path.toString)] }
  | .emptySegment key raw =>
      { family := .settings
        message := "Malformed TEXTBLOCKS_* key: empty segment in '" ++ raw ++ "'."
        context := [("key", .text key)] }
  | .invalid problems =>
      { family := .settings
        message := "Invalid configuration:\n  " ++ String.intercalate "\n  " problems
        context := [("problems", .list (problems.map .text))] }

end SettingsFault

namespace Fault

/-- Names in order of their characters. -/
def sortedNames (names : List String) : List String :=
  names.mergeSort fun first second => decide (first ≤ second)

/-- What is reported of a fault, if it is one that is reported. -/
def notice? : Fault → Option Notice
  | .storage fault => some fault.notice
  | .settings fault => some fault.notice
  | .override block file cause =>
      some
        { family := .override
          message := "Template override " ++ String.ofList file ++ " failed: " ++ cause.message
          context :=
            [("block", .text (String.ofList block)), ("template", .text (String.ofList file))] }
  | .inUse fields =>
      let names := sortedNames fields
      some
        { family := .inUse
          message := "Cannot disable textblocks: still enabled on field(s): " ++
            String.intercalate ", " names
          context := [("fields", .list (names.map .text))] }
  | _ => none

def message (fault : Fault) : String :=
  match fault.notice? with
  | some notice => notice.message
  | none =>
      match fault with
      | .yaml cause => cause.message
      | .number cause => cause.message
      | .pattern cause => cause.message
      | .template cause => cause.message
      | .noEntries value => "'" ++ value.kind ++ "' object has no attribute 'get'"
      | .noItems value => "'" ++ value.kind ++ "' object is not iterable"
      | .noPairs value => "'" ++ value.kind ++ "' object has no attribute 'items'"
      | .badKey key => "keys must be str, int, float, bool or None, not " ++ key.shortKind
      | .noText => Value.noTextMessage
      | _ => "Could not determine home directory."

end Fault

end Transclusion

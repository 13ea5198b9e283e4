import Transclusion.Command.Arguments
import Transclusion.Command.Help
import Transclusion.Resolution

/-!
The commands of the program, the form of each, and the request that arguments make.
Commands about settings stand in a group of their own. Arguments that are not
understood, and requests for help, end with a page of text and no request.
-/

namespace Transclusion.Command

inductive Verb where
  | blocks
  | checkDisable
  | get
  | render
  | save
  | showSettings
  | validateSettings
  deriving DecidableEq, Repr

/-- A field of a document, in the reader's language or in another one. -/
structure Target where
  id : String
  field : String
  language : Option String
  deriving DecidableEq, Repr

inductive Task where
  | blocks (target : Target)
  | checkDisable
  | get (name : String) (lookup : Lookup) (language : Option String)
  | render (target : Target)
  | save (target : Target) (file : Option String) (create : Bool)
  | showSettings (key : Option String)
  | validateSettings (strict : Bool)
  deriving DecidableEq, Repr

/-- A task, in which project to do it, and whether to answer in JSON. -/
structure Request where
  task : Task
  root : Option String
  json : Bool
  deriving DecidableEq, Repr

/-- Text that is printed, and the status that the program ends with. -/
structure Page where
  status : Nat := 0
  output : String := ""
  errors : String := ""
  deriving DecidableEq, Repr

def program : String := "textblocks"

def versionText : String := "textblocks 1.0.0"

def helpParameter : Parameter :=
  { names := ["-h", "--help"], taking := .help, help := "show this help message and exit" }

def versionParameter : Parameter :=
  { names := ["--version"], taking := .version
    help := "show program's version number and exit" }

def jsonParameter : Parameter :=
  { names := ["--json"], taking := .nothing, help := "Output as JSON" }

def rootParameter : Parameter :=
  { names := ["--repo-root"], taking := .text "REPO_ROOT", help := "Override project root path" }

def languageParameter : Parameter :=
  { names := ["--language", "--lang"], taking := .text "LANGUAGE"
    help := "Active language code (default: configured language.current)" }

def fieldParameter : Parameter :=
  { names := ["--field"], taking := .text "FIELD", help := "Field name (default: body)" }

def fieldsParameter : Parameter :=
  { names := ["--field"], taking := .text "FIELDS"
    help := "Limit to this field (repeatable; default: every enabled field)" }

def multiParameter : Parameter :=
  { names := ["--multi"], taking := .nothing
    help := "Collect every multi-value definition (start__name)" }

def itemizedParameter : Parameter :=
  { names := ["--itemized"], taking := .nothing
    help := "Return each match separately instead of newline-joined" }

def fileParameter : Parameter :=
  { names := ["--file"], taking := .text "FILE"
    help := "Read the value from this file (default: stdin)" }

def createParameter : Parameter :=
  { names := ["--create"], taking := .nothing
    help := "Create the document if it does not exist" }

def formatParameter : Parameter :=
  { names := ["--format"], taking := .choice ["json", "yaml"]
    help := "Output format (default: yaml)" }

def strictParameter : Parameter :=
  { names := ["--strict"], taking := .nothing, help := "Treat warnings as errors" }

/-- Every command can answer in JSON and can be told its project. -/
def commonParameters : List Parameter := [jsonParameter, rootParameter]

def documentOperand : Operand := .required "document_id" "Document identifier"

namespace Verb

def summary : Verb → String
  | .blocks => "List the blocks a document defines"
  | .checkDisable => "Check whether textblocks can be disabled (no field still depends on it)"
  | .get => "Resolve a block by name across all documents"
  | .render => "Format a document field (strip definitions, resolve shows, strip comments)"
  | .save => "Validate and store a field value (non-unique blocks become multi-value)"
  | .showSettings => "Show current configuration"
  | .validateSettings => "Validate project configuration"

def operand : Verb → Operand
  | .blocks | .render | .save => documentOperand
  | .get => .required "name" "Block name"
  | .showSettings =>
      .optional "key" "Specific configuration key to show (e.g., 'grammar.start_word')"
  | .checkDisable | .validateSettings => .absent

def parameters : Verb → List Parameter
  | .blocks | .render => [fieldParameter, languageParameter]
  | .checkDisable => []
  | .get => [multiParameter, itemizedParameter, fieldsParameter, languageParameter]
  | .save => [fileParameter, createParameter, fieldParameter, languageParameter]
  | .showSettings => [formatParameter]
  | .validateSettings => [strictParameter]

/-- The form of a command under the name it is called by. -/
def form (verb : Verb) (name : String) : Form :=
  { program := name
    description := some verb.summary
    parameters := helpParameter :: verb.parameters ++ commonParameters
    operand := verb.operand }

end Verb

def commands : List (String × Verb) :=
  [("blocks", .blocks), ("check-disable", .checkDisable), ("get", .get), ("render", .render),
   ("save", .save)]

def settingsGroup : String := "config"

def settingsCommands : List (String × Verb) :=
  [("show", .showSettings), ("validate", .validateSettings)]

def summaries (verbs : List (String × Verb)) : List (String × String) :=
  verbs.map fun entry => (entry.1, entry.2.summary)

def programForm : Form :=
  { program
    description := some "textblocks - reusable named text blocks for documents"
    parameters := [helpParameter, versionParameter]
    operand :=
      .command "<command>" (summaries commands ++ [(settingsGroup, settingsGroup ++ " commands")]) }

def settingsForm : Form :=
  { program := program ++ " " ++ settingsGroup
    parameters := [helpParameter]
    operand := .command "<subcommand>" (summaries settingsCommands) }

namespace Form

/-- The usage of the form and what is wrong with the arguments. -/
def complaint (form : Form) (message : String) : Page :=
  { status := 2
    errors := form.usage ++ "\n" ++ form.program ++ ": error: " ++ message ++ "\n" }

def helpPage (form : Form) : Page := { output := form.help }

def halted (form : Form) : Halt → Page
  | .help => form.helpPage
  | .version => { output := versionText ++ "\n" }
  | .wrong message => form.complaint message

def reading (form : Form) (arguments : List String) : Except Page Reading :=
  (Reading.read form arguments).mapError form.halted

end Form

namespace Reading

def target (reading : Reading) : Target :=
  { id := reading.operand.getD ""
    field := (reading.argument? "--field").getD "body"
    language := reading.argument? "--language" }

def lookup (reading : Reading) : Lookup :=
  { multi := reading.isGiven "--multi"
    fields := reading.arguments? "--field"
    itemized := reading.isGiven "--itemized" }

def task (reading : Reading) : Verb → Task
  | .blocks => .blocks reading.target
  | .checkDisable => .checkDisable
  | .get => .get (reading.operand.getD "") reading.lookup (reading.argument? "--language")
  | .render => .render reading.target
  | .save => .save reading.target (reading.argument? "--file") (reading.isGiven "--create")
  | .showSettings => .showSettings reading.operand
  | .validateSettings => .validateSettings (reading.isGiven "--strict")

def request (reading : Reading) (verb : Verb) : Request :=
  { task := reading.task verb
    root := reading.argument? "--repo-root"
    json := reading.isGiven "--json" || reading.argument? "--format" == some "json" }

end Reading

/-- Nothing that was not understood may be left. -/
def understood (unknown : List String) (request : Request) : Except Page Request :=
  if unknown.isEmpty then .ok request
  else .error (programForm.complaint
    ("unrecognized arguments: " ++ String.intercalate " " unknown))

/-- The help of a form whose command is not named, unless something was not understood. -/
def overview (form : Form) (unknown : List String) : Page :=
  if unknown.isEmpty then form.helpPage
  else programForm.complaint ("unrecognized arguments: " ++ String.intercalate " " unknown)

/-- The request that a command's own arguments make; `unknown` was not understood
before. -/
def readVerb (verb : Verb) (name : String) (unknown arguments : List String) :
    Except Page Request := do
  let reading ← (verb.form name).reading arguments
  understood (unknown ++ reading.unknown) (reading.request verb)

def readSettingsCommand (unknown arguments : List String) : Except Page Request := do
  let reading ← settingsForm.reading arguments
  match reading.command with
  | none => throw (overview settingsForm (unknown ++ reading.unknown))
  | some (name, rest) =>
      match settingsCommands.lookup name with
      | some verb =>
          readVerb verb (settingsForm.program ++ " " ++ name) (unknown ++ reading.unknown) rest
      | none => throw (overview settingsForm (unknown ++ reading.unknown))

/-- The request that the program's arguments make, or what to print instead. -/
def readRequest (arguments : List String) : Except Page Request := do
  let reading ← programForm.reading arguments
  match reading.command with
  | none => throw (overview programForm reading.unknown)
  | some (name, rest) =>
      match commands.lookup name with
      | some verb => readVerb verb (program ++ " " ++ name) reading.unknown rest
      | none => readSettingsCommand reading.unknown rest

end Transclusion.Command

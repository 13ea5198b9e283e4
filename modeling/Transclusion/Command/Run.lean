import Transclusion.Command.Work

/-!
What each command does and prints, and the status that it ends with.
-/

namespace Transclusion.Command

def textValue (text : Text) : Value := .text (String.ofList text)

def namesValue (names : List String) : Value := .list (names.map .text)

def object (entries : List (String × Value)) : Value :=
  .map (entries.map fun entry => (.text entry.1, entry.2))

/-- Opens the engine and works on its archive. -/
def engineWork {Answer : Type} (occasion : Occasion) (asked : Option String)
    (work : Engine → ArchiveWork Answer) : Work (Engine × Answer) := do
  let (engine, archive) ← openEngine occasion asked
  return (engine, ← archiveWork occasion archive (work engine))

/-- The text that a target names. -/
def targetText (target : Target) : ArchiveWork Text := do
  return (← Archive.load target.id).textOf target.field target.language

def blockLine (blocks : BlockMap) (block : Block) : String :=
  (if block.multi then "multi " else "single") ++ "  " ++
    String.ofList (blocks.displayKey block) ++ ": " ++
    String.ofList (Text.firstLine block.content)

def blockValue (blocks : BlockMap) (block : Block) : Value :=
  object [("key", textValue (blocks.displayKey block)), ("multi", .bool block.multi),
    ("content", textValue block.content)]

def runBlocks (occasion : Occasion) (request : Request) (target : Target) : Work Nat :=
  reporting request.json (fun _ => "blocks_error")
    (engineWork occasion request.root fun _ => targetText target)
    fun (engine, text) => do
      let blocks := Extraction.blockMap engine.grammar text
      if request.json then sayJson (.list (blocks.blocks.map (blockValue blocks)))
      else if blocks.blocks.isEmpty then
        say ("No blocks defined in " ++ target.id ++ "." ++ target.field)
      else blocks.blocks.forM fun block => say (blockLine blocks block)
      return 0

def runCheckDisable (occasion : Occasion) (request : Request) : Work Nat :=
  reporting request.json
    (fun fault =>
      match fault with
      | .inUse _ => "engine_in_use"
      | _ => "check_disable_error")
    (do
      let (engine, archive) ← openEngine occasion request.root
      settle (engine.ensureCanDisable archive))
    fun () => do
      if request.json then sayJson (object [("status", .text "success"), ("fields", .list [])])
      else say "No fields depend on textblocks; it can be disabled."
      return 0

def sayResolved : Resolved → Work Unit
  | .joined text => say (String.ofList text)
  | .items texts =>
      texts.forM fun text => do
        say (String.ofList text)
        say "---"

def resolvedValue : Resolved → Value
  | .joined text => textValue text
  | .items texts => .list (texts.map textValue)

/-- Nothing found is told by the status. -/
def runGet (occasion : Occasion) (request : Request) (name : String) (lookup : Lookup)
    (language : Option String) : Work Nat :=
  reporting request.json (fun _ => "get_error")
    (engineWork occasion request.root fun engine => engine.block lookup language name.toList)
    fun (_, resolved) => do
      if request.json then
        sayJson (object [("name", .text name), ("multi", .bool lookup.multi),
          ("value", resolvedValue resolved)])
      else sayResolved resolved
      return if resolved.isEmpty then 1 else 0

def renderedValue (target : Target) (rendered : Text × Report) : Value :=
  let names (texts : List Text) : Value := .list (texts.map textValue)
  object [("document_id", .text target.id), ("field", .text target.field),
    ("text", textValue rendered.1), ("blocks_defined", names rendered.2.defined),
    ("blocks_shown", names (Report.sorted rendered.2.shown)),
    ("blocks_missing", names (Report.sorted rendered.2.missing))]

def runRender (occasion : Occasion) (request : Request) (target : Target) : Work Nat :=
  reporting request.json (fun _ => "render_error")
    (engineWork occasion request.root fun engine => do
      let text ← targetText target
      (engine.render target.language text : Act Archive (Text × Report)))
    fun (_, rendered) => do
      if request.json then sayJson (renderedValue target rendered)
      else say (String.ofList rendered.1)
      return 0

/-- The text to save: that of a file, every line end made a line feed, or the input.
`none` when the file cannot be read, which is reported. -/
def textToSave (occasion : Occasion) (request : Request) (file : Option String) :
    Work (Option Text) := do
  match file with
  | none => return some occasion.input
  | some name =>
      let path := Path.ofString name
      match (← files).octetsAt (occasion.surroundings.folder.join path) with
      | .error fault =>
          if !fault.isOfFiles then throw (.yaml (.file fault))
          report request.json "save_error"
            ("Cannot read " ++ path.toString ++ ": " ++ fault.reason) none
          return none
      | .ok octets =>
          match Text.decode octets with
          | .ok text => return some (Text.unixLines text)
          | .error fault => throw (.yaml (.yaml (.octets fault)))

/-- The document to save to; when it is not there it may be created. -/
def documentToSave (id : String) (create : Bool) : ArchiveWork Document :=
  tryCatch (Archive.load id) fun fault =>
    match fault with
    | .storage (.unknown _) => if create then return { id } else throw fault
    | _ => throw fault

def savedValue (target : Target) (validation : Validation) : Value :=
  object [("status", .text "success"), ("document_id", .text target.id),
    ("field", .text target.field), ("changed", .bool validation.changed),
    ("warnings", namesValue (validation.warnings.map (·.message)))]

def runSave (occasion : Occasion) (request : Request) (target : Target)
    (file : Option String) (create : Bool) : Work Nat := do
  match ← textToSave occasion request file with
  | none => return 1
  | some text =>
      reporting request.json (fun _ => "save_error")
        (engineWork occasion request.root fun engine => do
          let document ← documentToSave target.id create
          return (← engine.saveField document target.field text target.language).1)
        fun (_, validation) => do
          if request.json then sayJson (savedValue target validation)
          else
            validation.warnings.forM fun warning => complain ("Warning: " ++ warning.message)
            say ("Saved " ++ target.id ++ "." ++ target.field)
          return 0

/-- A value under the keys of a path written with dots. -/
def nest (key : String) (value : Value) : Value :=
  let keys := ((Text.split ['.'] key.toList).filter (!·.isEmpty)).map String.ofList
  keys.foldr (fun key inner => .map [(.text key, inner)]) value

/-- What to show of the settings under a key; null counts as absent. -/
def shownSettings (json : Bool) (key : Option String) (data : Value) : Option Value :=
  match key.filter (!·.isEmpty) with
  | none => some data
  | some key =>
      match Settings.lookUp data key with
      | none | some .null => none
      | some value => some (if json then .map [(.text key, value)] else nest key value)

def runShowSettings (occasion : Occasion) (request : Request) (key : Option String) :
    Work Nat :=
  reporting request.json (fun _ => "config_show_error")
    (do
      let root ← projectRoot occasion request.root
      let data ← settingsWork occasion fun tree environment =>
        Settings.layers tree environment root
      return shownSettings request.json key (.map data))
    fun shown => do
      match shown with
      | none =>
          say ("Key not found: " ++ key.getD "")
          return 1
      | some value =>
          if request.json then sayJson value
          else if !value.hasText then throw .noText
          else say (String.ofList (Text.trimRight (Yaml.write value).toList))
          return 0

/-- Folders that the settings name and that are not there, and fields that are missing. -/
def pathWarnings (settings : Settings) (tree : FileTree) : Except Fault (List String) := do
  let isFolder (path : Path) : Except Fault Bool :=
    (tree.isFolder path).mapError fun fault => .yaml (.file fault)
  let noFields :=
    if (← settings.storageFields).isEmpty then
      ["storage.fields is empty; no field carries blocks"]
    else []
  let storage ← settings.storagePath
  let noStorage :=
    if ← isFolder storage then [] else ["storage.path does not exist: " ++ storage.toString]
  match ← settings.overrideFolder with
  | none => return noFields ++ noStorage
  | some folder =>
      let noFolder :=
        if ← isFolder folder then []
        else ["templates.override_dir does not exist: " ++ folder.toString]
      return noFields ++ noStorage ++ noFolder

/-- The problems of settings that were refused. -/
def problemsOf : SettingsFault → List String
  | .invalid (problem :: rest) => problem :: rest
  | fault => [fault.notice.message]

/-- Errors and warnings about the settings of a project. -/
def settingsIssues (occasion : Occasion) (root : Path) : Work (List String × List String) := do
  let work := settingsWork occasion fun tree environment => Settings.load tree environment root
  match ← (ExceptT.lift work.run : Work (Except Fault Value)) with
  | .ok data =>
      return ([], ← settle (pathWarnings (settingsAt occasion root data) (← files)))
  | .error (.settings fault) => return (problemsOf fault, [])
  | .error fault => throw fault

def verdict (errors warnings : List String) (failed : Bool) : String :=
  if !errors.isEmpty then "Configuration validation failed"
  else if failed then "Configuration has warnings (strict mode)"
  else if warnings.isEmpty then "Configuration valid"
  else "Configuration valid (with warnings)"

def runValidateSettings (occasion : Occasion) (request : Request) (strict : Bool) :
    Work Nat := do
  let root ← projectRoot occasion request.root
  let (errors, warnings) ← settingsIssues occasion root
  let failed := !errors.isEmpty || (!warnings.isEmpty && strict)
  if request.json then
    sayJson (object [("valid", .bool !failed), ("errors", namesValue errors),
      ("warnings", namesValue warnings)])
  else
    warnings.forM fun warning => complain ("Warning: " ++ warning)
    errors.forM fun error => say ("Error: " ++ error)
    say (verdict errors warnings failed)
  return if failed then 1 else 0

/-- Does what is requested and gives the status. -/
def perform (occasion : Occasion) (request : Request) : Work Nat :=
  match request.task with
  | .blocks target => runBlocks occasion request target
  | .checkDisable => runCheckDisable occasion request
  | .get name lookup language => runGet occasion request name lookup language
  | .render target => runRender occasion request target
  | .save target file create => runSave occasion request target file create
  | .showSettings key => runShowSettings occasion request key
  | .validateSettings strict => runValidateSettings occasion request strict

/-- A call of the program with arguments: the status, or the fault that no command
reports, and the desk as it is left. -/
def run (occasion : Occasion) (arguments : List String) (workspace : Workspace) :
    Except Fault Nat × Desk :=
  match readRequest arguments with
  | .error page => (.ok page.status, { workspace, output := page.output, errors := page.errors })
  | .ok request => (perform occasion request).run.run { workspace }

end Transclusion.Command

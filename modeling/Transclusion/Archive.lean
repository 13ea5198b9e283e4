import Transclusion.Document
import Transclusion.Fault
import Transclusion.Session

/-!
Where documents are kept: in memory, in order of arrival, or in the YAML files of a
folder, in order of their names and read anew each time. An archive knows which
fields may define blocks, records each search, and can be told to refuse some.
-/

namespace Transclusion

inductive Shelf where
  | memory (documents : List Document)
  | folder (root : Path)

/-- A search for documents whose fields hold a text, in any case. -/
structure Query where
  fields : List String
  contains : Text
  deriving DecidableEq, Repr

def standardCapability : String := "textblocks"

structure Archive where
  shelf : Shelf
  enabledFields : List String := ["body"]
  capability : String := standardCapability
  files : FileTree := {}
  refuses : Query → Bool := fun _ => false
  queries : List Query := []

/-- Work on an archive. What was done before a fault stays done. -/
abbrev ArchiveWork := ExceptT Fault (Act Archive)

namespace Document

/-- Documents with one more; one of the same id gives its place up to it. -/
def putInto (document : Document) : List Document → List Document
  | [] => [document]
  | other :: rest =>
      if other.id = document.id then document :: rest else other :: putInto document rest

/-- The document in a file. -/
def load (files : FileTree) (path : Path) : Except Fault Document :=
  match YamlFile.read files path (.map []) with
  | .error cause => .error (cause.reported fun cause => .storage (.unreadable path cause))
  | .ok data =>
      if data.isMap then
        match ofValue? (Path.stemOf path.name) data with
        | some document => if isReadable data then .ok document else .error .noText
        | none => .error (.storage (.fieldsNotMapping path))
      else .error (.storage (.notMapping path))

end Document

namespace Shelf

def source : String := "textblocks.core.storage.directory"

/-- An id is the stem of a file name and cannot lead out of the folder. -/
def isId (id : String) : Bool :=
  id != "" && id != "." && id != ".." &&
    id.toList.all fun c => c != '/' && c != '\\' && c != '\x00'

/-- The file of a document that is there. -/
def pathOf? (files : FileTree) (root : Path) (id : String) : Except Fault (Option Path) := do
  if isId id then
    let long := root.child (id ++ ".yaml")
    let short := root.child (id ++ ".yml")
    if ← (files.isPresent long).mapError fun fault => .yaml (.file fault) then return some long
    else if ← (files.isPresent short).mapError fun fault => .yaml (.file fault) then
      return some short
    else return none
  else throw (.storage (.badId id))

def documents (files : FileTree) : Shelf → Except Fault (List Document)
  | .memory documents => .ok documents
  | .folder root => do
      let paths ← (YamlFile.list files root).mapError fun fault => Fault.yaml (.file fault)
      paths.mapM (Document.load files)

def get (files : FileTree) (id : String) : Shelf → Except Fault Document
  | .memory documents =>
      match documents.find? fun document => document.id == id with
      | some document => .ok document
      | none => .error (.storage (.unknown id))
  | .folder root => do
      match ← pathOf? files root id with
      | some path => Document.load files path
      | none => throw (.storage (.unknown id))

/-- The file tree with a document written to the folder, and the file it went to. -/
def write (files : FileTree) (root : Path) (document : Document) :
    Except Fault (FileTree × Path) := do
  let path := (← pathOf? files root document.id).getD (root.child (document.id ++ ".yaml"))
  match YamlFile.write files path document.toValue with
  | (files, none) => return (files, path)
  | (_, some cause) =>
      if cause.isOfFiles then throw (.storage (.unwritable document.id path cause))
      else throw (.yaml (.file cause))

/-- What is left of a write that fails: folders that were made for it stay. -/
def leftBy (files : FileTree) (root : Path) (document : Document) : FileTree :=
  match pathOf? files root document.id with
  | .error _ => files
  | .ok found =>
      let path := found.getD (root.child (document.id ++ ".yaml"))
      (YamlFile.write files path document.toValue).1

end Shelf

namespace Archive

def documents (archive : Archive) : Except Fault (List Document) :=
  archive.shelf.documents archive.files

/-- The documents that a query finds, in the order of the archive. -/
def matching (archive : Archive) (query : Query) (includeHidden : Bool) :
    Except Fault (List Document) := do
  return (← archive.documents).filter fun document =>
    (includeHidden || document.published) && document.contains query.fields query.contains

/-- The fields that may define blocks under a capability. -/
def fieldsFor (archive : Archive) (capability : String) : List String :=
  if capability = archive.capability then archive.enabledFields else []

/-- Records the query and answers it unless it is refused. -/
def search (query : Query) (includeHidden : Bool) : ArchiveWork (List Document) := do
  modify fun session =>
    { session with store := { session.store with queries := session.store.queries ++ [query] } }
  let archive := (← get).store
  if archive.refuses query then throw (.storage .unavailable)
  else liftExcept (archive.matching query includeHidden)
where
  liftExcept (result : Except Fault (List Document)) : ArchiveWork (List Document) :=
    match result with
    | .ok found => return found
    | .error fault => throw fault

def load (id : String) : ArchiveWork Document := do
  let archive := (← get).store
  match archive.shelf.get archive.files id with
  | .ok document => return document
  | .error fault => throw fault

def keep (document : Document) : ArchiveWork Unit := do
  let archive := (← get).store
  match archive.shelf with
  | .memory documents =>
      let shelf := Shelf.memory (document.putInto documents)
      modify fun session => { session with store := { session.store with shelf } }
  | .folder root =>
      match Shelf.write archive.files root document with
      | .error fault =>
          let files := Shelf.leftBy archive.files root document
          modify fun session => { session with store := { session.store with files } }
          throw fault
      | .ok (files, path) =>
          modify fun session => { session with store := { session.store with files } }
          let note : Act Archive Unit :=
            Session.note .debug Shelf.source
              ("Saved document " ++ document.id ++ " to " ++ path.toString)
          note

/-- Takes a document out of memory. -/
def remove (id : String) (archive : Archive) : Archive :=
  match archive.shelf with
  | .memory documents =>
      { archive with shelf := .memory (documents.filter fun document => document.id != id) }
  | .folder _ => archive

end Archive

end Transclusion

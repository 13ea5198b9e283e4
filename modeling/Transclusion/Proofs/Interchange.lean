import Transclusion.Proofs.FolderShelf
import Transclusion.Proofs.PairedRuns
import Transclusion.Template.Folder

/-!
An archive in memory and one in a folder, side by side. When the folder keeps the documents
that the memory holds, in order of their ids, an engine comes to the same answers over
both, whatever is asked of it and however often: what is saved to the one is saved to the
other, and the folder then keeps what the memory holds again.
-/

namespace Transclusion

open Act

/-- What is asked of an engine. A text is saved to a document that is loaded for it. -/
inductive Operation where
  | find (query : Query) (includeHidden : Bool)
  | load (id : String)
  | render (code : Option String) (text : Text)
  | block (lookup : Lookup) (code : Option String) (name : Text)
  | save (id field : String) (text : Text) (language : Option String)

inductive Outcome where
  | found (documents : List Document)
  | loaded (document : Document)
  | rendered (text : Text) (report : Report)
  | resolved (content : Resolved)
  | saved (validation : Validation) (document : Document)

namespace Operation

/-- The id of the document that is asked for. -/
def id? : Operation → Option String
  | .load id => some id
  | .save id _ _ _ => some id
  | _ => none

def perform (engine : Engine) : Operation → ArchiveWork Outcome
  | .find query includeHidden => return .found (← Archive.search query includeHidden)
  | .load id => return .loaded (← Archive.load id)
  | .render code text => do
      let rendered : Act Archive (Text × Report) := engine.render code text
      let (text, report) ← rendered
      return .rendered text report
  | .block lookup code name => return .resolved (← engine.block lookup code name)
  | .save id field text language => do
      let document ← Archive.load id
      let (validation, document) ← engine.saveField document field text language
      return .saved validation document

variable {related : Session Archive → Session Archive → Prop} {engine : Engine}

end Operation

namespace Engine

/-- The answers to operations that are performed one after the other. -/
def answers (engine : Engine) : List Operation → Session Archive → List (Except Fault Outcome)
  | [], _ => []
  | operation :: rest, session =>
      let (answer, session) := (operation.perform engine).runFrom session
      answer :: engine.answers rest session

end Engine

namespace Outcome

end Outcome

/-- Writing a document file of the folder again changes no template. -/
def Override.Spares (override : Override) (root : Path) : Prop :=
  ∀ (files : FileTree) (location : Location) (name : String) (before octets : List UInt8),
    files.locate root = .ok location → Shelf.isYaml name = true →
      files.node? (location ++ [name]) = some (.file before) →
        override (files.put (location ++ [name]) (.file octets)) = override files

namespace Template.Folder

/-- No document file of `root` is a template, and none stands below the templates. -/
structure Apart (folder : Folder) (root : Path) : Prop where
  down : ".." ∉ root.names
  folderDown : ".." ∉ folder.root.names
  beside : ∀ name, Transclusion.Shelf.isYaml name = true →
    ¬ folder.root.names <+: root.names ++ [name]

variable {folder : Folder} {root : Path} {files other : FileTree} {location : Location}
  {name : String} {before octets : List UInt8}

section Congr

variable (same : ∀ template, folder.find? other template = folder.find? files template)

include same

end Congr

section Overwritten

variable (apart : folder.Apart root) (located : files.locate root = .ok location)
  (yaml : Transclusion.Shelf.isYaml name = true)
  (there : files.node? (location ++ [name]) = some (.file before))

include apart located yaml there

end Overwritten

end Template.Folder

/-- The first session holds the documents in memory that the second keeps in the folder, and
both give the same templates. -/
structure Session.Mirrors (override : Option Override) (root : Path) (documents : List Document)
    (session other : Session Archive) : Prop where
  memory : session.store.shelf = .memory documents
  folder : other.store.shelf = .folder root
  stocked : Shelf.Stocked other.store.files root documents
  enabledFields : session.store.enabledFields = other.store.enabledFields
  capability : session.store.capability = other.store.capability
  refuses : session.store.refuses = other.store.refuses
  busy : session.busy = other.busy
  templates : ∀ given ∈ override, given session.store.files = given other.store.files

section Mirrored

variable {override : Option Override} {root : Path} {documents : List Document}
  {session other : Session Archive}

theorem Session.Mirrors.asked (mirrors : Session.Mirrors override root documents session other)
    (query : Query) :
    Session.Mirrors override root documents (session.asked query) (other.asked query) :=
  { mirrors with }

/-- What is saved to both is held by the one and kept by the other. -/
theorem Session.Mirrors.kept {document : Document}
    (mirrors : Session.Mirrors override root documents session other)
    (spares : ∀ given ∈ override, given.Spares root)
    (known : document.id ∈ documents.map (·.id)) (sound : document.Sound)
    (survives : Shelf.Survives document) :
    ∃ files path, Shelf.write other.store.files root document = .ok (files, path) ∧
      ∀ record, Session.Mirrors override root (document.putInto documents)
        (session.kept (document.putInto documents)) ((other.filed files).noted record) := by
  obtain ⟨keeps⟩ | ⟨found, noFolder⟩ := mirrors.stocked
  · obtain ⟨name, before, octets, yaml, there, written, keeps'⟩ := keeps.write known sound survives
    refine ⟨_, _, written, fun record => ?_⟩
    refine { mirrors with memory := rfl, stocked := .kept keeps', templates := fun given member => ?_ }
    exact (mirrors.templates given member).trans
      (spares given member _ _ name before octets keeps.stands.located yaml there).symm
  · cases known

theorem Shelf.Stocked.sound {files : FileTree} (stocked : Shelf.Stocked files root documents)
    {document : Document} (member : document ∈ documents) : document.Sound := by
  cases stocked with
  | kept keeps => exact keeps.sound document member
  | nothing => cases member

variable {engine : Engine}

namespace Engine

end Engine

namespace Operation

end Operation

namespace Engine

end Engine

end Mirrored

namespace Engine

end Engine

end Transclusion

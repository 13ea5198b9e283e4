import Transclusion.Engine
import Transclusion.Extraction

/-!
Finding the content of a block by its name. A single-value block is taken from the
first document that defines it, a multi-value block from all of them. Documents that
are not viewable are passed over. When nothing is found in the reader's language,
the fallback language is searched.
-/

namespace Transclusion

/-- What is asked for: which kind of definition, in which fields, and as a list or
as one text. Without fields, those that may define blocks are searched. -/
structure Lookup where
  multi : Bool := false
  fields : Option (List String) := none
  itemized : Bool := false
  deriving DecidableEq, Repr

inductive Resolved where
  | joined (text : Text)
  | items (texts : List Text)
  deriving DecidableEq, Repr

namespace Resolved

def text : Resolved → Text
  | .joined text => text
  | .items texts => joinLines texts

def isEmpty : Resolved → Bool
  | .joined text => text.isEmpty
  | .items texts => texts.isEmpty

end Resolved

namespace Lookup

def shape (lookup : Lookup) (found : List Text) : Resolved :=
  if lookup.itemized then .items found else .joined (joinLines found)

/-- The contents that one document gives, in order of the fields. -/
def inDocument (lookup : Lookup) (grammar : Grammar) (name : Text) (fields : List String)
    (language : String) (document : Document) : List Text :=
  fields.filterMap fun field =>
    (Extraction.blockMap grammar (document.textOf field (some language))).lookup name lookup.multi

/-- The contents to keep of those that each document gives. -/
def choose (lookup : Lookup) (found : List (List Text)) : List Text :=
  if lookup.multi then found.flatten
  else (found.find? fun texts => !texts.isEmpty).getD []

/-- The contents that viewable documents give. -/
def inDocuments (lookup : Lookup) (grammar : Grammar) (name : Text) (fields : List String)
    (language : String) (documents : List Document) : List Text :=
  lookup.choose ((documents.filter (·.viewable)).map
    (lookup.inDocument grammar name fields language))

end Lookup

namespace Engine

def resolutionSource : String := "textblocks.core.blocks.resolver"

def overrideSource : String := "textblocks.core.templates.overrides"

def scope (engine : Engine) (lookup : Lookup) (archive : Archive) : List String :=
  lookup.fields.getD (engine.enabledFields archive)

def find (engine : Engine) (lookup : Lookup) (name : Text) (fields : List String)
    (language : String) : ArchiveWork (List Text) := do
  let documents ← Archive.search ⟨fields, engine.grammar.startTag name lookup.multi⟩ true
  return lookup.inDocuments engine.grammar name fields language documents

def fallbackMessage (name : Text) (language : Language) : String :=
  "Block " ++ String.ofList (Text.quoted name) ++ " not found for language " ++
    language.current ++ ", falling back to " ++ language.fallback

/-- Searches in the reader's language, and once more in the fallback language. -/
def findWithFallback (engine : Engine) (lookup : Lookup) (name : Text) (fields : List String)
    (language : Language) : ArchiveWork (List Text) := do
  let found ← engine.find lookup name fields language.current
  if found.isEmpty && !language.isFallback then
    let note : Act Archive Unit :=
      Session.note .debug resolutionSource (fallbackMessage name language)
    note
    engine.find lookup name fields language.fallback
  else return found

/-- The text of a template in place of the content, if there is one. -/
def applyOverride (engine : Engine) (format : Text → Act Archive Text) (name content : Text) :
    ArchiveWork Text := do
  match engine.override with
  | none => return content
  | some override =>
      let rendering := override (← get).store.files name content
      match ← (ExceptT.mk (rendering.run format) : ArchiveWork (Option Overridden)) with
      | none => return content
      | some given =>
          let note : Act Archive Unit :=
            Session.note .debug overrideSource given.note
          note
          return given.text

/-- The content of a block. `format` is what templates get to format texts with;
only a joined content that was found is given to a template. -/
def resolve (engine : Engine) (lookup : Lookup) (code : Option String)
    (format : Text → Act Archive Text) (requested : Text) : ArchiveWork Resolved := do
  let name := sanitize requested
  let fields := engine.scope lookup (← get).store
  if name.isEmpty || fields.isEmpty then return lookup.shape []
  else
    let found ← engine.findWithFallback lookup name fields (engine.language.withCurrent code)
    if lookup.itemized || found.isEmpty then return lookup.shape found
    else return .joined (← engine.applyOverride format name (joinLines found))

/-- The content of a block, asked for outside of a render. -/
def block (engine : Engine) (lookup : Lookup) (code : Option String) (name : Text) :
    ArchiveWork Resolved :=
  engine.resolve lookup code pure name

end Engine

end Transclusion

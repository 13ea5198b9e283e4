import Transclusion.Formatting
import Transclusion.Resolution
import Transclusion.Uniqueness

/-!
Rendering texts for readers and saving texts of authors. While a render runs the
session is busy, so what templates ask to have formatted comes back as it is. A
text that is saved unchanged is not validated again.
-/

namespace Transclusion.Engine

/-- Resolves the references of a render; `format` serves templates. -/
def references (engine : Engine) (code : Option String) (format : Text → Act Archive Text) :
    Resolver Archive Fault :=
  fun name multi => do
    let resolved ← (engine.resolve { multi } code format name).run
    return resolved.map fun content => some content.text

/-- A render in which templates may have texts rendered in turn, `depth` levels
down. -/
def renderWithin (engine : Engine) (code : Option String) : Nat → Text → Act Archive (Text × Report)
  | 0, text => renderWith pure text
  | depth + 1, text =>
      renderWith (fun nested => do return (← engine.renderWithin code depth nested).1) text
where
  renderWith (format : Text → Act Archive Text) (text : Text) : Act Archive (Text × Report) :=
    Formatting.format engine.grammar (some (engine.references code format))
      Formatting.defaultStages text {}

/-- A text as a reader sees it, and what the render met. Templates run only while
the session is busy, so one level below is all there can be. -/
def render (engine : Engine) (code : Option String) (text : Text) :
    Act Archive (Text × Report) :=
  engine.renderWithin code 1 text

/-- The text that may be saved. Without fields, all that may define blocks are
searched for other definitions. -/
def beforeSave (engine : Engine) (id : String) (fields : Option (List String)) (text : Text)
    (stored : Option Text) : ArchiveWork Validation := do
  if stored = some text then return { text }
  else engine.validate id (fields.getD (engine.enabledFields (← get).store)) text

/-- Validates a text, writes it to a field of the document and keeps the document. -/
def saveField (engine : Engine) (document : Document) (field : String) (text : Text)
    (language : Option String) : ArchiveWork (Validation × Document) := do
  let validation ←
    engine.beforeSave document.id none text (some (document.textOf field language))
  let document := document.setText field validation.text language
  Archive.keep document
  return (validation, document)

end Transclusion.Engine

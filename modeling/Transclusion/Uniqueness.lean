import Transclusion.Engine
import Transclusion.Extraction

/-!
Single-value blocks are defined in one document. When a text to be saved defines
one that another document defines too, its markers in the text are turned into
multi-value form, and a warning tells so.
-/

namespace Transclusion

structure Collision where
  name : Text
  oldTag : Text
  newTag : Text
  documentId : String
  deriving DecidableEq, Repr

namespace Collision

def message (collision : Collision) : String :=
  "Block tag " ++ String.ofList collision.oldTag ++
    " is already used in another document; it was changed to " ++
    String.ofList collision.newTag ++ "."

end Collision

structure Validation where
  text : Text
  changed : Bool := false
  warnings : List Collision := []
  deriving DecidableEq, Repr

namespace Engine

def uniquenessSource : String := "textblocks.core.blocks.validator"

/-- Whether a text of the fields defines the single-value block. -/
def defines (engine : Engine) (fields : List String) (name : Text) (document : Document) : Bool :=
  fields.any fun field =>
    (document.textsOf field).any fun text =>
      ((Extraction.blockMap engine.grammar text).lookup name false).isSome

/-- Whether a document other than `id` defines the single-value block. -/
def isDefinedElsewhere (engine : Engine) (id : String) (fields : List String) (name : Text) :
    ArchiveWork Bool := do
  let documents ← Archive.search ⟨fields, engine.grammar.startTag name false⟩ true
  return documents.any fun document => document.id != id && engine.defines fields name document

/-- The text with every single-value start and stop marker of the name doubled. -/
def doubleMarkers (engine : Engine) (name text : Text) : Text :=
  (Cutting.ofText (Token.named engine.grammar name) none text).fill fun token =>
    token.word ++ engine.grammar.separator true ++ token.name

def collisionOf (engine : Engine) (id : String) (name : Text) : Collision :=
  { name
    oldTag := engine.grammar.startTag name false
    newTag := engine.grammar.startTag name true
    documentId := id }

/-- Checks the names in order and doubles the markers of those that collide. -/
def validateNames (engine : Engine) (id : String) (fields : List String) :
    List Text → Validation → ArchiveWork Validation
  | [], validation => return validation
  | name :: rest, validation => do
      if ← engine.isDefinedElsewhere id fields name then
        let collision := engine.collisionOf id name
        let note : Act Archive Unit :=
          Session.note .warning uniquenessSource
            (collision.message ++ " (document " ++ id ++ ")")
        note
        engine.validateNames id fields rest
          { text := engine.doubleMarkers name validation.text
            changed := true
            warnings := validation.warnings ++ [collision] }
      else engine.validateNames id fields rest validation

/-- The text as it may be saved in the document `id`. -/
def validate (engine : Engine) (id : String) (fields : List String) (text : Text) :
    ArchiveWork Validation :=
  engine.validateNames id fields (Extraction.blockMap engine.grammar text).singleNames { text }

end Engine

end Transclusion

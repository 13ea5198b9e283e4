import Transclusion.Archive
import Transclusion.Grammar
import Transclusion.Rendering

/-!
An engine: the grammar of its markers, the languages of its reader, the templates
that override blocks, and the capability under which fields define blocks.
-/

namespace Transclusion

/-- The reader's language, and the one to fall back to. -/
structure Language where
  current : String := "en"
  fallback : String := "en"
  deriving DecidableEq, Repr

namespace Language

def isFallback (language : Language) : Bool := language.current == language.fallback

/-- The languages with another current one; an empty code changes nothing. -/
def withCurrent (language : Language) (code : Option String) : Language :=
  match code with
  | some code => if code.isEmpty then language else { language with current := code }
  | none => language

end Language

/-- A text that a template gave, and the template's name. -/
structure Overridden where
  template : Text
  text : Text

namespace Overridden

/-- What is noted when the text is used. -/
def note (given : Overridden) : String :=
  "Applied template override " ++ String.ofList given.template

end Overridden

/-- What stands in for the content of a block, given the block's name and content;
`none` when no template is there. -/
abbrev Override := FileTree → Text → Text → Rendering (Except Fault (Option Overridden))

structure Engine where
  grammar : Grammar := {}
  language : Language := {}
  override : Option Override := none
  capability : String := standardCapability

namespace Engine

def enabledFields (engine : Engine) (archive : Archive) : List String :=
  archive.fieldsFor engine.capability

/-- The engine can be disabled when no field depends on it any more. -/
def ensureCanDisable (engine : Engine) (archive : Archive) : Except Fault Unit :=
  match engine.enabledFields archive with
  | [] => .ok ()
  | fields => .error (.inUse fields)

end Engine

end Transclusion

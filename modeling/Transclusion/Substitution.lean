import Transclusion.Marker
import Transclusion.Session
import Transclusion.Text.Quoted

/-!
Putting block content in the place of show markers. A resolver is asked once for
each distinct written form, in order of first occurrence; a resolver that fails
leaves a warning and an empty text. Inserted text is not read again.
-/

namespace Transclusion

/-- Asks for the content of a name; `none` is no content. -/
abbrev Resolver (Store Failure : Type) :=
  Text → Bool → Act Store (Except Failure (Option Text))

namespace Substitution

variable {Store Failure : Type}

def source : String := "textblocks.core.blocks.substituter"

def truthText (truth : Bool) : String := if truth then "True" else "False"

def failureMessage (name : Text) (multi : Bool) : String :=
  "Failed to resolve block " ++ String.ofList (Text.quoted name) ++
    " (multi=" ++ truthText multi ++ ")"

/-- What came of asking for one written form. -/
inductive Reply where
  | content (text : Text)
  | absent
  | failed
  deriving DecidableEq, Repr

def Reply.text : Reply → Text
  | .content text => text
  | .absent => []
  | .failed => []

structure Answer where
  written : Text
  name : Text
  reply : Reply
  deriving DecidableEq, Repr

def resolveOne (resolve : Resolver Store Failure) (name : Text) (multi : Bool) :
    Act Store Reply := do
  match ← resolve name multi with
  | .ok (some text) => return .content text
  | .ok none => return .absent
  | .error _ =>
      Session.note .warning source (failureMessage name multi)
      return .failed

def known? (answers : List Answer) (written : Text) : Option Answer :=
  answers.find? fun answer => answer.written == written

/-- An answer for each distinct written form, in order of first occurrence. -/
def answerAll (grammar : Grammar) (resolve : Resolver Store Failure) :
    List Marker → List Answer → Act Store (List Answer)
  | [], answers => return answers
  | marker :: rest, answers => do
      match known? answers marker.written with
      | some _ => answerAll grammar resolve rest answers
      | none =>
          let name := marker.token.name
          let reply ← resolveOne resolve name (grammar.isMulti marker.token.separator)
          answerAll grammar resolve rest (answers ++ [⟨marker.written, name, reply⟩])

def cutting (grammar : Grammar) (text : Text) : Cutting Marker :=
  Cutting.ofText (Marker.shows grammar) none text

def replacement (answers : List Answer) (marker : Marker) : Text :=
  ((known? answers marker.written).map (·.reply.text)).getD []

def substitute (grammar : Grammar) (resolve : Resolver Store Failure) (text : Text) :
    Act Store (Text × List Answer) := do
  if grammar.mayShow text then
    let found := cutting grammar text
    let answers ← answerAll grammar resolve found.marks []
    return (found.fill (replacement answers), answers)
  else
    return (text, [])

end Substitution

end Transclusion

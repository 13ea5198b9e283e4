import Transclusion.Text.Ranges

/-!
Removing HTML comments, with delimiters written raw or with entities. Removing
one comment can put the pieces of another together, so passes repeat until one
leaves the text alone.
-/

namespace Transclusion.Comment

def rawOpening : Text := ['<', '!', '-', '-']
def rawClosing : Text := ['-', '-', '>']
def encodedOpening : Text := ['&', 'l', 't', ';', '!', '-', '-']
def encodedClosing : Text := ['-', '-', '&', 'g', 't', ';']

/-- Replaces every occurrence of `old`, left to right. `skip` counts the
characters of an occurrence that are still to be passed. -/
def replaceFrom (old new : Text) : Nat → Text → Text
  | _, [] => []
  | skip + 1, _ :: rest => replaceFrom old new skip rest
  | 0, c :: rest =>
      if old.isPrefixOf (c :: rest) then new ++ replaceFrom old new (old.length - 1) rest
      else c :: replaceFrom old new 0 rest

def replace (old new text : Text) : Text := replaceFrom old new 0 text

def decode (text : Text) : Text :=
  replace encodedClosing rawClosing (replace encodedOpening rawOpening text)

/-- What follows the first closing delimiter. -/
def afterClosing : Text → Option Text
  | [] => none
  | c :: rest =>
      if rawClosing.isPrefixOf (c :: rest) then some ((c :: rest).drop 3) else afterClosing rest

/-- What follows the comment that begins here. -/
def afterComment (text : Text) : Option Text :=
  if rawOpening.isPrefixOf text then afterClosing (text.drop 4) else none

theorem afterClosing_length {text after : Text} (found : afterClosing text = some after) :
    after.length ≤ text.length := by
  induction text with
  | nil => simp [afterClosing] at found
  | cons c rest ih =>
      unfold afterClosing at found
      split at found
      · cases found
        simp
        omega
      · have shorter := ih found
        simp
        omega

theorem afterComment_length {c : Char} {rest after : Text}
    (found : afterComment (c :: rest) = some after) : after.length < (c :: rest).length := by
  unfold afterComment at found
  split at found
  · have shorter := afterClosing_length found
    simp at shorter ⊢
    omega
  · simp at found

def removeRaw : Text → Text
  | [] => []
  | c :: rest =>
      match _ : afterComment (c :: rest) with
      | some after => removeRaw after
      | none => c :: removeRaw rest
  termination_by text => text.length
  decreasing_by
    · exact afterComment_length (by assumption)
    · simp

def pass (text : Text) : Text := removeRaw (decode text)

/-- A pass that changes the text makes it shorter. -/
def strip (text : Text) : Text :=
  let next := pass text
  if next.length < text.length then strip next else next
  termination_by text.length

end Transclusion.Comment

import Transclusion.Text.Ranges

/-!
Splitting a text at every occurrence of a separator, from left to right. The parts
with the separator between them give the text back.
-/

namespace Transclusion.Text

/-- The parts from a place on. `current` is what was read of a part, reversed, and
`skip` counts the characters of an occurrence that are still to be passed. -/
def splitFrom (separator : Text) : Nat → Text → Text → List Text
  | _, current, [] => [current.reverse]
  | skip + 1, current, _ :: rest => splitFrom separator skip current rest
  | 0, current, c :: rest =>
      if separator.isPrefixOf (c :: rest) then
        current.reverse :: splitFrom separator (separator.length - 1) [] rest
      else splitFrom separator 0 (c :: current) rest

/-- The parts of a text between occurrences of a separator that is not empty. -/
def split (separator text : Text) : List Text := splitFrom separator 0 [] text

end Transclusion.Text

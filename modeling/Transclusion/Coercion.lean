import Transclusion.Json
import Transclusion.Text.Blank
import Transclusion.Text.Digit

/-!
The value that the text of a setting stands for: truth values and nulls by name,
integers and decimal fractions by their digits, lists and maps written as JSON,
and the trimmed text otherwise. Digits of every script count.
-/

namespace Transclusion.Coercion

/-- Text without its sign, and whether the sign is a minus. -/
def unsign (text : Text) : Bool × Text :=
  match text with
  | '-' :: rest => (true, rest)
  | '+' :: rest => (false, rest)
  | text => (false, text)

def isDigits (text : Text) : Bool := !text.isEmpty && text.all Text.isDigit

/-- The digits before and after a decimal point; those after it are not empty. -/
def fraction? (text : Text) : Option (Text × Text) :=
  match text.dropWhile Text.isDigit with
  | '.' :: part => if isDigits part then some (text.takeWhile Text.isDigit, part) else none
  | _ => none

def isBracketed (left right : Char) (text : Text) : Bool :=
  text.head? == some left && text.getLast? == some right

/-- Only integers with too many digits and lists too deep in one another have no value. -/
def coerce (text : Text) : Except Json.Fault Value :=
  let content := Text.trim text
  let low := content.map Char.toLower
  if low == "true".toList then .ok (.bool true)
  else if low == "false".toList then .ok (.bool false)
  else if low == "null".toList || low == "none".toList then .ok .null
  else
    let (negative, unsigned) := unsign content
    if isDigits unsigned then
      if Value.digitLimit < unsigned.length then .error (.tooManyDigits unsigned.length)
      else
        let size := Int.ofNat (Text.number unsigned)
        .ok (.int (if negative then -size else size))
    else
      match fraction? unsigned with
      | some (whole, part) =>
          .ok (.float (Binary64.ofDecimal negative (Text.number (whole ++ part))
            (-Int.ofNat part.length)))
      | none =>
          if isBracketed '[' ']' content || isBracketed '\x7b' '\x7d' content then
            match Json.read content with
            | .ok value => .ok value
            | .error .malformed => .ok (.text (String.ofList content))
            | .error fault => .error fault
          else .ok (.text (String.ofList content))

end Transclusion.Coercion

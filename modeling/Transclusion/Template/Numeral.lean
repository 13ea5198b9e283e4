import Transclusion.Number.Binary64
import Transclusion.Template.Fault
import Transclusion.Text.Digit

/-!
Numbers in tags. An integer is written in decimal or, after a zero and a letter, in
base two, eight or sixteen; a number with a fraction or a power of ten is a binary
one. Single underscores may stand between digits. Digits of every script count,
except that a number with a fraction or a power takes plain ones only.
-/

namespace Transclusion.Template.Numeral

/-- A run of digits that `fits`, without the single underscores between them, and
what follows. An underscore is passed when a digit comes after it; one may come
first if `mayJoin`. -/
def digitRun (fits : Char → Bool) : Bool → Text → Text × Text
  | _, [] => ([], [])
  | mayJoin, c :: rest =>
      if fits c then
        let (digits, after) := digitRun fits true rest
        (c :: digits, after)
      else if mayJoin && c == '_' && (rest.head?.map fits).getD false then
        digitRun fits false rest
      else ([], c :: rest)

def isBinary (c : Char) : Bool := c == '0' || c == '1'

def isHexLetter (c : Char) : Bool := ('a' ≤ c && c ≤ 'f') || ('A' ≤ c && c ≤ 'F')

def isHex (c : Char) : Bool := Text.isDigit c || isHexLetter c

def hexValue (c : Char) : Nat :=
  match Text.digit? c with
  | some value => value
  | none => if 'a' ≤ c then c.toNat - 'a'.toNat + 10 else c.toNat - 'A'.toNat + 10

def inBase (base : Nat) (digits : Text) : Nat :=
  digits.foldl (fun total c => base * total + hexValue c) 0

/-- The base that a letter after a zero stands for, with the digits it takes. -/
def baseOf? (letter : Char) : Option (Nat × (Char → Bool)) :=
  if letter = 'b' || letter = 'B' then some (2, isBinary)
  else if letter = 'o' || letter = 'O' then some (8, Escape.isOctal)
  else if letter = 'x' || letter = 'X' then some (16, isHex)
  else none

def decimal (digits : Text) : Except SourceFault Nat :=
  if Value.digitLimit < digits.length then .error (.tooManyDigits digits.length)
  else .ok (Text.number digits)

/-- An integer after a zero and a letter. -/
def readInBase? : Text → Option (Nat × Text)
  | '0' :: letter :: rest =>
      match baseOf? letter with
      | none => none
      | some (base, fits) =>
          match digitRun fits true rest with
          | ([], _) => none
          | (digits, after) => some (inBase base digits, after)
  | _ => none

/-- An integer; zeros in front make an integer of their own. -/
def readInteger? (text : Text) : Option (Except SourceFault Nat × Text) :=
  match readInBase? text, text with
  | some (number, after), _ => some (.ok number, after)
  | none, c :: rest =>
      if c.isDigit then
        let (digits, after) := digitRun (if c == '0' then (· == '0') else Text.isDigit) true rest
        some (decimal (c :: digits), after)
      else none
  | none, [] => none

/-- A point and the digits after it. -/
def readFraction? : Text → Option (Text × Text)
  | '.' :: rest =>
      match digitRun Text.isDigit false rest with
      | ([], _) => none
      | read => some read
  | _ => none

/-- A power of ten: whether it is negative, its digits, and what follows. -/
def readPower? : Text → Option (Bool × Text × Text)
  | mark :: rest =>
      if mark == 'e' || mark == 'E' then
        let (negative, digits) :=
          match rest with
          | '-' :: digits => (true, digits)
          | '+' :: digits => (false, digits)
          | digits => (false, digits)
        match digitRun Text.isDigit false digits with
        | ([], _) => none
        | (digits, after) => some (negative, digits, after)
      else none
  | [] => none

/-- A number from its digits before and after the point and those of its power. -/
def binary (whole fraction : Text) (negative : Bool) (power : Text) :
    Except SourceFault UInt64 :=
  match (whole ++ fraction ++ power).find? (!·.isDigit) with
  | some strange =>
      .error (.strangeDigit strange
        ((whole ++ fraction).all Char.isDigit && !(power.headD '0').isDigit))
  | none =>
      let size := Int.ofNat (Text.number power)
      .ok (Binary64.ofDecimal false (Text.number (whole ++ fraction))
        ((if negative then -size else size) - Int.ofNat fraction.length))

/-- A number with a fraction, a power of ten, or both. -/
def readFloat? (text : Text) : Option (Except SourceFault UInt64 × Text) :=
  match digitRun Text.isDigit false text with
  | ([], _) => none
  | (whole, after) =>
      match readFraction? after with
      | some (fraction, after) =>
          match readPower? after with
          | some (negative, power, after) => some (binary whole fraction negative power, after)
          | none => some (binary whole fraction false [], after)
      | none =>
          (readPower? after).map fun (negative, power, after) =>
            (binary whole [] negative power, after)

end Transclusion.Template.Numeral

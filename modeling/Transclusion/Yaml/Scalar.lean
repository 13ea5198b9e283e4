import Transclusion.Value
import Transclusion.Yaml.Fault
import Transclusion.Json

/-!
What the text of a scalar stands for. Words name truth values and null; integers
are decimal, octal after a zero, binary, hexadecimal or written in base sixty with
colons; fractions have a point; dates have dashes. Underscores between digits are
skipped.
-/

namespace Transclusion.Yaml

inductive Kind where
  | null
  | bool
  | int
  | float
  | timestamp
  | text
  | merge
  | value
  deriving DecidableEq, Repr

namespace Scalar

def trueWords : List String :=
  ["yes", "Yes", "YES", "true", "True", "TRUE", "on", "On", "ON"]

def falseWords : List String :=
  ["no", "No", "NO", "false", "False", "FALSE", "off", "Off", "OFF"]

def nullWords : List String := ["", "~", "null", "Null", "NULL"]

def isBinaryDigit (c : Char) : Bool := c == '0' || c == '1'

def isOctalDigit (c : Char) : Bool := '0' ≤ c && c ≤ '7'

def isHexDigit (c : Char) : Bool := (Json.hexValue? c).isSome

/-- One or more digits and underscores. -/
def isRun (isDigit : Char → Bool) (text : Text) : Bool :=
  !text.isEmpty && text.all fun c => isDigit c || c == '_'

def unsign (text : Text) : Text :=
  match text with
  | '-' :: rest => rest
  | '+' :: rest => rest
  | text => text

def isSexagesimalPart : Text → Bool
  | [c] => c.isDigit
  | [c, d] => ('0' ≤ c && c ≤ '5') && d.isDigit
  | _ => false

/-- Digits, then one or more parts in base sixty after colons. -/
def isSexagesimal (head : Char → Bool) (text : Text) : Bool :=
  match text.splitOn ':' with
  | [] => false
  | [_] => false
  | first :: parts =>
      (first.head?.map head).getD false && isRun Char.isDigit first && parts.all isSexagesimalPart

def isNonzeroDigit (c : Char) : Bool := c.isDigit && c != '0'

def isInteger (text : Text) : Bool :=
  match unsign text with
  | ['0'] => true
  | '0' :: 'b' :: digits => isRun isBinaryDigit digits
  | '0' :: 'x' :: digits => isRun isHexDigit digits
  | '0' :: digits => isRun isOctalDigit digits
  | text =>
      ((text.head?.map isNonzeroDigit).getD false && isRun Char.isDigit text) ||
        isSexagesimal isNonzeroDigit text

/-- An exponent with its sign, or nothing. -/
def isExponent (text : Text) : Bool :=
  match text with
  | [] => true
  | mark :: sign :: digits =>
      (mark == 'e' || mark == 'E') && (sign == '-' || sign == '+') && !digits.isEmpty &&
        digits.all Char.isDigit
  | _ => false

/-- The text after digits and underscores. -/
def pastRun (text : Text) : Text := text.dropWhile fun c => c.isDigit || c == '_'

def isPointed (text : Text) : Bool :=
  (text.head?.map Char.isDigit).getD false &&
    match pastRun text with
    | '.' :: rest => isExponent (pastRun rest)
    | _ => false

def isSexagesimalFraction (text : Text) : Bool :=
  match (pastRun text.reverse) with
  | '.' :: whole => isSexagesimal Char.isDigit whole.reverse
  | _ => false

def infinityWords : List String := [".inf", ".Inf", ".INF"]

def nanWords : List String := [".nan", ".NaN", ".NAN"]

def isFraction (text : Text) : Bool :=
  let unsigned := unsign text
  isPointed unsigned || isSexagesimalFraction unsigned ||
    infinityWords.contains (String.ofList unsigned) || nanWords.contains (String.ofList text) ||
    match text with
    | '.' :: c :: rest => c.isDigit && isExponent (pastRun rest)
    | _ => false

/-- Digits at the head, from `least` to `most` of them, and what follows. -/
def takeDigits (least most : Nat) (text : Text) : Option (Nat × Text) :=
  let digits := (text.take most).takeWhile Char.isDigit
  if digits.length < least then none
  else some (Json.naturalOf digits, text.drop digits.length)

def skipChar (c : Char) (text : Text) : Option Text :=
  match text with
  | d :: rest => if c = d then some rest else none
  | [] => none

structure Stamp where
  year : Nat
  month : Nat
  day : Nat
  time : Option (Nat × Nat × Nat × Nat) := none
  offset : Option Int := none

def isGap (c : Char) : Bool := c == ' ' || c == '\t'

/-- Microseconds, from the first six digits after the point. -/
def microseconds (digits : Text) : Nat :=
  let kept := digits.take 6
  Json.naturalOf (kept ++ List.replicate (6 - kept.length) '0')

/-- Minutes from universal time: a letter, or a sign with hours and minutes. -/
def readOffset (text : Text) : Option (Option Int) :=
  match text.dropWhile isGap with
  | [] => if text.isEmpty then some none else none
  | ['Z'] => some (some 0)
  | sign :: rest =>
      if sign = '-' || sign = '+' then do
        let (hours, rest) ← takeDigits 1 2 rest
        let minutes ←
          match rest with
          | [] => some 0
          | ':' :: rest =>
              match takeDigits 2 2 rest with
              | some (minutes, []) => some minutes
              | _ => none
          | _ => none
        let size := Int.ofNat (60 * hours + minutes)
        return some (if sign = '-' then -size else size)
      else none

/-- A date, or a date and a time. -/
def stamp? (text : Text) : Option Stamp := do
  let (year, rest) ← takeDigits 4 4 text
  let (month, afterMonth) ← takeDigits 1 2 (← skipChar '-' rest)
  let (day, afterDay) ← takeDigits 1 2 (← skipChar '-' afterMonth)
  match afterDay with
  | [] => if text.length = 10 then return { year, month, day } else none
  | mark :: rest =>
      let clock ←
        if mark = 'T' || mark = 't' then some rest
        else if isGap mark then some (rest.dropWhile isGap)
        else none
      let (hour, rest) ← takeDigits 1 2 clock
      let (minute, rest) ← takeDigits 2 2 (← skipChar ':' rest)
      let (second, rest) ← takeDigits 2 2 (← skipChar ':' rest)
      let digits := match rest with
        | '.' :: part => part.takeWhile Char.isDigit
        | _ => []
      let rest := match rest with
        | '.' :: part => part.dropWhile Char.isDigit
        | rest => rest
      let offset ← readOffset rest
      return { year, month, day, time := some (hour, minute, second, microseconds digits), offset }

/-- What an unquoted text stands for. -/
def kindOf (text : Text) : Kind :=
  let word := String.ofList text
  if trueWords.contains word || falseWords.contains word then .bool
  else if nullWords.contains word then .null
  else if word == "<<" then .merge
  else if word == "=" then .value
  else if isFraction text then .float
  else if isInteger text then .int
  else if (stamp? text).isSome then .timestamp
  else .text

def digitsIn (base : Nat) (digits : Text) : Option Nat :=
  if digits.isEmpty then none
  else digits.foldl
    (fun total c => do
      let total ← total
      let digit ← Json.hexValue? c
      if digit < base then return total * base + digit else none)
    (some 0)

def badInteger (base : Nat) (digits : Text) : Fault :=
  .number ("invalid literal for int() with base " ++ toString base ++ ": '" ++
    String.ofList digits ++ "'")

def inBase (base : Nat) (digits : Text) : Except Fault Nat :=
  match digitsIn base digits with
  | some size => .ok size
  | none => .error (badInteger base digits)

def decimal (digits : Text) : Except Fault Nat :=
  if Value.digitLimit < digits.length then
    .error (.number (Json.Fault.message (.tooManyDigits digits.length)))
  else inBase 10 digits

def sexagesimal (parts : List Text) : Except Fault Nat :=
  parts.foldlM (fun total part => do return total * 60 + (← decimal part)) 0

def isNegative (text : Text) : Bool := text.head? == some '-'

def integer (text : Text) : Except Fault Value := do
  let compact := text.filter (· != '_')
  let size ←
    match unsign compact with
    | ['0'] => pure 0
    | '0' :: 'b' :: digits => inBase 2 digits
    | '0' :: 'x' :: digits => inBase 16 digits
    | '0' :: digits => inBase 8 ('0' :: digits)
    | digits => sexagesimal (digits.splitOn ':')
  return .int (if isNegative compact then -Int.ofNat size else Int.ofNat size)

/-- A decimal number with an optional point and exponent. -/
def pointed? (negative : Bool) (text : Text) : Option UInt64 :=
  let whole := text.takeWhile Char.isDigit
  let afterWhole := text.dropWhile Char.isDigit
  let part := match afterWhole with
    | '.' :: rest => rest.takeWhile Char.isDigit
    | _ => []
  let rest := match afterWhole with
    | '.' :: rest => rest.dropWhile Char.isDigit
    | rest => rest
  if whole.isEmpty && part.isEmpty then none
  else
    let digits := Json.naturalOf (whole ++ part)
    match Json.readExponent rest with
    | some (power, []) => some (Binary64.ofDecimal negative digits (power - Int.ofNat part.length))
    | _ =>
        if rest.isEmpty then some (Binary64.ofDecimal negative digits (-Int.ofNat part.length))
        else none

def badFraction (text : Text) : Fault :=
  .number ("could not convert string to float: '" ++ String.ofList text ++ "'")

/-- Parts in base sixty, the last one first. Each is multiplied by its rounded power
of sixty and added. -/
def sexagesimalSum : List UInt64 → Nat → Float → Except Fault Float
  | [], _, total => .ok total
  | part :: rest, base, total =>
      let factor := Binary64.ofRatio false base 1
      if factor == Binary64.infinity false then
        .error (.tooLarge "int too large to convert to float")
      else
        sexagesimalSum rest (base * 60) (total + Float.ofBits part * Float.ofBits factor)

def sexagesimalFraction (parts : List Text) : Except Fault Float := do
  let numbers ← parts.mapM fun part =>
    match pointed? false part with
    | some bits => .ok bits
    | none => .error (badFraction part)
  sexagesimalSum numbers.reverse 1 0

def fraction (text : Text) : Except Fault Value :=
  let compact := (text.filter (· != '_')).map Char.toLower
  let negative := isNegative compact
  let unsigned := unsign compact
  if unsigned == ".inf".toList then .ok (.float (Binary64.infinity negative))
  else if unsigned == ".nan".toList then .ok (.float Binary64.nan)
  else if unsigned.contains ':' then do
    let total ← sexagesimalFraction (unsigned.splitOn ':')
    return .float (if negative then -total else total).toBits
  else
    match pointed? negative unsigned with
    | some bits => .ok (.float bits)
    | none => .error (badFraction unsigned)

def isLeapYear (year : Nat) : Bool :=
  year % 4 = 0 && (year % 100 ≠ 0 || year % 400 = 0)

def daysIn (year month : Nat) : Nat :=
  if month = 2 then (if isLeapYear year then 29 else 28)
  else if month = 4 || month = 6 || month = 9 || month = 11 then 30
  else 31

def checkDate (stamp : Stamp) : Except Fault Date :=
  if stamp.year = 0 then .error (.number "year 0 is out of range")
  else if stamp.month = 0 || 12 < stamp.month then .error (.number "month must be in 1..12")
  else if stamp.day = 0 || daysIn stamp.year stamp.month < stamp.day then
    .error (.number "day is out of range for month")
  else .ok ⟨stamp.year, stamp.month, stamp.day⟩

def offsetMessage (offset : Int) : String :=
  let days := (offset * 60).ediv 86400
  let seconds := (offset * 60).emod 86400
  "offset must be a timedelta strictly between -timedelta(hours=24) and timedelta(hours=24), " ++
    "not datetime.timedelta(days=" ++ toString days ++
    (if seconds = 0 then "" else ", seconds=" ++ toString seconds) ++ ")."

def stampValue (stamp : Stamp) : Except Fault Value := do
  match stamp.time with
  | none => return .date (← checkDate stamp)
  | some (hour, minute, second, microsecond) =>
      let offset := stamp.offset.getD 0
      if 1440 ≤ offset.natAbs then throw (.number (offsetMessage offset))
      let date ← checkDate stamp
      if 23 < hour then throw (.number "hour must be in 0..23")
      if 59 < minute then throw (.number "minute must be in 0..59")
      if 59 < second then throw (.number "second must be in 0..59")
      return .moment { date, hour, minute, second, microsecond, offset := stamp.offset }

def timestamp (text : Text) : Except Fault Value :=
  match stamp? text with
  | some stamp => stampValue stamp
  | none => .error .construction

/-- The value of a scalar of a given kind. -/
def value (kind : Kind) (text : Text) : Except Fault Value :=
  match kind with
  | .null => .ok .null
  | .bool =>
      let word := String.ofList text
      if trueWords.contains word then .ok (.bool true)
      else if falseWords.contains word then .ok (.bool false)
      else .error .construction
  | .int => integer text
  | .float => fraction text
  | .timestamp => timestamp text
  | .text => .ok (.text (String.ofList text))
  | .merge => .error .construction
  | .value => .error .construction

end Scalar

end Transclusion.Yaml

import Transclusion.Text.Quoted
import Transclusion.Value

/-!
How a value reads in a message: `plain` is its bare text, `shown` marks text with
quotes and spells the type of a date out. Items inside lists and maps are always
shown. Where a value is written out, `hasText` tells whether no integer in it is too
long for that.
-/

namespace Transclusion

def padded (width number : Nat) : String :=
  let digits := toString number
  "".pushn '0' (width - digits.length) ++ digits

namespace Date

def plain (date : Date) : String :=
  padded 4 date.year ++ "-" ++ padded 2 date.month ++ "-" ++ padded 2 date.day

end Date

namespace Moment

def offsetText (offset : Int) : String :=
  (if offset < 0 then "-" else "+") ++ padded 2 (offset.natAbs / 60) ++ ":" ++
    padded 2 (offset.natAbs % 60)

def plain (moment : Moment) : String :=
  moment.date.plain ++ " " ++ padded 2 moment.hour ++ ":" ++ padded 2 moment.minute ++ ":" ++
    padded 2 moment.second ++
    (if moment.microsecond = 0 then "" else "." ++ padded 6 moment.microsecond) ++
    (match moment.offset with
     | none => ""
     | some offset => offsetText offset)

/-- A distance from universal time, as whole days and the seconds that remain. -/
def offsetShown (offset : Int) : String :=
  if offset = 0 then "datetime.timezone.utc"
  else
    let seconds := (offset * 60).emod 86400
    let days := (offset * 60).ediv 86400
    let part := if days = 0 then "" else "days=" ++ toString days ++ ", "
    "datetime.timezone(datetime.timedelta(" ++ part ++ "seconds=" ++ toString seconds ++ "))"

def shown (moment : Moment) : String :=
  let date := moment.date
  let small :=
    if moment.microsecond = 0 then (if moment.second = 0 then [] else [moment.second])
    else [moment.second, moment.microsecond]
  let parts := [date.year, date.month, date.day, moment.hour, moment.minute] ++ small
  "datetime.datetime(" ++ String.intercalate ", " (parts.map toString) ++
    (match moment.offset with
     | none => ""
     | some offset => ", tzinfo=" ++ offsetShown offset) ++ ")"

end Moment

namespace Value

/-- The name of the type of a value. -/
def shortKind : Value → String
  | .null => "NoneType"
  | .bool _ => "bool"
  | .int _ => "int"
  | .float _ => "float"
  | .text _ => "str"
  | .list _ => "list"
  | .map _ => "dict"
  | .date _ => "date"
  | .moment _ => "datetime"

/-- How messages call the type of a value. -/
def kind (value : Value) : String :=
  match value with
  | .date _ => "datetime." ++ value.shortKind
  | .moment _ => "datetime." ++ value.shortKind
  | _ => value.shortKind

def commas (parts : List String) : String := String.intercalate ", " parts

mutual

def shown : Value → String
  | .null => "None"
  | .bool truth => if truth then "True" else "False"
  | .int number => toString number
  | .float bits => Binary64.layOut {} bits
  | .text content => String.ofList (Text.quoted content.toList)
  | .list items => "[" ++ commas (shownItems items) ++ "]"
  | .map entries => "\x7b" ++ commas (shownEntries entries) ++ "\x7d"
  | .date day => "datetime.date(" ++ commas ([day.year, day.month, day.day].map toString) ++ ")"
  | .moment instant => instant.shown

def shownItems : List Value → List String
  | [] => []
  | item :: rest => shown item :: shownItems rest

def shownEntries : List (Value × Value) → List String
  | [] => []
  | (key, item) :: rest => (shown key ++ ": " ++ shown item) :: shownEntries rest

end

/-- Integers of more digits have no text. -/
def digitLimit : Nat := 4300

def largestWritten : Nat := Nat.pow 10 digitLimit - 1

def noTextMessage : String :=
  "Exceeds the limit (" ++ toString digitLimit ++
    " digits) for integer string conversion; " ++
    "use sys.set_int_max_str_digits() to increase the limit"

mutual

def hasText : Value → Bool
  | .int number => number.natAbs ≤ largestWritten
  | .list items => itemsHaveText items
  | .map entries => entriesHaveText entries
  | _ => true

def itemsHaveText : List Value → Bool
  | [] => true
  | item :: rest => hasText item && itemsHaveText rest

def entriesHaveText : List (Value × Value) → Bool
  | [] => true
  | (key, item) :: rest => hasText key && hasText item && entriesHaveText rest

end

def plain : Value → String
  | .text content => content
  | .date day => day.plain
  | .moment instant => instant.plain
  | other => other.shown

end Value

end Transclusion

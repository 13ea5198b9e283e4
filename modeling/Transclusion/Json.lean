import Transclusion.Value.Written

/-!
Reading and writing JSON. Reading keeps integers whole, takes the non-finite
number words, and lets the last of two equal keys win. Writing spells every
character above ASCII as an escape when asked to.
-/

namespace Transclusion.Json

/-- What holds other values. -/
inductive Holder where
  | list
  | map
  deriving DecidableEq, Repr

def Holder.name : Holder → String
  | .list => "array"
  | .map => "object"

/-- Why a text is not read: it is no JSON, an integer has too many digits, or a list
or map lies inside too many others. -/
inductive Fault where
  | malformed
  | tooManyDigits (count : Nat)
  | tooDeep (holder : Holder)
  deriving DecidableEq, Repr

def Fault.message : Fault → String
  | .malformed => "malformed JSON"
  | .tooManyDigits count =>
      "Exceeds the limit (" ++ toString Value.digitLimit ++
        " digits) for integer string conversion: value has " ++ toString count ++
        " digits; use sys.set_int_max_str_digits() to increase the limit"
  | .tooDeep holder =>
      "maximum recursion depth exceeded while decoding a JSON " ++ holder.name ++
        " from a unicode string"

/-- The number of lists and maps that may lie in one another. -/
def depthLimit : Nat := 985

def isSpace (c : Char) : Bool := c == ' ' || c == '\t' || c == '\n' || c == '\r'

def hexValue? (c : Char) : Option Nat :=
  if c.isDigit then some (c.toNat - '0'.toNat)
  else if 'a' ≤ c && c ≤ 'f' then some (c.toNat - 'a'.toNat + 10)
  else if 'A' ≤ c && c ≤ 'F' then some (c.toNat - 'A'.toNat + 10)
  else none

def readUnit : List Char → Option (Nat × List Char)
  | a :: b :: c :: d :: rest => do
      let first ← hexValue? a
      let second ← hexValue? b
      let third ← hexValue? c
      let fourth ← hexValue? d
      return (((first * 16 + second) * 16 + third) * 16 + fourth, rest)
  | _ => none

def simpleEscape? (c : Char) : Option Char :=
  match c with
  | '"' => some '"'
  | '\\' => some '\\'
  | '/' => some '/'
  | 'b' => some '\x08'
  | 'f' => some '\x0c'
  | 'n' => some '\n'
  | 'r' => some '\r'
  | 't' => some '\t'
  | _ => none

/-- An escape after its backslash. Two escaped surrogates are one character. -/
def readEscape : List Char → Option (Char × List Char)
  | 'u' :: rest => do
      let (unit, rest) ← readUnit rest
      if 0xD800 ≤ unit && unit < 0xDC00 then
        match rest with
        | '\\' :: 'u' :: after =>
            match readUnit after with
            | some (low, beyond) =>
                if 0xDC00 ≤ low && low < 0xE000 then
                  return (Char.ofNat (0x10000 + (unit - 0xD800) * 0x400 + (low - 0xDC00)), beyond)
                else return ('\uFFFD', rest)
            | none => return ('\uFFFD', rest)
        | _ => return ('\uFFFD', rest)
      else if 0xDC00 ≤ unit && unit < 0xE000 then return ('\uFFFD', rest)
      else return (Char.ofNat unit, rest)
  | c :: rest => (simpleEscape? c).map fun image => (image, rest)
  | [] => none

/-- The rest of a string after its opening quote; `read` holds its characters, last first. -/
def readString : Nat → List Char → List Char → Option (String × List Char)
  | 0, _, _ => none
  | _ + 1, _, [] => none
  | fuel + 1, read, c :: rest =>
      if c = '"' then some (String.ofList read.reverse, rest)
      else if c = '\\' then
        match readEscape rest with
        | some (image, rest) => readString fuel (image :: read) rest
        | none => none
      else if c.toNat < 0x20 then none
      else readString fuel (c :: read) rest

def naturalOf (digits : List Char) : Nat :=
  digits.foldl (fun total c => 10 * total + (c.toNat - '0'.toNat)) 0

/-- An exponent: its value and what follows. Beyond twelve digits its size no longer
matters. -/
def readExponent (text : List Char) : Option (Int × List Char) :=
  match text with
  | mark :: rest =>
      if mark = 'e' || mark = 'E' then
        let negative := rest.head? == some '-'
        let digitsOn := if negative || rest.head? == some '+' then rest.drop 1 else rest
        let digits := digitsOn.takeWhile Char.isDigit
        if digits.isEmpty then none
        else
          let size := Int.ofNat (naturalOf ((digits.dropWhile (· == '0')).take 12))
          some (if negative then -size else size, digitsOn.dropWhile Char.isDigit)
      else none
  | [] => none

/-- A number. A point or an exponent makes it floating. -/
def readNumber (text : List Char) : Except Fault (Value × List Char) :=
  let negative := text.head? == some '-'
  let unsigned := if negative then text.drop 1 else text
  let whole :=
    match unsigned with
    | '0' :: _ => ['0']
    | _ => unsigned.takeWhile Char.isDigit
  if whole.isEmpty then .error .malformed
  else
    let afterWhole := unsigned.drop whole.length
    let part :=
      match afterWhole with
      | '.' :: rest => rest.takeWhile Char.isDigit
      | _ => []
    let afterPart := if part.isEmpty then afterWhole else afterWhole.drop (part.length + 1)
    match readExponent afterPart with
    | some (power, rest) =>
        .ok (.float (Binary64.ofDecimal negative (naturalOf (whole ++ part))
          (power - Int.ofNat part.length)), rest)
    | none =>
        if part.isEmpty then
          if Value.digitLimit < whole.length then .error (.tooManyDigits whole.length)
          else
            let size := Int.ofNat (naturalOf whole)
            .ok (.int (if negative then -size else size), afterPart)
        else
          .ok (.float (Binary64.ofDecimal negative (naturalOf (whole ++ part))
            (-Int.ofNat part.length)), afterPart)

def words : List (String × Value) :=
  [("null", .null), ("true", .bool true), ("false", .bool false), ("NaN", .float Binary64.nan),
   ("Infinity", .float (Binary64.infinity false)), ("-Infinity", .float (Binary64.infinity true))]

def readWord (text : List Char) : Option (Value × List Char) :=
  words.findSome? fun (word, value) =>
    if word.toList.isPrefixOf text then some (value, text.drop word.length) else none

def skip (text : List Char) : List Char := text.dropWhile isSpace

mutual

/-- One value; `room` counts the lists and maps that may still be opened around one
another. -/
def readValue (room : Nat) : Nat → List Char → Except Fault (Value × List Char)
  | 0, _ => .error .malformed
  | fuel + 1, text =>
      match text with
      | '"' :: rest =>
          match readString (rest.length + 1) [] rest with
          | some (content, rest) => .ok (.text content, rest)
          | none => .error .malformed
      | '[' :: rest =>
          if room = 0 then .error (.tooDeep .list)
          else
            match skip rest with
            | ']' :: rest => .ok (.list [], rest)
            | rest => do
                let (items, rest) ← readItems (room - 1) fuel rest
                return (.list items, rest)
      | '\x7b' :: rest =>
          if room = 0 then .error (.tooDeep .map)
          else
            match skip rest with
            | '\x7d' :: rest => .ok (.map [], rest)
            | rest => do
                let (entries, rest) ← readEntries (room - 1) fuel rest
                return (Value.ofEntries entries, rest)
      | text =>
          match readWord text with
          | some read => .ok read
          | none => readNumber text

def readItems (room : Nat) : Nat → List Char → Except Fault (List Value × List Char)
  | 0, _ => .error .malformed
  | fuel + 1, text => do
      let (item, rest) ← readValue room fuel text
      match skip rest with
      | ']' :: rest => return ([item], rest)
      | ',' :: rest =>
          let (items, rest) ← readItems room fuel (skip rest)
          return (item :: items, rest)
      | _ => .error .malformed

def readEntries (room : Nat) : Nat → List Char →
    Except Fault (List (Value × Value) × List Char)
  | 0, _ => .error .malformed
  | fuel + 1, text =>
      match text with
      | '"' :: rest =>
          match readString (rest.length + 1) [] rest with
          | none => .error .malformed
          | some (key, rest) =>
              match skip rest with
              | ':' :: rest => do
                  let (item, rest) ← readValue room fuel (skip rest)
                  match skip rest with
                  | '\x7d' :: rest => return ([(.text key, item)], rest)
                  | ',' :: rest =>
                      let (entries, rest) ← readEntries room fuel (skip rest)
                      return ((.text key, item) :: entries, rest)
                  | _ => .error .malformed
              | _ => .error .malformed
      | _ => .error .malformed

end

/-- One JSON value with nothing but spaces around it. -/
def read (text : List Char) : Except Fault Value :=
  match readValue depthLimit (2 * text.length + 1) (skip text) with
  | .ok (value, rest) => if (skip rest).isEmpty then .ok value else .error .malformed
  | .error fault => .error fault

def unitEscape (unit : Nat) : List Char :=
  let digits := Nat.toDigits 16 unit
  '\\' :: 'u' :: List.replicate (4 - digits.length) '0' ++ digits

def writeChar (ascii : Bool) (c : Char) : List Char :=
  match c with
  | '"' => ['\\', '"']
  | '\\' => ['\\', '\\']
  | '\n' => ['\\', 'n']
  | '\r' => ['\\', 'r']
  | '\t' => ['\\', 't']
  | '\x08' => ['\\', 'b']
  | '\x0c' => ['\\', 'f']
  | c =>
      if c.toNat < 0x20 then unitEscape c.toNat
      else if c.toNat < 0x7F || !ascii then [c]
      else if c.toNat < 0x10000 then unitEscape c.toNat
      else
        let beyond := c.toNat - 0x10000
        unitEscape (0xD800 + beyond / 0x400) ++ unitEscape (0xDC00 + beyond % 0x400)

def writeString (ascii : Bool) (text : String) : String :=
  text.foldl (fun out c => out ++ String.ofList (writeChar ascii c)) "\"" ++ "\""

def separate (parts : List String) : String := String.intercalate "," parts

def nonFinite : Binary64.Layout := { nan := "NaN", infinity := "Infinity" }

/-- The text that a key is written as. Dates, lists and maps are no keys. -/
def keyText? : Value → Option String
  | .null => some "null"
  | .bool truth => some (if truth then "true" else "false")
  | .int number => some (toString number)
  | .float bits => some (Binary64.layOut nonFinite bits)
  | .text content => some content
  | _ => none

/-- A value that has no form of its own in JSON is written as its plain text. -/
def scalar (ascii : Bool) : Value → String
  | .null => "null"
  | .bool truth => if truth then "true" else "false"
  | .int number => toString number
  | .float bits => Binary64.layOut nonFinite bits
  | .text content => writeString ascii content
  | other => writeString ascii other.plain

mutual

/-- One line, all characters as they are. -/
def compact : Value → String
  | .list items => "[" ++ separate (compactItems items) ++ "]"
  | .map entries => "\x7b" ++ separate (compactEntries entries) ++ "\x7d"
  | other => scalar false other

def compactItems : List Value → List String
  | [] => []
  | item :: rest => compact item :: compactItems rest

def compactEntries : List (Value × Value) → List String
  | [] => []
  | (key, item) :: rest =>
      (writeString false key.plain ++ ":" ++ compact item) :: compactEntries rest

end

/-- Why a value is not written: a key has no form in JSON, or an integer no text. -/
inductive Unwritable where
  | key (key : Value)
  | digits

def newline (depth : Nat) : String := "\n" ++ "".pushn ' ' (2 * depth)

def bracketed (depth : Nat) (left right : String) (parts : List String) : String :=
  if parts.isEmpty then left ++ right
  else
    left ++ newline (depth + 1) ++ String.intercalate ("," ++ newline (depth + 1)) parts ++
      newline depth ++ right

mutual

/-- An item or entry a line, each level indented by two more, ASCII alone. -/
def pretty (depth : Nat) : Value → Except Unwritable String
  | .list items => do return bracketed depth "[" "]" (← prettyItems depth items)
  | .map entries => do return bracketed depth "\x7b" "\x7d" (← prettyEntries depth entries)
  | other => if other.hasText then .ok (scalar true other) else .error .digits

def prettyItems (depth : Nat) : List Value → Except Unwritable (List String)
  | [] => .ok []
  | item :: rest => do
      let first ← pretty (depth + 1) item
      return first :: (← prettyItems depth rest)

def prettyEntries (depth : Nat) : List (Value × Value) → Except Unwritable (List String)
  | [] => .ok []
  | (key, item) :: rest =>
      match keyText? key with
      | none => .error (.key key)
      | some name => do
          if !key.hasText then throw .digits
          let body ← pretty (depth + 1) item
          return (writeString true name ++ ": " ++ body) :: (← prettyEntries depth rest)

end

end Transclusion.Json

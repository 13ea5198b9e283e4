import Transclusion.Text.Digit
import Transclusion.Text.Quoted

/-!
Laying a text out in a field: a fill character, an alignment, a least width and a
greatest length, read from a layout such as `*>10.3`. The parts of a layout that
only numbers can have are read and then refused.
-/

namespace Transclusion.Template

inductive Align where
  | left
  | right
  | center
  | inner
  deriving DecidableEq, Repr

namespace Align

def ofChar? : Char → Option Align
  | '<' => some .left
  | '>' => some .right
  | '^' => some .center
  | '=' => some .inner
  | _ => none

end Align

structure Layout where
  fill : Char := ' '
  align : Align := .left
  sign : Option Char := none
  unsignedZero : Bool := false
  alternate : Bool := false
  width : Option Nat := none
  grouping : Option Char := none
  precision : Option Nat := none
  style : Char := 's'
  deriving DecidableEq, Repr

namespace Layout

inductive Fault where
  | tooManyDigits
  | missingPrecision
  | twoGroupings
  | grouping (sign style : Char)
  | trailing (layout kind : Text)
  | style (style : Char) (kind : Text)
  | signed
  | spaced
  | unsignedZero
  | alternate
  | inner
  deriving DecidableEq, Repr

/-- A character as it is, or its code when it has no visible ASCII form. -/
def shownChar (c : Char) : String :=
  if 32 < c.toNat && c.toNat < 128 then String.ofList [c]
  else String.ofList ('\\' :: 'x' :: Nat.toDigits 16 c.toNat)

namespace Fault

def message : Fault → String
  | .tooManyDigits => "Too many decimal digits in format string"
  | .missingPrecision => "Format specifier missing precision"
  | .twoGroupings => "Cannot specify both ',' and '_'."
  | .grouping sign letter =>
      "Cannot specify '" ++ String.ofList [sign] ++ "' with '" ++ shownChar letter ++ "'."
  | .trailing layout kind =>
      "Invalid format specifier '" ++ String.ofList layout ++ "' for object of type '" ++
        String.ofList kind ++ "'"
  | .style letter kind =>
      "Unknown format code '" ++ shownChar letter ++ "' for object of type '" ++
        String.ofList kind ++ "'"
  | .signed => "Sign not allowed in string format specifier"
  | .spaced => "Space not allowed in string format specifier"
  | .unsignedZero => "Negative zero coercion (z) not allowed in string format specifier"
  | .alternate => "Alternate form (#) not allowed in string format specifier"
  | .inner => "'=' alignment not allowed in string format specifier"

end Fault

/-- Numbers above this are refused. -/
def largestNumber : Nat := Nat.pow 2 63 - 1

/-- A run of digits in front and what follows it; `none` when there is no digit. -/
def readNumber (text : Text) : Except Fault (Option Nat × Text) :=
  let digits := text.takeWhile Text.isDigit
  if digits.isEmpty then .ok (none, text)
  else if largestNumber < Text.number digits then .error .tooManyDigits
  else .ok (some (Text.number digits), text.dropWhile Text.isDigit)

def readAlign (text : Text) : Layout × Bool × Text :=
  let single (text : Text) : Layout × Bool × Text :=
    match text with
    | c :: rest =>
        match Align.ofChar? c with
        | some align => ({ align }, false, rest)
        | none => ({}, false, text)
    | [] => ({}, false, text)
  match text with
  | fill :: c :: rest =>
      match Align.ofChar? c with
      | some align => ({ fill, align }, true, rest)
      | none => single text
  | _ => single text

def readSign (layout : Layout) (text : Text) : Layout × Text :=
  match text with
  | ' ' :: rest => ({ layout with sign := some ' ' }, rest)
  | '+' :: rest => ({ layout with sign := some '+' }, rest)
  | '-' :: rest => ({ layout with sign := some '-' }, rest)
  | _ => (layout, text)

def readZeroForm (layout : Layout) (text : Text) : Layout × Text :=
  match text with
  | 'z' :: rest => ({ layout with unsignedZero := true }, rest)
  | _ => (layout, text)

def readAlternate (layout : Layout) (text : Text) : Layout × Text :=
  match text with
  | '#' :: rest => ({ layout with alternate := true }, rest)
  | _ => (layout, text)

/-- A zero in front of the width is the fill unless one was given. -/
def readZeroFill (filled : Bool) (layout : Layout) (text : Text) : Layout × Text :=
  match filled, text with
  | false, '0' :: rest => ({ layout with fill := '0' }, rest)
  | _, _ => (layout, text)

def readGrouping (layout : Layout) (text : Text) : Except Fault (Layout × Text) :=
  match text with
  | ',' :: '_' :: _ => .error .twoGroupings
  | '_' :: ',' :: _ => .error .twoGroupings
  | ',' :: rest => .ok ({ layout with grouping := some ',' }, rest)
  | '_' :: rest => .ok ({ layout with grouping := some '_' }, rest)
  | _ => .ok (layout, text)

def readPrecision (layout : Layout) (text : Text) : Except Fault (Layout × Text) :=
  match text with
  | '.' :: rest => do
      match ← readNumber rest with
      | (some precision, rest) => return ({ layout with precision := some precision }, rest)
      | (none, _) => throw .missingPrecision
  | _ => .ok (layout, text)

def groupingStyles : List Char := ['d', 'e', 'f', 'g', 'E', 'G', '%', 'F', '\x00']

def underscoreStyles : List Char := ['b', 'o', 'x', 'X']

def allowsGrouping (sign style : Char) : Bool :=
  groupingStyles.contains style || (sign == '_' && underscoreStyles.contains style)

def textKind : Text := ['s', 't', 'r']

/-- Reads a whole layout. -/
def read (whole : Text) : Except Fault Layout := do
  let (layout, filled, rest) := readAlign whole
  let (layout, rest) := readSign layout rest
  let (layout, rest) := readZeroForm layout rest
  let (layout, rest) := readAlternate layout rest
  let (layout, rest) := readZeroFill filled layout rest
  let (width, rest) ← readNumber rest
  let (layout, rest) ← readGrouping { layout with width } rest
  let (layout, rest) ← readPrecision layout rest
  let layout ←
    match rest with
    | [] => pure layout
    | [style] => pure { layout with style }
    | _ => throw (.trailing whole textKind)
  match layout.grouping with
  | some sign =>
      if allowsGrouping sign layout.style then return layout
      else throw (.grouping sign layout.style)
  | none => return layout

/-- Refuses what a text cannot have. -/
def check (layout : Layout) : Except Fault Unit :=
  if layout.style ≠ 's' then .error (.style layout.style textKind)
  else if layout.sign = some ' ' then .error .spaced
  else if layout.sign.isSome then .error .signed
  else if layout.unsignedZero then .error .unsignedZero
  else if layout.alternate then .error .alternate
  else if layout.align = .inner then .error .inner
  else .ok ()

def place (layout : Layout) (text : Text) : Text :=
  let kept :=
    match layout.precision with
    | some precision => text.take precision
    | none => text
  let space := layout.width.getD 0 - kept.length
  let before :=
    match layout.align with
    | .right => space
    | .center => space / 2
    | _ => 0
  List.replicate before layout.fill ++ kept ++ List.replicate (space - before) layout.fill

end Layout

/-- The text laid out as `layout` says; an empty layout changes nothing. -/
def layOut (layout text : Text) : Except Layout.Fault Text := do
  if layout.isEmpty then return text
  else
    let layout ← Layout.read layout
    layout.check
    return layout.place text

end Transclusion.Template

import Transclusion.Number.Shortest

/-!
Configuration and document data: scalars, lists and maps that keep the order in
which their keys came. Writing to a key that is there keeps its place.
-/

namespace Transclusion

structure Date where
  year : Nat
  month : Nat
  day : Nat
  deriving DecidableEq, Repr

/-- A point in time; `offset` is the distance from universal time in minutes. -/
structure Moment where
  date : Date
  hour : Nat
  minute : Nat
  second : Nat
  microsecond : Nat
  offset : Option Int
  deriving DecidableEq, Repr

inductive Value where
  | null
  | bool (truth : Bool)
  | int (number : Int)
  | float (bits : UInt64)
  | text (text : String)
  | list (items : List Value)
  | map (entries : List (Value × Value))
  | date (date : Date)
  | moment (moment : Moment)
  deriving Repr, Inhabited

namespace Value

/-- The number that a scalar stands for when keys are compared: a truth value is
one or zero. The pair is a numerator over a power of two. -/
def keyNumber? : Value → Option (Int × Nat)
  | .bool truth => some (if truth then 1 else 0, 0)
  | .int number => some (number, 0)
  | .float bits =>
      match Binary64.form bits with
      | .finite negative mantissa exponent =>
          let size : Int := if negative then -Int.ofNat mantissa else Int.ofNat mantissa
          some (size * Int.pow 2 exponent.toNat, (-exponent).toNat)
      | _ => none
  | _ => none

/-- Whether two scalars are one key. Numbers are compared by size. -/
def sameKey (first second : Value) : Bool :=
  match first.keyNumber?, second.keyNumber? with
  | some (top, shift), some (top', shift') => top * Int.pow 2 shift' == top' * Int.pow 2 shift
  | some _, none => false
  | none, some _ => false
  | none, none =>
      match first, second with
      | .null, .null => true
      | .float bits, .float bits' => Binary64.form bits == Binary64.form bits' && Binary64.form bits != .nan
      | .text content, .text content' => content == content'
      | .date day, .date day' => day == day'
      | .moment instant, .moment instant' => instant == instant'
      | _, _ => false

def assign (key item : Value) : List (Value × Value) → List (Value × Value)
  | [] => [(key, item)]
  | entry :: rest =>
      if sameKey entry.1 key then (entry.1, item) :: rest else entry :: assign key item rest

/-- The entries in order, a repeated key keeping its place and its last item. -/
def ofEntries (entries : List (Value × Value)) : Value :=
  .map (entries.foldl (fun found entry => assign entry.1 entry.2 found) [])

def at? (entries : List (Value × Value)) (key : String) : Option Value :=
  (entries.find? fun entry => sameKey entry.1 (.text key)).map (·.2)

/-- The item under a key; a value that is no map has none. -/
def get? (value : Value) (key : String) : Option Value :=
  match value with
  | .map entries => at? entries key
  | _ => none

/-- Null, false, zero and whatever is empty count as absent. -/
def isTruthy : Value → Bool
  | .null => false
  | .bool truth => truth
  | .int number => number != 0
  | .float bits =>
      match Binary64.form bits with
      | .finite _ mantissa _ => mantissa != 0
      | _ => true
  | .text content => !content.isEmpty
  | .list items => !items.isEmpty
  | .map entries => !entries.isEmpty
  | .date _ => true
  | .moment _ => true

def isMap : Value → Bool
  | .map _ => true
  | _ => false

def text? : Value → Option String
  | .text content => some content
  | _ => none

end Value

end Transclusion

import Transclusion.Template.Item
import Transclusion.Text.Casefold

/-!
Calculating with items and comparing them. Both operands are there before either
matters; a name without a value among them is the fault then, the left one first.
Truth values count as one and zero, and an integer beside a binary number becomes one.
-/

namespace Transclusion.Template

inductive Number where
  | whole (number : Int)
  | binary (bits : UInt64)
  deriving DecidableEq, Repr

namespace Number

def extent : Number → Binary64.Extent
  | .whole number => .ofInt number
  | .binary bits => Binary64.extent bits

def item : Number → Item
  | .whole number => .ofInt number
  | .binary bits => .scalar (.float bits)

/-- The number as a binary one. -/
def bits : Number → Outcome UInt64
  | .binary bits => return bits
  | .whole number =>
      match Binary64.ofInt? number with
      | some bits => return bits
      | none => throw (.tooLarge "int too large to convert to float")

def zeroPower : Fault := .zeroDivisor "0.0 cannot be raised to a negative power"

/-- An integer to the power of another one; a negative power gives a binary number. -/
def wholePower (base power : Int) : Outcome Number :=
  if 0 ≤ power then return .whole (Int.pow base power.toNat)
  else if base = 0 then throw zeroPower
  else if base.natAbs ≠ 1 ∧ 1100 < power.natAbs then return .binary 0
  else
    let size := Int.pow base (if base.natAbs = 1 then power.natAbs % 2 else power.natAbs)
    return .binary (Binary64.ofRatio (decide (size < 0)) 1 size.natAbs)

def wholeQuotient (top bottom : Int) : Outcome Number :=
  let bits := Binary64.ofRatio (decide (top < 0) != decide (bottom < 0)) top.natAbs bottom.natAbs
  if Binary64.extent bits = .infinite (Binary64.isNegative bits) then
    throw (.tooLarge "integer division result too large for a float")
  else return .binary bits

def calculateWhole (operator : Operator) (first second : Int) : Outcome Number :=
  match operator with
  | .add => return .whole (first + second)
  | .subtract => return .whole (first - second)
  | .multiply => return .whole (first * second)
  | .divide =>
      if second = 0 then throw (.zeroDivisor "division by zero")
      else wholeQuotient first second
  | .divideFloor =>
      if second = 0 then throw (.zeroDivisor "integer division or modulo by zero")
      else return .whole (first.fdiv second)
  | .remainder =>
      if second = 0 then throw (.zeroDivisor "integer modulo by zero")
      else return .whole (first.fmod second)
  | .power => wholePower first second

def binaryPower (base power : UInt64) : Outcome UInt64 :=
  if Binary64.isZero base && Binary64.isNegative power && !Binary64.isZero power then
    throw zeroPower
  else return (Float.ofBits base ^ Float.ofBits power).toBits

def calculateBinary (operator : Operator) (first second : UInt64) : Outcome UInt64 :=
  match operator with
  | .add => return Binary64.add first second
  | .subtract => return Binary64.subtract first second
  | .multiply => return Binary64.multiply first second
  | .divide =>
      if Binary64.isZero second then throw (.zeroDivisor "float division by zero")
      else return Binary64.divide first second
  | .divideFloor =>
      if Binary64.isZero second then throw (.zeroDivisor "float floor division by zero")
      else return Binary64.divideFloor first second
  | .remainder =>
      if Binary64.isZero second then throw (.zeroDivisor "float modulo")
      else return Binary64.remainder first second
  | .power => binaryPower first second

def calculate (operator : Operator) (first second : Number) : Outcome Number :=
  match first, second with
  | .whole first, .whole second => calculateWhole operator first second
  | first, second => do
      let left ← first.bits
      let right ← second.bits
      return .binary (← calculateBinary operator left right)

end Number

namespace Item

def number? : Item → Option Number
  | .scalar (.float bits) => some (.binary bits)
  | item => item.integer?.map .whole

end Item

def operatorSign : Operator → String
  | .add => "+"
  | .subtract => "-"
  | .multiply => "*"
  | .divide => "/"
  | .divideFloor => "//"
  | .remainder => "%"
  | .power => "** or pow()"

def unsupported (operator : Operator) (left right : Item) : Fault :=
  .mismatch ("unsupported operand type(s) for " ++ operatorSign operator ++ ": '" ++ left.kind ++
    "' and '" ++ right.kind ++ "'")

/-- An item that repeats and joins: a text, a list or a tuple. -/
def Item.isSequence : Item → Bool
  | .scalar (.text _) => true
  | .list _ => true
  | .tuple _ => true
  | _ => false

def repeated (count : Int) : Item → Item
  | .scalar (.text content) => .ofText (List.replicate count.toNat content.toList).flatten
  | .list items => .list (List.replicate count.toNat items).flatten
  | .tuple items => .tuple (List.replicate count.toNat items).flatten
  | item => item

def multiplied (left right : Item) : Outcome Item :=
  let times (sequence count : Item) : Outcome Item :=
    match count.integer? with
    | some count => return repeated count sequence
    | none =>
        throw (.mismatch ("can't multiply sequence by non-int of type '" ++ count.kind ++ "'"))
  if left.isSequence then times left right
  else if right.isSequence then times right left
  else throw (unsupported .multiply left right)

def joinedSequences (left right : Item) : Outcome Item :=
  match left, right with
  | .scalar (.text first), .scalar (.text second) => return .scalar (.text (first ++ second))
  | .list first, .list second => return .list (first ++ second)
  | .tuple first, .tuple second => return .tuple (first ++ second)
  | left, right =>
      if left.isSequence then
        throw (.mismatch ("can only concatenate " ++ left.kind ++ " (not \"" ++ right.kind ++
          "\") to " ++ left.kind))
      else throw (unsupported .add left right)

/-- A text with what follows a percent sign replaced; only a text without places for
values is of use here. -/
def filledIn (text : String) (right : Item) : Outcome Item :=
  match right with
  | .list _ => return .scalar (.text text)
  | .map _ => return .scalar (.text text)
  | .tuple [] => return .scalar (.text text)
  | _ => throw (.mismatch "not all arguments converted during string formatting")

def calculate (operator : Operator) (left right : Item) : Outcome Item :=
  match operator, left, right with
  | _, .missing what, _ => throw (.missing what)
  | .remainder, .scalar (.text text), right => filledIn text right
  | _, _, .missing what => throw (.missing what)
  | operator, left, right =>
      match left.number?, right.number?, operator with
      | some first, some second, operator => do
          return (← Number.calculate operator first second).item
      | _, _, .add => joinedSequences left right
      | _, _, .multiply => multiplied left right
      | _, _, operator => throw (unsupported operator left right)

/-- The number with a sign in front. -/
def signedItem (negative : Bool) (operand : Item) : Outcome Item := do
  let operand ← operand.settled
  match operand.number? with
  | some (.whole number) => return .ofInt (if negative then -number else number)
  | some (.binary bits) =>
      return .scalar (.float (if negative then Binary64.opposite bits else bits))
  | none =>
      throw (.mismatch ("bad operand type for unary " ++ (if negative then "-" else "+") ++ ": '" ++
        operand.kind ++ "'"))

def comparatorSign : Comparator → String
  | .equal => "=="
  | .different => "!="
  | .less => "<"
  | .lessEqual => "<="
  | .greater => ">"
  | .greaterEqual => ">="
  | .within => "in"
  | .notWithin => "not in"

/-- What a comparator says, given whether the first is less, the same or more. -/
def decides (comparator : Comparator) (less same more : Bool) : Bool :=
  match comparator with
  | .less => less
  | .lessEqual => less || same
  | .greater => more
  | .greaterEqual => more || same
  | _ => same

def numbersInOrder (comparator : Comparator) (left right : Number) : Bool :=
  decides comparator (left.extent.precedes right.extent) (left.extent.same right.extent)
    (right.extent.precedes left.extent)

mutual

/-- Whether two items are in order. Lists are compared at the first place where they
differ. -/
def inOrder (comparator : Comparator) : Item → Item → Outcome Bool
  | .missing what, _ => throw (.missing what)
  | .list first, .list second => itemsInOrder comparator first second
  | .tuple first, .tuple second => itemsInOrder comparator first second
  | left, right => do
      let right ← right.settled
      match left, right, left.number?, right.number? with
      | _, _, some first, some second => return numbersInOrder comparator first second
      | .scalar (.text first), .scalar (.text second), _, _ =>
          return decides comparator (decide (first < second)) (first == second)
            (decide (second < first))
      | _, _, _, _ =>
          throw (.mismatch ("'" ++ comparatorSign comparator ++
            "' not supported between instances of '" ++ left.kind ++ "' and '" ++ right.kind ++
            "'"))

def itemsInOrder (comparator : Comparator) : List Item → List Item → Outcome Bool
  | [], [] => return decides comparator false true false
  | [], _ :: _ => return decides comparator true false false
  | _ :: _, [] => return decides comparator false false true
  | first :: rest, second :: others => do
      if ← Item.same first second then itemsInOrder comparator rest others
      else inOrder comparator first second

end

def isWithin (item collection : Item) : Outcome Bool :=
  match collection, item with
  | .missing what, _ => throw (.missing what)
  | .scalar (.text content), .scalar (.text part) =>
      return Text.occursIn part.toList content.toList
  | .scalar (.text _), other =>
      throw (.mismatch ("'in <string>' requires string as left operand, not " ++ other.kind))
  | .map entries, key => do
      key.asKey
      return (Item.at? entries key).isSome
  | collection, item =>
      match collection.elements? with
      | some items => Item.isAmong item items
      | none =>
          throw (.mismatch ("argument of type '" ++ collection.kind ++ "' is not iterable"))

def compare (comparator : Comparator) (left right : Item) : Outcome Bool :=
  match comparator with
  | .equal => Item.same left right
  | .different => do return !(← Item.same left right)
  | .within => isWithin left right
  | .notWithin => do return !(← isWithin left right)
  | _ => inOrder comparator left right

end Transclusion.Template

import Transclusion.Number.Arithmetic
import Transclusion.Template.Expression

/-!
What an expression stands for while a template is rendered: data, operations that can
be called, and names without a value. A name without a value is a fault as soon as
its value matters; until then it can be passed over and even be held in a list.
-/

namespace Transclusion.Template

inductive Item where
  | scalar (value : Value)
  | list (items : List Item)
  | tuple (items : List Item)
  | map (entries : List (Item × Item))
  | span (first step : Int) (count : Nat)
  | missing (what : Missing)
  | operation (owner : Item) (name : String)
  | formatter
  | counter
  | round (place : Nat) (walked : List Item)
  deriving Inhabited

/-- What comes of working on items. -/
abbrev Outcome := Except Fault

namespace Item

def ofText (text : Text) : Item := .scalar (.text (String.ofList text))

def ofInt (number : Int) : Item := .scalar (.int number)

def ofNat (number : Nat) : Item := ofInt (Int.ofNat number)

def ofBool (truth : Bool) : Item := .scalar (.bool truth)

def nothing : Item := .scalar .null

mutual

def ofValue : Value → Item
  | .list items => .list (ofValues items)
  | .map entries => .map (ofEntries entries)
  | value => .scalar value

def ofValues : List Value → List Item
  | [] => []
  | value :: rest => ofValue value :: ofValues rest

def ofEntries : List (Value × Value) → List (Item × Item)
  | [] => []
  | (key, value) :: rest => (ofValue key, ofValue value) :: ofEntries rest

end

def text? : Item → Option Text
  | .scalar (.text content) => some content.toList
  | _ => none

/-- The integer that an index stands for; truth values are one and zero. -/
def integer? : Item → Option Int
  | .scalar (.int number) => some number
  | .scalar (.bool truth) => some (if truth then 1 else 0)
  | _ => none

/-- The name of an item's type. -/
def kind : Item → String
  | .scalar value => value.kind
  | .list _ => "list"
  | .tuple _ => "tuple"
  | .map _ => "dict"
  | .span _ _ _ => "range"
  | .missing _ => "StrictUndefined"
  | .operation _ _ => "builtin_function_or_method"
  | .formatter => "function"
  | .counter => "type"
  | .round _ _ => "LoopContext"

/-- How messages call the owner of a part that is missing. -/
def owner : Item → String
  | .scalar .null => "None"
  | .round _ _ => "jinja2.runtime.LoopContext object"
  | item => item.kind ++ " object"

/-- An item whose value matters. -/
def settled : Item → Outcome Item
  | .missing what => throw (.missing what)
  | item => return item

def spanEnd (first step : Int) (count : Nat) : Int := first + step * Int.ofNat count

def spanShown (first step : Int) (count : Nat) : String :=
  "range(" ++ toString first ++ ", " ++ toString (spanEnd first step count) ++
    (if step = 1 then "" else ", " ++ toString step) ++ ")"

mutual

/-- How an item reads inside others. -/
def shown : Item → String
  | .scalar value => value.shown
  | .list items => "[" ++ Value.commas (shownItems items) ++ "]"
  | .tuple [only] => "(" ++ shown only ++ ",)"
  | .tuple items => "(" ++ Value.commas (shownItems items) ++ ")"
  | .map entries => "\x7b" ++ Value.commas (shownEntries entries) ++ "\x7d"
  | .span first step count => spanShown first step count
  | .missing _ => "Undefined"
  | .operation owner name =>
      "<built-in method " ++ name ++ " of " ++ owner.kind ++ " object>"
  | .formatter => "<function format_text>"
  | .counter => "<class 'range'>"
  | .round place walked =>
      "<LoopContext " ++ toString (place + 1) ++ "/" ++ toString walked.length ++ ">"

def shownItems : List Item → List String
  | [] => []
  | item :: rest => shown item :: shownItems rest

def shownEntries : List (Item × Item) → List String
  | [] => []
  | (key, item) :: rest => (shown key ++ ": " ++ shown item) :: shownEntries rest

end

mutual

/-- Whether no integer in an item is too long to be written. -/
def hasText : Item → Bool
  | .scalar value => value.hasText
  | .list items => itemsHaveText items
  | .tuple items => itemsHaveText items
  | .map entries => entriesHaveText entries
  | _ => true

def itemsHaveText : List Item → Bool
  | [] => true
  | item :: rest => hasText item && itemsHaveText rest

def entriesHaveText : List (Item × Item) → Bool
  | [] => true
  | (key, item) :: rest => hasText key && hasText item && entriesHaveText rest

end

/-- The text that an item is printed as. -/
def printed (item : Item) : Outcome Text :=
  match item with
  | .missing what => throw (.missing what)
  | .scalar (.text content) => return content.toList
  | .scalar value => if value.hasText then return value.plain.toList else throw .noText
  | other => if other.hasText then return other.shown.toList else throw .noText

def isTrue : Item → Outcome Bool
  | .scalar value => return value.isTruthy
  | .list items => return !items.isEmpty
  | .tuple items => return !items.isEmpty
  | .map entries => return !entries.isEmpty
  | .span _ _ count => return count != 0
  | .missing what => throw (.missing what)
  | _ => return true

def length? : Item → Option Nat
  | .scalar (.text content) => some content.length
  | .list items => some items.length
  | .tuple items => some items.length
  | .map entries => some entries.length
  | .span _ _ count => some count
  | .round _ walked => some walked.length
  | _ => none

/-- Whether an item has its elements at places. -/
def isIndexed : Item → Bool
  | .scalar (.text _) => true
  | .list _ => true
  | .tuple _ => true
  | .span _ _ _ => true
  | _ => false

/-- The items that another one consists of, in order. -/
def elements? : Item → Option (List Item)
  | .scalar (.text content) => some (content.toList.map fun c => ofText [c])
  | .list items => some items
  | .tuple items => some items
  | .map entries => some (entries.map Prod.fst)
  | .span first step count =>
      some ((List.range count).map fun place => ofInt (spanEnd first step place))
  | _ => none

def elements (item : Item) : Outcome (List Item) := do
  let item ← item.settled
  match item.elements? with
  | some items => return items
  | none => throw (.mismatch ("'" ++ item.kind ++ "' object is not iterable"))

mutual

/-- Whether two items are one key of a map. -/
def sameKey : Item → Item → Bool
  | .scalar first, .scalar second => Value.sameKey first second
  | .tuple first, .tuple second => sameKeys first second
  | _, _ => false

def sameKeys : List Item → List Item → Bool
  | [], [] => true
  | first :: rest, second :: others => sameKey first second && sameKeys rest others
  | _, _ => false

end

mutual

/-- Whether an item can be a key. -/
def asKey : Item → Outcome Unit
  | .missing what => throw (.missing what)
  | .list _ => throw (.mismatch "unhashable type: 'list'")
  | .map _ => throw (.mismatch "unhashable type: 'dict'")
  | .tuple items => asKeys items
  | _ => return ()

def asKeys : List Item → Outcome Unit
  | [] => return ()
  | item :: rest => do
      asKey item
      asKeys rest

end

def at? (entries : List (Item × Item)) (key : Item) : Option Item :=
  (entries.find? fun entry => sameKey entry.1 key).map (·.2)

/-- The entries with one more; a key that is there keeps its place. -/
def assign (key item : Item) : List (Item × Item) → List (Item × Item)
  | [] => [(key, item)]
  | entry :: rest =>
      if sameKey entry.1 key then (entry.1, item) :: rest else entry :: assign key item rest

mutual

/-- Whether two items are equal. Lists of different lengths are told apart before
their items are looked at. -/
def same : Item → Item → Outcome Bool
  | .missing what, _ => throw (.missing what)
  | .scalar first, .scalar second => return Value.sameKey first second
  | .list first, .list second =>
      if first.length = second.length then sameItems first second else return false
  | .tuple first, .tuple second =>
      if first.length = second.length then sameItems first second else return false
  | .map first, .map second =>
      if first.length = second.length then sameEntries first second else return false
  | .span first step count, .span first' step' count' =>
      return count == count' && (count == 0 || (first == first' && (count == 1 || step == step')))
  | .operation first name, .operation second name' => return name == name' && sameKey first second
  | .formatter, .formatter => return true
  | .counter, .counter => return true
  | _, .missing what => throw (.missing what)
  | _, _ => return false

def sameItems : List Item → List Item → Outcome Bool
  | first :: rest, second :: others => do
      if ← same first second then sameItems rest others else return false
  | _, _ => return true

def sameEntries : List (Item × Item) → List (Item × Item) → Outcome Bool
  | [], _ => return true
  | (key, item) :: rest, others =>
      match at? others key with
      | none => return false
      | some other => do
          if ← same item other then sameEntries rest others else return false

end

/-- Whether an item is equal to one of several. -/
def isAmong (item : Item) : List Item → Outcome Bool
  | [] => return false
  | other :: rest => do
      if ← same other item then return true else isAmong item rest

end Item

end Transclusion.Template

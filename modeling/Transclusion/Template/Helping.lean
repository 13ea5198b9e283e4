import Transclusion.Template.Access
import Transclusion.Template.Calculation

/-!
The filters and tests of templates. A filter works on the text that an item is
printed as, or on its elements; a test looks at the item itself, and some can even
tell whether it has a value.
-/

namespace Transclusion.Template

def helpers : Helpers :=
  { filters :=
      ["count", "d", "default", "e", "escape", "first", "join", "last", "length", "list",
       "lower", "replace", "reverse", "safe", "string", "trim", "upper"]
    tests :=
      ["boolean", "callable", "defined", "divisibleby", "eq", "equalto", "even", "false",
       "filter", "float", "ge", "greaterthan", "gt", "in", "integer", "iterable", "le",
       "lessthan", "lt", "mapping", "ne", "none", "number", "odd", "sequence", "string",
       "test", "true", "undefined"] }

namespace Filter

/-- A filter that takes nothing besides the item. -/
def alone (function : String) (given : Given) (result : Outcome Item) : Outcome Item :=
  match given.named, given.placed with
  | (name, _) :: _, _ =>
      throw (.mismatch (function ++ "() got an unexpected keyword argument '" ++ name ++ "'"))
  | [], [] => result
  | [], placed =>
      throw (.mismatch (function ++ "() takes 1 positional argument but " ++
        toString (placed.length + 1) ++ " were given"))

def lengthOf (item : Item) : Outcome Item := do
  let item ← item.settled
  match item.length? with
  | some length => return .ofNat length
  | none => throw (.mismatch ("object of type '" ++ item.kind ++ "' has no len()"))

/-- The argument of a filter, by place or by name. -/
def argument? (given : Given) (place : Nat) (name : String) : Option Item :=
  given.placed[place]?.or (given.named.lookup name)

def whenMissing (item : Item) (given : Given) : Outcome Item := do
  let other := (argument? given 0 "default_value").getD (.ofText [])
  match item, argument? given 1 "boolean" with
  | .missing _, _ => return other
  | item, some alsoFalse => do
      if ← alsoFalse.isTrue then return if ← item.isTrue then item else other
      else return item
  | item, none => return item

def joined (item : Item) (given : Given) : Outcome Item := do
  let between ← ((argument? given 0 "d").getD (.ofText [])).printed
  let parts ← (← item.elements).mapM Item.printed
  return .ofText (between.intercalate parts)

/-- A character as it stands in a marked-up text. -/
def escaped : Char → Text
  | '&' => "&amp;".toList
  | '<' => "&lt;".toList
  | '>' => "&gt;".toList
  | '\'' => "&#39;".toList
  | '"' => "&#34;".toList
  | c => [c]

def replaced (item : Item) (given : Given) : Outcome Item := do
  let text ← item.printed
  match argument? given 0 "old", argument? given 1 "new" with
  | some old, some new =>
      let count ← Operation.limit (argument? given 2 "count")
      return .ofText (Operation.replaced (← old.printed) (← new.printed) count text)
  | some _, none =>
      throw (.mismatch "do_replace() missing 1 required positional argument: 'new'")
  | none, _ =>
      throw (.mismatch "do_replace() missing 2 required positional arguments: 'old' and 'new'")

def reversed (item : Item) : Outcome Item := do
  match item.text? with
  | some text => return .ofText text.reverse
  | none => return .list (← item.elements).reverse

def trimmed (item : Item) (given : Given) : Outcome Item := do
  let text ← item.printed
  match argument? given 0 "chars" with
  | some which => Operation.strip "strip" true true text { placed := [which] }
  | none => return .ofText (Text.trim text)

def edge (side : String) (items : List Item) : Item :=
  items.headD (.missing (.noted ("No " ++ side ++ " item, sequence was empty.")))

def apply (name : String) (item : Item) (given : Given) : Outcome Item := do
  match name with
  | "count" => lengthOf item
  | "length" => lengthOf item
  | "d" => whenMissing item given
  | "default" => whenMissing item given
  | "e" => return .ofText ((← item.printed).flatMap escaped)
  | "escape" => return .ofText ((← item.printed).flatMap escaped)
  | "first" => return edge "first" (← item.elements)
  | "last" => return edge "last" (← item.elements).reverse
  | "join" => joined item given
  | "list" => alone "do_list" given (.list <$> item.elements)
  | "lower" => alone "do_lower" given (do return .ofText (Text.lower (← item.printed)))
  | "replace" => replaced item given
  | "reverse" => alone "do_reverse" given (reversed item)
  | "safe" => alone "do_mark_safe" given (.ofText <$> item.printed)
  | "string" => alone "soft_str" given (.ofText <$> item.printed)
  | "trim" => trimmed item given
  | _ => alone "do_upper" given (do return .ofText (Text.upper (← item.printed)))

end Filter

namespace Test

def isMissing : Item → Bool
  | .missing _ => true
  | _ => false

def against (name : String) (given : Given) : Outcome Item :=
  match given.placed with
  | item :: _ => return item
  | [] => throw (.mismatch (name ++ "() takes exactly 2 arguments (1 given)"))

def leaves (item : Item) (divisor : Int) (rest : Int) : Outcome Bool := do
  Item.same (← calculate .remainder item (.ofInt divisor)) (.ofInt rest)

/-- The comparator that a test stands for. -/
def comparator? : String → Option Comparator
  | "eq" => some .equal
  | "equalto" => some .equal
  | "ne" => some .different
  | "lt" => some .less
  | "lessthan" => some .less
  | "le" => some .lessEqual
  | "gt" => some .greater
  | "greaterthan" => some .greater
  | "ge" => some .greaterEqual
  | "in" => some .within
  | _ => none

def isScalar (holds : Value → Bool) : Item → Bool
  | .scalar value => holds value
  | _ => false

def isBool : Value → Bool
  | .bool _ => true
  | _ => false

def isInt : Value → Bool
  | .int _ => true
  | _ => false

def isFloat : Value → Bool
  | .float _ => true
  | _ => false

/-- What a test says about the kind of an item. -/
def ofKind (name : String) (item : Item) : Bool :=
  match name with
  | "boolean" => isScalar isBool item
  | "callable" =>
      match item with
      | .scalar _ => false
      | .list _ => false
      | .tuple _ => false
      | .map _ => false
      | .span _ _ _ => false
      | _ => true
  | "defined" => !isMissing item
  | "false" => isScalar (fun value => isBool value && !value.isTruthy) item
  | "float" => isScalar isFloat item
  | "integer" => isScalar isInt item
  | "mapping" => match item with
      | .map _ => true
      | _ => false
  | "none" => isScalar (fun value => value.kind == "NoneType") item
  | "number" => item.number?.isSome
  | "sequence" => item.isIndexed || (match item with
      | .map _ => true
      | _ => false)
  | "string" => item.text?.isSome
  | "true" => isScalar (fun value => isBool value && value.isTruthy) item
  | _ => isMissing item

def holds (name : String) (item : Item) (given : Given) : Outcome Bool := do
  match comparator? name with
  | some comparator => compare comparator item (← against name given)
  | none =>
      match name with
      | "divisibleby" =>
          Item.same (← calculate .remainder item (← against name given)) (.ofInt 0)
      | "even" => leaves item 2 0
      | "odd" => leaves item 2 1
      | "filter" => return helpers.filters.contains (String.ofList (← item.printed))
      | "test" => return helpers.tests.contains (String.ofList (← item.printed))
      | "iterable" => return (← item.settled).elements?.isSome
      | _ => return ofKind name item

end Test

/-- What a helper makes of an item. -/
def help (kind : Helper) (name : String) (item : Item) (given : Given) : Outcome Item :=
  if !helpers.knows kind name then throw (.absentHelper kind name)
  else
    match kind with
    | .filter => Filter.apply name item given
    | .test => do return .ofBool (← Test.holds name item given)

end Transclusion.Template

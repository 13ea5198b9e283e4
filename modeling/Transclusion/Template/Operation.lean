import Transclusion.Template.Item
import Transclusion.Text.Blank
import Transclusion.Text.Lowercase
import Transclusion.Text.Split
import Transclusion.Text.Uppercase

/-!
Operations that templates call: those of texts and of maps, counting, and leaving a
text to be formatted. What they refuse is told as a fault of their arguments.
-/

namespace Transclusion.Template

/-- The arguments of a call, by place and by name. -/
structure Given where
  placed : List Item := []
  named : List (String × Item) := []

namespace Given

def count (given : Given) : Nat := given.placed.length + given.named.length

def number (count : Nat) (word : String) : String :=
  toString count ++ " " ++ word ++ (if count = 1 then "" else "s")

/-- The arguments of an operation that takes none by name. -/
def unnamed (operation : String) (given : Given) : Outcome (List Item) :=
  if given.named.isEmpty then return given.placed
  else throw (.mismatch (operation ++ "() takes no keyword arguments"))

/-- The fault of a named argument, if there is one. -/
def nameFault? (operation : String) (parameters : List String) (placed : Nat) (name : String) :
    Option Fault :=
  match parameters.idxOf? name with
  | none =>
      some (.mismatch ("'" ++ name ++ "' is an invalid keyword argument for " ++ operation ++ "()"))
  | some place =>
      if place < placed then
        some (.mismatch ("argument for " ++ operation ++ "() given by name ('" ++ name ++
          "') and position (" ++ toString (place + 1) ++ ")"))
      else none

/-- The argument for each parameter of an operation, where there is one. -/
def bound (operation : String) (parameters : List String) (given : Given) :
    Outcome (List (Option Item)) :=
  if parameters.length < given.count then
    throw (.mismatch (operation ++ "() takes at most " ++ number parameters.length "argument" ++
      " (" ++ toString given.count ++ " given)"))
  else
    match given.named.findSome? fun entry =>
        nameFault? operation parameters given.placed.length entry.1 with
    | some fault => throw fault
    | none =>
        return parameters.zipIdx.map fun (name, place) =>
          given.placed[place]?.or (given.named.lookup name)

end Given

namespace Operation

def notWhole (item : Item) : Fault :=
  .mismatch ("'" ++ item.kind ++ "' object cannot be interpreted as an integer")

/-- An integer of 64 bits. -/
def index (item : Item) : Outcome Int :=
  match item.integer? with
  | some number =>
      if -(Int.pow 2 63) ≤ number ∧ number < Int.pow 2 63 then return number
      else throw (.tooLarge "Python int too large to convert to C ssize_t")
  | none => throw (notWhole item)

/-- How many times something is done at most; a negative limit is none. -/
def limit (item : Option Item) : Outcome (Option Nat) :=
  match item with
  | none => return none
  | some item => do
      let number ← index item
      return if number < 0 then none else some number.toNat

def texts (parts : List Text) : Item := .list (parts.map .ofText)

/-- At most `count` runs of characters that are not blank, and what is left after
them. -/
def words : Nat → Text → List Text
  | 0, text =>
      match Text.trimLeft text with
      | [] => []
      | rest => [rest]
  | count + 1, text =>
      match Text.trimLeft text with
      | [] => []
      | rest =>
          rest.takeWhile (!Text.isBlank ·) :: words count (rest.dropWhile (!Text.isBlank ·))

/-- The parts of a text, of which those after the first `count` cuts stay one. -/
def parts (separator : Text) (count : Option Nat) (text : Text) : List Text :=
  let all := Text.split separator text
  match count with
  | none => all
  | some count =>
      if all.length ≤ count + 1 then all
      else all.take count ++ [separator.intercalate (all.drop count)]

def split (owner : Text) (given : Given) : Outcome Item := do
  let found ← given.bound "split" ["sep", "maxsplit"]
  let count ← limit (found.getD 1 none)
  match found.getD 0 none with
  | none => return texts (words (count.getD owner.length) owner)
  | some (.scalar .null) => return texts (words (count.getD owner.length) owner)
  | some (.scalar (.text separator)) =>
      if separator.isEmpty then throw (.badValue "empty separator")
      else return texts (parts separator.toList count owner)
  | some other => throw (.mismatch ("must be str or None, not " ++ other.kind))

/-- The lines of a text, with or without their ends. -/
def linesFrom (keepsEnds : Bool) (current : Text) : Text → List Text
  | [] => if current.isEmpty then [] else [current.reverse]
  | '\r' :: '\n' :: rest =>
      ((if keepsEnds then '\n' :: '\r' :: current else current).reverse) ::
        linesFrom keepsEnds [] rest
  | c :: rest =>
      if Text.isLineEnd c then
        (if keepsEnds then c :: current else current).reverse :: linesFrom keepsEnds [] rest
      else linesFrom keepsEnds (c :: current) rest

def lines (owner : Text) (given : Given) : Outcome Item := do
  match (← given.bound "splitlines" ["keepends"]).headD none with
  | none => return texts (linesFrom false [] owner)
  | some item =>
      match item.integer? with
      | some number => return texts (linesFrom (number != 0) [] owner)
      | none => throw (notWhole item)

/-- A text without the characters of `which` at its ends. -/
def stripped (fromLeft fromRight : Bool) (which : Char → Bool) (text : Text) : Text :=
  let rest := if fromLeft then text.dropWhile which else text
  if fromRight then (rest.reverse.dropWhile which).reverse else rest

def strip (name : String) (fromLeft fromRight : Bool) (owner : Text) (given : Given) :
    Outcome Item := do
  match ← given.unnamed ("str." ++ name) with
  | [] => return .ofText (stripped fromLeft fromRight Text.isBlank owner)
  | [.scalar .null] => return .ofText (stripped fromLeft fromRight Text.isBlank owner)
  | [.scalar (.text which)] =>
      return .ofText (stripped fromLeft fromRight which.toList.contains owner)
  | [_] => throw (.mismatch (name ++ " arg must be None or str"))
  | several =>
      throw (.mismatch (name ++ " expected at most 1 argument, got " ++ toString several.length))

def changed (name : String) (change : Text → Text) (owner : Text) (given : Given) :
    Outcome Item := do
  match ← given.unnamed ("str." ++ name) with
  | [] => return .ofText (change owner)
  | several =>
      throw (.mismatch ("str." ++ name ++ "() takes no arguments (" ++ toString several.length ++
        " given)"))

/-- A text between all characters, and before the first, of another one. -/
def spread (between : Text) (count : Option Nat) (text : Text) : Text :=
  let places := min (count.getD (text.length + 1)) (text.length + 1)
  (text.take (places - 1)).flatMap (fun c => between ++ [c]) ++
    (if places = 0 then [] else between) ++ text.drop (places - 1)

def replaced (old new : Text) (count : Option Nat) (text : Text) : Text :=
  if old.isEmpty then spread new count text
  else new.intercalate (parts old count text)

def replace (owner : Text) (given : Given) : Outcome Item := do
  let refuse (place : Nat) (other : Item) : Outcome Item :=
    throw (.mismatch ("replace() argument " ++ toString place ++ " must be str, not " ++
      other.kind))
  let apply (old new : Item) (count : Option Item) : Outcome Item :=
    match old.text?, new.text? with
    | none, _ => refuse 1 old
    | _, none => refuse 2 new
    | some old, some new => do return .ofText (replaced old new (← limit count) owner)
  match ← given.unnamed "str.replace" with
  | [old, new] => apply old new none
  | [old, new, count] => apply old new (some count)
  | few =>
      if few.length < 2 then
        throw (.mismatch ("replace expected at least 2 arguments, got " ++ toString few.length))
      else
        throw (.mismatch ("replace expected at most 3 arguments, got " ++ toString few.length))

/-- The one argument of an operation that looks for it. -/
def sought (name : String) (given : Given) : Outcome Item := do
  match ← given.unnamed ("str." ++ name) with
  | [] => throw (.mismatch (name ++ "() takes at least 1 argument (0 given)"))
  | item :: _ => return item

/-- Whether a text has one of some texts at an end of it. -/
def hasEnd (name : String) (holds : Text → Bool) : List Item → Outcome Bool
  | [] => return false
  | item :: rest =>
      match item.text? with
      | some part => if holds part then return true else hasEnd name holds rest
      | none =>
          throw (.mismatch ("tuple for " ++ name ++ " must only contain str, not " ++ item.kind))

def ends (name : String) (holds : Text → Bool) (given : Given) : Outcome Item := do
  match ← sought name given with
  | .scalar (.text part) => return .ofBool (holds part.toList)
  | .tuple items => return .ofBool (← hasEnd name holds items)
  | other =>
      throw (.mismatch (name ++ " first arg must be str or a tuple of str, not " ++ other.kind))

/-- Where a text first occurs. -/
def place? (needle : Text) : Text → Option Nat
  | [] => if needle.isEmpty then some 0 else none
  | c :: rest =>
      if needle.isPrefixOf (c :: rest) then some 0 else (place? needle rest).map (· + 1)

def find (owner : Text) (given : Given) : Outcome Item := do
  match ← sought "find" given with
  | .scalar (.text part) =>
      return match place? part.toList owner with
        | some place => .ofNat place
        | none => .ofInt (-1)
  | other => throw (.mismatch ("must be str, not " ++ other.kind))

def occurrences (owner : Text) (given : Given) : Outcome Item := do
  match ← sought "count" given with
  | .scalar (.text part) =>
      if part.isEmpty then return .ofNat (owner.length + 1)
      else return .ofNat ((Text.split part.toList owner).length - 1)
  | other => throw (.mismatch ("must be str, not " ++ other.kind))

def textsOf : Nat → List Item → Outcome (List Text)
  | _, [] => return []
  | place, item :: rest =>
      match item.text? with
      | some text => do return text :: (← textsOf (place + 1) rest)
      | none =>
          throw (.mismatch ("sequence item " ++ toString place ++
            ": expected str instance, " ++ item.kind ++ " found"))

def join (owner : Text) (given : Given) : Outcome Item := do
  match ← given.unnamed "str.join" with
  | [item] =>
      let item ← item.settled
      match item.elements? with
      | some items => return .ofText (owner.intercalate (← textsOf 0 items))
      | none => throw (.mismatch "can only join an iterable")
  | several =>
      throw (.mismatch ("str.join() takes exactly one argument (" ++ toString several.length ++
        " given)"))

def ofTexts : List String :=
  ["count", "endswith", "find", "join", "lower", "lstrip", "replace", "rstrip", "split",
   "splitlines", "startswith", "strip", "upper"]

def onText (owner : Text) (name : String) (given : Given) : Outcome Item :=
  match name with
  | "count" => occurrences owner given
  | "endswith" => ends name (fun part => part.isSuffixOf owner) given
  | "find" => find owner given
  | "join" => join owner given
  | "lower" => changed name Text.lower owner given
  | "lstrip" => strip name true false owner given
  | "replace" => replace owner given
  | "rstrip" => strip name false true owner given
  | "split" => split owner given
  | "splitlines" => lines owner given
  | "startswith" => ends name (fun part => part.isPrefixOf owner) given
  | "strip" => strip name true true owner given
  | _ => changed name Text.upper owner given

def ofMaps : List String := ["get", "items", "keys", "values"]

/-- The entry of a map under a key, or what is given instead. -/
def get (entries : List (Item × Item)) (given : Given) : Outcome Item := do
  let find (key other : Item) : Outcome Item := do
    key.asKey
    return (Item.at? entries key).getD other
  match ← given.unnamed "dict.get" with
  | [key] => find key .nothing
  | [key, other] => find key other
  | [] => throw (.mismatch "get expected at least 1 argument, got 0")
  | several =>
      throw (.mismatch ("get expected at most 2 arguments, got " ++ toString several.length))

def onMap (entries : List (Item × Item)) (name : String) (given : Given) : Outcome Item := do
  if name = "get" then get entries given
  else
    match ← given.unnamed ("dict." ++ name) with
    | [] =>
        return .list (entries.map fun (key, item) =>
          if name = "keys" then key else if name = "values" then item else .tuple [key, item])
    | several =>
        throw (.mismatch ("dict." ++ name ++ "() takes no arguments (" ++
          toString several.length ++ " given)"))

/-- The integers from a first one up to, or down to, a bound. -/
def span (first last step : Int) : Outcome Item :=
  if step = 0 then throw (.badValue "range() arg 3 must not be zero")
  else
    let distance := if 0 < step then last - first else first - last
    return .span first step ((distance + step.natAbs - 1) / step.natAbs).toNat

def wholes : List Item → Outcome (List Int)
  | [] => return []
  | item :: rest =>
      match item.integer? with
      | some number => do return number :: (← wholes rest)
      | none => throw (notWhole item)

def counted (given : Given) : Outcome Item := do
  let bounds ← given.unnamed "range"
  if 3 < bounds.length then
    throw (.mismatch ("range expected at most 3 arguments, got " ++ toString bounds.length))
  match ← wholes bounds with
  | [last] => span 0 last 1
  | [first, last] => span first last 1
  | [first, last, step] => span first last step
  | _ => throw (.mismatch "range expected at least 1 argument, got 0")

/-- The argument of the operation that formats a text. -/
def formatArgument (given : Given) : Outcome Item :=
  match given.named.find? (·.1 != "text"), given.named, given.placed with
  | some (name, _), _, _ =>
      throw (.mismatch ("_identity() got an unexpected keyword argument '" ++ name ++ "'"))
  | none, _ :: _, _ :: _ =>
      throw (.mismatch "_identity() got multiple values for argument 'text'")
  | none, (_, item) :: _, [] => return item
  | none, [], [item] => return item
  | none, [], [] =>
      throw (.mismatch "_identity() missing 1 required positional argument: 'text'")
  | none, [], several =>
      throw (.mismatch ("_identity() takes 1 positional argument but " ++
        toString several.length ++ " were given"))

end Operation

/-- An operation of an owner on its arguments. -/
def operate (owner : Item) (name : String) (given : Given) : Outcome Item :=
  match owner with
  | .scalar (.text content) => Operation.onText content.toList name given
  | .map entries => Operation.onMap entries name given
  | other => throw (.mismatch ("'" ++ other.kind ++ "' object is not callable"))

end Transclusion.Template

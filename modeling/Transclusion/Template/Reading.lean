import Transclusion.Template.Expression
import Transclusion.Template.Token

/-!
Reading a template from its tokens. Tags nest: a choice or a loop stands open until
its own end, and a fault tells what was looked for and which tag is open.
-/

namespace Transclusion.Template

structure TokenSource where
  tokens : List Token
  fault : Option SourceFault := none
  openTags : List String := []
  awaited : List (List String) := []

abbrev Parse := StateT TokenSource (Except SourceFault)

namespace Parse

def peek : Parse (Option Token) := do return (← get).tokens.head?

def fail {Result : Type} (fault : SourceFault) : Parse Result := throw fault

/-- Passes a token. The place that cannot be read counts as soon as it is next. -/
def advance : Parse Unit := do
  let source ← get
  match source.tokens, source.fault with
  | [_], some fault => fail fault
  | _, _ => set { source with tokens := source.tokens.drop 1 }

/-- The token after the next one. The place that cannot be read counts here too. -/
def look : Parse (Option Token) := do
  let source ← get
  match source.tokens, source.fault with
  | [_], some fault => fail fault
  | tokens, _ => return tokens[1]?

def describe : Option Token → String
  | some token => token.described
  | none => "end of template"

def expect (wanted : Token) : Parse Unit := do
  match ← peek with
  | none => fail (.endBefore wanted.described)
  | some found =>
      if found = wanted then advance else fail (.expected wanted.described found.described)

/-- Passes a token if it is `wanted`. -/
def skip (wanted : Token) : Parse Bool := do
  if (← peek) = some wanted then
    advance
    return true
  else return false

/-- Operands with joiners between them, grouped from the left; `count` bounds how
many there are. -/
def chain (operand : Parse Expression)
    (joiner : Token → Option (Expression → Expression → Expression)) :
    Nat → Expression → Parse Expression
  | 0, left => return left
  | count + 1, left => do
      match (← peek).bind joiner with
      | none => return left
      | some join =>
          advance
          chain operand joiner count (join left (← operand))

/-- Whether several expressions end here; `ending` is a name that ends them too. -/
def isTupleEnd (ending : Option String) : Option Token → Bool
  | some .closePrint => true
  | some .closeTag => true
  | some (.sign ")") => true
  | some (.name word) => ending == some word
  | _ => false

/-- Elements after the first comma. -/
def moreElements (ending : Option String) (element : Parse Expression) :
    Nat → List Expression → Parse (List Expression)
  | 0, seen => return seen
  | count + 1, seen => do
      if ← skip (.sign ",") then
        if isTupleEnd ending (← peek) then return seen
        else moreElements ending element count (seen ++ [← element])
      else return seen

/-- One expression, or several with commas between them as a tuple. -/
def tuple (count : Nat) (ending : Option String) (element : Parse Expression)
    (mayBeEmpty : Bool) : Parse Expression := do
  let found ← peek
  if isTupleEnd ending found then
    if mayBeEmpty then return .tuple [] else fail (.noExpression (describe found))
  else
    let first ← element
    if (← peek) = some (.sign ",") then
      return .tuple (← moreElements ending element count [first])
    else return first

/-- Elements up to a closing bracket; a comma may stand before it. -/
def enclosed {Element : Type} (element : Parse Element) (closing : Token) :
    Nat → List Element → Parse (List Element)
  | 0, seen => return seen
  | count + 1, seen => do
      if ← skip closing then return seen
      else
        if !seen.isEmpty then expect (.sign ",")
        if ← skip closing then return seen
        else enclosed element closing count (seen ++ [← element])

/-- An entry of a map. -/
def entry (inner : Parse Expression) : Parse (Expression × Expression) := do
  let key ← inner
  expect (.sign ":")
  return (key, ← inner)

/-- Texts in quotes that follow one another are one text. -/
def moreText : Nat → Text → Parse Text
  | 0, seen => return seen
  | count + 1, seen => do
      match ← peek with
      | some (.text content) =>
          advance
          moreText count (seen ++ content)
      | _ => return seen

def named (word : String) : Expression :=
  if word = "true" || word = "True" then .constant (.bool true)
  else if word = "false" || word = "False" then .constant (.bool false)
  else if word = "none" || word = "None" then .constant .null
  else .name word

def primary (count : Nat) (inner : Parse Expression) : Parse Expression := do
  match ← peek with
  | some (.name word) =>
      advance
      return named word
  | some (.text content) =>
      advance
      return .constant (.text (String.ofList (← moreText count content)))
  | some (.integer number) =>
      advance
      return .constant (.int (Int.ofNat number))
  | some (.float bits) =>
      advance
      return .constant (.float bits)
  | some (.sign "(") =>
      advance
      let content ← tuple count none inner true
      expect (.sign ")")
      return content
  | some (.sign "[") =>
      advance
      return .list (← enclosed inner (.sign "]") count [])
  | some (.sign "\x7b") =>
      advance
      return .map (← enclosed (entry inner) (.sign "\x7d") count [])
  | found => fail (.unexpected (describe found))

/-- What stands between the brackets after an expression. -/
inductive Subscript where
  | index (expression : Expression)
  | slice (first last step : Option Expression)

def Subscript.applied (owner : Expression) : Subscript → Expression
  | .index expression => .item owner expression
  | .slice first last step => .slice owner first last step

/-- The subscript as an element of several. -/
def Subscript.element : Subscript → Expression
  | .index expression => expression
  | .slice _ _ _ => .constant .null

def isSliceEnd : Option Token → Bool
  | some (.sign "]") => true
  | some (.sign ",") => true
  | _ => false

def sliceFrom (inner : Parse Expression) (first : Option Expression) : Parse Subscript := do
  let found ← peek
  let last ←
    if found = some (.sign ":") || isSliceEnd found then pure none else some <$> inner
  if ← skip (.sign ":") then
    let step ← if isSliceEnd (← peek) then pure none else some <$> inner
    return .slice first last step
  else return .slice first last none

def subscript (inner : Parse Expression) : Parse Subscript := do
  if ← skip (.sign ":") then sliceFrom inner none
  else
    let first ← inner
    if ← skip (.sign ":") then sliceFrom inner (some first) else return .index first

/-- Subscripts up to the closing bracket, with a comma between any two. -/
def subscripts (inner : Parse Expression) : Nat → List Subscript → Parse (List Subscript)
  | 0, seen => return seen
  | count + 1, seen => do
      if ← skip (.sign "]") then return seen
      else
        if !seen.isEmpty then expect (.sign ",")
        subscripts inner count (seen ++ [← subscript inner])

def ensure (holds : Bool) : Parse Unit := if holds then return () else fail .noCall

/-- Whether an argument may follow those seen. Nothing follows named arguments spread
out, placed ones follow neither named nor spread ones, and only one is spread out. -/
def mayFollow (passing : Passing) (seen : List (Passing × Expression)) : Bool :=
  seen.all fun (earlier, _) =>
    match passing, earlier with
    | _, .spreadNamed => false
    | .spread, .spread => false
    | .placed, .placed => true
    | .placed, _ => false
    | _, _ => true

def passing : Parse Passing := do
  match ← peek with
  | some (.sign "*") => return .spread
  | some (.sign "**") => return .spreadNamed
  | some (.name word) => if (← look) = some (.sign "=") then return .named word else return .placed
  | _ => return .placed

def argument (inner : Parse Expression) (seen : List (Passing × Expression)) :
    Parse (Passing × Expression) := do
  let how ← passing
  ensure (mayFollow how seen)
  match how with
  | .placed => pure ()
  | .named _ => do
      advance
      advance
  | _ => advance
  return (how, ← inner)

/-- The arguments of a call, after its opening bracket. -/
def arguments (inner : Parse Expression) :
    Nat → List (Passing × Expression) → Parse (List (Passing × Expression))
  | 0, seen => return seen
  | count + 1, seen => do
      if ← skip (.sign ")") then return seen
      else
        if !seen.isEmpty then expect (.sign ",")
        if ← skip (.sign ")") then return seen
        else arguments inner count (seen ++ [← argument inner seen])

/-- Parts, items and calls after an expression. -/
def postfixed (inner : Parse Expression) : Nat → Expression → Parse Expression
  | 0, owner => return owner
  | count + 1, owner => do
      match ← peek with
      | some (.sign ".") =>
          advance
          let found ← peek
          if found.isSome then advance
          match found with
          | some (.name word) => postfixed inner count (.part owner word)
          | some (.integer number) =>
              postfixed inner count (.item owner (.constant (.int (Int.ofNat number))))
          | _ => fail .noPart
      | some (.sign "[") =>
          advance
          match ← subscripts inner count [] with
          | [index] => postfixed inner count (index.applied owner)
          | several => postfixed inner count (.item owner (.tuple (several.map (·.element))))
      | some (.sign "(") =>
          advance
          postfixed inner count (.call owner (← arguments inner count []))
      | _ => return owner

/-- A name, which is expected. -/
def anyName : Parse String := do
  match ← peek with
  | some (.name word) =>
      advance
      return word
  | none => fail (.endBefore "name")
  | some found => fail (.expected "name" found.described)

/-- The rest of a name with points in it. -/
def pointedName : Nat → String → Parse String
  | 0, seen => return seen
  | count + 1, seen => do
      if ← skip (.sign ".") then pointedName count (seen ++ "." ++ (← anyName)) else return seen

/-- Whether an expression begins here that a test takes without brackets. -/
def opensTested : Option Token → Bool
  | some (.name word) => !(["else", "or", "and"].contains word)
  | some (.text _) => true
  | some (.integer _) => true
  | some (.float _) => true
  | some (.sign "[") => true
  | some (.sign "\x7b") => true
  | _ => false

/-- A test of an expression, after its word. -/
def tested (inner : Parse Expression) (count : Nat) (operand : Expression) : Parse Expression := do
  let negated ← skip (.name "not")
  let name ← pointedName count (← anyName)
  let against ←
    if ← skip (.sign "(") then arguments inner count []
    else
      let found ← peek
      if opensTested found then
        if found = some (.name "is") then fail .severalTests
        let other ← postfixed inner count (← primary count inner)
        pure [(Passing.placed, other)]
      else pure []
  let test := Expression.passed .test name operand against
  return if negated then .negation test else test

/-- Filters, tests and calls after an expression. -/
def filtered (inner : Parse Expression) : Nat → Expression → Parse Expression
  | 0, operand => return operand
  | count + 1, operand => do
      match ← peek with
      | some (.sign "|") =>
          advance
          let name ← pointedName count (← anyName)
          let given ← if ← skip (.sign "(") then arguments inner count [] else pure []
          filtered inner count (.passed .filter name operand given)
      | some (.name "is") =>
          advance
          filtered inner count (← tested inner count operand)
      | some (.sign "(") =>
          advance
          filtered inner count (.call operand (← arguments inner count []))
      | _ => return operand

/-- Signs in front of an expression with its parts, without filters. -/
def signed (inner : Parse Expression) : Nat → Parse Expression
  | 0 => fail (.unexpected "-")
  | count + 1 => do
      if ← skip (.sign "-") then
        postfixed inner count (.signed true (← signed inner count))
      else if ← skip (.sign "+") then
        postfixed inner count (.signed false (← signed inner count))
      else postfixed inner count (← primary count inner)

def unary (count : Nat) (inner : Parse Expression) : Parse Expression := do
  filtered inner count (← signed inner count)

def power? : Token → Option (Expression → Expression → Expression)
  | .sign "**" => some (.arithmetic .power)
  | _ => none

def product? : Token → Option (Expression → Expression → Expression)
  | .sign "*" => some (.arithmetic .multiply)
  | .sign "/" => some (.arithmetic .divide)
  | .sign "//" => some (.arithmetic .divideFloor)
  | .sign "%" => some (.arithmetic .remainder)
  | _ => none

def sum? : Token → Option (Expression → Expression → Expression)
  | .sign "+" => some (.arithmetic .add)
  | .sign "-" => some (.arithmetic .subtract)
  | _ => none

def level (joiner : Token → Option (Expression → Expression → Expression)) (count : Nat)
    (operand : Parse Expression) : Parse Expression := do
  chain operand joiner count (← operand)

def product (count : Nat) (inner : Parse Expression) : Parse Expression :=
  level product? count (level power? count (unary count inner))

/-- Products joined as text, all of them at once. -/
def joined (count : Nat) (inner : Parse Expression) : Parse Expression := do
  let first ← product count inner
  match ← joinedWith count [] with
  | [] => return first
  | others => return .joined (first :: others)
where
  joinedWith : Nat → List Expression → Parse (List Expression)
    | 0, seen => return seen
    | rounds + 1, seen => do
        if ← skip (.sign "~") then joinedWith rounds (seen ++ [← product count inner])
        else return seen

def sum (count : Nat) (inner : Parse Expression) : Parse Expression :=
  level sum? count (joined count inner)

def comparator? : Token → Option Comparator
  | .sign "==" => some .equal
  | .sign "!=" => some .different
  | .sign "<" => some .less
  | .sign "<=" => some .lessEqual
  | .sign ">" => some .greater
  | .sign ">=" => some .greaterEqual
  | .name "in" => some .within
  | _ => none

def comparisons (operand : Parse Expression) :
    Nat → List (Comparator × Expression) → Parse (List (Comparator × Expression))
  | 0, seen => return seen
  | count + 1, seen => do
      match ← peek with
      | some (.name "not") =>
          if (← look) = some (.name "in") then
            advance
            advance
            comparisons operand count (seen ++ [(.notWithin, ← operand)])
          else return seen
      | found =>
          match found.bind comparator? with
          | some comparator =>
              advance
              comparisons operand count (seen ++ [(comparator, ← operand)])
          | none => return seen

def comparison (count : Nat) (inner : Parse Expression) : Parse Expression := do
  let first ← sum count inner
  match ← comparisons (sum count inner) count [] with
  | [] => return first
  | others => return .comparison first others

def negated (inner : Parse Expression) : Nat → Parse Expression
  | 0 => fail (.unexpected "not")
  | count + 1 => do
      if ← skip (.name "not") then return .negation (← negated inner count)
      else comparison count inner

def both? : Token → Option (Expression → Expression → Expression)
  | .name "and" => some .both
  | _ => none

def either? : Token → Option (Expression → Expression → Expression)
  | .name "or" => some .either
  | _ => none

/-- An expression without a condition of its own. -/
def alternative (count : Nat) (inner : Parse Expression) : Parse Expression :=
  level either? count (level both? count (negated inner count))

/-- A value that is nothing when a condition without an alternative fails. -/
def nothing : Expression := .constant (.text "")

def conditions (count : Nat) (inner : Parse Expression) : Nat → Expression → Parse Expression
  | 0, value => return value
  | rounds + 1, value => do
      if ← skip (.name "if") then
        let condition ← alternative count inner
        if ← skip (.name "else") then
          conditions count inner rounds (.choice condition value (← inner))
        else conditions count inner rounds (.choice condition value nothing)
      else return value

/-- An expression; `depth` bounds how deep brackets nest. -/
def expression : Nat → Parse Expression
  | 0 => fail (.unexpected "(")
  | depth + 1 => do
      let inner := expression depth
      conditions depth inner depth (← alternative depth inner)

def printed (depth : Nat) : Parse Expression := tuple depth none (expression depth) false

/-- A condition or a list to walk, which takes no condition of its own. -/
def plainTuple (depth : Nat) (ending : Option String) : Parse Expression :=
  tuple depth ending (alternative depth (expression depth)) false

def awaitedNow (source : TokenSource) (ends : Option (List String)) : Awaited :=
  let stack :=
    match ends with
    | some tags => tags :: source.awaited
    | none => source.awaited
  { tags := stack.headD [], outerTags := stack.tail.flatten
    innermost := source.openTags.head? }

def atEnd (ends : Option (List String)) : Option Token → Bool
  | some (.name word) =>
      match ends with
      | some tags => tags.contains word
      | none => false
  | _ => false

/-- The parts of an open tag, between its own close and one of the tags that end
it. -/
def body (parts : Option (List String) → Parse (List Part)) (ends : List String) :
    Parse (List Part) := do
  let _ ← skip (.sign ":")
  expect .closeTag
  modify fun source => { source with awaited := ends :: source.awaited }
  let found ← parts (some ends)
  modify fun source => { source with awaited := source.awaited.tail }
  if (← peek).isNone then fail (.endInside (awaitedNow (← get) (some ends)))
  return found

def choice (depth : Nat) (parts : Option (List String) → Parse (List Part)) :
    Nat → Parse Part
  | 0 => fail (.unexpected "if")
  | count + 1 => do
      let condition ← plainTuple depth none
      let whenTrue ← body parts ["elif", "else", "endif"]
      let found ← peek
      advance
      if found = some (.name "elif") then
        return .choice condition whenTrue [← choice depth parts count]
      else if found = some (.name "else") then
        let whenFalse ← body parts ["endif"]
        advance
        return .choice condition whenTrue whenFalse
      else return .choice condition whenTrue []

/-- What a loop gives its items to. -/
def target (depth : Nat) : Parse Target := do
  let found ← tuple depth (some "in") (primary depth (expression depth)) false
  match found.target? with
  | some target => return target
  | none => fail (.badTarget found.form)

def loop (depth : Nat) (parts : Option (List String) → Parse (List Part)) : Parse Part := do
  let target ← target depth
  expect (.name "in")
  let items ← plainTuple depth (some "recursive")
  let condition ← if ← skip (.name "if") then some <$> expression depth else pure none
  let _ ← skip (.name "recursive")
  let content ← body parts ["endfor", "else"]
  let found ← peek
  advance
  if found = some (.name "else") then
    let whenEmpty ← body parts ["endfor"]
    advance
    return .loop target items condition content whenEmpty
  else return .loop target items condition content []

/-- Two words in a row, if the first is next. -/
def skipBoth (first second : String) : Parse Bool := do
  if (← peek) = some (.name first) then
    if (← look) = some (.name second) then
      advance
      advance
      return true
  return false

def insertion (depth : Nat) : Parse Part := do
  let name ← expression depth
  let mayMiss ← skipBoth "ignore" "missing"
  if ← skipBoth "with" "context" then return .insertion name mayMiss true
  else return .insertion name mayMiss !(← skipBoth "without" "context")

def statement (depth : Nat) (parts : Option (List String) → Parse (List Part)) :
    Parse Part := do
  match ← peek with
  | some (.name word) =>
      let outer := (← get).openTags
      let inside (content : Parse Part) : Parse Part := do
        modify fun source => { source with openTags := word :: outer }
        advance
        let part ← content
        modify fun source => { source with openTags := outer }
        return part
      if word = "if" then inside (choice depth parts depth)
      else if word = "for" then inside (loop depth parts)
      else if word = "include" then inside (insertion depth)
      else fail (.unknownTag word (awaitedNow (← get) none))
  | _ => fail .noTagName

/-- Parts up to the end, or up to a tag that ends what is open. -/
def parts : Nat → Option (List String) → Parse (List Part)
  | 0, _ => return []
  | depth + 1, ends => do
      match ← peek with
      | some (.data text) =>
          advance
          return .text text :: (← parts depth ends)
      | some .openPrint =>
          advance
          let value ← printed (depth + 1)
          expect .closePrint
          return .print value :: (← parts depth ends)
      | some .openTag =>
          advance
          if atEnd ends (← peek) then return []
          else
            let part ← statement (depth + 1) (parts depth)
            expect .closeTag
            return part :: (← parts depth ends)
      | _ => return []

end Parse

/-- The parts of a template. -/
def readParts (source : Text) : Except SourceFault (List Part) :=
  let found := Tokens.ofText source
  match found.tokens, found.fault with
  | [], some fault => .error fault
  | tokens, fault =>
      (Parse.parts (2 * tokens.length + 2) none).run' { tokens, fault }

end Transclusion.Template

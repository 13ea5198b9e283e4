import Transclusion.Rendering
import Transclusion.Template.Helping

/-!
What a template gives under a scope of names. Everything that an operation works on is
evaluated before the operation looks at it, so its own fault comes after theirs.
-/

namespace Transclusion.Template

/-- Names with what they stand for, the innermost first. -/
abbrev Scope := List (String × Item)

abbrev Work := ExceptT Fault Rendering

instance : MonadLift Outcome Work where
  monadLift outcome := ExceptT.mk (.done outcome)

/-- The argument formatted if it is a text; whatever else it is stays. -/
def formatted (item : Item) : Work Item :=
  match item.text? with
  | some text => do return .ofText (← (Rendering.formatted text : Rendering Text))
  | none => return item

def callItem (callee : Item) (given : Given) : Work Item := do
  match ← callee.settled with
  | .formatter => formatted (← Operation.formatArgument given)
  | .operation owner name => operate owner name given
  | .counter => Operation.counted given
  | .round _ _ =>
      throw (.mismatch "The loop must have the 'recursive' marker to be called recursively.")
  | other => throw (.mismatch ("'" ++ other.kind ++ "' object is not callable"))

/-- What stands for names that a scope does not hold. -/
def standing : Scope := [("range", .counter)]

def lookUp (scope : Scope) (name : String) : Item :=
  ((scope.lookup name).or (standing.lookup name)).getD (.missing (.name name))

/-- The names of a map that is spread out as arguments. -/
def namesOf (item : Item) : Outcome (List (String × Item)) := do
  match ← item.settled with
  | .map entries =>
      entries.mapM fun (key, item) =>
        match key.text? with
        | some name => return (String.ofList name, item)
        | none => throw (.mismatch "keywords must be strings")
  | other =>
      throw (.mismatch ("jinja2.runtime.Context.call() argument after ** must be a mapping, not " ++
        other.kind))

def placesOf (item : Item) : Outcome (List Item) := do
  let item ← item.settled
  match item.elements? with
  | some items => return items
  | none =>
      throw (.mismatch ("jinja2.runtime.Context.call() argument after * must be an iterable, not " ++
        item.kind))

/-- The arguments with one more. -/
def Given.with (given : Given) (passing : Passing) (item : Item) : Outcome Given := do
  match passing with
  | .placed => return { given with placed := given.placed ++ [item] }
  | .named name => return { given with named := given.named ++ [(name, item)] }
  | .spread => return { given with placed := given.placed ++ (← placesOf item) }
  | .spreadNamed => return { given with named := given.named ++ (← namesOf item) }

mutual

def evaluate (scope : Scope) : Expression → Work Item
  | .constant value => return .ofValue value
  | .name name => return lookUp scope name
  | .part owner name => do partOf (← evaluate scope owner) name
  | .item owner index => do
      let owner ← evaluate scope owner
      itemOf owner (← evaluate scope index)
  | .slice owner first last step => do
      let owner ← evaluate scope owner
      let first ← evaluateBound scope first
      let last ← evaluateBound scope last
      slice owner first last (← evaluateBound scope step)
  | .call callee arguments => do
      let callee ← evaluate scope callee
      callItem callee (← evaluateArguments scope {} arguments)
  | .passed helper name operand arguments => do
      let operand ← evaluate scope operand
      help helper name operand (← evaluateArguments scope {} arguments)
  | .negation operand => do
      return .ofBool !(← (← evaluate scope operand).isTrue)
  | .both left right => do
      let first ← evaluate scope left
      if ← first.isTrue then evaluate scope right else return first
  | .either left right => do
      let first ← evaluate scope left
      if ← first.isTrue then return first else evaluate scope right
  | .comparison first others => do
      return .ofBool (← evaluateComparisons scope (← evaluate scope first) others)
  | .arithmetic operator left right => do
      let left ← evaluate scope left
      calculate operator left (← evaluate scope right)
  | .signed negative operand => do signedItem negative (← evaluate scope operand)
  | .joined parts => do
      let items ← evaluateAll scope parts
      return .ofText (← (items.mapM Item.printed : Outcome (List Text))).flatten
  | .choice condition whenTrue whenFalse => do
      if ← (← evaluate scope condition).isTrue then evaluate scope whenTrue
      else evaluate scope whenFalse
  | .list items => do return .list (← evaluateAll scope items)
  | .tuple items => do return .tuple (← evaluateAll scope items)
  | .map entries => evaluateEntries scope [] entries

def evaluateBound (scope : Scope) : Option Expression → Work (Option Item)
  | none => return none
  | some bound => do return some (← evaluate scope bound)

def evaluateAll (scope : Scope) : List Expression → Work (List Item)
  | [] => return []
  | expression :: rest => do
      let item ← evaluate scope expression
      return item :: (← evaluateAll scope rest)

def evaluateArguments (scope : Scope) (given : Given) :
    List (Passing × Expression) → Work Given
  | [] => return given
  | (passing, expression) :: rest => do
      let item ← evaluate scope expression
      evaluateArguments scope (← given.with passing item) rest

def evaluateEntries (scope : Scope) (seen : List (Item × Item)) :
    List (Expression × Expression) → Work Item
  | [] => return .map seen
  | (key, item) :: rest => do
      let key ← evaluate scope key
      let item ← evaluate scope item
      key.asKey
      evaluateEntries scope (Item.assign key item seen) rest

def evaluateComparisons (scope : Scope) (left : Item) :
    List (Comparator × Expression) → Work Bool
  | [] => return true
  | (comparator, expression) :: rest => do
      let right ← evaluate scope expression
      if ← compare comparator left right then evaluateComparisons scope right rest
      else return false

end

def fewElements (wanted found : Nat) : Fault :=
  .badValue ("not enough values to unpack (expected " ++ toString wanted ++ ", got " ++
    toString found ++ ")")

def manyElements (wanted : Nat) : Fault :=
  .badValue ("too many values to unpack (expected " ++ toString wanted ++ ")")

mutual

/-- The names that a loop's target gives to an item or to its elements. -/
def Target.bindings (item : Item) : Target → Outcome Scope
  | .name name => return [(name, item)]
  | .several targets => do
      let item ← item.settled
      match item.elements? with
      | none => throw (.mismatch ("cannot unpack non-iterable " ++ item.kind ++ " object"))
      | some items =>
          if items.length < targets.length then throw (fewElements targets.length items.length)
          else if targets.length < items.length then throw (manyElements targets.length)
          else bindingsOfTargets items targets

def bindingsOfTargets (items : List Item) : List Target → Outcome Scope
  | [] => return []
  | target :: rest => do
      let names ← target.bindings (items.headD .nothing)
      return (← bindingsOfTargets items.tail rest) ++ names

end

/-- The items that satisfy a loop's condition, if it has one, with the names that they
give. -/
def chosenItems (scope : Scope) (target : Target) (condition : Option Expression) :
    List Item → Work (List (Item × Scope))
  | [] => return []
  | item :: rest => do
      let names ← target.bindings item
      let holds ←
        match condition with
        | none => pure true
        | some condition => do
            let truth ← evaluate (names ++ scope) condition
            truth.isTrue
      let others ← chosenItems scope target condition rest
      return if holds then (item, names) :: others else others

/-- How the template under a name is rendered, if it can be read. -/
abbrev Shelf := Text → Outcome (Scope → Work Text)

/-- How a fault calls a template that was not found among several. -/
def candidate : Item → Outcome String
  | .missing what => return what.message
  | item => do return String.ofList (← item.printed)

/-- The first of several templates that is there; names without a value are passed
over. -/
def firstFound (shelf : Shelf) (names : List Item) : List Item → Outcome (Scope → Work Text)
  | [] => do throw (.noneFound (← names.mapM candidate))
  | .missing _ :: rest => firstFound shelf names rest
  | item :: rest => do
      match shelf (← item.printed) with
      | .error (.notFound _ _) => firstFound shelf names rest
      | found => found

/-- The template that an item names: the one of that name, or one of several. -/
def templateOf (shelf : Shelf) (item : Item) : Outcome (Scope → Work Text) := do
  match item.text? with
  | some name => shelf name
  | none =>
      if ← item.isTrue then
        let names ← item.elements
        firstFound shelf names names
      else throw (.noneFound [])

mutual

/-- The text of some parts. -/
def renderParts (shelf : Shelf) (scope : Scope) : List Part → Work Text
  | [] => return []
  | part :: rest => do
      let text ← renderPart shelf scope part
      return text ++ (← renderParts shelf scope rest)

def renderPart (shelf : Shelf) (scope : Scope) : Part → Work Text
  | .text text => return text
  | .print expression => do
      let item ← evaluate scope expression
      item.printed
  | .choice condition whenTrue whenFalse => do
      if ← (← evaluate scope condition).isTrue then renderParts shelf scope whenTrue
      else renderParts shelf scope whenFalse
  | .loop target items condition body whenEmpty => do
      let found ← evaluate scope items
      let walked ← chosenItems scope target condition (← found.elements)
      if walked.isEmpty then renderParts shelf scope whenEmpty
      else
        let all := walked.map Prod.fst
        let rounds ← walked.zipIdx.mapM fun ((_, names), place) =>
          renderParts shelf (names ++ ("loop", .round place all) :: scope) body
        return rounds.flatten
  | .insertion name mayMiss sharesNames => do
      let name ← evaluate scope name
      match templateOf shelf name, mayMiss with
      | .ok render, _ => render (if sharesNames then scope else [])
      | .error (.notFound _ _), true => return []
      | .error (.noneFound _), true => return []
      | .error fault, _ => throw fault

end

end Transclusion.Template

import Transclusion.Template.Fault

/-!
What a template consists of: text, expressions to print, choices, loops, and
templates to insert. Expressions name values, take parts of them, call them and
combine them.
-/

namespace Transclusion.Template

inductive Comparator where
  | equal
  | different
  | less
  | lessEqual
  | greater
  | greaterEqual
  | within
  | notWithin
  deriving DecidableEq, Repr

inductive Operator where
  | add
  | subtract
  | multiply
  | divide
  | divideFloor
  | remainder
  | power
  deriving DecidableEq, Repr

/-- How an argument is passed: by its place, by a name, or as many at once. -/
inductive Passing where
  | placed
  | named (name : String)
  | spread
  | spreadNamed
  deriving DecidableEq, Repr

inductive Expression where
  | constant (value : Value)
  | name (name : String)
  | part (owner : Expression) (name : String)
  | item (owner index : Expression)
  | slice (owner : Expression) (first last step : Option Expression)
  | call (callee : Expression) (arguments : List (Passing × Expression))
  | passed (helper : Helper) (name : String) (operand : Expression)
      (arguments : List (Passing × Expression))
  | negation (operand : Expression)
  | both (left right : Expression)
  | either (left right : Expression)
  | comparison (first : Expression) (others : List (Comparator × Expression))
  | arithmetic (operator : Operator) (left right : Expression)
  | signed (negative : Bool) (operand : Expression)
  | joined (parts : List Expression)
  | choice (condition whenTrue whenFalse : Expression)
  | list (items : List Expression)
  | tuple (items : List Expression)
  | map (entries : List (Expression × Expression))

namespace Expression

/-- How messages call a form of expression. -/
def form : Expression → String
  | .constant _ => "const"
  | .name _ => "name"
  | .part _ _ => "getattr"
  | .item _ _ => "getitem"
  | .slice _ _ _ _ => "getitem"
  | .call _ _ => "call"
  | .passed helper _ _ _ => helper.word
  | .negation _ => "not"
  | .both _ _ => "and"
  | .either _ _ => "or"
  | .comparison _ _ => "compare"
  | .arithmetic .add _ _ => "add"
  | .arithmetic .subtract _ _ => "sub"
  | .arithmetic .multiply _ _ => "mul"
  | .arithmetic .divide _ _ => "div"
  | .arithmetic .divideFloor _ _ => "floordiv"
  | .arithmetic .remainder _ _ => "mod"
  | .arithmetic .power _ _ => "pow"
  | .signed true _ => "neg"
  | .signed false _ => "pos"
  | .joined _ => "concat"
  | .choice _ _ _ => "condexpr"
  | .list _ => "list"
  | .tuple _ => "tuple"
  | .map _ => "dict"

end Expression

/-- What a loop gives its items to: a name, or one target for each element. -/
inductive Target where
  | name (name : String)
  | several (targets : List Target)

mutual

def Target.names : Target → List String
  | .name name => [name]
  | .several targets => namesOfTargets targets

def namesOfTargets : List Target → List String
  | [] => []
  | target :: rest => target.names ++ namesOfTargets rest

end

mutual

/-- The target that an expression is; only names and tuples of targets are. -/
def Expression.target? : Expression → Option Target
  | .name name => some (.name name)
  | .tuple items => (targets? items).map .several
  | _ => none

def targets? : List Expression → Option (List Target)
  | [] => some []
  | item :: rest =>
      match item.target?, targets? rest with
      | some target, some targets => some (target :: targets)
      | _, _ => none

end

inductive Part where
  | text (text : Text)
  | print (expression : Expression)
  | choice (condition : Expression) (whenTrue whenFalse : List Part)
  | loop (target : Target) (items : Expression) (condition : Option Expression)
      (body whenEmpty : List Part)
  | insertion (name : Expression) (mayMiss sharesNames : Bool)

/-- The filters and tests that there are. -/
structure Helpers where
  filters : List String
  tests : List String

namespace Helpers

def knows (helpers : Helpers) (kind : Helper) (name : String) : Bool :=
  match kind with
  | .filter => helpers.filters.contains name
  | .test => helpers.tests.contains name

end Helpers

mutual

/-- The fault of the first helper that is not known. Inside a choice an unknown
helper matters only when it is reached. -/
def Expression.objection? (helpers : Helpers) : Expression → Option Fault
  | .constant _ => none
  | .name _ => none
  | .part owner _ => owner.objection? helpers
  | .item owner index => (owner.objection? helpers).or (index.objection? helpers)
  | .slice owner first last step =>
      (owner.objection? helpers).or
        ((boundObjection? helpers first).or
          ((boundObjection? helpers last).or (boundObjection? helpers step)))
  | .call callee arguments =>
      (callee.objection? helpers).or (argumentObjection? helpers arguments)
  | .passed helper name operand arguments =>
      if helpers.knows helper name then
        (operand.objection? helpers).or (argumentObjection? helpers arguments)
      else some (.unknownHelper helper name)
  | .negation operand => operand.objection? helpers
  | .both left right => (left.objection? helpers).or (right.objection? helpers)
  | .either left right => (left.objection? helpers).or (right.objection? helpers)
  | .comparison first others =>
      (first.objection? helpers).or (comparisonObjection? helpers others)
  | .arithmetic _ left right => (left.objection? helpers).or (right.objection? helpers)
  | .signed _ operand => operand.objection? helpers
  | .joined parts => listObjection? helpers parts
  | .choice _ _ _ => none
  | .list items => listObjection? helpers items
  | .tuple items => listObjection? helpers items
  | .map entries => entryObjection? helpers entries

def boundObjection? (helpers : Helpers) : Option Expression → Option Fault
  | none => none
  | some bound => bound.objection? helpers

def listObjection? (helpers : Helpers) : List Expression → Option Fault
  | [] => none
  | item :: rest => (item.objection? helpers).or (listObjection? helpers rest)

def argumentObjection? (helpers : Helpers) : List (Passing × Expression) → Option Fault
  | [] => none
  | (_, item) :: rest => (item.objection? helpers).or (argumentObjection? helpers rest)

def comparisonObjection? (helpers : Helpers) : List (Comparator × Expression) → Option Fault
  | [] => none
  | (_, item) :: rest => (item.objection? helpers).or (comparisonObjection? helpers rest)

def entryObjection? (helpers : Helpers) : List (Expression × Expression) → Option Fault
  | [] => none
  | (key, item) :: rest =>
      ((key.objection? helpers).or (item.objection? helpers)).or (entryObjection? helpers rest)

end

mutual

/-- The names that the loops in some parts give their items to. -/
def Part.loopNames : Part → List String
  | .choice _ whenTrue whenFalse => loopNames whenTrue ++ loopNames whenFalse
  | .loop target _ _ body whenEmpty => target.names ++ loopNames body ++ loopNames whenEmpty
  | _ => []

def loopNames : List Part → List String
  | [] => []
  | part :: rest => part.loopNames ++ loopNames rest

end

mutual

/-- The first fault that some parts have before they are rendered: an unknown helper
outside every choice, or a loop that gives its items to the name for rounds. In a
choice only what stands in a loop of its own is looked at. -/
def Part.objection? (helpers : Helpers) (inChoice : Bool) : Part → Option Fault
  | .text _ => none
  | .print expression => if inChoice then none else expression.objection? helpers
  | .choice _ whenTrue whenFalse =>
      (objection? helpers true whenTrue).or (objection? helpers true whenFalse)
  | .loop target items condition body whenEmpty =>
      let names := target.names ++ loopNames body ++ loopNames whenEmpty
      ((boundObjection? helpers condition).or
        (if names.contains "loop" then some .loopTarget else none)).or
        ((if inChoice then none else items.objection? helpers).or
          ((objection? helpers false body).or (objection? helpers false whenEmpty)))
  | .insertion name _ _ => if inChoice then none else name.objection? helpers

def objection? (helpers : Helpers) (inChoice : Bool) : List Part → Option Fault
  | [] => none
  | part :: rest => (part.objection? helpers inChoice).or (objection? helpers inChoice rest)

end

end Transclusion.Template

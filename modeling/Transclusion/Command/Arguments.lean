import Transclusion.Coercion
import Transclusion.Command.Form
import Transclusion.Text.Quoted

/-!
Reading the arguments of a command. Names of parameters may be cut short as long as
one name alone continues them, and an argument may follow a name after an equals
sign. After a double dash everything is an operand. Operands too many and names
unknown are kept aside.
-/

namespace Transclusion.Command

/-- What an argument is taken for. A parameter may have an argument written into one
with its name. -/
inductive Item where
  | word
  | divider
  | parameter (parameter : Parameter) (attached : Option Text)
  | strange
  deriving DecidableEq, Repr

/-- Why reading ends early. -/
inductive Halt where
  | help
  | version
  | wrong (message : String)
  deriving DecidableEq, Repr

def quoted (text : String) : String := String.ofList (Text.quoted text.toList)

namespace Parameter

def wrong (parameter : Parameter) (problem : String) : Halt :=
  .wrong ("argument " ++ parameter.label ++ ": " ++ problem)

def ignored (parameter : Parameter) (text : Text) : Halt :=
  parameter.wrong ("ignored explicit argument " ++ String.ofList (Text.quoted text))

end Parameter

def wrongChoice (value : String) (choices : List String) : String :=
  "invalid choice: " ++ quoted value ++ " (choose from " ++
    String.intercalate ", " (choices.map quoted) ++ ")"

namespace Form

/-- The text before the first equals sign, and the one after it if there is a sign. -/
def cutAtSign (text : Text) : Text × Option Text :=
  match text.dropWhile (· != '=') with
  | [] => (text, none)
  | _ :: rest => (text.takeWhile (· != '='), some rest)

/-- The parameters that an argument with a double dash may mean. -/
def continuing (form : Form) (text : Text) : List (String × Parameter × Option Text) :=
  let (start, attached) := cutAtSign text
  form.named.filterMap fun (name, parameter) =>
    if start.isPrefixOf name.toList then some (name, parameter, attached) else none

/-- The parameters that an argument with a single dash may mean: the one whose name
is its first letter, what follows being attached. -/
def beginning (form : Form) (text : Text) : List (String × Parameter × Option Text) :=
  form.named.filterMap fun (name, parameter) =>
    if name.toList = text.take 2 then some (name, parameter, some (text.drop 2))
    else if text.isPrefixOf name.toList then some (name, parameter, none)
    else none

/-- A dash and a decimal number, with at most a line feed after it. -/
def isNegative (text : Text) : Bool :=
  let body := text.drop 1
  let body := if body.getLast? = some '\n' then body.dropLast else body
  Coercion.isDigits body || (Coercion.fraction? body).isSome

/-- What an argument with a leading dash is, when no parameter has that very name. -/
def classifyDashed (form : Form) (text : Text) : Except Halt Item :=
  let (name, attached) := cutAtSign text
  match attached.bind fun _ => form.find? (String.ofList name) with
  | some parameter => .ok (.parameter parameter attached)
  | none =>
      match if text.take 2 = ['-', '-'] then form.continuing text else form.beginning text with
      | [] => .ok (if isNegative text || text.contains ' ' then .word else .strange)
      | [(_, parameter, attached)] => .ok (.parameter parameter attached)
      | several =>
          .error (.wrong ("ambiguous option: " ++ String.ofList text ++ " could match " ++
            String.intercalate ", " (several.map (·.1))))

def classify (form : Form) (argument : String) : Except Halt Item :=
  match form.find? argument with
  | some parameter => .ok (.parameter parameter none)
  | none =>
      match argument.toList with
      | '-' :: c :: rest => form.classifyDashed ('-' :: c :: rest)
      | _ => .ok .word

/-- All arguments with what they are; those after the first double dash are words. -/
def classifyAll (form : Form) : List String → Except Halt (List (String × Item))
  | [] => .ok []
  | "--" :: rest => .ok (("--", .divider) :: rest.map (·, .word))
  | argument :: rest => do
      let item ← form.classify argument
      return (argument, item) :: (← form.classifyAll rest)

end Form

/-- What was read: each parameter by its first name with its argument, the operand or
the command with its own arguments, and what nothing was found for. -/
structure Reading where
  given : List (String × String) := []
  operand : Option String := none
  command : Option (String × List String) := none
  unknown : List String := []
  deriving DecidableEq, Repr

namespace Reading

/-- Parameters written together after one dash, each by its letter. -/
def openCluster (form : Form) : Parameter → Text → Except Halt (List Parameter)
  | parameter, [] => .error (parameter.ignored [])
  | parameter, c :: rest =>
      match form.find? (String.ofList ['-', c]), rest with
      | none, _ => .error (parameter.ignored (c :: rest))
      | some next, [] => .ok [parameter, next]
      | some next, d :: tail => do return parameter :: (← openCluster form next (d :: tail))

def give (parameter : Parameter) (value : String) (reading : Reading) : Except Halt Reading :=
  match parameter.taking with
  | .help => .error .help
  | .version => .error .version
  | .choice choices =>
      if choices.contains value then
        .ok { reading with given := reading.given ++ [(parameter.name, value)] }
      else .error (parameter.wrong (wrongChoice value choices))
  | _ => .ok { reading with given := reading.given ++ [(parameter.name, value)] }

def giveAll (parameters : List Parameter) (reading : Reading) : Except Halt Reading :=
  parameters.foldlM (fun reading parameter => reading.give parameter "") reading

def setAside (arguments : List String) (reading : Reading) : Reading :=
  { reading with unknown := reading.unknown ++ arguments }

/-- A parameter that takes nothing, with text attached to its name. -/
def giveAttached (form : Form) (parameter : Parameter) (name : String) (attached : Text)
    (reading : Reading) : Except Halt Reading :=
  if name.toList.take 2 = ['-', '-'] then .error (parameter.ignored attached)
  else do reading.giveAll (← openCluster form parameter attached)

/-- The first of the arguments names the command. -/
def takeCommand (placeholder : String) (choices : List (String × String))
    (arguments : List String) (reading : Reading) : Except Halt Reading :=
  match arguments with
  | [] => .ok reading
  | name :: rest =>
      let names := choices.map (·.1)
      if names.contains name then .ok { reading with command := some (name, rest) }
      else .error (.wrong ("argument " ++ placeholder ++ ": " ++ wrongChoice name names))

/-- The end of the arguments; an operand that is still waited for is `pending`. -/
def close (pending : Operand) (reading : Reading) : Except Halt Reading :=
  match pending with
  | .required name _ => .error (.wrong ("the following arguments are required: " ++ name))
  | _ => .ok reading

/-- Reads arguments in order; the operand is `pending` until it is met. -/
def readFrom (form : Form) :
    Operand → List (String × Item) → Reading → Except Halt Reading
  | pending, [], reading => reading.close pending
  | pending, (argument, .strange) :: rest, reading =>
      readFrom form pending rest (reading.setAside [argument])
  | pending, (argument, .parameter parameter attached) :: rest, reading =>
      match parameter.placeholder?, attached with
      | some _, some attached => do
          readFrom form pending rest (← reading.give parameter (String.ofList attached))
      | some _, none =>
          match rest with
          | (value, .word) :: rest => do
              readFrom form pending rest (← reading.give parameter value)
          | _ => .error (parameter.wrong "expected one argument")
      | none, some attached => do
          readFrom form pending rest (← reading.giveAttached form parameter argument attached)
      | none, none => do readFrom form pending rest (← reading.give parameter "")
  | .absent, (argument, _) :: rest, reading =>
      readFrom form .absent rest (reading.setAside [argument])
  | .command placeholder choices, (argument, .divider) :: rest, reading =>
      if rest.isEmpty then reading.setAside [argument] |>.close .absent
      else reading.takeCommand placeholder choices (argument :: rest.map (·.1))
  | .command placeholder choices, (argument, .word) :: rest, reading =>
      reading.takeCommand placeholder choices (argument :: rest.map (·.1))
  | _, (_, .divider) :: (word, _) :: rest, reading =>
      readFrom form .absent rest { reading with operand := some word }
  | pending, [(argument, .divider)], reading =>
      match pending with
      | .optional _ _ => reading.close .absent
      | pending => reading.setAside [argument] |>.close pending
  | _, (word, .word) :: (_, .divider) :: rest, reading =>
      readFrom form .absent rest { reading with operand := some word }
  | _, (word, .word) :: rest, reading =>
      readFrom form .absent rest { reading with operand := some word }

def read (form : Form) (arguments : List String) : Except Halt Reading := do
  readFrom form form.operand (← form.classifyAll arguments) {}

/-- The argument of a parameter; the last one counts. -/
def argument? (reading : Reading) (name : String) : Option String :=
  reading.given.reverse.lookup name

def isGiven (reading : Reading) (name : String) : Bool := (reading.argument? name).isSome

/-- All arguments of a parameter, in order; `none` when it is not given. -/
def arguments? (reading : Reading) (name : String) : Option (List String) :=
  match (reading.given.filter fun entry => entry.1 == name).map (·.2) with
  | [] => none
  | found => some found

end Reading

end Transclusion.Command

import Transclusion.Text.Blank

/-!
What a command accepts: parameters, each under one or more names that begin with
dashes, and at most one operand, which may be the name of a further command.
-/

namespace Transclusion.Command

/-- What a parameter does with the argument after it. -/
inductive Taking where
  | help
  | version
  | nothing
  | text (placeholder : String)
  | choice (choices : List String)
  deriving DecidableEq, Repr

/-- A name with a single dash takes no argument. -/
structure Parameter where
  names : List String
  taking : Taking
  help : String
  deriving DecidableEq, Repr

namespace Parameter

def name (parameter : Parameter) : String := parameter.names.headD ""

/-- How messages call the parameter. -/
def label (parameter : Parameter) : String := String.intercalate "/" parameter.names

/-- What stands for the argument in usage texts. -/
def placeholder? (parameter : Parameter) : Option String :=
  match parameter.taking with
  | .text placeholder => some placeholder
  | .choice choices => some ("\x7b" ++ String.intercalate "," choices ++ "\x7d")
  | _ => none

end Parameter

/-- A choice of commands has the names of the commands, each with its summary. -/
inductive Operand where
  | absent
  | required (name help : String)
  | optional (name help : String)
  | command (placeholder : String) (choices : List (String × String))
  deriving DecidableEq, Repr

structure Form where
  program : String
  description : Option String := none
  parameters : List Parameter
  operand : Operand := .absent
  deriving DecidableEq, Repr

namespace Form

/-- Every name of every parameter, in order. -/
def named (form : Form) : List (String × Parameter) :=
  form.parameters.flatMap fun parameter => parameter.names.map (·, parameter)

def find? (form : Form) (name : String) : Option Parameter := form.named.lookup name

end Form

end Transclusion.Command

import Transclusion.Command.Form

/-!
The usage line and the help page of a command. Lines break between words, and in a
usage line between parameters, where the next one would not fit any more. Help texts
stand in one column, to the right of what they describe.
-/

namespace Transclusion.Command

/-- Columns that a line may fill. -/
def pageWidth : Nat := 78

/-- The column of help texts lies no further to the right than this. -/
def furthestColumn : Nat := 24

def spaces (count : Nat) : String := "".pushn ' ' count

/-- Parts put on lines: `used` columns of the current line are taken, and following
lines begin with `indent` free ones. A part too long for a line has one of its own. -/
def fillFrom (width indent : Nat) : List String → Nat → List String → List (List String)
  | line, _, [] => [line.reverse]
  | line, used, part :: rest =>
      if width < used + 1 + part.length && !line.isEmpty then
        line.reverse :: fillFrom width indent [part] (indent + part.length) rest
      else fillFrom width indent (part :: line) (used + 1 + part.length) rest

/-- The words of a text on lines of a width. -/
def wrap (width : Nat) (text : String) : List String :=
  match (text.toList.splitOn ' ').map String.ofList with
  | [] => []
  | first :: rest =>
      (fillFrom width 0 [first] first.length rest).map fun line => String.intercalate " " line

namespace Operand

def usage : Operand → List String
  | .absent => []
  | .required name _ => [name]
  | .optional name _ => ["[" ++ name ++ "]"]
  | .command placeholder _ => [placeholder, "..."]

/-- What the help page lists: how deep each item is indented, the item, and its help. -/
def items : Operand → List (Nat × String × Option String)
  | .absent => []
  | .required name help => [(2, name, some help)]
  | .optional name help => [(2, name, some help)]
  | .command placeholder choices =>
      (2, placeholder, none) :: choices.map fun choice => (4, choice.1, some choice.2)

end Operand

namespace Parameter

def usage (parameter : Parameter) : String :=
  match parameter.placeholder? with
  | some placeholder => "[" ++ parameter.name ++ " " ++ placeholder ++ "]"
  | none => "[" ++ parameter.name ++ "]"

def invocation (parameter : Parameter) : String :=
  match parameter.placeholder? with
  | some placeholder =>
      String.intercalate ", " (parameter.names.map fun name => name ++ " " ++ placeholder)
  | none => String.intercalate ", " parameter.names

end Parameter

namespace Form

def usageHead : String := "usage: "

/-- The program with its parameters and its operand, on one line if they fit. -/
def usage (form : Form) : String :=
  let options := form.parameters.map (·.usage)
  let operands := form.operand.usage
  let whole := usageHead ++ String.intercalate " " (form.program :: options ++ operands)
  if whole.length ≤ pageWidth then whole
  else
    let indent := usageHead.length + form.program.length
    let lines := fillFrom pageWidth indent [form.program] indent options
    let last := fillFrom pageWidth indent [] indent operands
    let texts := (lines ++ last.filter (!·.isEmpty)).map fun line => String.intercalate " " line
    match texts with
    | [] => usageHead
    | first :: rest =>
        String.intercalate "\n" ((usageHead ++ first) :: rest.map (spaces (indent + 1) ++ ·))

def items (form : Form) : List (Nat × String × Option String) :=
  form.parameters.map fun parameter => (2, parameter.invocation, some parameter.help)

/-- The column in which help texts begin. -/
def helpColumn (form : Form) : Nat :=
  let widths := (form.operand.items ++ form.items).map fun item => item.2.1.length
  min (widths.foldl max 0 + 4) furthestColumn

/-- An item with its help beside it, or below it when it reaches into the column. -/
def itemLines (column : Nat) : Nat × String × Option String → List String
  | (indent, item, none) => [spaces indent ++ item]
  | (indent, item, some help) =>
      let shown := spaces indent ++ item
      let lines := wrap (pageWidth - column) help
      if shown.length + 2 ≤ column then
        match lines with
        | [] => [shown]
        | first :: rest =>
            (shown ++ spaces (column - shown.length) ++ first) :: rest.map (spaces column ++ ·)
      else shown :: lines.map (spaces column ++ ·)

def part (form : Form) (heading : String) (items : List (Nat × String × Option String)) :
    Option String :=
  if items.isEmpty then none
  else
    some (String.intercalate "\n" ((heading ++ ":") :: items.flatMap (itemLines form.helpColumn)))

/-- The help page: usage, description, operand and parameters, with empty lines between. -/
def help (form : Form) : String :=
  let description :=
    form.description.map fun text => String.intercalate "\n" (wrap pageWidth text)
  String.intercalate "\n\n"
    (form.usage :: [description, form.part "positional arguments" form.operand.items,
      form.part "options" form.items].filterMap id) ++ "\n"

end Form

end Transclusion.Command

import Transclusion.Yaml.Place

/-!
The page that YAML is written on: the text so far, the column, and whether the
line holds nothing but blanks or block marks yet. Lines wrap past the eightieth
column where a scalar allows it.
-/

namespace Transclusion.Yaml

structure Sheet where
  written : String := ""
  column : Nat := 0
  indent : Option Nat := none
  atBlank : Bool := true
  onlyMarks : Bool := true
  openEnded : Bool := false

namespace Sheet

def widest : Nat := 80

def step : Nat := 2

def write (text : Text) (sheet : Sheet) : Sheet :=
  { sheet with
    written := sheet.written ++ String.ofList text
    column := sheet.column + text.length }

def newLine (ending : Char) (sheet : Sheet) : Sheet :=
  { sheet with
    written := sheet.written.push ending, column := 0, atBlank := true, onlyMarks := true }

def newLines (endings : Text) (sheet : Sheet) : Sheet :=
  endings.foldl (fun sheet ending => sheet.newLine ending) sheet

/-- A mark, with a space before it where one is needed. -/
def mark (text : Text) (needsSpace : Bool) (isBlock : Bool := false) (sheet : Sheet) : Sheet :=
  let sheet := sheet.write (if sheet.atBlank || !needsSpace then text else ' ' :: text)
  { sheet with atBlank := false, onlyMarks := sheet.onlyMarks && isBlock, openEnded := false }

/-- Goes to the indentation, on a new line unless this one is still empty. -/
def toIndent (sheet : Sheet) : Sheet :=
  let indent := sheet.indent.getD 0
  let sheet :=
    if !sheet.onlyMarks || indent < sheet.column || (sheet.column = indent && !sheet.atBlank) then
      sheet.newLine '\n'
    else sheet
  if sheet.column < indent then
    { sheet.write (List.replicate (indent - sheet.column) ' ') with atBlank := true }
  else sheet

/-- The indentation one level in. -/
def deeper (inScalar indentless : Bool) (sheet : Sheet) : Sheet :=
  match sheet.indent with
  | none => { sheet with indent := some (if inScalar then step else 0) }
  | some indent => if indentless then sheet else { sheet with indent := some (indent + step) }

end Sheet

end Transclusion.Yaml

import Transclusion.Value.Written
import Transclusion.Yaml.Scalar
import Transclusion.Yaml.ScalarStyle

/-!
Writing a value as a YAML text: collections in block form, empty ones in brackets,
texts of several lines as literal blocks, and every scalar plain where its text
reads back as the same kind of value.
-/

namespace Transclusion.Yaml

/-- A scalar to be written: its text, what it is, and whether a literal block is
asked for. -/
structure Leaf where
  text : Text
  kind : Kind
  literal : Bool := false

namespace Leaf

def layout : Binary64.Layout := { nan := ".nan", infinity := ".inf" }

/-- A number with an exponent keeps a point, so that it reads as a fraction. -/
def fractionText (bits : UInt64) : Text :=
  let text := (Binary64.layOut layout bits).toList
  if text.contains '.' then text
  else text.flatMap fun c => if c = 'e' then ['.', '0', 'e'] else [c]

def ofValue? : Value → Option Leaf
  | .null => some ⟨"null".toList, .null, false⟩
  | .bool truth => some ⟨(if truth then "true" else "false").toList, .bool, false⟩
  | .int number => some ⟨(toString number).toList, .int, false⟩
  | .float bits => some ⟨fractionText bits, .float, false⟩
  | .text content => some ⟨content.toList, .text, content.toList.contains '\n'⟩
  | .date day => some ⟨day.plain.toList, .timestamp, false⟩
  | .moment instant => some ⟨instant.plain.toList, .timestamp, false⟩
  | .list _ => none
  | .map _ => none

/-- The length of the shorthand tag of a kind. -/
def tagLength : Kind → Nat
  | .null => 6
  | .bool => 6
  | .float => 7
  | .timestamp => 11
  | _ => 5

inductive Style where
  | plain
  | single
  | literal
  | double
  deriving DecidableEq

def style (isKey : Bool) (leaf : Leaf) : Style :=
  let shape := Shape.ofText leaf.text
  let blocked := isKey && (shape.empty || shape.multiline)
  if !leaf.literal && Scalar.kindOf leaf.text == leaf.kind && !blocked && shape.plain then .plain
  else if leaf.literal && !isKey && shape.block then .literal
  else if !leaf.literal && shape.single && !(isKey && shape.multiline) then .single
  else .double

def write (root isKey : Bool) (leaf : Leaf) (sheet : Sheet) : Sheet :=
  let outer := sheet.indent
  let sheet := sheet.deeper true false
  let sheet :=
    match leaf.style isKey with
    | .plain => sheet.plain root (!isKey) leaf.text
    | .single => sheet.single (!isKey) leaf.text
    | .literal => sheet.literal leaf.text
    | .double => sheet.double (!isKey) leaf.text
  { sheet with indent := outer }

/-- Whether a key may stand before its colon on one line. -/
def isShortKey (leaf : Leaf) : Bool :=
  let shape := Shape.ofText leaf.text
  tagLength leaf.kind + leaf.text.length < 128 && !shape.empty && !shape.multiline

end Leaf

mutual

/-- Writes a value; `inMap` tells that it is a key or an item of a mapping. -/
def writeValue (root inMap : Bool) : Value → Sheet → Sheet
  | .list items, sheet =>
      if items.isEmpty then (sheet.mark ['['] true).mark [']'] false
      else
        let outer := sheet.indent
        let sheet := sheet.deeper false (inMap && !sheet.onlyMarks)
        { writeItems items sheet with indent := outer }
  | .map entries, sheet =>
      if entries.isEmpty then (sheet.mark ['\x7b'] true).mark ['\x7d'] false
      else
        let outer := sheet.indent
        { writeEntries entries (sheet.deeper false false) with indent := outer }
  | other, sheet =>
      match Leaf.ofValue? other with
      | some leaf => leaf.write root false sheet
      | none => sheet

def writeItems : List Value → Sheet → Sheet
  | [], sheet => sheet
  | item :: rest, sheet =>
      writeItems rest (writeValue false false item (sheet.toIndent.mark ['-'] true true))

def writeEntries : List (Value × Value) → Sheet → Sheet
  | [], sheet => sheet
  | (key, item) :: rest, sheet =>
      let sheet := sheet.toIndent
      let sheet :=
        match (Leaf.ofValue? key).filter Leaf.isShortKey with
        | some leaf => (leaf.write false true sheet).mark [':'] false
        | none =>
            let sheet := writeValue false true key (sheet.mark ['?'] true true)
            sheet.toIndent.mark [':'] true true
      writeEntries rest (writeValue false true item sheet)

end

/-- The text of a value. A scalar left open at its end is closed by dots. -/
def write (value : Value) : String :=
  let sheet := (writeValue true false value {}).toIndent
  let sheet := if sheet.openEnded then (sheet.mark ['.', '.', '.'] true).toIndent else sheet
  sheet.written

end Transclusion.Yaml

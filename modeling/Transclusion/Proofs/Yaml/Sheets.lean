import Transclusion.Proofs.Yaml.Places
import Transclusion.Yaml.ScalarStyle

/-!
What the steps of writing add to a page, and where the page stands after them.
-/

namespace Transclusion.Yaml.Sheet

/-- A text is added to a page, whose indentation stays. -/
structure Adds (before : Sheet) (text : Text) (after : Sheet) : Prop where
  written : after.written.toList = before.written.toList ++ text
  indent : after.indent = before.indent

variable {before middle after sheet : Sheet} {text first second : Text} {indent : Nat}

theorem Adds.refl (sheet : Sheet) : sheet.Adds [] sheet := ⟨by simp, rfl⟩

theorem Adds.trans (one : before.Adds first middle) (two : middle.Adds second after) :
    before.Adds (first ++ second) after :=
  ⟨by rw [two.written, one.written, List.append_assoc], two.indent.trans one.indent⟩

/-- What is done further in, and then left. -/
theorem Adds.restored {inner : Option Nat} (adds : { sheet with indent := inner }.Adds text after) :
    sheet.Adds text { after with indent := sheet.indent } := ⟨adds.written, rfl⟩

theorem deeper_eq (inside : sheet.indent = some indent) (inScalar : Bool) :
    sheet.deeper inScalar false = { sheet with indent := some (indent + 2) } := by
  rw [deeper, inside]
  rfl

theorem adds_write (text : Text) (sheet : Sheet) : sheet.Adds text (sheet.write text) :=
  ⟨by simp [write], rfl⟩

theorem adds_newLine (ending : Char) (sheet : Sheet) : sheet.Adds [ending] (sheet.newLine ending) :=
  ⟨by simp [newLine], rfl⟩

/-- The page stands at the beginning of a line. -/
structure AtStart (sheet : Sheet) : Prop where
  column : sheet.column = 0
  atBlank : sheet.atBlank = true
  onlyMarks : sheet.onlyMarks = true

theorem atStart_newLine (ending : Char) (sheet : Sheet) : (sheet.newLine ending).AtStart :=
  ⟨rfl, rfl, rfl⟩

theorem adds_newLines (endings : Text) (sheet : Sheet) : sheet.Adds endings (sheet.newLines endings) := by
  induction endings generalizing sheet with
  | nil => exact .refl sheet
  | cons ending endings ih => exact (adds_newLine ending sheet).trans (ih _)

theorem atStart_newLines {endings : Text} (present : endings ≠ []) (sheet : Sheet) :
    (sheet.newLines endings).AtStart := by
  obtain ⟨before, ending, rfl⟩ := (List.eq_nil_or_concat endings).resolve_left present
  rw [List.concat_eq_append, newLines, List.foldl_append]
  exact atStart_newLine ending _

theorem adds_mark (text : Text) (needsSpace isBlock : Bool) (sheet : Sheet) :
    sheet.Adds (if sheet.atBlank || !needsSpace then text else ' ' :: text)
      (sheet.mark text needsSpace isBlock) :=
  ⟨by simp [mark, write], rfl⟩

/-- The page stands where the next thing on its level begins. -/
structure AtIndent (sheet : Sheet) : Prop where
  column : sheet.column = sheet.indent.getD 0
  atBlank : sheet.atBlank = true
  onlyMarks : sheet.onlyMarks = true

/-- Whether the line is ended before the next thing is written. -/
def endsLine (sheet : Sheet) : Bool :=
  !sheet.onlyMarks || sheet.indent.getD 0 < sheet.column ||
    (sheet.column = sheet.indent.getD 0 && !sheet.atBlank)

def padded (sheet : Sheet) : Sheet :=
  if sheet.column < sheet.indent.getD 0 then
    { sheet.write (List.replicate (sheet.indent.getD 0 - sheet.column) ' ') with atBlank := true }
  else sheet

theorem toIndent_eq (sheet : Sheet) :
    sheet.toIndent = (if sheet.endsLine then sheet.newLine '\n' else sheet).padded := by
  rw [toIndent]
  dsimp only
  rw [← endsLine]
  cases sheet.endsLine <;> rfl

theorem padded_within (onlyMarks : sheet.onlyMarks = true)
    (within : sheet.column < sheet.indent.getD 0 ∨
      sheet.column = sheet.indent.getD 0 ∧ sheet.atBlank = true) :
    sheet.Adds (List.replicate (sheet.indent.getD 0 - sheet.column) ' ') sheet.padded ∧
      sheet.padded.AtIndent := by
  rw [padded]
  split
  · next short =>
    refine ⟨⟨by simp [write], rfl⟩, ?_, rfl, onlyMarks⟩
    simp only [write, List.length_replicate]
    omega
  · next long =>
    obtain ⟨column, atBlank⟩ := within.resolve_left long
    rw [column, Nat.sub_self]
    exact ⟨.refl sheet, column, atBlank, onlyMarks⟩

/-- Nothing but spaces is needed where the line has only marks of blocks so far. -/
theorem toIndent_within (onlyMarks : sheet.onlyMarks = true)
    (within : sheet.column < sheet.indent.getD 0 ∨
      sheet.column = sheet.indent.getD 0 ∧ sheet.atBlank = true) :
    sheet.Adds (List.replicate (sheet.indent.getD 0 - sheet.column) ' ') sheet.toIndent ∧
      sheet.toIndent.AtIndent := by
  have stays : sheet.endsLine = false := by
    rcases within with short | ⟨column, atBlank⟩
    · have notPast : ¬ sheet.indent.getD 0 < sheet.column := by omega
      have notThere : ¬ sheet.column = sheet.indent.getD 0 := by omega
      simp [endsLine, onlyMarks, notPast, notThere]
    · simp [endsLine, onlyMarks, column, atBlank]
  rw [toIndent_eq, stays]
  exact padded_within onlyMarks within

theorem AtStart.within (start : sheet.AtStart) : sheet.column < sheet.indent.getD 0 ∨
    sheet.column = sheet.indent.getD 0 ∧ sheet.atBlank = true := by
  rw [start.column]
  exact (Nat.eq_zero_or_pos _).elim (fun zero => .inr ⟨zero.symm, start.atBlank⟩) .inl

theorem toIndent_start (start : sheet.AtStart) :
    sheet.Adds (List.replicate (sheet.indent.getD 0) ' ') sheet.toIndent ∧ sheet.toIndent.AtIndent := by
  have within := toIndent_within start.onlyMarks start.within
  rwa [start.column] at within

/-- What ends a line, and the spaces before the next thing on the level. -/
theorem Adds.indented (adds : before.Adds text after) (start : after.AtStart)
    (inside : before.indent = some indent) :
    before.Adds (text ++ List.replicate indent ' ') after.toIndent := by
  have padded := (toIndent_start start).1
  rw [adds.indent, inside, Option.getD_some] at padded
  exact adds.trans padded

theorem toIndent_line (ends : sheet.onlyMarks = false ∨ sheet.indent.getD 0 < sheet.column) :
    sheet.Adds ('\n' :: List.replicate (sheet.indent.getD 0) ' ') sheet.toIndent ∧
      sheet.toIndent.AtIndent := by
  have breaks : sheet.endsLine = true := by
    rcases ends with marks | deep
    · simp [endsLine, marks]
    · simp [endsLine, deep]
  have start := atStart_newLine '\n' sheet
  obtain ⟨adds, atIndent⟩ := padded_within start.onlyMarks start.within
  rw [toIndent_eq, breaks]
  exact ⟨(adds_newLine '\n' sheet).trans adds, atIndent⟩

end Transclusion.Yaml.Sheet

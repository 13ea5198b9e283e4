import Transclusion.Proofs.Yaml.BlockScalars
import Transclusion.Proofs.Yaml.Sheets
import Transclusion.Proofs.Yaml.TextRuns

/-!
What is written for a text as a literal block has a form that is read as the text, with line
feeds for the line ends that are read so.
-/

namespace Transclusion.Yaml

open ScalarText

section Chomping

variable {text before after : Text} {c : Char}

/-- What is to become of the line ends at the end of a text. -/
def chompingOf (text : Text) : Chomping :=
  match text.reverse with
  | [] => .clip
  | [c] => if isBreak c then .keep else .strip
  | c :: d :: _ => if !isBreak c then .strip else if isBreak d then .keep else .clip

theorem blockHints_eq (text : Text) : Sheet.blockHints text =
    header ((text.head?.map Shape.isSpaceOrBreak).getD false) (chompingOf text) := by
  unfold Sheet.blockHints header chompingOf
  rcases text.reverse with _ | ⟨c, _ | ⟨d, more⟩⟩
  · rfl
  · by_cases isEnd : isBreak c = true <;> simp [isEnd]
  · by_cases isEnd : isBreak c = true <;> by_cases isEnd' : isBreak d = true <;> simp [isEnd, isEnd']

theorem chompingOf_append (first : ∀ c ∈ after.head?, isBreak c = false) (present : after ≠ []) :
    chompingOf (before ++ after) = chompingOf after := by
  obtain ⟨c, rest, rfl⟩ := List.exists_cons_of_ne_nil present
  have noEnd : isBreak c = false := first c rfl
  rw [chompingOf, chompingOf, List.reverse_append, List.reverse_cons]
  rcases shape : rest.reverse with _ | ⟨d, _ | ⟨e, more⟩⟩
  · rcases before.reverse with _ | ⟨b, more⟩ <;> simp [noEnd]
  · simp
  · simp

theorem chompingOf_line (last : ∀ c ∈ text.getLast?, isBreak c = false) (present : text ≠ []) :
    chompingOf text = .strip := by
  obtain ⟨before, c, rfl⟩ := (List.eq_nil_or_concat text).resolve_left present
  have noEnd : isBreak c = false := last c (by simp)
  rw [chompingOf, List.concat_eq_append, List.reverse_append]
  rcases before.reverse with _ | ⟨d, more⟩ <;> simp [noEnd]

theorem chompingOf_ends {ends : Text} {line : Text} (isLine : Line line) (isEnd : isBreak c = true)
    (areEnds : ∀ d ∈ ends, isBreak d = true) :
    chompingOf (line ++ c :: ends) = if ends = [] then .clip else .keep := by
  obtain ⟨before, d, rfl⟩ := (List.eq_nil_or_concat line).resolve_left isLine.present
  have noEnd : isBreak d = false := isLine.noEnd d (by simp)
  rw [chompingOf]
  rcases List.eq_nil_or_concat ends with rfl | ⟨ends, e, rfl⟩
  · simp [isEnd, noEnd]
  · have lastEnd : isBreak e = true := areEnds e (by simp)
    rcases List.eq_nil_or_concat ends with rfl | ⟨ends, f, rfl⟩
    · simp [isEnd, lastEnd]
    · have beforeLast : isBreak f = true := areEnds f (by simp)
      simp [lastEnd, beforeLast]

theorem chompingOf_breaks (areEnds : ∀ d ∈ text, isBreak d = true) (present : text ≠ []) :
    chompingOf text = .keep := by
  rw [chompingOf]
  have reversed : ∀ d ∈ text.reverse, isBreak d = true := fun d member => areEnds d (by simpa using member)
  rcases shape : text.reverse with _ | ⟨c, _ | ⟨d, more⟩⟩
  · simp_all
  · simp [reversed c (by simp [shape])]
  · simp [reversed c (by simp [shape]), reversed d (by simp [shape])]

end Chomping

section Lines

variable {text : Text} {sheet : Sheet} {indent : Nat}

theorem Line.head {line : Text} (isLine : Line line) : (line.head?.map isBreak).getD false = false := by
  obtain ⟨c, rest, rfl⟩ := List.exists_cons_of_ne_nil isLine.present
  exact isLine.noEnd c (by simp)

theorem Line.settled {line : Text} (isLine : Line line) : line.map settledBreak = line := by
  have same : ∀ c ∈ line, settledBreak c = id c := by
    intro c member
    have other : c ≠ '\u0085' := by
      rintro rfl
      exact nomatch isLine.noEnd _ member
    simp [settledBreak, other]
  rw [List.map_congr_left same, List.map_id]

theorem line_of_runs {line : Text} {rest : List Text} (runs : Runs isBreak (line :: rest))
    (first : ∀ run ∈ (line :: rest).head?, ∀ c ∈ run.head?, isBreak c = false) : Line line := by
  cases runs with
  | cons alike _ _ =>
    have noEnd := first _ rfl _ rfl
    exact ⟨by simp, by simpa [noEnd] using alike⟩

theorem ends_of_runs {line ends : Text} {rest : List Text} (runs : Runs isBreak (line :: ends :: rest))
    (first : ∀ run ∈ (line :: ends :: rest).head?, ∀ c ∈ run.head?, isBreak c = false) :
    ∃ c more, ends = c :: more ∧ isBreak c = true ∧ ∀ d ∈ more, isBreak d = true := by
  cases runs with
  | cons alike differs others =>
    have noEnd := first _ rfl _ rfl
    cases others with
    | @cons c more _ alike' _ _ =>
      have isEnd : isBreak c = true := by
        simpa [noEnd] using differs (c :: more) rfl c rfl
      exact ⟨c, more, rfl, isEnd, by simpa [isEnd] using alike'⟩

theorem lines_of_runs {line ends : Text} {rest : List Text} (runs : Runs isBreak (line :: ends :: rest))
    (first : ∀ run ∈ (line :: ends :: rest).head?, ∀ c ∈ run.head?, isBreak c = false) :
    Runs isBreak rest ∧ ∀ run ∈ rest.head?, ∀ c ∈ run.head?, isBreak c = false := by
  obtain ⟨c, more, rfl, isEnd, _⟩ := ends_of_runs runs first
  cases runs with
  | cons _ _ others =>
    cases others with
    | cons _ differs others =>
      exact ⟨others, fun run head d first => by simpa [isEnd] using differs run head d first⟩

namespace Sheet

/-- A line is copied as it is, without the column being counted. -/
def copy (line : Text) (sheet : Sheet) : Sheet :=
  { sheet with written := sheet.written ++ String.ofList line }

theorem adds_copy (line : Text) (sheet : Sheet) : sheet.Adds line (sheet.copy line) :=
  ⟨by simp [copy], rfl⟩

theorem literalRuns_line {line : Text} (isLine : Line line) (rest : List Text) (sheet : Sheet) :
    literalRuns (line :: rest) sheet = literalRuns rest
      (if rest.isEmpty then (sheet.copy line).newLine '\n' else sheet.copy line) := by
  simp only [literalRuns, isLine.head, Bool.false_eq_true, if_false, copy]

theorem literalRuns_ends {c : Char} {ends : Text} (isEnd : isBreak c = true) (rest : List Text)
    (sheet : Sheet) : literalRuns ((c :: ends) :: rest) sheet = literalRuns rest
      (if rest.isEmpty then sheet.newLines (c :: ends) else (sheet.newLines (c :: ends)).toIndent) := by
  simp only [literalRuns, List.head?_cons, Option.map_some, Option.getD_some, isEnd, if_true]

/-- What is written for lines is read as the lines. -/
theorem adds_literalRuns : ∀ (runs : List Text) (sheet : Sheet), Runs isBreak runs →
    (∀ run ∈ runs.head?, ∀ c ∈ run.head?, isBreak c = false) → runs ≠ [] → sheet.indent = some indent →
    ∃ written read last blanks, sheet.Adds written (literalRuns runs sheet) ∧
      (literalRuns runs sheet).AtStart ∧
      BlockForm (List.replicate indent ' ') read last blanks written ∧
      chomped (chompingOf runs.flatten) read last blanks = runs.flatten.map settledBreak ∧
      written.head? = runs.flatten.head?
  | [], _, _, _, present, _ => (present rfl).elim
  | [line], sheet, runs, first, _, inside => by
    have isLine := line_of_runs runs first
    refine ⟨line ++ ['\n'], line, ['\n'], [], ?_, ?_,
      .last (c := '\n') isLine rfl (List.forall_mem_nil _), ?_, ?_⟩
    · rw [literalRuns_line isLine]
      exact (adds_copy line sheet).trans (adds_newLine '\n' _)
    · rw [literalRuns_line isLine]
      exact atStart_newLine '\n' _
    · rw [List.flatten_singleton, chompingOf_line (fun c last => isLine.noEnd c
        (List.mem_of_mem_getLast? last)) isLine.present, chomped, isLine.settled]
    · obtain ⟨c, rest, rfl⟩ := List.exists_cons_of_ne_nil isLine.present
      simp
  | [line, ends], sheet, runs, first, _, inside => by
    have isLine := line_of_runs runs first
    obtain ⟨c, ends, rfl, isEnd, areEnds⟩ := ends_of_runs runs first
    have step : literalRuns [line, c :: ends] sheet = (sheet.copy line).newLines (c :: ends) := by
      rw [literalRuns_line isLine, literalRuns_ends isEnd]
      rfl
    rw [step]
    refine ⟨line ++ c :: ends, line, [settledBreak c], ends.map settledBreak,
      (adds_copy line sheet).trans (adds_newLines _ _), atStart_newLines (by simp) _,
      .last isLine isEnd areEnds, ?_, ?_⟩
    · have whole : [line, c :: ends].flatten = line ++ c :: ends := by simp
      rw [whole, chompingOf_ends isLine isEnd areEnds, List.map_append, isLine.settled]
      cases ends <;> simp [chomped]
    · obtain ⟨d, rest, rfl⟩ := List.exists_cons_of_ne_nil isLine.present
      simp
  | line :: ends :: next :: rest, sheet, runs, first, _, inside => by
    have isLine := line_of_runs runs first
    obtain ⟨c, ends, rfl, isEnd, areEnds⟩ := ends_of_runs runs first
    obtain ⟨others, firstNext⟩ := lines_of_runs runs first
    have broken := (adds_copy line sheet).trans (adds_newLines (c :: ends) _)
    have turned := broken.indented (atStart_newLines (List.cons_ne_nil c ends) _) inside
    obtain ⟨written, read, last, blanks, adds, ended, form, same, head⟩ :=
      adds_literalRuns (next :: rest) _ others firstNext (by simp) (turned.indent.trans inside)
    have step : literalRuns (line :: (c :: ends) :: next :: rest) sheet =
        literalRuns (next :: rest) ((sheet.copy line).newLines (c :: ends)).toIndent := by
      rw [literalRuns_line isLine, literalRuns_ends isEnd]
      rfl
    rw [step]
    refine ⟨_, line ++ settledBreak c :: (ends.map settledBreak ++ read), last, blanks,
      turned.trans adds, ended, ?_, ?_, ?_⟩
    · simpa using BlockForm.more isLine isEnd areEnds form
    · have whole : (line :: (c :: ends) :: next :: rest).flatten =
          (line ++ c :: ends) ++ (next :: rest).flatten := by simp
      rw [whole, chompingOf_append (others.forall_first_iff.mpr firstNext)
        (others.flatten_ne_nil (List.cons_ne_nil _ _)), List.map_append, ← same, List.map_append,
        isLine.settled]
      cases chompingOf (next :: rest).flatten <;> simp [chomped]
    · obtain ⟨d, line, rfl⟩ := List.exists_cons_of_ne_nil isLine.present
      simp

/-- The page after the header of a block. -/
def begun (text : Text) (sheet : Sheet) : Sheet :=
  { sheet.mark ('|' :: blockHints text) true with
    openEnded := (blockHints text).getLast? == some '+' }.newLine '\n'

theorem adds_begun (text : Text) (sheet : Sheet) :
    sheet.Adds ((if sheet.atBlank then [] else [' ']) ++ '|' :: (blockHints text ++ ['\n']))
      (sheet.begun text) := by
  have opened := adds_mark ('|' :: blockHints text) true false sheet
  have marked : sheet.Adds (if sheet.atBlank || !true then '|' :: blockHints text
      else ' ' :: '|' :: blockHints text)
      { sheet.mark ('|' :: blockHints text) true with
        openEnded := (blockHints text).getLast? == some '+' } := ⟨opened.written, opened.indent⟩
  have lined := marked.trans (adds_newLine '\n' _)
  rw [begun]
  cases blank : sheet.atBlank <;> simpa [blank] using lined

theorem literal_eq (text : Text) (sheet : Sheet) : literal text sheet = literalRuns (lineRuns text)
    (if (text.head?.map isBreak).getD false then sheet.begun text else (sheet.begun text).toIndent) := rfl

theorem runs_lineRuns (text : Text) : Runs isBreak (lineRuns text) ∧ (lineRuns text).flatten = text :=
  ⟨runs_splitBy (by simp) text, List.flatten_splitBy _ _⟩

/-- A text that begins with a line, as a literal block. -/
theorem adds_literal_line (present : text ≠ []) (first : ∀ c ∈ text.head?, isBreak c = false)
    (inside : sheet.indent = some indent) :
    ∃ written, sheet.Adds ((if sheet.atBlank then [] else [' ']) ++ written) (literal text sheet) ∧
      (literal text sheet).AtStart ∧
      LiteralForm (List.replicate indent ' ') (text.map settledBreak) written := by
  obtain ⟨runs, whole⟩ := runs_lineRuns text
  have opened := adds_begun text sheet
  have turned := opened.indented (atStart_newLine '\n' _) inside
  have nonempty : lineRuns text ≠ [] := List.splitBy_ne_nil.mpr present
  have firstRun : ∀ run ∈ (lineRuns text).head?, ∀ c ∈ run.head?, isBreak c = false :=
    runs.forall_first_iff.mp (by rwa [whole])
  obtain ⟨written, read, last, blanks, adds, ended, form, same, head⟩ :=
    adds_literalRuns (lineRuns text) (sheet.begun text).toIndent runs firstRun nonempty
      (turned.indent.trans inside)
  have noBreak : (text.head?.map isBreak).getD false = false := by
    cases shape : text.head? with
    | none => rfl
    | some c => exact first c shape
  rw [whole] at same head
  rw [literal_eq, noBreak]
  simp only [Bool.false_eq_true, if_false]
  refine ⟨'|' :: (blockHints text ++ '\n' :: (List.replicate indent ' ' ++ written)), ?_, ended, ?_⟩
  · simpa using turned.trans adds
  · rw [← same, blockHints_eq]
    by_cases spaced : (text.head?.map Shape.isSpaceOrBreak).getD false = true
    · rw [spaced]
      exact LiteralForm.indented (List.forall_mem_nil _) form
    · rw [Bool.eq_false_iff.mpr spaced]
      refine LiteralForm.plain form ?_
      rw [head]
      intro space
      rw [space] at spaced
      exact spaced rfl

/-- A text that begins with a line end, as a literal block. -/
theorem adds_literal_ends {c : Char} {more : Text} (isEnd : isBreak c = true) (same : text = c :: more)
    (inside : sheet.indent = some indent) :
    ∃ written, sheet.Adds ((if sheet.atBlank then [] else [' ']) ++ written) (literal text sheet) ∧
      (literal text sheet).AtStart ∧
      LiteralForm (List.replicate indent ' ') (text.map settledBreak) written := by
  obtain ⟨runs, whole⟩ := runs_lineRuns text
  have opened := adds_begun text sheet
  have startsWithBreak : (text.head?.map isBreak).getD false = true := by simpa [same] using isEnd
  have hints : blockHints text = header true (chompingOf text) := by
    rw [blockHints_eq]
    simp [same, Shape.isSpaceOrBreak, isEnd]
  rw [literal_eq, startsWithBreak, if_pos rfl]
  generalize lineRuns text = list at runs whole
  cases runs with
  | nil => simp [same] at whole
  | @cons d ends others alike differs rest =>
    obtain rfl : d = c := by
      rw [same] at whole
      simpa using (List.cons.inj whole).1
    have areEnds : ∀ e ∈ d :: ends, isBreak e = true := by simpa [isEnd] using alike
    rw [literalRuns_ends isEnd]
    have broken := opened.trans (adds_newLines (d :: ends) _)
    have start := atStart_newLines (List.cons_ne_nil d ends) (sheet.begun text)
    by_cases alone : others = []
    · subst alone
      have only : text = d :: ends := by simpa using whole.symm
      have keep : chompingOf text = .keep := by
        rw [only]
        exact chompingOf_breaks areEnds (by simp)
      refine ⟨'|' :: (header true .keep ++ '\n' :: (d :: ends)), ?_, start, ?_⟩
      · rw [← keep, ← hints]
        simpa [literalRuns] using broken
      · rw [only]
        exact .breaks areEnds (by simp)
    · have turned := broken.indented start inside
      have firstRun : ∀ run ∈ others.head?, ∀ c ∈ run.head?, isBreak c = false := by
        intro run head e first
        simpa [isEnd] using differs run head e first
      obtain ⟨written, read, last, blanks, adds, ended, form, settled, _⟩ :=
        adds_literalRuns others _ rest firstRun alone (turned.indent.trans inside)
      have parts : text = (d :: ends) ++ others.flatten := by simpa using whole.symm
      have chomping : chompingOf text = chompingOf others.flatten := by
        rw [parts]
        exact chompingOf_append (rest.forall_first_iff.mpr firstRun) (rest.flatten_ne_nil alone)
      have goesOn : others.isEmpty = false := by simpa using alone
      simp only [goesOn, Bool.false_eq_true, if_false]
      refine ⟨'|' :: (blockHints text ++ '\n' :: ((d :: ends) ++ (List.replicate indent ' ' ++ written))),
        ?_, ended, ?_⟩
      · simpa using turned.trans adds
      · rw [hints, chomping]
        have result : text.map settledBreak =
            chomped (chompingOf others.flatten) ((d :: ends).map settledBreak ++ read) last blanks := by
          rw [parts, List.map_append, ← settled]
          cases chompingOf others.flatten <;> simp [chomped]
        rw [result]
        exact LiteralForm.indented areEnds form

/-- What is written as a literal block for a text is read as the text. -/
theorem adds_literal (present : text ≠ []) (inside : sheet.indent = some indent) :
    ∃ written, sheet.Adds ((if sheet.atBlank then [] else [' ']) ++ written) (literal text sheet) ∧
      (literal text sheet).AtStart ∧
      LiteralForm (List.replicate indent ' ') (text.map settledBreak) written := by
  obtain ⟨c, more, rfl⟩ := List.exists_cons_of_ne_nil present
  by_cases isEnd : isBreak c = true
  · exact adds_literal_ends isEnd rfl inside
  · exact adds_literal_line present (by simpa using isEnd) inside

end Sheet

end Lines

end Transclusion.Yaml

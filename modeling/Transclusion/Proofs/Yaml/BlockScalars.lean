import Transclusion.Proofs.Yaml.Places
import Transclusion.Yaml.ScalarText

/-!
The form that a text takes as a literal block: a header, and the lines of the text, each
indented unless it is empty. The lines are read as they are, except for how they end; the
header tells what becomes of the line ends at the end.
-/

namespace Transclusion.Yaml

open ScalarText

section Breaks

variable {place target : Place} {breaks pad rest text : Text} {c : Char} {depth : Nat}

/-- The indentation of a line is skipped up to a depth, which spaces of the line's own follow. -/
structure Indents (depth : Nat) (pad : Text) (target : Place) : Prop where
  blank : ∀ c ∈ pad, c = ' '
  within : pad.length ≤ depth
  full : pad.length = depth ∨ target.rest.head? ≠ some ' '
  noEnd : ∀ c ∈ target.rest.head?, isBreak c = false

theorem skipIndent_eq (start : place.column = 0) (passes : place.Passes pad target)
    (blank : ∀ c ∈ pad, c = ' ') (within : pad.length ≤ depth)
    (full : pad.length = depth ∨ target.rest.head? ≠ some ' ') : skipIndent depth place = target := by
  have ahead : place.ahead (· == ' ') = pad ++ target.rest.takeWhile (· == ' ') := by
    rw [Place.ahead, passes.there, List.takeWhile_append_of_pos fun c member => by simp [blank c member]]
  have count : min (depth - place.column) (place.ahead (· == ' ')).length = pad.length := by
    rw [start, ahead, List.length_append]
    rcases full with full | noSpace
    · omega
    · have none : target.rest.takeWhile (· == ' ') = [] := by
        cases there : target.rest with
        | nil => rfl
        | cons c rest =>
          have differs : c ≠ ' ' := fun same => noSpace (by rw [there, same]; rfl)
          simp [differs]
      rw [none, List.length_nil]
      omega
  rw [skipIndent, count, passes.target]

theorem blockBreaks_eq (start : place.column = 0) (passes : place.Passes (breaks ++ pad) target)
    (areEnds : ∀ c ∈ breaks, isBreak c = true) (indents : Indents depth pad target) {fuel : Nat}
    (enough : breaks.length < fuel) :
    blockBreaks depth fuel place = (breaks.map settledBreak, target) := by
  induction breaks generalizing place fuel with
  | nil =>
    obtain ⟨fuel, rfl⟩ := Nat.exists_eq_add_one_of_ne_zero (Nat.ne_zero_of_lt enough)
    have ended : (target.peek.map isBreak).getD false = false := by
      rw [Place.peek]
      cases there : target.rest with
      | nil => rfl
      | cons c rest => exact indents.noEnd c (by simp [there])
    simp [blockBreaks, skipIndent_eq start passes indents.blank indents.within indents.full, ended]
  | cons c breaks ih =>
    obtain ⟨fuel, rfl⟩ := Nat.exists_eq_add_one_of_ne_zero (Nat.ne_zero_of_lt enough)
    have isEnd : isBreak c = true := areEnds c (by simp)
    have there := passes.there
    rw [List.append_assoc, List.cons_append] at there
    have noSpace : place.rest.head? ≠ some ' ' := by
      rw [there]
      rintro ⟨⟩
      exact Bool.noConfusion isEnd
    have same : skipIndent depth place = place :=
      skipIndent_eq start (.nil place) (by simp) (Nat.zero_le _) (.inr noSpace)
    have remaining := ih (Place.next_break isEnd there).2 passes.next
      (fun d member => areEnds d (by simp [member])) (Nat.lt_of_succ_lt_succ enough)
    rw [blockBreaks, same, Place.peek_eq there]
    simp [isEnd, Place.lineBreak_eq isEnd there, remaining]

/-- The column after line ends and an indentation. -/
theorem column_of_breaks (passes : place.Passes (breaks ++ pad) target) (present : breaks ≠ [])
    (areEnds : ∀ c ∈ breaks, isBreak c = true) (blank : ∀ c ∈ pad, c = ' ') :
    place.line < target.line ∧ target.column = pad.length := by
  obtain ⟨before, c, rfl⟩ := (List.eq_nil_or_concat breaks).resolve_left present
  rw [List.concat_eq_append, List.append_assoc] at passes
  exact Place.Passes.lineEnd passes (areEnds c (by simp)) (Place.straight_of_blank blank)

theorem blockIndentation_pad (passes : place.Passes pad target) (blank : ∀ c ∈ pad, c = ' ')
    (firm : ∀ c ∈ target.rest.head?, c ≠ ' ' ∧ isBreak c = false) {fuel : Nat}
    (enough : pad.length < fuel) :
    blockIndentation fuel place.column place = ([], target.column, target) := by
  induction pad generalizing place fuel with
  | nil =>
    obtain ⟨fuel, rfl⟩ := Nat.exists_eq_add_one_of_ne_zero (Nat.ne_zero_of_lt enough)
    obtain rfl : target = place := passes.target
    cases there : target.rest with
    | nil => simp [blockIndentation, there]
    | cons c rest =>
      obtain ⟨noSpace, noEnd⟩ := firm c (by simp [there])
      simp [blockIndentation, Place.peek_eq there, noSpace, noEnd]
  | cons c pad ih =>
    obtain ⟨fuel, rfl⟩ := Nat.exists_eq_add_one_of_ne_zero (Nat.ne_zero_of_lt enough)
    obtain rfl : c = ' ' := blank c (by simp)
    have step : place.next.column = place.column + 1 :=
      ((Place.Passes.one passes.there).straight (Place.straight_of_blank (by simp))).2
    have deeper : max place.column place.next.column = place.next.column := by omega
    rw [blockIndentation, Place.peek_eq passes.there]
    simp only [if_true, deeper]
    exact ih passes.next (fun d member => blank d (by simp [member])) (Nat.lt_of_succ_lt_succ enough)

end Breaks

section Lines

/-- What stands on one line. -/
structure Line (line : Text) : Prop where
  present : line ≠ []
  noEnd : ∀ c ∈ line, isBreak c = false

/-- The lines of a block from the first one that is not empty, its indentation left out: what
is read of them, the last line end, the ones that follow it, and how all of it is written. -/
inductive BlockForm (pad : Text) : Text → Text → Text → Text → Prop where
  | last {line ends : Text} {c : Char} (isLine : Line line) (isEnd : isBreak c = true)
      (areEnds : ∀ c ∈ ends, isBreak c = true) :
      BlockForm pad line [settledBreak c] (ends.map settledBreak) (line ++ c :: ends)
  | more {line ends read last blanks written : Text} {c : Char} (isLine : Line line)
      (isEnd : isBreak c = true) (areEnds : ∀ c ∈ ends, isBreak c = true)
      (form : BlockForm pad read last blanks written) :
      BlockForm pad (line ++ settledBreak c :: (ends.map settledBreak ++ read)) last blanks
        (line ++ c :: (ends ++ (pad ++ written)))

variable {pad gap read last blanks written line ends breaks : Text} {place stop target : Place}
  {depth : Nat} {c : Char}

theorem BlockForm.head (form : BlockForm pad read last blanks written) :
    ∃ c rest, written = c :: rest ∧ isBreak c = false := by
  have head : ∀ line more : Text, Line line → ∃ c rest, line ++ more = c :: rest ∧ isBreak c = false := by
    intro line more isLine
    obtain ⟨c, line, rfl⟩ := List.exists_cons_of_ne_nil isLine.present
    exact ⟨c, line ++ more, rfl, isLine.noEnd c (by simp)⟩
  cases form with
  | last isLine _ _ => exact head _ _ isLine
  | more isLine _ _ _ => exact head _ _ isLine

/-- One line of a block, and the line ends after it. -/
theorem blockLines_line (isLine : Line line) (isEnd : isBreak c = true)
    (areEnds : ∀ c ∈ ends, isBreak c = true) (inside : place.column = depth)
    (passes : place.Passes (line ++ c :: (ends ++ pad)) target) (indents : Indents depth pad target)
    (fuel : Nat) : blockLines false depth (fuel + 1) breaks place =
      if target.column = depth && target.peek.isSome then
        let (more, last, blanks, after) :=
          blockLines false depth fuel (ends.map settledBreak) target
        (breaks ++ line ++ [settledBreak c] ++ more, last, blanks, after)
      else (breaks ++ line, [settledBreak c], ends.map settledBreak, target) := by
  obtain ⟨stop, first, second⟩ := passes.split
  have present : place.peek.isSome = true := by
    obtain ⟨d, line, rfl⟩ := List.exists_cons_of_ne_nil isLine.present
    rw [Place.peek, first.there]
    rfl
  have ahead : place.ahead (fun c => !isBreak c) = line :=
    Place.ahead_eq (fun d member => by simp [isLine.noEnd d member]) (by simp [second.there, isEnd])
      first.there
  have broken := Place.lineBreak_eq isEnd second.there
  have later := blockBreaks_eq (Place.next_break isEnd second.there).2 second.next areEnds indents
    (show ends.length < stop.next.rest.length + 1 by rw [second.next.length, List.length_append]; omega)
  rw [blockLines]
  simp only [inside, present, ahead, ← first.target, broken, later, decide_true, Bool.and_self, if_true,
    Bool.false_and, Bool.false_eq_true, if_false]

/-- Lines that have the form of a block are read as its lines. -/
theorem BlockForm.blockLines (form : BlockForm pad read last blanks written)
    (blank : ∀ c ∈ pad, c = ' ') (inside : place.column = pad.length)
    (passes : place.Passes written stop) (gapBlank : ∀ c ∈ gap, c = ' ')
    (next : stop.Passes gap target) (atToken : target.AtToken) (outside : target.column < pad.length)
    (bound : gap.length ≤ pad.length) {fuel : Nat} (enough : written.length < fuel) :
    ScalarText.blockLines false pad.length fuel breaks place = (breaks ++ read, last, blanks, target) := by
  induction form generalizing place breaks fuel with
  | @last line ends c isLine isEnd areEnds =>
    obtain ⟨fuel, rfl⟩ := Nat.exists_eq_add_one_of_ne_zero (Nat.ne_zero_of_lt enough)
    have all : place.Passes (line ++ c :: (ends ++ gap)) target := by
      simpa using passes.trans next
    have indents : Indents pad.length gap target :=
      ⟨gapBlank, bound, .inr fun same => (atToken _ same).1 rfl, fun c first => (atToken c first).2.2⟩
    rw [blockLines_line isLine isEnd areEnds inside all indents]
    simp [Nat.ne_of_lt outside]
  | @more line ends read last blanks written c isLine isEnd areEnds form ih =>
    obtain ⟨fuel, rfl⟩ := Nat.exists_eq_add_one_of_ne_zero (Nat.ne_zero_of_lt enough)
    have whole : place.Passes ((line ++ c :: (ends ++ pad)) ++ written) stop := by simpa using passes
    obtain ⟨later, first, second⟩ := whole.split
    obtain ⟨d, rest, rfl, noEnd⟩ := form.head
    have indents : Indents pad.length pad later :=
      ⟨blank, Nat.le_refl _, .inl rfl, by simp [second.there, noEnd]⟩
    have column : later.column = pad.length := by
      have split : line ++ c :: (ends ++ pad) = line ++ ((c :: ends) ++ pad) := by simp
      rw [split] at first
      obtain ⟨_, _, after⟩ := first.split
      exact (column_of_breaks after (by simp) (by simpa [isEnd] using areEnds) blank).2
    have shorter : (d :: rest).length < fuel := by
      simp only [List.length_append, List.length_cons] at enough ⊢
      omega
    have goes : later.peek.isSome = true := by
      rw [Place.peek, second.there]
      rfl
    rw [blockLines_line isLine isEnd areEnds inside first indents, ih column second shorter]
    simp [column, goes]

end Lines

section Blocks

variable {place stop target : Place} {pad gap read last blanks written breaks rest : Text}
  {indent : Nat} {indented : Bool} {chomping : Chomping}

/-- What stands behind the mark of a block: a digit where the text begins with a blank, and what
becomes of the line ends at the end. -/
def header (indented : Bool) (chomping : Chomping) : Text :=
  (if indented then ['2'] else []) ++
    match chomping with
    | .clip => []
    | .strip => ['-']
    | .keep => ['+']

/-- The text of a block, by what becomes of the line ends at its end. -/
def chomped (chomping : Chomping) (read last blanks : Text) : Text :=
  match chomping with
  | .clip => read ++ last
  | .strip => read
  | .keep => read ++ last ++ blanks

theorem indentDigit?_end (there : place.rest = '\n' :: rest) :
    indentDigit? place = .ok (none, place) := by
  rw [indentDigit?, Place.peek_eq there]
  rfl

theorem indentDigit?_two (there : place.rest = '2' :: rest) :
    indentDigit? place = .ok (some 2, place.next) := by
  rw [indentDigit?, Place.peek_eq there]
  rfl

theorem chompingMark?_eq {c : Char} (there : place.rest = c :: rest) : chompingMark? place =
    if c = '+' then some (.keep, place.next) else if c = '-' then some (.strip, place.next) else none := by
  rw [chompingMark?, Place.peek_eq there]
  split
  · next seen =>
    cases seen
    rfl
  · next seen =>
    cases seen
    rfl
  · next noPlus noMinus => rw [if_neg fun same => noPlus (by rw [same]),
      if_neg fun same => noMinus (by rw [same])]

theorem blockIndicators_eq (passes : place.Passes (header indented chomping) stop)
    (there : stop.rest = '\n' :: rest) : blockIndicators place =
      .ok (chomping, if indented then some 2 else none, stop) := by
  have ended : (isBreakOrEnd stop.peek || stop.sees ' ') = true := by
    rw [Place.peek_eq there]
    rfl
  have noMark : chompingMark? stop = none := chompingMark?_eq there
  have noDigit := indentDigit?_end there
  rw [blockIndicators]
  cases indented with
  | false =>
    cases chomping with
    | clip =>
      obtain rfl : stop = place := passes.target
      rw [noMark, noDigit]
      exact if_pos ended
    | strip =>
      obtain rfl : stop = place.next := passes.target
      rw [chompingMark?_eq passes.there]
      simp only [show ('-' = '+') = False by decide, if_false, if_true, noDigit]
      exact if_pos ended
    | keep =>
      obtain rfl : stop = place.next := passes.target
      rw [chompingMark?_eq passes.there]
      simp only [if_true, noDigit]
      exact if_pos ended
  | true =>
    rw [chompingMark?_eq passes.there, indentDigit?_two passes.there]
    cases chomping with
    | clip =>
      obtain rfl : stop = place.next := passes.target
      simp only [show ('2' = '+') = False by decide, show ('2' = '-') = False by decide, if_false, bind,
        Except.bind, noMark]
      exact if_pos ended
    | strip =>
      obtain rfl : stop = place.next.next := passes.target
      simp only [show ('2' = '+') = False by decide, show ('2' = '-') = False by decide, if_false, bind,
        Except.bind, chompingMark?_eq passes.next.there, show ('-' = '+') = False by decide, if_true]
      exact if_pos ended
    | keep =>
      obtain rfl : stop = place.next.next := passes.target
      simp only [show ('2' = '+') = False by decide, show ('2' = '-') = False by decide, if_false, bind,
        Except.bind, chompingMark?_eq passes.next.there, if_true]
      exact if_pos ended

theorem restOfLine_eq (there : place.rest = '\n' :: rest) : restOfLine place = .ok place.next := by
  have noSpaces : place.skipSpaces = place :=
    Place.skip_eq (List.forall_mem_nil _) (by simp [there]) rfl
  simp [restOfLine, noSpaces, Place.sees_eq, Place.peek_eq there, there, isBreakOrEnd,
    show isBreak '\n' = true from rfl, Place.lineBreak_eq (show isBreak '\n' = true from rfl) there]

/-- The forms of a text as a literal block, its lines indented by `pad`. -/
inductive LiteralForm (pad : Text) : Text → Text → Prop where
  | plain {read last blanks written : Text} {chomping : Chomping}
      (form : BlockForm pad read last blanks written) (noSpace : written.head? ≠ some ' ') :
      LiteralForm pad (chomped chomping read last blanks)
        ('|' :: (header false chomping ++ '\n' :: (pad ++ written)))
  | indented {breaks read last blanks written : Text} {chomping : Chomping}
      (areEnds : ∀ c ∈ breaks, isBreak c = true) (form : BlockForm pad read last blanks written) :
      LiteralForm pad (chomped chomping (breaks.map settledBreak ++ read) last blanks)
        ('|' :: (header true chomping ++ '\n' :: (breaks ++ (pad ++ written))))
  | breaks {breaks : Text} (areEnds : ∀ c ∈ breaks, isBreak c = true) (present : breaks ≠ []) :
      LiteralForm pad (breaks.map settledBreak) ('|' :: (header true .keep ++ '\n' :: breaks))

/-- What follows a block is indented less. -/
structure Closes (indent : Nat) (stop : Place) (gap : Text) (target : Place) : Prop where
  blank : ∀ c ∈ gap, c = ' '
  bound : gap.length ≤ indent
  next : stop.Passes gap target
  atToken : target.AtToken
  outside : target.column ≤ indent

/-- What is read of a block once it is known how deep its lines are. -/
def linesRead (chomping : Chomping) (depth : Nat) (breaks : Text) (fuel : Nat) (place : Place) :
    Text × Place :=
  let (read, last, blanks, after) := blockLines false depth fuel breaks place
  (chomped chomping read last blanks, after)

theorem block_header {start : Place}
    (passes : place.Passes ('|' :: (header indented chomping ++ ['\n'])) start) :
    block false (Int.ofNat indent) place = .ok
      (if indented then
        let (breaks, here) := blockBreaks (indent + 2) (start.rest.length + 1) start
        linesRead chomping (indent + 2) breaks (start.rest.length + 1) here
      else
        let (breaks, deepest, here) := blockIndentation (start.rest.length + 1) 0 start
        linesRead chomping (max (indent + 1) deepest) breaks (start.rest.length + 1) here) := by
  obtain ⟨stop, first, second⟩ := passes.next.split
  have opened := restOfLine_eq second.there
  obtain rfl : start = stop.next := second.target
  have least : (max (Int.ofNat indent + 1) 1).toNat = indent + 1 := by
    simp only [Int.ofNat_eq_natCast]
    omega
  rw [block, blockIndicators_eq first second.there]
  simp only [bind, Except.bind, opened, least]
  cases indented with
  | false =>
    cases chomping <;> simp [linesRead, chomped, pure, Except.pure]
  | true =>
    cases chomping <;> simp [linesRead, chomped, pure, Except.pure]

theorem start_of_block {body : Text}
    (passes : place.Passes ('|' :: (header indented chomping ++ '\n' :: body)) stop) :
    ∃ start, place.Passes ('|' :: (header indented chomping ++ ['\n'])) start ∧
      start.Passes body stop ∧ start.column = 0 := by
  have parts : '|' :: (header indented chomping ++ '\n' :: body) =
      ('|' :: (header indented chomping ++ ['\n'])) ++ body := by simp
  rw [parts] at passes
  obtain ⟨start, first, second⟩ := passes.split
  rw [← List.cons_append] at first
  exact ⟨start, first, second, (first.lineEnd rfl .nil).2⟩

/-- The lines of a block from a line start on. -/
theorem BlockForm.linesRead {start : Place} (form : BlockForm pad read last blanks written)
    (blank : ∀ c ∈ pad, c = ' ') (size : pad.length = indent + 2) (inside : start.column = pad.length)
    (passes : start.Passes written stop) (closes : Closes indent stop gap target) {fuel : Nat}
    (enough : written.length < fuel) : Yaml.linesRead chomping (indent + 2) breaks fuel start =
      (chomped chomping (breaks ++ read) last blanks, target) := by
  have outside := closes.outside
  have bound := closes.bound
  rw [Yaml.linesRead, ← size, form.blockLines blank inside passes closes.blank closes.next
    closes.atToken (by omega) (by omega) enough]

/-- A text in the form of a literal block is read from it. -/
theorem LiteralForm.block (form : LiteralForm pad read written) (blank : ∀ c ∈ pad, c = ' ')
    (size : pad.length = indent + 2) (passes : place.Passes written stop)
    (closes : Closes indent stop gap target) :
    ScalarText.block false (Int.ofNat indent) place = .ok (read, target) := by
  cases form with
  | @plain read last blanks written chomping form noSpace =>
    obtain ⟨start, opened, body, column⟩ := start_of_block passes
    obtain ⟨here, first, second⟩ := body.split
    have inside : here.column = pad.length := by
      rw [(first.straight (Place.straight_of_blank blank)).2, column, Nat.zero_add]
    have firm : ∀ c ∈ here.rest.head?, c ≠ ' ' ∧ isBreak c = false := by
      obtain ⟨d, rest, rfl, noEnd⟩ := form.head
      have other : d ≠ ' ' := fun same => noSpace (by rw [same]; rfl)
      simp [second.there, other, noEnd]
    have lead := blockIndentation_pad first blank firm
      (show _ < start.rest.length + 1 by rw [first.length]; omega)
    rw [column] at lead
    have depth : max (indent + 1) here.column = indent + 2 := by omega
    rw [block_header opened]
    simp only [Bool.false_eq_true, if_false, lead, depth]
    rw [form.linesRead blank size inside second closes (by rw [body.length, List.length_append]; omega)]
    rfl
  | @indented breaks read last blanks written chomping areEnds form =>
    obtain ⟨start, opened, body, column⟩ := start_of_block passes
    rw [← List.append_assoc] at body
    obtain ⟨here, first, second⟩ := body.split
    obtain ⟨d, rest, rfl, noEnd⟩ := form.head
    have inside : here.column = pad.length := by
      cases breaks with
      | nil =>
        rw [List.nil_append] at first
        rw [(first.straight (Place.straight_of_blank blank)).2, column, Nat.zero_add]
      | cons c breaks => exact (column_of_breaks first (by simp) areEnds blank).2
    have indents : Indents (indent + 2) pad here :=
      ⟨blank, Nat.le_of_eq size, .inl size, by simp [second.there, noEnd]⟩
    have lead := blockBreaks_eq column first areEnds indents
      (show _ < start.rest.length + 1 by rw [first.length, List.length_append]; omega)
    rw [block_header opened]
    simp only [if_true, lead]
    rw [form.linesRead blank size inside second closes (by rw [body.length, List.length_append]; omega)]
  | @breaks breaks areEnds present =>
    obtain ⟨start, opened, body, column⟩ := start_of_block passes
    have outside := closes.outside
    have bound := closes.bound
    have indents : Indents (indent + 2) gap target :=
      ⟨closes.blank, by omega, .inr fun same => (closes.atToken _ same).1 rfl,
        fun c first => (closes.atToken c first).2.2⟩
    have lead := blockBreaks_eq column (body.trans closes.next) areEnds indents
      (show _ < start.rest.length + 1 by rw [body.length]; omega)
    rw [block_header opened]
    simp only [if_true, lead]
    have ended : (decide (target.column = indent + 2) && target.peek.isSome) = false := by
      simp only [Bool.and_eq_false_iff, decide_eq_false_iff_not]
      omega
    simp [linesRead, blockLines, ended, chomped]

end Blocks

end Transclusion.Yaml

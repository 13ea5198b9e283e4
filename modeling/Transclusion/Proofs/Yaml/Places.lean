import Transclusion.Yaml.Place

/-!
Going on in a YAML text: what is left of it, and how far a place is from the beginning of the
text and of its line, after some characters have been passed.
-/

namespace Transclusion.Yaml

theorem isBreak_iff {c : Char} :
    isBreak c = true ↔ c = '\n' ∨ c = '\u0085' ∨ c = '\u2028' ∨ c = '\u2029' := by
  simp [isBreak, or_assoc]

/-- A line end as it is read. -/
def settledBreak (c : Char) : Char := if c = '\u0085' then '\n' else c

namespace Place

variable {place : Place} {text rest : Text} {c : Char}

@[simp] theorem rest_next (place : Place) : place.next.rest = place.rest.tail := by
  rw [next]
  split
  · next none => rw [none]; rfl
  · next some => rw [some]; split <;> rfl

@[simp] theorem obstacle_next (place : Place) : place.next.obstacle = place.obstacle := by
  rw [next]
  split
  · rfl
  · split <;> rfl

theorem index_next (there : place.rest = c :: rest) : place.next.index = place.index + 1 := by
  simp only [next, there]
  split <;> rfl

theorem line_le_next (place : Place) : place.line ≤ place.next.line := by
  rw [next]
  split
  · exact Nat.le_refl _
  · split
    · exact Nat.le_succ _
    · exact Nat.le_refl _

@[simp] theorem forward_zero (place : Place) : place.forward 0 = place := rfl

theorem forward_succ (count : Nat) (place : Place) :
    place.forward (count + 1) = place.next.forward count := rfl

theorem forward_add (count more : Nat) (place : Place) :
    place.forward (count + more) = (place.forward count).forward more := by
  induction count generalizing place with
  | zero => rw [Nat.zero_add, forward_zero]
  | succ count ih => rw [Nat.succ_add, forward_succ, ih, forward_succ]

@[simp] theorem rest_forward (count : Nat) (place : Place) :
    (place.forward count).rest = place.rest.drop count := by
  induction count generalizing place with
  | zero => rfl
  | succ count ih => rw [forward_succ, ih, rest_next, List.drop_tail]

@[simp] theorem obstacle_forward (count : Nat) (place : Place) :
    (place.forward count).obstacle = place.obstacle := by
  induction count generalizing place with
  | zero => rfl
  | succ count ih => rw [forward_succ, ih, obstacle_next]

theorem line_le_forward (count : Nat) (place : Place) :
    place.line ≤ (place.forward count).line := by
  induction count generalizing place with
  | zero => exact Nat.le_refl _
  | succ count ih => exact Nat.le_trans place.line_le_next (ih place.next)

theorem rest_forward_of_eq (there : place.rest = text ++ rest) :
    (place.forward text.length).rest = rest := by
  rw [rest_forward, there, List.drop_left]

theorem index_forward (there : place.rest = text ++ rest) :
    (place.forward text.length).index = place.index + text.length := by
  induction text generalizing place with
  | nil => rfl
  | cons c text ih =>
    have after : place.next.rest = text ++ rest := by rw [rest_next, there]; rfl
    rw [List.length_cons, forward_succ, ih after, index_next there]
    omega

/-- Characters that each take a column and leave the line as it is. -/
def Straight (text : Text) : Prop := ∀ c ∈ text, isBreak c = false ∧ c ≠ '\uFEFF'

theorem Straight.nil : Straight [] := by simp [Straight]

theorem straight_cons : Straight (c :: text) ↔
    (isBreak c = false ∧ c ≠ '\uFEFF') ∧ Straight text := by
  simp [Straight]

theorem straight_spaces (count : Nat) : Straight (List.replicate count ' ') := by
  intro c member
  rw [List.eq_of_mem_replicate member]
  decide

theorem forward_straight (straight : Straight text) (there : place.rest = text ++ rest) :
    (place.forward text.length).line = place.line ∧
      (place.forward text.length).column = place.column + text.length := by
  induction text generalizing place with
  | nil => exact ⟨rfl, rfl⟩
  | cons c text ih =>
    obtain ⟨⟨noBreak, noMark⟩, straight⟩ := straight_cons.mp straight
    have after : place.next.rest = text ++ rest := by rw [rest_next, there]; rfl
    have step : place.next.line = place.line ∧ place.next.column = place.column + 1 := by
      simp [next, there, noBreak, noMark]
    obtain ⟨line, column⟩ := ih straight after
    rw [List.length_cons, forward_succ, line, column, step.1, step.2]
    exact ⟨rfl, by omega⟩

theorem next_break (isEnd : isBreak c = true) (there : place.rest = c :: rest) :
    place.next.line = place.line + 1 ∧ place.next.column = 0 := by
  simp [next, there, isEnd]

@[simp] theorem peek_of_rest_nil (there : place.rest = []) : place.peek = none := by
  rw [peek, there]; rfl

theorem peek_eq (there : place.rest = c :: rest) : place.peek = some c := by
  rw [peek, there]; rfl

theorem sees_eq (place : Place) (c : Char) : place.sees c = (place.rest.head? == some c) := rfl

theorem ahead_eq {accept : Char → Bool} (all : ∀ c ∈ text, accept c = true)
    (stops : ∀ c ∈ rest.head?, accept c = false) (there : place.rest = text ++ rest) :
    place.ahead accept = text := by
  rw [ahead, there, List.takeWhile_append_of_pos all]
  cases rest with
  | nil => simp
  | cons c rest => simp [stops c rfl]

theorem skip_eq {accept : Char → Bool} (all : ∀ c ∈ text, accept c = true)
    (stops : ∀ c ∈ rest.head?, accept c = false) (there : place.rest = text ++ rest) :
    place.skip accept = place.forward text.length := by
  rw [skip, ahead_eq all stops there]

theorem lineBreak_eq (isEnd : isBreak c = true) (there : place.rest = c :: rest) :
    place.lineBreak = ([settledBreak c], place.next) := by
  rcases isBreak_iff.mp isEnd with rfl | rfl | rfl | rfl <;> simp [lineBreak, there, settledBreak]

theorem atMarker_eq_false {mark : Char} (differs : place.rest.head? ≠ some mark) :
    place.atMarker mark = false := by
  rw [atMarker]
  cases there : place.rest with
  | nil => rfl
  | cons c rest =>
    have other : mark ≠ c := fun same => differs (by rw [there, same]; rfl)
    simp [List.isPrefixOf, other]

theorem atSeparator_eq_false (line : place.rest.head? ≠ some '-')
    (dots : place.rest.head? ≠ some '.') : place.atSeparator = false := by
  rw [atSeparator, atMarker_eq_false line, atMarker_eq_false dots]
  rfl

/-- A text lies between two places. -/
structure Passes (place : Place) (text : Text) (target : Place) : Prop where
  there : place.rest = text ++ target.rest
  target : target = place.forward text.length

namespace Passes

variable {place middle target : Place} {text first second rest : Text} {c : Char}

theorem nil (place : Place) : place.Passes [] place := ⟨rfl, rfl⟩

theorem of_rest (there : place.rest = text ++ rest) :
    place.Passes text (place.forward text.length) :=
  ⟨by rw [rest_forward_of_eq there, there], rfl⟩

theorem trans (before : place.Passes first middle) (after : middle.Passes second target) :
    place.Passes (first ++ second) target where
  there := by rw [before.there, after.there, List.append_assoc]
  target := by rw [List.length_append, forward_add, ← before.target, ← after.target]

theorem split (passes : place.Passes (first ++ second) target) :
    ∃ middle, place.Passes first middle ∧ middle.Passes second target := by
  have there : place.rest = first ++ (second ++ target.rest) := by
    rw [passes.there, List.append_assoc]
  refine ⟨_, of_rest there, rest_forward_of_eq there, ?_⟩
  rw [passes.target, List.length_append, forward_add]

theorem next (passes : place.Passes (c :: text) target) : place.next.Passes text target :=
  ⟨by rw [rest_next, passes.there]; rfl, passes.target⟩

theorem one (there : place.rest = c :: rest) : place.Passes [c] place.next :=
  of_rest there

theorem obstacle (passes : place.Passes text target) : target.obstacle = place.obstacle := by
  rw [passes.target, obstacle_forward]

theorem index (passes : place.Passes text target) : target.index = place.index + text.length := by
  rw [passes.target, index_forward passes.there]

theorem line_le (passes : place.Passes text target) : place.line ≤ target.line := by
  rw [passes.target]
  exact line_le_forward _ _

theorem length (passes : place.Passes text target) :
    place.rest.length = text.length + target.rest.length := by
  rw [passes.there, List.length_append]

theorem straight (passes : place.Passes text target) (straight : Straight text) :
    target.line = place.line ∧ target.column = place.column + text.length := by
  rw [passes.target]
  exact forward_straight straight passes.there

theorem level (passes : place.Passes text target) (noEnd : ∀ c ∈ text, isBreak c = false) :
    target.line = place.line ∧ place.column ≤ target.column := by
  induction text generalizing place with
  | nil =>
    rw [passes.target]
    exact ⟨rfl, Nat.le_refl _⟩
  | cons c text ih =>
    have here : place.next.line = place.line ∧ place.column ≤ place.next.column := by
      simp only [Place.next, passes.there, List.cons_append, noEnd c (by simp), Bool.false_eq_true,
        if_false, true_and]
      split <;> omega
    obtain ⟨line, column⟩ := ih passes.next fun d member => noEnd d (by simp [member])
    exact ⟨by rw [line, here.1], Nat.le_trans here.2 column⟩

/-- The place after a line end and some characters that follow it. -/
theorem lineEnd (passes : place.Passes (first ++ c :: second) target) (isEnd : isBreak c = true)
    (straight : Straight second) : place.line < target.line ∧ target.column = second.length := by
  obtain ⟨middle, before, after⟩ := passes.split
  obtain ⟨line, column⟩ := next_break isEnd after.there
  obtain ⟨sameLine, further⟩ := after.next.straight straight
  have notAbove := before.line_le
  omega

end Passes

theorem straight_of_blank {pad : Text} (blank : ∀ c ∈ pad, c = ' ') : Straight pad := by
  intro c member
  rw [blank c member]
  decide

/-- A place where a token begins, or the end of the text. -/
def AtToken (place : Place) : Prop := ∀ c ∈ place.rest.head?, c ≠ ' ' ∧ c ≠ '#' ∧ isBreak c = false

end Place

end Transclusion.Yaml

import Transclusion.Proofs.Outcomes
import Transclusion.Proofs.Yaml.Places
import Transclusion.Yaml.ScalarText

/-!
Why a scalar is not read. A fault is one of the text's form, it is what keeps the text from
being read further, or it comes from an escape whose digits are no character's.
-/

namespace Transclusion.Yaml

/-- Faults in the form of a text, by the layer at which reading stops. -/
def Fault.isOfForm : Fault → Bool
  | .character => true
  | .token => true
  | .nesting => true
  | .document => true
  | .construction => true
  | _ => false

/-- What a fault in reading a text is caused by. -/
inductive Cause (text : Text) (obstacle : Option Fault) (fault : Fault) : Prop where
  | form (isOfForm : fault.isOfForm = true)
  | obstacle (kept : obstacle = some fault)
  | escape {mark : Char} {digits : Text} {code : Nat}
      (wide : ScalarText.escapeWidth? mark = some digits.length)
      (number : ScalarText.hexNumber? digits = some code) (tooHigh : 0x110000 ≤ code)
      (inside : '\\' :: mark :: digits <:+: text)

/-- A place in a text. -/
structure Within (text : Text) (obstacle : Option Fault) (place : Place) : Prop where
  ahead : place.rest <:+ text
  obstacle : place.obstacle = obstacle

variable {text : Text} {obstacle : Option Fault} {place : Place}

section Within

variable (within : Within text obstacle place)

include within

theorem Within.forward (count : Nat) : Within text obstacle (place.forward count) :=
  ⟨by rw [Place.rest_forward]; exact (List.drop_suffix ..).trans within.ahead,
    by rw [Place.obstacle_forward, within.obstacle]⟩

theorem Within.next : Within text obstacle place.next := within.forward 1

theorem Within.skip (accept : Char → Bool) : Within text obstacle (place.skip accept) :=
  within.forward _

theorem Within.skipSpaces : Within text obstacle place.skipSpaces := within.skip _

theorem Within.skipLine : Within text obstacle place.skipLine := within.skip _

theorem Within.lineBreak : Within text obstacle place.lineBreak.2 := by
  rw [Place.lineBreak]
  split
  · exact within
  · split
    · exact within.next
    · split
      · exact within.next
      · exact within

theorem Within.refusal : Cause text obstacle place.refusal := by
  rw [Place.refusal, within.obstacle]
  split
  · cases obstacle with
    | none => exact .form rfl
    | some fault => exact .obstacle rfl
  · exact .form rfl

theorem Within.check : Meets (Cause text obstacle) (fun _ => True) place.check := by
  rw [Place.check, within.obstacle]
  split
  · exact .obstacle rfl
  · trivial

end Within

/-- A reader goes on in the text. -/
abbrev Reads (text : Text) (obstacle : Option Fault) {Found : Type}
    (result : Except Fault (Found × Place)) : Prop :=
  Meets (Cause text obstacle) (fun found => Within text obstacle found.2) result

namespace ScalarText

section Quoted

theorem reads_quotedBreaks (within : Within text obstacle place) (fuel : Nat) :
    Reads text obstacle (quotedBreaks fuel place) := by
  induction fuel generalizing place with
  | zero => exact Cause.form rfl
  | succ fuel ih =>
    rw [quotedBreaks]
    split
    · exact Cause.form rfl
    · dsimp only
      split
      · exact (ih (within.skip _).lineBreak).bind fun _ within => within
      · exact within.skip _

theorem reads_quotedSpaces (within : Within text obstacle place) (fuel : Nat) :
    Reads text obstacle (quotedSpaces fuel place) := by
  rw [quotedSpaces]
  dsimp only
  split
  · exact (within.forward _).refusal
  · split
    · exact (reads_quotedBreaks (within.forward _).lineBreak fuel).bind fun _ within => within
    · exact within.forward _

theorem reads_escape (within : Within text obstacle place) (slash : place.peek = some '\\')
    (fuel : Nat) : Reads text obstacle (escape fuel place.next) := by
  rw [escape]
  split
  · exact within.next.refusal
  · next mark seen =>
    split
    · exact within.next.next
    · split
      · next width wide =>
        dsimp only
        split
        · next code number =>
          split
          · exact (within.next.next.forward _).refusal
          · next full =>
            have digits : (place.next.next.rest.take width).length = width := by
              have most := List.length_take_le width place.next.next.rest
              omega
            split
            · exact within.next.next.forward _
            · next tooHigh =>
              have inside : '\\' :: mark :: place.next.next.rest.take width <:+: text := by
                refine List.IsInfix.trans (List.IsPrefix.isInfix ?_) within.ahead.isInfix
                obtain ⟨rest, there⟩ := List.head?_eq_some_iff.mp slash
                obtain ⟨later, after⟩ := List.head?_eq_some_iff.mp seen
                have digits : place.next.next.rest = later := by rw [Place.rest_next, after]; rfl
                rw [Place.rest_next, there, List.tail_cons] at after
                rw [digits, there, after]
                simpa using List.take_prefix width later
              have caused : ∀ fault, Cause text obstacle fault := fun fault =>
                .escape (by rw [digits, wide]) number (by omega) inside
              split
              · exact caused _
              · exact caused _
        · exact Cause.form rfl
      · split
        · exact reads_quotedBreaks within.next.lineBreak fuel
        · exact Cause.form rfl

theorem reads_quotedRun (double : Bool) (fuel : Nat) (within : Within text obstacle place) :
    Reads text obstacle (quotedRun double fuel place) := by
  induction fuel generalizing place with
  | zero => exact Cause.form rfl
  | succ fuel ih =>
    have goesOn : ∀ {run more : Text} {place : Place}, Within text obstacle place →
        Reads text obstacle ((quotedRun double fuel place).bind fun later =>
          .ok (run ++ more ++ later.1, later.2)) :=
      fun within => (ih within).bind fun _ within => within
    have here := within.forward (place.ahead fun c => !endsRun c).length
    rw [quotedRun]
    dsimp only
    split
    · split
      · exact goesOn here.next
      · split
        · exact goesOn (here.forward 2)
        · exact here
    · split
      · exact here
      · exact goesOn here.next
    · next slash =>
      split
      · exact (reads_escape here slash fuel).bind fun _ within => goesOn within
      · exact goesOn here.next
    · exact here

theorem reads_quotedRest (double : Bool) (quote : Char) (fuel : Nat)
    (within : Within text obstacle place) :
    Reads text obstacle (quotedRest double quote fuel place) := by
  induction fuel generalizing place with
  | zero => exact Cause.form rfl
  | succ fuel ih =>
    rw [quotedRest]
    split
    · exact within.next
    · exact (reads_quotedSpaces within fuel).bind fun _ within =>
        (reads_quotedRun double fuel within).bind fun _ within => (ih within).bind fun _ within => within

theorem reads_quoted (double : Bool) (within : Within text obstacle place) :
    Reads text obstacle (quoted double place) :=
  (reads_quotedRun double _ within.next).bind fun _ within =>
    (reads_quotedRest double _ _ within).bind fun _ within => within

end Quoted

section Plain

theorem within_plainBreaks (fuel : Nat) (within : Within text obstacle place) :
    Within text obstacle (plainBreaks fuel place).2 := by
  induction fuel generalizing place with
  | zero => exact within
  | succ fuel ih =>
    rw [plainBreaks]
    split
    · split
      · exact ih within.next
      · split
        · dsimp only
          split
          · exact within.lineBreak
          · exact ih within.lineBreak
        · exact within
    · exact within

theorem within_plainSpaces (within : Within text obstacle place) :
    Within text obstacle (plainSpaces place).2.1 := by
  have here := within.forward (place.ahead (· == ' ')).length
  rw [plainSpaces]
  dsimp only
  split
  · split
    · split
      · exact here.lineBreak
      · have after := within_plainBreaks
          ((place.forward (place.ahead (· == ' ')).length).lineBreak.2.rest.length + 1) here.lineBreak
        split
        · next found => rwa [found] at after
        · next found => rwa [found] at after
    · exact here
  · exact here

theorem within_plainRuns (flow : Bool) (indent : Int) (fuel : Nat) (joint : Text) (broken : Bool)
    (within : Within text obstacle place) :
    Within text obstacle (plainRuns flow indent fuel joint broken place).2.1 := by
  induction fuel generalizing place joint broken with
  | zero => exact within
  | succ fuel ih =>
    have after := within_plainSpaces (within.forward (plainRun flow place.rest).length)
    rw [plainRuns]
    split
    · exact within
    · dsimp only
      split
      · exact within
      · split
        · exact after
        · exact ih _ _ after

theorem within_plain (flow : Bool) (indent : Int) (within : Within text obstacle place) :
    Within text obstacle (plain flow indent place).2.1 :=
  within_plainRuns flow indent _ _ _ within

end Plain

section Block

theorem reads_indentDigit? (within : Within text obstacle place) :
    Reads text obstacle (indentDigit? place) := by
  rw [indentDigit?]
  split
  · split
    · exact Cause.form rfl
    · split
      · exact within.next
      · exact within
  · exact within

theorem within_chompingMark? (within : Within text obstacle place) {mark : Chomping × Place}
    (found : chompingMark? place = some mark) : Within text obstacle mark.2 := by
  rw [chompingMark?] at found
  split at found
  · cases found
    exact within.next
  · cases found
    exact within.next
  · cases found

theorem reads_blockIndicators (within : Within text obstacle place) :
    Meets (Cause text obstacle) (fun found => Within text obstacle found.2.2)
      (blockIndicators place) := by
  have ended : ∀ (chomping : Chomping) (increment : Option Nat) {place : Place},
      Within text obstacle place →
      Meets (Cause text obstacle) (fun found => Within text obstacle found.2.2)
        (if isBreakOrEnd place.peek || place.sees ' ' then .ok (chomping, increment, place)
          else .error .token : Except Fault (Chomping × Option Nat × Place)) := by
    intro chomping increment place within
    split
    · exact within
    · exact Cause.form rfl
  rw [blockIndicators]
  split
  · next chomping after marked =>
    refine (reads_indentDigit? (within_chompingMark? within marked)).bind fun found within => ?_
    exact ended _ _ within
  · refine (reads_indentDigit? within).bind fun found within => ?_
    dsimp only
    split
    · next marked => exact ended _ _ (within_chompingMark? within marked)
    · exact ended _ _ within

theorem restOfLine_meets (within : Within text obstacle place) :
    Meets (Cause text obstacle) (Within text obstacle) (restOfLine place) := by
  have after : Within text obstacle
      (if place.skipSpaces.sees '#' then place.skipSpaces.skipLine else place.skipSpaces) := by
    split
    · exact within.skipSpaces.skipLine
    · exact within.skipSpaces
  simp only [restOfLine]
  by_cases ended : isBreakOrEnd (if place.skipSpaces.sees '#' then place.skipSpaces.skipLine
      else place.skipSpaces).peek = true
  · rw [if_pos ended]
    exact after.lineBreak
  · rw [if_neg ended]
    exact Cause.form rfl

theorem within_blockIndentation (fuel deepest : Nat) (within : Within text obstacle place) :
    Within text obstacle (blockIndentation fuel deepest place).2.2 := by
  induction fuel generalizing place deepest with
  | zero => exact within
  | succ fuel ih =>
    rw [blockIndentation]
    split
    · split
      · exact ih _ within.next
      · split
        · exact ih _ within.lineBreak
        · exact within
    · exact within

theorem within_blockBreaks (indent fuel : Nat) (within : Within text obstacle place) :
    Within text obstacle (blockBreaks indent fuel place).2 := by
  induction fuel generalizing place with
  | zero => exact within
  | succ fuel ih =>
    have inner : Within text obstacle (skipIndent indent place) := within.forward _
    rw [blockBreaks]
    dsimp only
    split
    · exact ih inner.lineBreak
    · exact inner

theorem within_blockLines (folded : Bool) (indent fuel : Nat) (breaks : Text)
    (within : Within text obstacle place) :
    Within text obstacle (blockLines folded indent fuel breaks place).2.2.2 := by
  induction fuel generalizing place breaks with
  | zero => exact within
  | succ fuel ih =>
    have line := (within.forward (place.ahead fun c => !isBreak c).length).lineBreak
    have next := within_blockBreaks indent
      ((place.forward (place.ahead fun c => !isBreak c).length).lineBreak.2.rest.length + 1) line
    rw [blockLines]
    split
    · dsimp only
      split
      · exact ih _ next
      · exact next
    · exact within

theorem reads_block (folded : Bool) (indent : Int) (within : Within text obstacle place) :
    Reads text obstacle (block folded indent place) := by
  refine (reads_blockIndicators within.next).bind fun marks marked => ?_
  obtain ⟨chomping, increment, place⟩ := marks
  refine (restOfLine_meets marked).bind fun place within => ?_
  have finished : ∀ (depth fuel : Nat) (breaks : Text) {place : Place}, Within text obstacle place →
      let found := blockLines folded depth fuel breaks place
      let read := if chomping = .strip then found.1 else found.1 ++ found.2.1
      Reads text obstacle
        (.ok (if chomping = .keep then read ++ found.2.2.1 else read, found.2.2.2)) :=
    fun depth fuel breaks _ within => within_blockLines folded depth fuel breaks within
  cases increment with
  | none =>
    have after := within_blockIndentation (place.rest.length + 1) 0 within
    dsimp only
    rcases found : blockIndentation (place.rest.length + 1) 0 place with ⟨breaks, deepest, place⟩
    rw [found] at after
    exact finished _ _ _ after
  | some increment =>
    have after := within_blockBreaks ((max (indent + 1) 1).toNat + increment - 1)
      (place.rest.length + 1) within
    dsimp only
    rcases found : blockBreaks ((max (indent + 1) 1).toNat + increment - 1)
      (place.rest.length + 1) place with ⟨breaks, place⟩
    rw [found] at after
    exact finished _ _ _ after

end Block

end ScalarText

end Transclusion.Yaml

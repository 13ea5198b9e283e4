import Transclusion.Text.Ranges

/-!
A text cut at its marks, from left to right without overlap: each mark with the
plain text before it, and the plain text after the last one. A recogniser gives
the readings that begin at a place, the preferred one first, each with the text
that follows it; the place is the character before it and the text from it on.
-/

namespace Transclusion

abbrev Recogniser (Mark : Type) := Option Char → Text → List (Mark × Text)

structure Cut (Mark : Type) where
  before : Text
  mark : Mark

structure Cutting (Mark : Type) where
  cuts : List (Cut Mark) := []
  tail : Text := []

namespace Cutting

variable {Mark : Type}

/-- A plain character in front. -/
def plain (c : Char) (cutting : Cutting Mark) : Cutting Mark :=
  match cutting.cuts with
  | [] => { cutting with tail := c :: cutting.tail }
  | first :: rest => { cutting with cuts := { first with before := c :: first.before } :: rest }

/-- A mark in front, with no plain text before it. -/
def marked (mark : Mark) (cutting : Cutting Mark) : Cutting Mark :=
  { cutting with cuts := ⟨[], mark⟩ :: cutting.cuts }

/-- The character before the place that follows `text`. -/
def lastOr (previous : Option Char) (text : Text) : Option Char :=
  text.getLast?.or previous

def shorter (text : Text) (reading : Mark × Text) : Bool :=
  decide (reading.2.length < text.length)

/-- Cuts a text. A reading that takes nothing is kept once, and the place is then
left by the first reading that takes something, or by one plain character. -/
def ofText (readings : Recogniser Mark) (previous : Option Char) (text : Text) : Cutting Mark :=
  let found := readings previous text
  let advance : Cutting Mark :=
    match (found.find? (shorter text)) with
    | some (mark, rest) =>
        if _ : rest.length < text.length then
          (ofText readings (lastOr previous (text.take (text.length - rest.length))) rest).marked mark
        else {}
    | none =>
        match text with
        | [] => {}
        | c :: rest => (ofText readings (some c) rest).plain c
  match found with
  | [] => advance
  | (mark, rest) :: _ => if rest.length < text.length then advance else advance.marked mark
  termination_by text.length

/-- The text with every mark replaced. -/
def fill (cutting : Cutting Mark) (replacement : Mark → Text) : Text :=
  cutting.cuts.flatMap (fun cut => cut.before ++ replacement cut.mark) ++ cutting.tail

def marks (cutting : Cutting Mark) : List Mark := cutting.cuts.map (·.mark)

/-- Each mark with the offset at which it begins, given the text of a mark. -/
def located (written : Mark → Text) : Nat → List (Cut Mark) → List (Nat × Mark)
  | _, [] => []
  | offset, cut :: rest =>
      let start := offset + cut.before.length
      (start, cut.mark) :: located written (start + (written cut.mark).length) rest

end Cutting

end Transclusion

import Mathlib.Data.List.Infix
import Transclusion.Proofs.LeftmostDefinitions

/-!
Markers and line ends. No token holds a line end and no opening tag ends with one, so a
marker that begins on some lines stays on them, unless its opening tag runs over what
comes next.
-/

namespace Transclusion

namespace Text

end Text

namespace Token

variable {grammar : Grammar} (ordinary : grammar.Ordinary)

include ordinary

end Token

namespace Token.Shape

variable {shape : Token.Shape} {token : Token}

end Token.Shape

namespace Marker

variable {shape : Token.Shape} {previous : Option Char} {text : Text} {marker : Marker} {rest : Text}

theorem isElement_open_not_mem {element : Text} (named : IsElement element) : '<' ∉ element := by
  have noLetter : isElementTail '<' = false := by decide
  intro member
  cases element with
  | nil => cases member
  | cons c element =>
    rcases List.mem_cons.mp member with rfl | later
    · have letter : isElementTail '<' = true := by simp [isElementTail, named.1]
      rw [noLetter] at letter
      cases letter
    · rw [named.2 '<' later] at noLetter
      cases noLetter

theorem isOpeningTag_inner {tag : Text} (opens : IsOpeningTag tag) :
    ∃ inner, tag = '<' :: inner ++ ['>'] ∧ '<' ∉ inner := by
  cases opens with
  | plain named => exact ⟨_, rfl, isElement_open_not_mem named⟩
  | @attributed element attributes blank named apart flat =>
    refine ⟨element ++ blank :: attributes, by simp, ?_⟩
    have notBlank : Text.isBlank '<' = false := by decide
    rintro member
    rcases List.mem_append.mp member with inElement | after
    · exact isElement_open_not_mem named inElement
    · rcases List.mem_cons.mp after with rfl | inAttributes
      · rw [notBlank] at apart
        cases apart
      · have angle := flat '<' inAttributes
        simp [isAngle] at angle

-- An opening tag with the spaces after it: one bracket that opens, at the front, and no
-- line end at the back.
theorem At.opening (here : At shape.At previous text marker rest) :
    ∃ beyond, text = marker.opening.getD [] ++ beyond ∧
      (marker.opening.getD [] = [] ∨
        (∃ inner, marker.opening.getD [] = '<' :: inner ∧ '<' ∉ inner) ∧
          (marker.opening.getD []).getLast? ≠ some '\n') := by
  cases here with
  | bare here => exact ⟨text, rfl, Or.inl rfl⟩
  | @wrapped tag spaces beyond token ending _ opens apart here closes =>
    obtain ⟨inner, rfl, absent⟩ := isOpeningTag_inner opens
    refine ⟨beyond, rfl, Or.inr ⟨⟨inner ++ ['>'] ++ spaces, by simp, ?_⟩, ?_⟩⟩
    · intro member
      simp only [List.mem_append, List.mem_singleton, absent, false_or] at member
      rcases member with same | space
      · cases same
      · simpa [isInlineSpace] using apart '<' space
    · rw [Option.getD_some, ← Cutting.lastOr_none, Cutting.lastOr_append, Cutting.lastOr_concat]
      intro last
      cases spaces with
      | nil => cases last
      | cons space spaces =>
        rw [Cutting.lastOr_of_ne_nil (by simp) _ none, Cutting.lastOr_none] at last
        simpa [isInlineSpace] using apart '\n' (List.mem_of_getLast? last)

/-- A start marker that stands, with a stop token of its separator and name after it. -/
structure Terminated (grammar : Grammar) (text : Text) (offset : Nat) (marker : Marker) : Prop where
  stands : Stands (Token.opener grammar grammar.startWord) text offset marker
  stop : ∃ later token, offset + marker.written.length ≤ later ∧
    (Token.closer grammar marker.token).Stands text later token

/-- None of the markers that begin from `low` on and before the place has an opening tag
that runs over the place. -/
def Uncovered (markers : Nat → Marker → Prop) (low place : Nat) : Prop :=
  ∀ earlier marker, low ≤ earlier → earlier < place → markers earlier marker →
    earlier + (marker.opening.getD []).length ≤ place

end Marker

end Transclusion

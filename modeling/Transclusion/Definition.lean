import Transclusion.Marker

/-!
A definition: a start marker, blanks, the content, blanks, and the nearest later
stop marker with the same separator and name. The content neither begins nor
ends with a blank unless nothing else would let the stop marker be read.
-/

namespace Transclusion

structure Definition where
  start : Marker
  lead : Text
  content : Text
  trail : Text
  stop : Marker
  deriving DecidableEq, Repr

namespace Definition

def written (definition : Definition) : Text :=
  definition.start.written ++ definition.lead ++ definition.content ++ definition.trail ++
    definition.stop.written

def name (definition : Definition) : Text := definition.start.token.name

def separator (definition : Definition) : Text := definition.start.token.separator

section Search

variable (stops : Recogniser Marker)

/-- A stop marker here. -/
def stopHere (previous : Option Char) (text : Text) : Option (Marker × Text) :=
  (stops previous text).head?

/-- A stop marker after some blanks, past most blanks first. -/
def stopPastBlanks (previous : Option Char) : Text → Option (Text × Marker × Text)
  | [] => (stopHere stops previous []).map fun stop => ([], stop)
  | c :: rest =>
      let further :=
        if Text.isBlank c then
          (stopPastBlanks (some c) rest).map fun found => (c :: found.1, found.2)
        else none
      further.or ((stopHere stops previous (c :: rest)).map fun stop => ([], stop))

/-- The shortest content that a stop marker follows. -/
def contentBeforeStop (previous : Option Char) :
    Text → Option (Text × Text × Marker × Text)
  | [] => (stopPastBlanks stops previous []).map fun found => ([], found)
  | c :: rest =>
      match stopPastBlanks stops previous (c :: rest) with
      | some found => some ([], found)
      | none =>
          (contentBeforeStop (some c) rest).map fun found => (c :: found.1, found.2)

/-- Content after some blanks, past most blanks first. -/
def bodyPastBlanks (previous : Option Char) :
    Text → Option (Text × Text × Text × Marker × Text)
  | [] => (contentBeforeStop stops previous []).map fun found => ([], found)
  | c :: rest =>
      let further :=
        if Text.isBlank c then
          (bodyPastBlanks (some c) rest).map fun found => (c :: found.1, found.2)
        else none
      further.or ((contentBeforeStop stops previous (c :: rest)).map fun found => ([], found))

/-- Some stop marker begins here or later. -/
def stopAhead (previous : Option Char) : Text → Bool
  | [] => (stopHere stops previous []).isSome
  | c :: rest => (stopHere stops previous (c :: rest)).isSome || stopAhead (some c) rest

theorem stopPastBlanks_eq_none (previous : Option Char) (text : Text)
    (h : stopAhead stops previous text = false) : stopPastBlanks stops previous text = none := by
  induction text generalizing previous with
  | nil => simp_all [stopAhead, stopPastBlanks]
  | cons c rest ih =>
    simp only [stopAhead, Bool.or_eq_false_iff] at h
    simp_all [stopPastBlanks]

theorem contentBeforeStop_eq_none (previous : Option Char) (text : Text)
    (h : stopAhead stops previous text = false) :
    contentBeforeStop stops previous text = none := by
  induction text generalizing previous with
  | nil => simp [contentBeforeStop, stopPastBlanks_eq_none stops previous [] h]
  | cons c rest ih =>
    have here := stopPastBlanks_eq_none stops previous (c :: rest) h
    simp only [stopAhead, Bool.or_eq_false_iff] at h
    simp [contentBeforeStop, here, ih (some c) h.2]

/-- Without a stop marker ahead there is no body, whatever the blanks: looking ahead
first only saves the search. -/
theorem bodyPastBlanks_eq_none (previous : Option Char) (text : Text)
    (h : stopAhead stops previous text = false) : bodyPastBlanks stops previous text = none := by
  induction text generalizing previous with
  | nil => simp [bodyPastBlanks, contentBeforeStop_eq_none stops previous [] h]
  | cons c rest ih =>
    have here := contentBeforeStop_eq_none stops previous (c :: rest) h
    simp only [stopAhead, Bool.or_eq_false_iff] at h
    simp [bodyPastBlanks, here, ih (some c) h.2]

end Search

/-- The definition that begins here. -/
def here? (grammar : Grammar) (previous : Option Char) (text : Text) :
    Option (Definition × Text) :=
  (Marker.recognise (Token.withWord grammar grammar.startWord) previous text).findSome?
    fun (start, rest) =>
      let stops := Marker.recognise (Token.closing grammar start.token)
      let before := Cutting.lastOr previous start.written
      if stopAhead stops before rest then
        (bodyPastBlanks stops before rest).map
          fun (lead, content, trail, stop, rest) => (⟨start, lead, content, trail, stop⟩, rest)
      else none

def recognise (grammar : Grammar) : Recogniser Definition := fun previous text =>
  (here? grammar previous text).toList

end Definition

end Transclusion

import Mathlib.Data.List.DropRight
import Transclusion.Definition
import Transclusion.Proofs.OrdinaryGrammar

/-!
The search for the stop marker of a definition. Its steps through blanks and contents
come to this: the nearest stop marker ends the definition, and the content is what
stands before it, trimmed. A definition is missed only when no stop marker is ahead.
-/

namespace Transclusion

namespace Text

/-- A text between blanks, itself without blanks at its ends; nothing but blanks all
counts as leading. -/
structure Framed (text lead content trail : Text) : Prop where
  parts : text = lead ++ content ++ trail
  leading : ∀ c ∈ lead, isBlank c = true
  trailing : ∀ c ∈ trail, isBlank c = true
  first : ∀ c ∈ content.head?, isBlank c = false
  last : ∀ c ∈ content.getLast?, isBlank c = false
  empty : content = [] → trail = []

theorem head?_trimLeft (text : Text) : ∀ c ∈ (trimLeft text).head?, isBlank c = false := by
  have blanks : text.takeWhile isBlank = _ ∧ text.dropWhile isBlank = trimLeft text := ⟨rfl, rfl⟩
  exact (run_eq_iff.mp blanks).2.2

theorem getLast?_trimRight (text : Text) : ∀ c ∈ (trimRight text).getLast?, isBlank c = false := by
  intro c last
  have present : trimRight text ≠ [] := by
    rintro none
    simp [none] at last
  rw [List.getLast?_eq_some_getLast present, Option.mem_some_iff] at last
  subst last
  exact Bool.eq_false_iff.mpr (List.rdropWhile_last_not isBlank text present)

theorem framed_trim (text : Text) :
    ∃ lead trail, Framed text lead (trim text) trail := by
  by_cases blank : ∀ c ∈ text, isBlank c = true
  · have nothing : trim text = [] := by
      have left : trimLeft text = [] := List.dropWhile_eq_nil_iff.mpr blank
      rw [trim, left]
      rfl
    refine ⟨text, [], ?_⟩
    rw [nothing]
    exact ⟨by simp, blank, by simp, by simp, by simp, fun _ => rfl⟩
  · have left : trimLeft text ≠ [] := fun none => blank (List.dropWhile_eq_nil_iff.mp none)
    -- trimming on the right leaves the first character, which is no blank
    have headSame : (trim text).head? = (trimLeft text).head? := by
      obtain ⟨c, rest, found⟩ := List.exists_cons_of_ne_nil left
      have inked : isBlank c = false := head?_trimLeft text c (by simp [found])
      have present : trim text ≠ [] := by
        intro none
        have all := List.rdropWhile_eq_nil_iff.mp (show (trimLeft text).rdropWhile isBlank = [] from none)
        have blankHead := all c (by simp [found])
        rw [inked] at blankHead
        cases blankHead
      obtain ⟨after, parts⟩ := List.rdropWhile_prefix isBlank (trimLeft text)
      have trimmed : trim text ++ after = trimLeft text := parts
      rw [← trimmed, List.head?_append_of_ne_nil _ present]
    refine ⟨text.takeWhile isBlank, (trimLeft text).rtakeWhile isBlank, ?_, ?_, ?_, ?_, ?_, ?_⟩
    · rw [List.append_assoc]
      show text = text.takeWhile isBlank ++ ((trimLeft text).rdropWhile isBlank ++ _)
      rw [List.rdropWhile_append_rtakeWhile]
      exact List.takeWhile_append_dropWhile.symm
    · exact fun c member => List.mem_takeWhile_imp member
    · exact fun c member => List.mem_rtakeWhile_imp member
    · rw [headSame]
      exact head?_trimLeft text
    · exact getLast?_trimRight (trimLeft text)
    · intro none
      rw [none] at headSame
      exact absurd (List.head?_eq_none_iff.mp headSame.symm) left

end Text

namespace Definition

open Cutting

variable {stops : Recogniser Marker} {previous : Option Char}

/-- The first place of a text where a stop marker begins, and that marker. -/
structure NearestStop (stops : Recogniser Marker) (previous : Option Char) (text : Text)
    (offset : Nat) (stop : Marker) (rest : Text) : Prop where
  here : (readAt stops previous text offset).head? = some (stop, rest)
  before : ∀ earlier < offset, readAt stops previous text earlier = []

section Ahead

theorem nearestStop_of_stopAhead {text : Text} (ahead : stopAhead stops previous text = true) :
    ∃ offset ≤ text.length, ∃ stop rest, NearestStop stops previous text offset stop rest := by
  induction text generalizing previous with
  | nil =>
    obtain ⟨⟨stop, rest⟩, here⟩ := Option.isSome_iff_exists.mp ahead
    rw [stopHere] at here
    exact ⟨0, Nat.le_refl _, stop, rest, by simpa using here, by simp⟩
  | cons c text ih =>
    cases here : (stops previous (c :: text)).head? with
    | some found => exact ⟨0, Nat.zero_le _, found.1, found.2, by simpa using here, by simp⟩
    | none =>
      have further : stopAhead stops (some c) text = true := by
        simpa [stopAhead, stopHere, here] using ahead
      obtain ⟨offset, inside, stop, rest, found, before⟩ := ih further
      refine ⟨offset + 1, by simpa using inside, stop, rest, by simpa using found, ?_⟩
      intro earlier less
      cases earlier with
      | zero => simpa using List.head?_eq_none_iff.mp here
      | succ earlier => simpa using before earlier (by omega)

theorem stopAhead_eq_false {text : Text} (none : stopAhead stops previous text = false)
    (offset : Nat) (inside : offset ≤ text.length) : readAt stops previous text offset = [] := by
  induction text generalizing previous offset with
  | nil =>
    have zero : offset = 0 := by simpa using inside
    rw [zero, readAt_zero]
    simpa [stopAhead, stopHere] using none
  | cons c text ih =>
    obtain ⟨here, further⟩ := Bool.or_eq_false_iff.mp none
    cases offset with
    | zero => simpa [stopHere] using here
    | succ offset =>
      rw [readAt_cons_succ]
      exact ih further offset (by simpa using inside)

theorem stopAhead_of_readAt {text : Text} {offset : Nat} (inside : offset ≤ text.length)
    (found : readAt stops previous text offset ≠ []) : stopAhead stops previous text = true := by
  by_contra none
  exact found (stopAhead_eq_false (Bool.not_eq_true _ ▸ none) offset inside)

end Ahead

section Body

variable (inked : Inked stops)

include inked

theorem not_isBlank_of_stop {text : Text} {stop : Marker} {rest : Text}
    (here : (stops previous text).head? = some (stop, rest)) :
    ∀ c ∈ text.head?, Text.isBlank c = false := by
  intro c head
  obtain ⟨after, rfl⟩ := List.head?_eq_some_iff.mp (Option.mem_def.mp head)
  by_contra blank
  rw [inked previous c after (Bool.not_eq_false _ ▸ blank)] at here
  cases here

theorem stopPastBlanks_of_stop {trail after : Text} {stop : Marker} {rest : Text}
    (blank : ∀ c ∈ trail, Text.isBlank c = true)
    (here : (stops (lastOr previous trail) after).head? = some (stop, rest)) :
    stopPastBlanks stops previous (trail ++ after) = some (trail, stop, rest) := by
  induction trail generalizing previous with
  | nil =>
    cases after with
    | nil => simpa [stopPastBlanks, stopHere] using here
    | cons c after =>
      have ink := not_isBlank_of_stop inked here c (by simp)
      simpa [stopPastBlanks, ink, stopHere] using here
  | cons c trail ih =>
    have further := @ih (some c) (fun d member => blank d (List.mem_cons_of_mem c member))
      (by simpa using here)
    simp [stopPastBlanks, blank c (by simp), further]

omit inked in
theorem stopPastBlanks_eq_none_of_ink {front after : Text}
    (ink : ∃ c ∈ front, Text.isBlank c = false)
    (clear : ∀ offset < front.length, readAt stops previous (front ++ after) offset = []) :
    stopPastBlanks stops previous (front ++ after) = none := by
  induction front generalizing previous with
  | nil => simp at ink
  | cons c front ih =>
    have here : stops previous (c :: (front ++ after)) = [] := by simpa using clear 0 (by simp)
    have later : ∀ offset < front.length, readAt stops (some c) (front ++ after) offset = [] := by
      intro offset inside
      simpa using clear (offset + 1) (by simpa using inside)
    cases blank : Text.isBlank c with
    | false => simp [stopPastBlanks, blank, stopHere, here]
    | true =>
      have inner : ∃ d ∈ front, Text.isBlank d = false := by
        obtain ⟨d, member, plain⟩ := ink
        rcases List.mem_cons.mp member with rfl | inside
        · rw [plain] at blank
          cases blank
        · exact ⟨d, inside, plain⟩
      simp [stopPastBlanks, blank, stopHere, here, ih inner later]

omit inked in
theorem contentBeforeStop_of_stop {text : Text} {found : Text × Marker × Text}
    (here : stopPastBlanks stops previous text = some found) :
    contentBeforeStop stops previous text = some ([], found) := by
  cases text with
  | nil => simp [contentBeforeStop, here]
  | cons c text => simp [contentBeforeStop, here]

theorem contentBeforeStop_eq {content trail after : Text} {stop : Marker} {rest : Text}
    (blank : ∀ c ∈ trail, Text.isBlank c = true)
    (last : ∀ c ∈ content.getLast?, Text.isBlank c = false)
    (here : (stops (lastOr previous (content ++ trail)) after).head? = some (stop, rest))
    (clear : ∀ offset < (content ++ trail).length,
      readAt stops previous (content ++ trail ++ after) offset = []) :
    contentBeforeStop stops previous (content ++ trail ++ after) =
      some (content, trail, stop, rest) := by
  induction content generalizing previous with
  | nil => exact contentBeforeStop_of_stop (stopPastBlanks_of_stop inked blank here)
  | cons c content ih =>
    have ink : ∃ d ∈ c :: content, Text.isBlank d = false :=
      ⟨(c :: content).getLast (by simp), List.getLast_mem _,
        last _ (List.getLast?_eq_some_getLast _)⟩
    -- the last character of the content is no blank, so no run of blanks reaches the stop marker
    have missed : stopPastBlanks stops previous (c :: content ++ (trail ++ after)) = none := by
      refine stopPastBlanks_eq_none_of_ink ink fun offset inside => ?_
      rw [← List.append_assoc]
      exact clear offset (by simp at inside ⊢; omega)
    have further := @ih (some c)
      (by
        intro d member
        cases content with
        | nil => simp at member
        | cons e content => exact last d (by simpa using member))
      (by simpa using here)
      (by
        intro offset inside
        simpa using clear (offset + 1) (by simpa using inside))
    rw [← List.append_assoc] at missed
    simp only [List.cons_append] at missed further ⊢
    simp only [contentBeforeStop, missed, further, Option.map_some]

-- The nearest stop marker ends the body, and the content is what stands before it
-- without the blanks at its ends.
theorem bodyPastBlanks_eq {front after lead content trail : Text} {stop : Marker} {rest : Text}
    (framed : Text.Framed front lead content trail)
    (nearest : NearestStop stops previous (front ++ after) front.length stop rest) :
    bodyPastBlanks stops previous (front ++ after) = some (lead, content, trail, stop, rest) := by
  obtain ⟨rfl, leadBlank, trailBlank, first, last, empty⟩ := framed
  induction lead generalizing previous with
  | nil =>
    have here : (stops (lastOr previous (content ++ trail)) after).head? = some (stop, rest) := by
      rw [← readAt_length stops previous (content ++ trail) after]
      simpa using nearest.here
    have found := contentBeforeStop_eq inked trailBlank last here
      (by simpa using nearest.before)
    -- the leading blanks end here: at the content, or at the stop marker when all was blank
    have ink : ∀ c ∈ (content ++ trail ++ after).head?, Text.isBlank c = false := by
      cases content with
      | nil =>
        have nothing := empty rfl
        subst nothing
        exact not_isBlank_of_stop inked here
      | cons c content => simpa using first
    simp only [List.nil_append]
    cases text : content ++ trail ++ after with
    | nil =>
      rw [text] at found
      simp [bodyPastBlanks, found]
    | cons c beyond =>
      rw [text] at found ink
      simp [bodyPastBlanks, ink c (by simp), found]
  | cons c lead ih =>
    have further := @ih (some c)
      (fun d member => leadBlank d (List.mem_cons_of_mem c member))
      ⟨by simpa using nearest.here, by
        intro earlier less
        simpa using nearest.before (earlier + 1) (by simpa using less)⟩
    simp only [List.cons_append, bodyPastBlanks, leadBlank c (by simp), if_true, further,
      Option.map_some, Option.some_or]

omit inked in
theorem exists_framed (text : Text) (offset : Nat) (inside : offset ≤ text.length) :
    ∃ front after lead content trail, text = front ++ after ∧ front.length = offset ∧
      Text.Framed front lead content trail := by
  obtain ⟨lead, trail, framed⟩ := Text.framed_trim (text.take offset)
  exact ⟨text.take offset, text.drop offset, lead, _, trail,
    (List.take_append_drop offset text).symm, List.length_take_of_le inside, framed⟩

-- With a stop marker ahead there is a body, and the nearest one ends it.
theorem bodyPastBlanks_of_stopAhead {text : Text} (ahead : stopAhead stops previous text = true) :
    ∃ front after lead content trail stop rest, text = front ++ after ∧
      Text.Framed front lead content trail ∧
      NearestStop stops previous (front ++ after) front.length stop rest ∧
      bodyPastBlanks stops previous text = some (lead, content, trail, stop, rest) := by
  obtain ⟨offset, inside, stop, rest, nearest⟩ := nearestStop_of_stopAhead ahead
  obtain ⟨front, after, lead, content, trail, rfl, rfl, framed⟩ := exists_framed text offset inside
  exact ⟨front, after, lead, content, trail, stop, rest, rfl, framed, nearest,
    bodyPastBlanks_eq inked framed nearest⟩

end Body

section Here

variable {grammar : Grammar}

/-- What stands between the two markers. -/
def body (definition : Definition) : Text :=
  definition.lead ++ definition.content ++ definition.trail

theorem written_eq (definition : Definition) :
    definition.written = definition.start.written ++ definition.body ++ definition.stop.written := by
  simp [written, body]

/-- Markers that start a definition. -/
def starts (grammar : Grammar) : Recogniser Marker :=
  Marker.recognise (Token.withWord grammar grammar.startWord)

/-- Stop markers that answer to a start marker. -/
def stopsFor (grammar : Grammar) (start : Marker) : Recogniser Marker :=
  Marker.recognise (Token.closing grammar start.token)

/-- A definition at the head of a text: a start marker, the content between blanks, and
the nearest stop marker that answers. -/
structure Spans (grammar : Grammar) (previous : Option Char) (text : Text)
    (definition : Definition) (after rest : Text) : Prop where
  opens : (definition.start, definition.body ++ after) ∈ starts grammar previous text
  framed : Text.Framed definition.body definition.lead definition.content definition.trail
  nearest : NearestStop (stopsFor grammar definition.start)
    (lastOr previous definition.start.written) (definition.body ++ after)
    definition.body.length definition.stop rest

variable (legible : grammar.Legible)

include legible

theorem stopsFor_inked (start : Marker) : Inked (stopsFor grammar start) :=
  Marker.recognise_inked
    ((Token.closer_readBy _ _).inked (Token.closer_lettered legible start.token))

theorem stopsFor_faithful (start : Marker) : Faithful Marker.written (stopsFor grammar start) :=
  Marker.recognise_faithful
    ((Token.closer_readBy _ _).faithful (Token.closer_lettered legible start.token))

theorem stopsFor_single (start : Marker) : Single (stopsFor grammar start) :=
  Marker.recognise_single (Token.closer_readBy _ _)
    (Token.closer_lettered legible start.token) (Token.closer_single start.token)

theorem starts_faithful : Faithful Marker.written (starts grammar) :=
  Marker.recognise_faithful
    ((Token.opener_readBy _ _).faithful (Token.opener_lettered legible.startWord))

theorem starts_single : Single (starts grammar) :=
  Marker.recognise_single (Token.opener_readBy _ _)
    (Token.opener_lettered legible.startWord) (Token.opener_single legible grammar.startWord)

theorem here?_spans {text : Text} {definition : Definition} {rest : Text}
    (found : here? grammar previous text = some (definition, rest)) :
    ∃ after, Spans grammar previous text definition after rest := by
  obtain ⟨⟨start, beyond⟩, member, read⟩ := List.exists_of_findSome?_eq_some found
  simp only at read
  split at read
  · next ahead =>
    obtain ⟨front, after, lead, content, trail, stop, final, rfl, framed, nearest, body⟩ :=
      bodyPastBlanks_of_stopAhead (stopsFor_inked legible start) ahead
    rw [stopsFor] at body
    rw [body] at read
    cases read
    -- the fields of the definition are the parts of the text up to the stop marker
    have parts : front = lead ++ content ++ trail := framed.parts
    subst parts
    exact ⟨after, member, framed, nearest⟩
  · cases read

theorem here?_eq_none {text : Text} (missed : here? grammar previous text = none)
    {start : Marker} {after : Text} (member : (start, after) ∈ starts grammar previous text)
    {offset : Nat} (inside : offset ≤ after.length) :
    readAt (stopsFor grammar start) (lastOr previous start.written) after offset = [] := by
  by_contra found
  have ahead := stopAhead_of_readAt inside found
  obtain ⟨front, beyond, lead, content, trail, stop, rest, _, _, _, body⟩ :=
    bodyPastBlanks_of_stopAhead (stopsFor_inked legible start) ahead
  have here := List.findSome?_eq_none_iff.mp missed (start, after) member
  rw [stopsFor] at ahead body
  simp [ahead, body] at here

theorem here?_of_spans {text : Text} {definition : Definition} {after rest : Text}
    (spans : Spans grammar previous text definition after rest) :
    here? grammar previous text = some (definition, rest) := by
  obtain ⟨others, found⟩ := List.head?_eq_some_iff.mp ((starts_single legible).head? spans.opens)
  have ahead : stopAhead (stopsFor grammar definition.start)
      (lastOr previous definition.start.written) (definition.body ++ after) = true := by
    have inside : definition.body.length ≤ (definition.body ++ after).length := by simp
    refine stopAhead_of_readAt inside fun none => ?_
    have here := spans.nearest.here
    rw [none] at here
    cases here
  have body := bodyPastBlanks_eq (stopsFor_inked legible definition.start) spans.framed
    spans.nearest
  rw [starts] at found
  rw [stopsFor] at ahead body
  simp [here?, found, ahead, body]

theorem recognise_faithful : Faithful written (recognise grammar) := by
  intro previous text definition rest member
  have found : here? grammar previous text = some (definition, rest) := by
    simpa [recognise] using member
  obtain ⟨after, opens, framed, nearest⟩ := here?_spans legible found
  obtain ⟨parts, present⟩ := starts_faithful legible _ _ _ _ opens
  have stop := (stopsFor_faithful legible definition.start).readAt
    (List.mem_of_mem_head? nearest.here)
  rw [List.drop_left] at stop
  rw [parts, stop, written_eq]
  exact ⟨by simp, by simp [present]⟩

end Here

end Definition

end Transclusion

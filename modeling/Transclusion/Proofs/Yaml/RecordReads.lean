import Transclusion.Proofs.Yaml.NodeTokens
import Transclusion.Proofs.Yaml.RecordWriting

/-!
A map that is written as a text of its own is read back from it, with every text as it is settled in
the style that is chosen for it.
-/

namespace Transclusion.Yaml

open TokenSource

section Lines

variable {text : Text}

theorem unixLines_clean (clean : Clean text) : Text.unixLines text = text := by
  induction text using Text.unixLines.induct with
  | case1 => rfl
  | case2 rest ih => exact absurd rfl (clean '\r' (by simp)).noReturn
  | case3 c rest _ ih =>
    obtain ⟨first, others⟩ := clean_cons.mp clean
    rw [Text.unixLines, ih others, if_neg first.noReturn]
    exact fun more same _ => first.noReturn same

theorem readable_clean (clean : Clean text) : readable text none = (text, none) := by
  have none : text.findIdx? (!isAllowed ·) = none := by
    rw [List.findIdx?_eq_none_iff]
    intro c member
    simp [(clean c member).allowed]
  simp [readable, badStretch?, none]

/-- Reading a text that nothing keeps from being read. -/
theorem read_of_parsed {root : Node} {last : Node.State} {value : Value} (clean : Clean text)
    (parsed : (Node.onlyDocument (4 * text.length + 8)).run { source := ofText text none } =
      .ok (some root, last)) (reads : root.reading.value = .ok value) : read text none = .ok value := by
  have settled : root.reading.value.settled = .ok value := by rw [reads]; rfl
  rw [read, unixLines_clean clean, readable_clean clean]
  cases text <;> simp only [parsed, settled]

end Lines

section Root

variable {entries : List (String × Record)} {isOpen : Bool}

/-- What closes a text whose last scalar is left open. -/
def dots (isOpen : Bool) : Text := if isOpen then ['.', '.', '.', '\n'] else []

theorem write_eq (present : entries ≠ []) (fits : Record.EntriesFit entries 0) :
    ∃ written closed isOpen, (write (Record.map entries).value).toList =
      written ++ (gap 0 closed ++ dots isOpen) ∧
        EntriesForm 0 (Record.entryTokens entries) written closed := by
  let inner : Sheet := { indent := some 0 }
  obtain ⟨written, closed, adds, ended, form⟩ :=
    adds_entries entries 0 inner present fits rfl ⟨rfl, rfl, rfl⟩
  have filled : (Record.entryValues entries).isEmpty = false := by
    obtain ⟨⟨name, item⟩, rest, rfl⟩ := List.exists_cons_of_ne_nil present
    rfl
  let outside : Sheet := { writeEntries (Record.entryValues entries) inner with indent := none }
  have whole : writeValue true false (Record.map entries).value {} = outside := by
    rw [Record.value, writeValue, if_neg (by simp [filled])]
    rfl
  have ended' : outside.Ended closed := ended.restored
  obtain ⟨between, there⟩ := ended'.toIndent
  have lines : outside.toIndent.written.toList = written ++ gap 0 closed := by
    rw [between.written]
    exact congrArg (· ++ gap 0 closed) adds.written
  have margin : outside.toIndent.indent = none := between.indent
  rw [write, whole]
  generalize outside.toIndent = turned at *
  cases isOpen : turned.openEnded with
  | false =>
    refine ⟨written, closed, false, ?_, form⟩
    simp [lines, dots]
  | true =>
    refine ⟨written, closed, true, ?_, form⟩
    have marked := Sheet.adds_mark ['.', '.', '.'] true false turned
    have line := (marked.trans (Sheet.toIndent_line (.inl (Bool.and_false _))).1).written
    rw [lines, marked.indent, margin] at line
    simp [line, there.atBlank, dots]

/-- A text that is read from its beginning. -/
theorem awaits_start {text : Text} (clean : Clean text) :
    (ofText text none).Awaits { rest := text } [] true := by
  have noMark : Place.sees { rest := text } '\uFEFF' = false := by
    rw [Place.sees_eq]
    cases text with
    | nil => rfl
    | cons c text =>
      have other := (clean c (by simp)).noMark
      simpa using other
  have start : ofText text none = { place := { rest := text } } := by
    rw [ofText]
    simp [noMark]
  rw [start]
  exact ⟨⟨[], by simp [Filler], .nil _, rfl⟩, rfl, rfl, rfl, rfl, by simp⟩

/-- The end of a text, behind dots if there are any. -/
theorem resumes_dotsEnd {place : Place} (there : place.rest = dots isOpen)
    (clear : place.obstacle = none) (margin : place.column = 0) :
    Resumes place [0] true (.blockEnd :: Node.documentEnds isOpen) := by
  cases isOpen with
  | false => exact resumes_end there clear (by simp)
  | true =>
    have whole : place.rest = ['.', '.', '.', '\n'] ++ [] := there
    have passes := Place.Passes.of_rest whole
    have final : Resumes _ [] true [.streamEnd] :=
      resumes_end (Place.rest_forward_of_eq whole) (passes.obstacle.trans clear) (by simp)
    exact resumes_dots there clear margin (by simp) passes final

/-- The tokens of a text that a map is written as. -/
theorem yields_written {written : Text} {closed : Bool}
    (form : EntriesForm 0 (Record.entryTokens entries) written closed)
    (clean : Clean (written ++ (gap 0 closed ++ dots isOpen))) :
    (ofText (written ++ (gap 0 closed ++ dots isOpen)) none).Yields
      (.blockMappingStart :: (Record.entryTokens entries ++ .blockEnd :: Node.documentEnds isOpen)) := by
  have awaits := awaits_start clean
  generalize same : ({ rest := written ++ (gap 0 closed ++ dots isOpen) } : Place) = start at awaits
  have there : start.rest = written ++ (gap 0 closed ++ dots isOpen) := by rw [← same]
  have clear : start.obstacle = none := by rw [← same]
  have margin : start.column = 0 := by rw [← same]
  have first := Place.Passes.of_rest there
  have between := Place.Passes.of_rest (Place.rest_forward_of_eq there)
  generalize start.forward written.length = stop at first between
  have rest : (stop.forward (gap 0 closed).length).rest = dots isOpen := by
    have whole := first.there.symm.trans there
    exact Place.rest_forward_of_eq (List.append_cancel_left whole)
  generalize stop.forward (gap 0 closed).length = next at between rest
  have begins : closed = true → stop.column = 0 := fun isClosed => (form.ends isClosed).column_eq first
  have ends := resumes_dotsEnd rest (between.obstacle.trans (first.obstacle.trans clear))
    (column_gap between begins)
  have opens : Enters 0 [] [0] [.blockMappingStart] := .opens (by simp)
  have all := form.resumes clear first margin opens (follows_gap between begins ends.atToken) ends
  have yields := all.yields awaits
  simpa [ofText] using yields

/-- What is written for a map is read as the map, its texts settled. -/
theorem read_write (present : entries ≠ []) (fits : Record.EntriesFit entries 0) :
    read (write (Record.map entries).value).toList none = .ok (Record.map entries).readBack := by
  obtain ⟨written, closed, isOpen, whole, form⟩ := write_eq present fits
  have clean : Clean (written ++ (gap 0 closed ++ dots isOpen)) := by
    refine clean_append.mpr ⟨form.clean, clean_append.mpr ⟨clean_gap 0 closed, ?_⟩⟩
    cases isOpen <;> simp [dots, cleanChar_of_printable, cleanChar_of_isBreak, isBreak]
  have tokens : (Record.map entries).tokens ++ Node.documentEnds isOpen =
      .blockMappingStart :: (Record.entryTokens entries ++ .blockEnd :: Node.documentEnds isOpen) := by
    rw [Record.tokens, if_neg (by simpa using present)]
    simp
  have enough : (Record.map entries).tokens.length ≤
      4 * (written ++ (gap 0 closed ++ dots isOpen)).length + 8 := by
    have short := form.short
    rw [Record.tokens, if_neg (by simpa using present)]
    simp only [List.length_cons, List.length_append, List.length_nil]
    omega
  have yields := yields_written form clean
  rw [← tokens] at yields
  obtain ⟨last, parsed, _⟩ := Node.gives_onlyDocument (Record.map entries) isOpen enough
    { source := ofText (written ++ (gap 0 closed ++ dots isOpen)) none } yields
  rw [whole]
  exact read_of_parsed clean parsed (Record.reading_record _)

end Root

end Transclusion.Yaml

import Transclusion.Proofs.BlockOrigins
import Transclusion.Proofs.Doubling

/-!
When two names are the same. The map of blocks compares their folds, doubling their case
forms, and a stop marker their lower case. Names are ASCII but for four stray letters: the
three relations agree on two names that match if and only if U+0130, U+0131 and U+017F
stand at the same places of both.
-/

namespace Transclusion

namespace Grammar

open Cutting

/-- The text is the name of some definition. -/
def Captures (name : Text) : Prop :=
  ∃ text, ∃ definition ∈ (Extraction.cutting standard text).marks, definition.name = name

/-- Doubling the markers of the first name takes the start marker of the second for one. -/
def Doubles (name other : Text) : Prop :=
  ∃ token, (token, []) ∈ Token.named standard name none (standard.startTag other false)

/-- A start marker of the first name and a stop marker of the second. -/
def enclosing (name other : Text) : Text :=
  standard.startTag name false ++ '\n' :: standard.stopTag other false

/-- The stop marker of the second name ends a definition that the start marker of the first
begins. -/
def Closes (name other : Text) : Prop :=
  ∃ definition ∈ (Extraction.cutting standard (enclosing name other)).marks,
    definition.name = name ∧ definition.stop.token.name = other

variable {name other text : Text} {definition : Definition}

theorem names_of_mem_cutting (found : definition ∈ (Extraction.cutting standard text).marks) :
    IsName definition.name ∧ Text.SameLower definition.name definition.stop.token.name := by
  rw [← Extraction.definitions_eq_cutting] at found
  obtain ⟨offset, located⟩ := exists_located Definition.written 0 found
  have stands := (Extraction.leftmost_definitions text).stands offset definition located
  exact ⟨stands.start.token.name, stands.stop.token.name⟩

theorem isName_of_captures (captured : Captures name) : IsName name := by
  obtain ⟨text, definition, found, rfl⟩ := captured
  exact (names_of_mem_cutting found).1

theorem doubles_iff (named : IsName name) (named' : IsName other) :
    Doubles name other ↔ Text.Spells name other := by
  have written : standard.startTag other false =
      (⟨standard.startWord, ['_'], other⟩ : Token).written := rfl
  rw [Doubles, written]
  constructor
  · rintro ⟨token, member⟩
    have stands := (Token.bearer_readBy _ _ _ _ _ _).mp member
    have parts := stands.parts
    rw [List.append_nil] at parts
    -- the marker is one token, so that is the one that is read
    have admits : Token.bound.Admits ⟨standard.startWord, ['_'], other⟩ :=
      ⟨Or.inl (Text.Spells.refl _), Or.inl rfl, named'⟩
    have equal := Token.bound_unique admits
      (Token.bound_of_spells named stands.word (Token.bearer_separator stands.separator) stands.name)
      parts
    have spells : Text.Spells name token.name := stands.name
    rwa [← equal] at spells
  · intro spells
    refine ⟨_, (Token.bearer_readBy _ _ _ _ _ _).mpr
      ⟨rfl, (List.append_nil _).symm, Or.inl (Text.Spells.refl _), Text.Spells.refl _, spells, rfl⟩⟩

/-- What stands in the text of two markers whose names are equal in lower case. -/
def enclosed (name other : Text) : Definition :=
  { start := Marker.bare ⟨standard.startWord, ['_'], name⟩
    lead := ['\n']
    content := []
    trail := []
    stop := Marker.bare ⟨standard.stopWord, ['_'], other⟩ }

theorem spans_enclosed (named : IsName name) (same : Text.SameLower name other) :
    Definition.Spans standard none (enclosing name other) (enclosed name other)
      (standard.stopTag other false) [] where
  opens := (Marker.mem_recognise_iff_at (Token.opener_readBy _ _)).mpr
    (.bare ⟨rfl, rfl, Text.Spells.refl _, Or.inl (Text.Spells.refl _), named, rfl⟩)
  framed := by
    have blank : Text.isBlank '\n' = true := by decide
    exact ⟨rfl, by simp [enclosed, blank], by simp [enclosed], by simp [enclosed],
      by simp [enclosed], fun _ => rfl⟩
  nearest := by
    constructor
    · refine (Definition.stopsFor_single standard_ordinary.legible _).head?
        ((Marker.mem_recognise_iff_at (Token.closer_readBy _ _)).mpr (.bare
          ⟨rfl, (List.append_nil _).symm, Text.Spells.refl _, Text.SameLower.refl _, same, rfl⟩))
    · intro earlier less
      have first : earlier = 0 := Nat.lt_one_iff.mp less
      subst first
      exact Definition.stopsFor_inked standard_ordinary.legible _ _ _ _ (by decide)

theorem closes_iff (named : IsName name) : Closes name other ↔ Text.SameLower name other := by
  constructor
  · rintro ⟨definition, found, rfl, rfl⟩
    exact (names_of_mem_cutting found).2
  · intro same
    have here := Definition.here?_of_spans standard_ordinary.legible (spans_enclosed named same)
    have whole : enclosing name other = (enclosed name other).written ++ [] := by
      simp [enclosing, enclosed, Definition.written, Marker.written, Marker.bare, Token.written,
        startTag, stopTag, separator, standard]
    refine ⟨enclosed name other, ?_, rfl, rfl⟩
    rw [whole] at here
    rw [Extraction.cutting, whole, ofText_marked
      (Definition.recognise_faithful standard_ordinary.legible)
      (by rw [Definition.recognise, here]; rfl), marks_marked]
    exact List.mem_cons_self

theorem captures_iff : Captures name ↔ IsName name := by
  refine ⟨isName_of_captures, fun named => ?_⟩
  obtain ⟨definition, found, same, _⟩ := (closes_iff named).mpr (Text.SameLower.refl name)
  exact ⟨_, definition, found, same⟩

/-- Three readings of one name, about two names of definitions. The map joins the names if and
only if their markers are doubled together and U+0130 and U+0131 stand at the same places of
both. The one closes a definition of the other if and only if they are doubled together and
U+0131 and U+017F stand at the same places of both. So the three agree if and only if names that
are doubled together have all three letters at the same places. -/
theorem sameNames_iff (captured : Captures name) (captured' : Captures other) :
    (Text.fold name = Text.fold other ↔
      Doubles name other ∧ Text.SamePlaces ['\u0130', '\u0131'] name other) ∧
    (Closes name other ↔
      Doubles name other ∧ Text.SamePlaces ['\u0131', '\u017F'] name other) ∧
    ((Text.fold name = Text.fold other ↔ Doubles name other) ∧
        (Doubles name other ↔ Closes name other) ↔
      (Doubles name other → Text.SamePlaces ['\u0130', '\u0131', '\u017F'] name other)) := by
  have named := isName_of_captures captured
  have named' := isName_of_captures captured'
  have folds := Text.fold_eq_iff_spells named named'
  have closes : Closes name other ↔ _ :=
    (closes_iff named).trans (Text.sameLower_iff_spells named named')
  rw [← doubles_iff named named'] at folds closes
  refine ⟨folds, closes, ?_⟩
  rw [folds, closes]
  simp only [Text.SamePlaces, List.forall_mem_cons, List.not_mem_nil, false_implies, implies_true]
  tauto

theorem sameNames_capital :
    Captures ['i', 's'] ∧ Captures ['I', 'S'] ∧ Text.fold ['i', 's'] = Text.fold ['I', 'S'] ∧
      Doubles ['i', 's'] ['I', 'S'] ∧ Closes ['i', 's'] ['I', 'S'] := by
  have captured : Captures ['i', 's'] := captures_iff.mpr (by decide +kernel)
  have captured' : Captures ['I', 'S'] := captures_iff.mpr (by decide +kernel)
  obtain ⟨folds, closes, _⟩ := sameNames_iff captured captured'
  have same : Text.fold ['i', 's'] = Text.fold ['I', 'S'] := by decide +kernel
  have doubles := (folds.mp same).1
  exact ⟨captured, captured', same, doubles, closes.mpr ⟨doubles, by decide⟩⟩

/-- The map joins the two names and their markers are doubled together, but the long s does not
close a definition named with an s. -/
theorem not_sameNames_long_s :
    Captures ['a', 's'] ∧ Captures ['a', '\u017F'] ∧
      Text.fold ['a', 's'] = Text.fold ['a', '\u017F'] ∧ Doubles ['a', 's'] ['a', '\u017F'] ∧
      ¬ Closes ['a', 's'] ['a', '\u017F'] := by
  have named : IsName ['a', 's'] := by decide +kernel
  have named' : IsName ['a', '\u017F'] := by decide +kernel
  exact ⟨captures_iff.mpr named, captures_iff.mpr named', by decide +kernel,
    (doubles_iff named named').mpr (by decide +kernel),
    fun closes => absurd ((closes_iff named).mp closes) (by decide +kernel)⟩

end Grammar

end Transclusion

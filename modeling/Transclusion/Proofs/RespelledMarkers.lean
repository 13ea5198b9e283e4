import Transclusion.Proofs.Respelling

/-!
Markers of a text whose markers are respelled. A marker keeps its wrapper, apart from the
words in the attributes of its opening tag. Each marker is read off the respelled text, and
each marker that is read off the respelled text comes from one.
-/

namespace Transclusion

open Cutting

namespace Text

theorem apart_of_last {c : Char} (outside : isWord c = false) (front back : Text) :
    Apart (front ++ [c]) back := Or.inl (by simp [opensWord, outside])

theorem apart_of_head {c : Char} (outside : isWord c = false) (front back : Text) :
    Apart front (c :: back) := Or.inr (by simp [closesWord, outside])

theorem apart_of_blanks {front : Text} (blank : ∀ c ∈ front, isWord c = false) (back : Text) :
    Apart front back := by
  cases last : front.getLast? with
  | none => exact Or.inl (by rw [last]; rfl)
  | some c => exact Or.inl (by rw [last]; simp [opensWord, blank c (List.mem_of_getLast? last)])

theorem isWord_of_isAngle {c : Char} (angle : isAngle c = true) : isWord c = false := by
  rcases Bool.or_eq_true _ _ |>.mp angle with same | same
  · rw [beq_iff_eq.mp same]
    exact Marker.not_isWord_open
  · rw [beq_iff_eq.mp same]
    exact Marker.not_isWord_close

theorem isWord_of_isInlineSpace {c : Char} (space : isInlineSpace c = true) : isWord c = false :=
  isWord_of_isBlank (isBlank_of_isInlineSpace space)

end Text

section Tags

theorem underscore_not_mem_element {element : Text} (named : IsElement element) :
    '_' ∉ element := by
  intro member
  cases element with
  | nil => exact named
  | cons c rest =>
    rcases List.mem_cons.mp member with rfl | later
    · exact absurd named.1 (by decide)
    · exact absurd (named.2 '_' later) (by decide)

theorem apart_of_openingTag {tag : Text} (opens : IsOpeningTag tag) (back : Text) :
    Text.Apart tag back := by
  obtain ⟨front, rfl⟩ := Marker.isOpeningTag_last opens
  exact Text.apart_of_last Marker.not_isWord_close front back

theorem apart_of_closingTag {ending : Text} (closes : IsClosingTag ending) (back : Text) :
    Text.Apart ending back := by
  cases closes with
  | tag before named after => exact Text.apart_of_last Marker.not_isWord_close _ back

theorem underscore_not_mem_closing {ending : Text} (closes : IsClosingTag ending) :
    '_' ∉ ending := by
  cases closes with
  | @tag spaces element blanks before named after =>
    have noSpace : '_' ∉ spaces := fun member => absurd (before '_' member) (by decide)
    have noBlank : '_' ∉ blanks := fun member => absurd (after '_' member) (by decide)
    simp [noSpace, noBlank, underscore_not_mem_element named]

end Tags

namespace Marker

variable {shape shape' : Token.Shape} {previous : Option Char} {text rest : Text} {marker : Marker}

theorem At.parts (here : At shape.At previous text marker rest) : text = marker.written ++ rest := by
  cases here with
  | bare here => simpa [written, Marker.bare] using here.parts
  | wrapped opens apart here closes => simp [written, here.parts]

theorem At.admits (here : At shape.At previous text marker rest) : shape.Admits marker.token := by
  cases here with
  | bare here => exact here.admits
  | wrapped opens apart here closes => exact here.admits

-- Whether a marker stands somewhere depends on the shape through the token alone.
theorem At.of_admits (here : At shape.At previous text marker rest)
    (admits : shape'.Admits marker.token) : At shape'.At previous text marker rest := by
  cases here with
  | bare here =>
    exact .bare ⟨here.opens, here.parts, admits.word, admits.separator, admits.name, here.closes⟩
  | wrapped opens apart here closes =>
    exact .wrapped opens apart
      ⟨here.opens, here.parts, admits.word, admits.separator, admits.name, here.closes⟩ closes

/-- The marker with its token respelled, and the words of the tag before it too. -/
def respelled (names : List Text) (f : Text → Text) (marker : Marker) : Marker :=
  ⟨marker.opening.map f, marker.token.respelled names, marker.ending⟩

end Marker

open Token Text

namespace Respells

variable {names : List Text} {f : Text → Text} (respells : Respells names f)

include respells

section Tags

variable {tag : Text}

theorem isOpeningTag_map (opens : IsOpeningTag tag) : IsOpeningTag (f tag) := by
  cases opens with
  | @plain element named =>
    rw [respells.map_of_plain (by simp [underscore_not_mem_element named])]
    exact .plain named
  | @attributed element attributes blank named apart flat =>
    have outside := isWord_of_isBlank apart
    have noBlank : '_' ≠ blank := by
      rintro rfl
      exact absurd apart (by decide)
    have front : f ('<' :: element ++ [blank]) = '<' :: element ++ [blank] :=
      respells.map_of_plain (by simp [underscore_not_mem_element named, noBlank])
    have image : f ('<' :: element ++ blank :: attributes ++ ['>']) =
        '<' :: element ++ blank :: f attributes ++ ['>'] := by
      have parts : '<' :: element ++ blank :: attributes ++ ['>'] =
          ('<' :: element ++ [blank]) ++ (attributes ++ ['>']) := by simp
      rw [parts, respells.append (apart_of_last outside _ _), front,
        respells.append (apart_of_head Marker.not_isWord_close _ _),
        respells.map_of_plain (show '_' ∉ ['>'] by decide)]
      simp
    rw [image]
    refine .attributed named apart fun c member => ?_
    cases angle : isAngle c with
    | false => rfl
    | true =>
      rw [← angle]
      exact flat c ((respells.mem_map_iff (isWord_of_isAngle angle)).mp member)

theorem isOpeningTag_of_map (opens : IsOpeningTag (f tag)) : IsOpeningTag tag := by
  generalize image : f tag = whole at opens
  cases opens with
  | @plain element named =>
    rw [respells.eq_of_map_plain (by simp [underscore_not_mem_element named]) image]
    exact .plain named
  | @attributed element attributes blank named apart flat =>
    have outside := isWord_of_isBlank apart
    have noBlank : '_' ≠ blank := by
      rintro rfl
      exact absurd apart (by decide)
    have parts : f tag = ('<' :: element ++ [blank]) ++ (attributes ++ ['>']) := by
      rw [image]
      simp
    obtain ⟨front, back, rfl, _, first, second⟩ :=
      respells.split parts (apart_of_last outside _ _)
    obtain ⟨inner, close, rfl, _, middle, last⟩ :=
      respells.split second (apart_of_head Marker.not_isWord_close _ _)
    rw [respells.eq_of_map_plain (by simp [underscore_not_mem_element named, noBlank]) first,
      respells.eq_of_map_plain (show '_' ∉ ['>'] by decide) last]
    have flat' : ∀ c ∈ inner, isAngle c = false := by
      intro c member
      cases angle : isAngle c with
      | false => rfl
      | true =>
        rw [← angle]
        exact flat c (middle ▸ (respells.mem_map_iff (isWord_of_isAngle angle)).mpr member)
    have whole : '<' :: element ++ [blank] ++ (inner ++ ['>']) =
        '<' :: element ++ blank :: inner ++ ['>'] := by simp
    rw [whole]
    exact .attributed named apart flat'

end Tags

section Places

variable {shape shape' : Token.Shape} {previous previous' : Option Char} {text rest rest' : Text}

theorem token_at {token : Token} (bounds : bound.Admits token)
    (admits : shape'.Admits (token.respelled names)) (opens : opensWord previous' = true)
    (here : shape.At previous text token rest) :
    shape'.At previous' (f text) (token.respelled names) (f rest) := by
  refine ⟨opens, ?_, admits.word, admits.separator, admits.name, ?_⟩
  · rw [here.parts, respells.word _ _ (wordRun_of_bound bounds) here.closes,
      respells.map_written bounds]
  · rw [respells.closesWord_map]
    exact here.closes

theorem exists_token_at {token' : Token} (bounds : bound.Admits token')
    (here : shape'.At previous' (f text) token' rest') :
    ∃ token rest, bound.Admits token ∧ text = token.written ++ rest ∧
      token.respelled names = token' ∧ f rest = rest' ∧ closesWord rest = true := by
  obtain ⟨word, rest, rfl, _, image, rfl⟩ := respells.split here.parts (Or.inr here.closes)
  have run := respells.run_of_map (image ▸ wordRun_of_bound bounds)
  obtain ⟨token, bounds', rfl, same⟩ := respells.exists_token run bounds image
  exact ⟨token, rest, bounds', rfl, same, rfl, by
    rw [← respells.closesWord_map]
    exact here.closes⟩

/-- A marker is read off the respelled text where it is read off the text. -/
theorem marker_at {marker : Marker} (bounds : bound.Admits marker.token)
    (admits : shape'.Admits (marker.token.respelled names)) (side : SameSide previous previous')
    (here : Marker.At shape.At previous text marker rest) :
    Marker.At shape'.At previous' (f text) (marker.respelled names f) (f rest) := by
  cases here with
  | bare here =>
    exact .bare (respells.token_at bounds admits (side.opensWord_eq.trans here.opens) here)
  | @wrapped tag spaces beyond token ending _ opens apart here closes =>
    have between := apart_of_openingTag opens
    have blank : ∀ c ∈ spaces, isWord c = false :=
      fun c member => isWord_of_isInlineSpace (apart c member)
    have image : f (tag ++ spaces) = f tag ++ spaces := by
      rw [respells.append (between _), respells.map_of_outside blank]
    have after : f (ending ++ rest) = ending ++ f rest := by
      rw [respells.append (apart_of_closingTag closes rest), respells.map_of_plain (underscore_not_mem_closing closes)]
    have whole : f (tag ++ spaces ++ beyond) = f tag ++ spaces ++ f beyond := by
      rw [List.append_assoc, respells.append (between _),
        respells.append (apart_of_blanks blank _), respells.map_of_outside blank,
        List.append_assoc]
    have stands := respells.token_at bounds admits here.opens here
    rw [after] at stands
    rw [whole]
    simp only [Marker.respelled, Option.map_some, image]
    exact .wrapped (respells.isOpeningTag_map opens) apart stands closes

/-- A marker that is read off the respelled text comes from a marker of the text. -/
theorem exists_marker_at {marker' : Marker} (bounds : bound.Admits marker'.token)
    (side : SameSide previous previous')
    (here : Marker.At shape'.At previous' (f text) marker' rest') :
    ∃ marker rest, Marker.At bound.At previous text marker rest ∧
      marker.respelled names f = marker' ∧ f rest = rest' := by
  generalize image : f text = whole at here
  cases here with
  | @bare _ token' _ here =>
    subst image
    obtain ⟨token, rest, bounds', rfl, rfl, rfl, closes⟩ := respells.exists_token_at bounds here
    exact ⟨.bare token, rest, .bare ⟨side.opensWord_eq.symm.trans here.opens, rfl, bounds'.word,
      bounds'.separator, bounds'.name, closes⟩, rfl, rfl⟩
  | @wrapped tag' spaces beyond' token' ending _ opens apart here closes =>
    have blank : ∀ c ∈ spaces, isWord c = false :=
      fun c member => isWord_of_isInlineSpace (apart c member)
    have noUnderscore : '_' ∉ spaces := fun member => absurd (apart '_' member) (by decide)
    rw [List.append_assoc] at image
    -- the tag, the spaces, the token and the closing tag each come from a part of the text
    obtain ⟨tag, after, rfl, _, rfl, later⟩ :=
      respells.split image (apart_of_openingTag opens _)
    obtain ⟨spaces, beyond, rfl, _, same, rfl⟩ := respells.split later (apart_of_blanks blank _)
    have equal := respells.eq_of_map_plain noUnderscore same
    subst equal
    obtain ⟨token, more, bounds', rfl, rfl, ends, closes'⟩ :=
      respells.exists_token_at bounds here
    obtain ⟨final, rest, rfl, _, same', rfl⟩ :=
      respells.split ends (apart_of_closingTag closes _)
    have equal := respells.eq_of_map_plain (underscore_not_mem_closing closes) same'
    subst equal
    have source := respells.isOpeningTag_of_map opens
    refine ⟨⟨some (tag ++ spaces), token, final⟩, rest, ?_, ?_, rfl⟩
    · rw [← List.append_assoc]
      exact .wrapped source apart
        ⟨here.opens, rfl, bounds'.word, bounds'.separator, bounds'.name, closes'⟩ closes
    · simp only [Marker.respelled, Option.map_some,
        respells.append (apart_of_openingTag source spaces), same]

end Places

end Respells

end Transclusion

import Transclusion.Proofs.AcceptedGrammar
import Transclusion.Proofs.Definitions
import Transclusion.Proofs.Markup
import Transclusion.Proofs.References

/-!
The tags taken with a marker. A marker is hugged by the opening tag before it and the closing
tag behind it, whatever elements they belong to. In a text whose tags are balanced they are
the tags of one element, unless the opening tag is one that leaves nothing open, such as a
line break: then the closing tag belongs to an element around them. Substitution keeps the
tags balanced when no such tag is taken, and only then.
-/

namespace Transclusion

open Markup

namespace Token

/-- A shape whose tokens hold no angle bracket. -/
def Shape.Flat (shape : Shape) : Prop :=
  ∀ previous text token rest, shape.At previous text token rest → Markup.Flat token.written

theorem flat_of_spells {word text : Text} (flat : Markup.Flat word) (spells : Text.Spells word text) :
    Markup.Flat text := by
  intro c member
  have key : Text.caseKey c ∈ word.map Text.caseKey := by
    rw [show word.map Text.caseKey = text.map Text.caseKey from spells]
    exact List.mem_map_of_mem member
  obtain ⟨letter, inside, same⟩ := List.mem_map.mp key
  by_contra angle
  -- a bracket has no case forms but itself
  have bracket : ∀ other : Char, c = other → Text.caseKey other = other → other.toNat < 128 →
      other.isLower = false → letter = c := by
    rintro other rfl itself ascii notLower
    exact Text.eq_of_caseKey_eq (same.trans itself) ascii notLower
  have equal : letter = c := by
    rcases Bool.or_eq_true_iff.mp (Bool.not_eq_false _ ▸ angle) with opens | closes
    · exact bracket '<' (beq_iff_eq.mp opens) (by decide +kernel) (by decide) (by decide)
    · exact bracket '>' (beq_iff_eq.mp closes) (by decide +kernel) (by decide) (by decide)
  rw [equal] at inside
  exact angle (flat c inside)

theorem not_angle_of_isWord {c : Char} (word : Text.isWord c = true) : isAngle c = false := by
  by_contra angle
  have bracket : Text.isWord '<' = false ∧ Text.isWord '>' = false := by decide
  rcases Bool.or_eq_true_iff.mp (Bool.not_eq_false _ ▸ angle) with opens | closes
  · rw [beq_iff_eq.mp opens, bracket.1] at word
    cases word
  · rw [beq_iff_eq.mp closes, bracket.2] at word
    cases word

theorem flat_of_isMarkerWord {word : Text} (shape : IsMarkerWord word) : Markup.Flat word := by
  intro c member
  rcases shape.alphanumeric_or_lineFeed c member with alphanumeric | rfl
  · exact not_angle_of_isWord
      (Text.isWord_of_isAlphanumeric (Text.isAlphanumeric_of_isAlphanum alphanumeric))
  · decide

variable {grammar : Grammar}

theorem opener_flat (accepted : grammar.Accepted) {word : Text} (shape : IsMarkerWord word) :
    (opener grammar word).Flat := by
  intro previous text token rest stands
  have inWord : Markup.Flat token.word := flat_of_spells (flat_of_isMarkerWord shape) stands.word
  have inSeparator : Markup.Flat token.separator := by
    obtain ⟨sign, split, isSign⟩ := accepted.split
    have once : Markup.Flat grammar.split := by
      rw [split]
      intro c member
      rw [List.mem_singleton.mp member]
      exact isSign.notAngle
    rcases stands.separator with spells | spells
    · exact flat_of_spells once spells
    · exact flat_of_spells (once.append once) spells
  have inName : Markup.Flat token.name := fun c member =>
    not_angle_of_isWord (Text.isWord_of_isNameTail (IsName.tail stands.name c member))
  exact (inWord.append inSeparator).append inName

theorem closer_flat (accepted : grammar.Accepted) {opened : Token}
    (flat : Markup.Flat opened.written) : (closer grammar opened).Flat := by
  intro previous text token rest stands
  have inWord : Markup.Flat token.word :=
    flat_of_spells (flat_of_isMarkerWord accepted.stopWord) stands.word
  have inSeparator : Markup.Flat token.separator :=
    flat_of_spells (fun c member => flat c (by simp [written, member]))
      (Text.spells_of_sameLower stands.separator)
  have inName : Markup.Flat token.name :=
    flat_of_spells (fun c member => flat c (by simp [written, member]))
      (Text.spells_of_sameLower stands.name)
  exact (inWord.append inSeparator).append inName

end Token

namespace Markup

theorem not_stroke_of_isLetterForm {c : Char} (letter : isLetterForm c = true) : c ≠ '/' := by
  rintro rfl
  have stroke : isLetterForm '/' = false := by decide +kernel
  rw [stroke] at letter
  cases letter

theorem flat_of_isElementTail {element : Text} (all : ∀ c ∈ element, isElementTail c = true) :
    Flat element :=
  fun c member => Token.not_angle_of_isWord (isWord_of_isElementTail (all c member))

theorem not_angle_of_isBlank {c : Char} (blank : Text.isBlank c = true) : isAngle c = false := by
  have bracket : Text.isBlank '<' = false ∧ Text.isBlank '>' = false := by decide
  by_contra angle
  rcases Bool.or_eq_true_iff.mp (Bool.not_eq_false _ ▸ angle) with opens | closes
  · rw [beq_iff_eq.mp opens, bracket.1] at blank
    cases blank
  · rw [beq_iff_eq.mp closes, bracket.2] at blank
    cases blank

theorem IsElement.tail {element : Text} (named : IsElement element) :
    ∀ c ∈ element, isElementTail c = true := by
  cases element with
  | nil => exact absurd named id
  | cons c rest =>
    intro d member
    rcases List.mem_cons.mp member with rfl | later
    · simp [isElementTail, named.1]
    · exact named.2 d later

-- What follows the bracket of an opening tag begins with a letter.
theorem opening_inner {tag : Text} (opens : IsOpeningTag tag) :
    ∃ c inner, tag = '<' :: (c :: inner) ++ ['>'] ∧ isLetterForm c = true ∧ Flat (c :: inner) := by
  cases opens with
  | @plain element named =>
    cases element with
    | nil => exact absurd named id
    | cons c rest => exact ⟨c, rest, rfl, named.1, flat_of_isElementTail (IsElement.tail named)⟩
  | @attributed element attributes blank named apart flat =>
    cases element with
    | nil => exact absurd named id
    | cons c rest =>
      refine ⟨c, rest ++ blank :: attributes, by simp, named.1, ?_⟩
      have inElement := flat_of_isElementTail (IsElement.tail named)
      refine inElement.append fun d member => ?_
      rcases List.mem_cons.mp member with rfl | inside
      · exact not_angle_of_isBlank apart
      · exact flat d inside

theorem opening_read {tag spaces : Text} (opens : IsOpeningTag tag)
    (apart : ∀ c ∈ spaces, isInlineSpace c = true) :
    ∃ first, (first = .alone ∨ ∃ name, first = .opens name) ∧
      ∀ pending, tagsAfter pending (tag ++ spaces) = [first] ∧
        pendingAfter pending (tag ++ spaces) = none := by
  obtain ⟨c, inner, rfl, letter, flat⟩ := opening_inner opens
  have noStroke := not_stroke_of_isLetterForm letter
  have shape : IsInner (c :: inner) := by
    refine ⟨flat, ?_, by simp, by simp [noStroke]⟩
    cases inner <;> simp [begins, noStroke, letter]
  have blank : Flat spaces := fun d member =>
    not_angle_of_isBlank (Text.isBlank_of_isInlineSpace (apart d member))
  refine ⟨tagOf (c :: inner), ?_, fun pending => ?_⟩
  · by_cases lone : (c :: inner).getLast? = some '/' ∨
        String.ofList (elementName (c :: inner)) ∈ voidElements
    · exact Or.inl (by simp [tagOf, noStroke, lone])
    · exact Or.inr ⟨elementName (c :: inner), by simp [tagOf, noStroke, lone]⟩
  · obtain ⟨read, done⟩ := tag_read shape pending
    constructor
    · rw [tagsAfter_append, read, tagsAfter_flat blank, List.append_nil]
    · rw [pendingAfter_append, done, pendingAfter_flat blank]

theorem closing_read {ending : Text} (closes : IsClosingTag ending) :
    ∃ name, tags ending = [.closes name] ∧ pendingAfter none ending = none := by
  cases closes with
  | @tag spaces element blanks before named after =>
    have blank : Flat spaces := fun d member =>
      not_angle_of_isBlank (Text.isBlank_of_isInlineSpace (before d member))
    have shape : IsInner ('/' :: element ++ blanks) := by
      have flat : Flat (element ++ blanks) :=
        Flat.append (flat_of_isElementTail (IsElement.tail named)) fun d member =>
          not_angle_of_isBlank (after d member)
      refine ⟨fun c member => ?_, ?_, ?_⟩
      · rcases List.mem_cons.mp member with rfl | inside
        · decide
        · exact flat c inside
      · cases element with
        | nil => exact absurd named id
        | cons c rest => exact named.1
      · cases element with
        | nil => exact absurd named id
        | cons c rest => simp
    obtain ⟨read, done⟩ := tag_read shape none
    have parts : spaces ++ '<' :: '/' :: element ++ blanks ++ ['>'] =
        spaces ++ ('<' :: ('/' :: element ++ blanks) ++ ['>']) := by simp
    refine ⟨elementName (element ++ blanks), ?_, ?_⟩
    · rw [parts, tags, tagsAfter_append, tagsAfter_flat blank, pendingAfter_flat blank, read]
      rfl
    · rw [parts, pendingAfter_append, pendingAfter_flat blank, done]

end Markup

namespace Marker

/-- The tags taken with a marker, if any, open and close one element. -/
def OneElement (marker : Marker) : Prop :=
  ∀ opening ∈ marker.opening, ∃ name, tags opening = [.opens name] ∧
    tags marker.ending = [.closes name]

/-- The opening tag taken with a marker leaves nothing open. -/
def isLone (marker : Marker) : Bool := marker.opening.any fun opening => tags opening == [.alone]

/-- The tags that a marker takes: none, or an opening and a closing one. -/
inductive Tagged : Marker → Prop where
  | bare {token : Token} (flat : Flat token.written) : Tagged (bare token)
  | wrapped {opening : Text} {token : Token} {ending : Text} {first : Tag} {name : Text}
      (opens : first = .alone ∨ ∃ name, first = .opens name)
      (front : ∀ pending, tagsAfter pending opening = [first] ∧
        pendingAfter pending opening = none)
      (flat : Flat token.written)
      (back : tags ending = [.closes name] ∧ pendingAfter none ending = none) :
      Tagged ⟨some opening, token, ending⟩

theorem tagged_of_mem {shape : Token.Shape} {tokens : Recogniser Token}
    (readBy : shape.ReadBy tokens) (flat : shape.Flat) {previous : Option Char} {text : Text}
    {marker : Marker} {rest : Text} (member : (marker, rest) ∈ recognise tokens previous text) :
    Tagged marker := by
  cases (mem_recognise_iff_at readBy).mp member with
  | bare here => exact .bare (flat _ _ _ _ here)
  | wrapped opens apart here closes =>
    obtain ⟨first, kind, front⟩ := opening_read opens apart
    obtain ⟨name, back⟩ := closing_read closes
    exact .wrapped kind front (flat _ _ _ _ here) back

variable {marker : Marker}

theorem Tagged.flat (tagged : Tagged marker) : Flat marker.token.written := by
  cases tagged with
  | bare flat => exact flat
  | wrapped _ _ flat _ => exact flat

-- A wrapped marker is read as its two tags.
theorem Tagged.read {opening : Text} {token : Token} {ending : Text} {first : Tag} {name : Text}
    (front : ∀ pending, tagsAfter pending opening = [first] ∧ pendingAfter pending opening = none)
    (flat : Flat token.written)
    (back : tags ending = [.closes name] ∧ pendingAfter none ending = none)
    (pending : Option Text) :
    tagsAfter pending (Marker.mk (some opening) token ending).written = [first, .closes name] ∧
      pendingAfter pending (Marker.mk (some opening) token ending).written = none := by
  have parts : (Marker.mk (some opening) token ending).written =
      opening ++ (token.written ++ ending) := by simp [Marker.written]
  obtain ⟨read, done⟩ := front pending
  constructor
  · rw [parts, tagsAfter_append, read, done, tagsAfter_append, tagsAfter_flat flat,
      pendingAfter_flat flat, ← tags, back.1]
    rfl
  · rw [parts, pendingAfter_append, done, pendingAfter_append, pendingAfter_flat flat, back.2]

theorem Tagged.pendingAfter_written (tagged : Tagged marker) :
    pendingAfter none marker.written = none := by
  cases tagged with
  | bare flat => simpa [Marker.written, Marker.bare] using pendingAfter_flat flat
  | wrapped kind front flat back => exact (Tagged.read front flat back none).2

theorem OneElement.isLone_eq (one : marker.OneElement) : marker.isLone = false := by
  cases opening : marker.opening with
  | none => simp [isLone, opening]
  | some tag =>
    obtain ⟨name, opens, _⟩ := one tag opening
    simp [isLone, opening, opens]

/-- In a text with balanced tags the tags taken with a marker are those of one element,
unless the opening tag leaves nothing open. -/
theorem Tagged.oneElement_iff (tagged : Tagged marker) {front rest : Text}
    (balanced : Balanced (front ++ (marker.written ++ rest))) :
    marker.OneElement ↔ marker.isLone = false := by
  cases tagged with
  | bare flat => simp [OneElement, isLone, Marker.bare]
  | @wrapped opening token ending first name kind before flat back =>
    have opened : tags opening = [first] := (before none).1
    refine ⟨OneElement.isLone_eq, fun notLone => ?_⟩
    have other : first ≠ .alone := by
      rintro rfl
      simp [isLone, opened] at notLone
    obtain ⟨element, rfl⟩ := kind.resolve_left other
    -- the closing tag answers to the element that the opening tag has just opened
    have closed := balanced.closed
    rw [tags, tagsAfter_append, tagsAfter_append, (Tagged.read before flat back _).1,
      closeAll_append] at closed
    obtain ⟨elements, _, further⟩ := Option.bind_eq_some_iff.mp closed
    have answers : element = name := by
      by_contra differ
      simp [close_cons, close, differ] at further
    intro opening' same
    cases same
    exact ⟨element, opened, answers ▸ back.1⟩

end Marker

/-- A marker taken somewhere in a text: a show marker, or the start or the stop marker of a
definition. -/
inductive Consumed (grammar : Grammar) (text : Text) : Marker → Prop where
  | reference {offset : Nat} {marker : Marker} {rest : Text}
      (read : (marker, rest) ∈ Cutting.readAt (Marker.shows grammar) none text offset) :
      Consumed grammar text marker
  | start {offset : Nat} {definition : Definition} {rest : Text}
      (read : (definition, rest) ∈ Cutting.readAt (Definition.recognise grammar) none text offset) :
      Consumed grammar text definition.start
  | stop {offset : Nat} {definition : Definition} {rest : Text}
      (read : (definition, rest) ∈ Cutting.readAt (Definition.recognise grammar) none text offset) :
      Consumed grammar text definition.stop

theorem Consumed.tagged {grammar : Grammar} (accepted : grammar.Accepted) {text : Text}
    {marker : Marker} (consumed : Consumed grammar text marker) :
    marker.Tagged ∧ ∃ front rest, text = front ++ (marker.written ++ rest) := by
  have startTagged : ∀ {previous : Option Char} {text : Text} {start : Marker} {rest : Text},
      (start, rest) ∈ Definition.starts grammar previous text → start.Tagged :=
    Marker.tagged_of_mem (Token.opener_readBy _ _) (Token.opener_flat accepted accepted.startWord)
  have spanned : ∀ {offset : Nat} {definition : Definition} {rest : Text},
      (definition, rest) ∈ Cutting.readAt (Definition.recognise grammar) none text offset →
      ∃ after, Definition.Spans grammar (Cutting.lastOr none (text.take offset))
        (text.drop offset) definition after rest := by
    intro offset definition rest read
    exact Definition.here?_spans accepted.legible (by
      simpa [Cutting.readAt, Definition.recognise] using read)
  cases consumed with
  | reference read =>
    obtain ⟨front, parts, _⟩ := (Marker.shows_faithful accepted.legible).split read
    exact ⟨Marker.tagged_of_mem (Token.opener_readBy _ _)
      (Token.opener_flat accepted accepted.showWord) read, front, _, parts⟩
  | start read =>
    obtain ⟨after, spans⟩ := spanned read
    obtain ⟨front, parts, _⟩ := (Definition.recognise_faithful accepted.legible).split read
    exact ⟨startTagged spans.opens, front, _, by
      rw [parts, Definition.written_eq, List.append_assoc, List.append_assoc]⟩
  | @stop _ definition rest read =>
    obtain ⟨after, spans⟩ := spanned read
    obtain ⟨front, parts, _⟩ := (Definition.recognise_faithful accepted.legible).split read
    -- the stop marker repeats the separator and the name of the start marker
    have opened : Flat definition.start.token.written := (startTagged spans.opens).flat
    refine ⟨Marker.tagged_of_mem (Token.closer_readBy _ _) (Token.closer_flat accepted opened)
      (List.mem_of_mem_head? spans.nearest.here),
      front ++ (definition.start.written ++ definition.body), rest, ?_⟩
    rw [parts, Definition.written_eq]
    simp

namespace Substitution

open Cutting

variable {Store Failure : Type}

/-- Whatever a resolver gives has balanced tags. -/
def Resolver.Balanced (resolve : Resolver Store Failure) : Prop :=
  ∀ name multi session content after,
    (resolve name multi).run session = (.ok (some content), after) → Markup.Balanced content

theorem balanced_empty : Markup.Balanced [] := ⟨rfl, rfl⟩

theorem balanced_reply {resolve : Resolver Store Failure} (gives : Resolver.Balanced resolve)
    (name : Text) (multi : Bool) (session : Session Store) :
    Markup.Balanced ((resolveOne resolve name multi).run session).1.text := by
  simp only [resolveOne, StateT.run_bind]
  rcases found : (resolve name multi).run session with ⟨outcome, after⟩
  match outcome with
  | .ok (some content) => exact gives name multi session content after found
  | .ok none => exact balanced_empty
  | .error _ => exact balanced_empty

theorem balanced_answers {grammar : Grammar} {resolve : Resolver Store Failure}
    (gives : Resolver.Balanced resolve) (markers : List Marker) {answers : List Answer}
    (before : ∀ answer ∈ answers, Markup.Balanced answer.reply.text) (session : Session Store) :
    ∀ answer ∈ ((answerAll grammar resolve markers answers).run session).1,
      Markup.Balanced answer.reply.text := by
  induction markers generalizing answers session with
  | nil => exact before
  | cons marker markers ih =>
    rw [answerAll]
    split
    · exact ih before session
    · simp only [StateT.run_bind]
      have first := balanced_reply gives marker.token.name
        (grammar.isMulti marker.token.separator) session
      rcases run : (resolveOne resolve marker.token.name
        (grammar.isMulti marker.token.separator)).run session with ⟨reply, after⟩
      rw [run] at first
      refine ih (fun answer member => ?_) after
      rcases List.mem_append.mp member with earlier | last
      · exact before answer earlier
      · rw [List.mem_singleton.mp last]
        exact first

theorem balanced_replacement {answers : List Answer}
    (all : ∀ answer ∈ answers, Markup.Balanced answer.reply.text) (marker : Marker) :
    Markup.Balanced (replacement answers marker) := by
  rw [replacement]
  cases found : known? answers marker.written with
  | none => exact balanced_empty
  | some answer => exact all answer (List.mem_of_find?_eq_some found)

/-- What comes of the tags of a text when its markers are replaced by balanced texts, and how
many opening tags that leave nothing open are taken with them. -/
inductive Refilled : List Tag → List Tag → Nat → Prop where
  | done : Refilled [] [] 0
  | kept {before after : List Tag} {lone : Nat} (tag : Tag) (further : Refilled before after lone) :
      Refilled (tag :: before) (tag :: after) lone
  | put {before after : List Tag} {lone : Nat} {content : Text}
      (balanced : Markup.Balanced content) (further : Refilled before after lone) :
      Refilled before (tags content ++ after) lone
  | element {before after : List Tag} {lone : Nat} (opened closed : Text)
      (further : Refilled before after lone) :
      Refilled (.opens opened :: .closes closed :: before) after lone
  | lone {before after : List Tag} {lone : Nat} (closed : Text)
      (further : Refilled before after lone) :
      Refilled (.alone :: .closes closed :: before) after (lone + 1)

namespace Refilled

variable {before after : List Tag} {lone : Nat}

theorem keep (front : List Tag) (further : Refilled before after lone) :
    Refilled (front ++ before) (front ++ after) lone := by
  induction front with
  | nil => exact further
  | cons tag front ih => exact ih.kept tag

-- A closing tag that stays without its opening tag takes the depth one further out.
theorem depth_eq (refilled : Refilled before after lone) : depth after = depth before + lone := by
  induction refilled with
  | done => rfl
  | kept tag _ ih =>
    rw [depth_cons, depth_cons, ih]
    omega
  | put balanced _ ih => rw [depth_append, balanced.depth_eq, ih, Int.zero_add]
  | element opened closed _ ih =>
    rw [depth_cons, depth_cons, ih]
    simp only [Tag.depth]
    omega
  | lone closed _ ih =>
    rw [depth_cons, depth_cons, ih]
    simp only [Tag.depth]
    omega

-- Whole elements and balanced contents change nothing outside them.
theorem closeAll_eq (refilled : Refilled before after lone) (none : lone = 0)
    {elements open_ : List Text} (closed : closeAll elements before = some open_) :
    closeAll elements after = some open_ := by
  induction refilled generalizing elements with
  | done => exact closed
  | kept tag _ ih =>
    rw [close_cons] at closed ⊢
    obtain ⟨between, first, others⟩ := Option.bind_eq_some_iff.mp closed
    rw [first]
    exact ih none others
  | put balanced _ ih =>
    rw [closeAll_append, balanced.closeAll_tags]
    exact ih none closed
  | element opened closing _ ih =>
    by_cases same : opened = closing
    · exact ih none (by simpa [close_cons, close, same] using closed)
    · simp [close_cons, close, same] at closed
  | lone closing _ _ => cases none

-- What is put in the place of a marker takes the place of the tags of its wrapper.
theorem marker {marker : Marker} (tagged : marker.Tagged) {content : Text}
    (balanced : Markup.Balanced content) (refilled : Refilled before after lone) :
    Refilled (tagsAfter none marker.written ++ before) (tagsAfter none content ++ after)
      (lone + if marker.isLone then 1 else 0) := by
  cases tagged with
  | @bare token flat =>
    have none : tagsAfter none (Marker.bare token).written = [] := by
      simpa [Marker.written, Marker.bare] using tagsAfter_flat flat none
    have notLone : (Marker.bare token).isLone = false := rfl
    rw [none, if_neg (by simp [notLone])]
    exact refilled.put balanced
  | @wrapped opening token ending first name kind front flat back =>
    rw [(Marker.Tagged.read front flat back none).1]
    have opened : tags opening = [first] := (front none).1
    rcases kind with rfl | ⟨element, rfl⟩
    · rw [if_pos (by simp [Marker.isLone, opened])]
      exact (refilled.lone name).put balanced
    · rw [if_neg (by simp [Marker.isLone, opened])]
      exact (refilled.element element name).put balanced

end Refilled

/-- Where a text is outside its tags at each of its marks, the tags that its marks take make
room for those of what is put there. -/
theorem refilled_fill {grammar : Grammar} (accepted : grammar.Accepted) {previous : Option Char}
    {text : Text} {cutting : Cutting Marker}
    (reads : Reads Marker.written (Marker.shows grammar) previous text cutting)
    {replacement : Marker → Text} (gives : ∀ marker, Markup.Balanced (replacement marker))
    {pending : Option Text} {offset : Nat}
    (outside : ∀ start marker, (start, marker) ∈ located Marker.written offset cutting.cuts →
      pendingAfter pending (text.take (start - offset)) = none) :
    Refilled (tagsAfter pending text) (tagsAfter pending (cutting.fill replacement))
        (cutting.marks.countP Marker.isLone) ∧
      pendingAfter pending (cutting.fill replacement) = pendingAfter pending text := by
  induction reads generalizing pending offset with
  | done _ => exact ⟨.done, rfl⟩
  | @plain previous c rest cutting _ _ ih =>
    have further : ∀ start marker,
        (start, marker) ∈ located Marker.written (offset + 1) cutting.cuts →
        pendingAfter (advance pending c) (rest.take (start - (offset + 1))) = none := by
      intro start marker member
      have after := le_of_located member
      have here := outside start marker (by simpa using member)
      rwa [show start - offset = start - (offset + 1) + 1 by omega, List.take_succ_cons,
        pendingAfter_cons] at here
    obtain ⟨refilled, same⟩ := ih further
    rw [fill_plain, marks_plain]
    exact ⟨refilled.keep _, same⟩
  | @marked previous marker rest cutting preferred _ ih =>
    have tagged : marker.Tagged := Marker.tagged_of_mem (Token.opener_readBy _ _)
      (Token.opener_flat accepted accepted.showWord) (List.mem_of_mem_head? preferred)
    obtain rfl : pending = none := by simpa using outside offset marker (by simp)
    have passed : pendingAfter none marker.written = none := tagged.pendingAfter_written
    have further : ∀ start other,
        (start, other) ∈ located Marker.written (offset + marker.written.length) cutting.cuts →
        pendingAfter none (rest.take (start - (offset + marker.written.length))) = none := by
      intro start other member
      have after := le_of_located member
      have here := outside start other (by
        rw [located_marked]
        exact List.mem_cons_of_mem _ member)
      rwa [show start - offset =
          marker.written.length + (start - (offset + marker.written.length)) by omega,
        List.take_length_add_append, pendingAfter_append, passed] at here
    obtain ⟨refilled, same⟩ := ih further
    have content := gives marker
    have after : pendingAfter none (replacement marker) = none := content.outside
    rw [fill_marked, marks_marked, List.countP_cons, tagsAfter_append, tagsAfter_append, passed,
      after, pendingAfter_append, pendingAfter_append, passed, after]
    exact ⟨refilled.marker tagged content, same⟩

variable {rules : Value}

/-- In a text with balanced tags the tags taken with a marker are those of one element, unless
the opening tag is that of a void or a self-closing element. Where no show marker stands inside
a tag and what is put in has balanced tags, substitution keeps the tags balanced exactly when
each wrapper that it takes is one element. -/
theorem balanced_iff_oneElement (passed : GrammarRules.problems rules = []) {text : Text}
    (balanced : Markup.Balanced text) :
    let grammar := GrammarRules.grammar rules
    let found := replaced grammar text
    (∀ marker, Consumed grammar text marker → (marker.OneElement ↔ marker.isLone = false)) ∧
    ∀ (Store Failure : Type) (resolve : Resolver Store Failure) (session : Session Store),
      Resolver.Balanced resolve →
      (∀ offset marker, (offset, marker) ∈ located Marker.written 0 found.cuts →
        Outside (text.take offset)) →
      (Markup.Balanced ((substitute grammar resolve text).run session).1.1 ↔
        ∀ marker ∈ found.marks, marker.OneElement) := by
  intro grammar found
  have accepted : grammar.Accepted := GrammarRules.accepted_grammar passed
  have alternatives : ∀ marker, Consumed grammar text marker →
      (marker.OneElement ↔ marker.isLone = false) := by
    intro marker consumed
    obtain ⟨tagged, front, rest, parts⟩ := consumed.tagged accepted
    exact tagged.oneElement_iff (parts ▸ balanced)
  refine ⟨alternatives, fun Store Failure resolve session gives outside => ?_⟩
  obtain ⟨answers, after, run, replies⟩ : ∃ answers after,
      (answerAll grammar resolve found.marks []).run session = (answers, after) ∧
        ∀ answer ∈ answers, Markup.Balanced answer.reply.text :=
    ⟨_, _, rfl, balanced_answers gives found.marks (by simp) session⟩
  have filled : ((substitute grammar resolve text).run session).1.1 =
      found.fill (replacement answers) := by
    rw [substitute_eq_answerAll]
    simp only [StateT.run_bind, found] at run ⊢
    rw [run]
    rfl
  rw [filled]
  by_cases seen : grammar.mayShow text = true
  · have whole : found = cutting grammar text := if_pos seen
    have reads : Reads Marker.written (Marker.shows grammar) none text found := by
      rw [whole]
      exact reads_ofText (Marker.shows_faithful accepted.legible) none text
    obtain ⟨refilled, same⟩ := refilled_fill accepted reads
      (balanced_replacement replies) outside
    have single : ∀ marker ∈ found.marks, (marker.OneElement ↔ marker.isLone = false) := by
      intro marker member
      obtain ⟨offset, place⟩ := exists_located Marker.written 0 member
      obtain ⟨_, rest, read⟩ := reads.located place
      exact alternatives marker (.reference (List.mem_of_mem_head? read))
    constructor
    · intro kept marker member
      -- both depths are zero, so no closing tag was left without its opening tag
      have none : found.marks.countP Marker.isLone = 0 := by
        have depths := refilled.depth_eq
        have before : depth (tagsAfter none text) = 0 := balanced.depth_eq
        have after : depth (tagsAfter none (found.fill (replacement answers))) = 0 := kept.depth_eq
        omega
      exact (single marker member).mpr (Bool.not_eq_true _ ▸ List.countP_eq_zero.mp none marker member)
    · intro one
      have none : found.marks.countP Marker.isLone = 0 :=
        List.countP_eq_zero.mpr fun marker member =>
          Bool.not_eq_true _ ▸ (single marker member).mp (one marker member)
      exact ⟨same.trans balanced.outside, refilled.closeAll_eq none balanced.closed⟩
  · have bare : found = { tail := text } := if_neg seen
    simpa [bare, marks, fill] using balanced

theorem balanced_iff_oneElement_sample :
    let rules := Value.map [(.text "start_word", .text "begin"), (.text "stop_word", .text "end"),
      (.text "show_word", .text "ref"), (.text "split_char", .text "-")]
    let grammar := GrammarRules.grammar rules
    let text := "<div><P class='x'> ref-a</p><br />ref--b</div>".toList
    let resolve : Resolver Unit Unit := fun _ _ => pure (.ok (some "<i>x</I>".toList))
    GrammarRules.problems rules = [] ∧ Markup.Balanced text ∧ Resolver.Balanced resolve ∧
    (∀ offset marker, (offset, marker) ∈ located Marker.written 0 (replaced grammar text).cuts →
      Outside (text.take offset)) ∧
    ((replaced grammar text).marks.map fun marker => (marker.token.name, marker.isLone)) =
      [(['a'], false), (['b'], true)] ∧
    ¬ Markup.Balanced ((substitute grammar resolve text).run { store := () }).1.1 := by
  intro rules grammar text resolve
  have passed : GrammarRules.problems rules = [] := by decide +kernel
  have balanced : Markup.Balanced text := by decide +kernel
  have gives : Resolver.Balanced resolve := by
    intro name multi session content after run
    cases run
    decide +kernel
  have outside : ∀ offset marker, (offset, marker) ∈
      located Marker.written 0 (replaced grammar text).cuts → Outside (text.take offset) := by
    have all : ∀ place ∈ (located Marker.written 0 (replaced grammar text).cuts).map Prod.fst,
        Outside (text.take place) := by decide +kernel
    exact fun offset marker member => all offset (List.mem_map_of_mem member)
  have taken : ((replaced grammar text).marks.map fun marker =>
      (marker.token.name, marker.isLone)) = [(['a'], false), (['b'], true)] := by decide +kernel
  refine ⟨passed, balanced, gives, outside, taken, fun kept => ?_⟩
  have one := ((balanced_iff_oneElement passed balanced).2 Unit Unit resolve { store := () }
    gives outside).mp kept
  obtain ⟨marker, member, same⟩ : ∃ marker ∈ (replaced grammar text).marks,
      (marker.token.name, marker.isLone) = (['b'], true) :=
    List.mem_map.mp (taken ▸ by simp)
  have notLone := (one marker member).isLone_eq
  rw [(Prod.mk.inj same).2] at notLone
  cases notLone

/-- A line break directly before a marker is taken for the opening tag of the element around
both, whose closing tag then goes with it. -/
theorem not_balanced_lineBreak :
    let rules := Value.map [(.text "start_word", .text "start"), (.text "stop_word", .text "stop"),
      (.text "show_word", .text "show"), (.text "split_char", .text "_")]
    let grammar := GrammarRules.grammar rules
    let text := "<p><br>show_a</p>".toList
    let resolve : Resolver Unit Unit := fun _ _ => pure (.ok (some ['x']))
    let marker : Marker := ⟨some "<br>".toList, ⟨"show".toList, ['_'], ['a']⟩, "</p>".toList⟩
    GrammarRules.problems rules = [] ∧ Markup.Balanced text ∧ Resolver.Balanced resolve ∧
    Consumed grammar text marker ∧
    tags "<br>".toList = [.alone] ∧ tags marker.ending = [.closes ['p']] ∧ ¬ marker.OneElement ∧
    ((substitute grammar resolve text).run { store := () }).1.1 = "<p>x".toList ∧
    ¬ Markup.Balanced "<p>x".toList := by
  intro rules grammar text resolve marker
  have notOne : ¬ marker.OneElement := by
    intro one
    have notLone := one.isLone_eq
    have lone : marker.isLone = true := by decide +kernel
    rw [lone] at notLone
    cases notLone
  have read : (marker, []) ∈ readAt (Marker.shows grammar) none text 3 := by decide +kernel
  refine ⟨by decide +kernel, by decide +kernel, ?_, .reference read, by decide +kernel,
    by decide +kernel, notOne, by decide +kernel, by decide +kernel⟩
  intro name multi session content after run
  cases run
  decide +kernel

end Substitution

end Transclusion

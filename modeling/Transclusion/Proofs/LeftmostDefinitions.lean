import Transclusion.Proofs.Definitions
import Transclusion.Proofs.Folding

/-!
What extraction finds, said of the text alone. Tokens, markers and definitions stand at
offsets of the text; extraction cuts out the definitions that begin leftmost and end at
the nearest stop marker, and no other cutting of the text does so.
-/

namespace Transclusion

/-- A token of a shape begins at an offset of a text. -/
def Token.Shape.Stands (shape : Token.Shape) (text : Text) (offset : Nat) (token : Token) : Prop :=
  shape.At (text.take offset).getLast? (text.drop offset) token
    (text.drop (offset + token.written.length))

/-- A marker with a token of a shape begins at an offset of a text. -/
def Marker.Stands (shape : Token.Shape) (text : Text) (offset : Nat) (marker : Marker) : Prop :=
  Marker.At shape.At (text.take offset).getLast? (text.drop offset) marker
    (text.drop (offset + marker.written.length))

section Standing

open Cutting

variable {shape : Token.Shape} {tokens : Recogniser Token} (readBy : shape.ReadBy tokens)

include readBy

theorem Marker.stands_iff {text : Text} {offset : Nat} {marker : Marker} :
    Marker.Stands shape text offset marker ↔
      (marker, text.drop (offset + marker.written.length)) ∈
        readAt (Marker.recognise tokens) none text offset := by
  rw [readAt, lastOr_none]
  exact (Marker.mem_recognise_iff_at readBy).symm

theorem Marker.stands_of_mem (lettered : shape.Lettered) {text : Text} {offset : Nat}
    {marker : Marker} {rest : Text}
    (member : (marker, rest) ∈ readAt (Marker.recognise tokens) none text offset) :
    Marker.Stands shape text offset marker := by
  have faithful := Marker.recognise_faithful (readBy.faithful lettered)
  rw [faithful.rest member] at member
  exact (Marker.stands_iff readBy).mpr member

omit readBy in
-- A token that stands somewhere makes a bare marker there.
theorem Token.Shape.Stands.bare {text : Text} {offset : Nat} {token : Token}
    (stands : shape.Stands text offset token) :
    Marker.Stands shape text offset (Marker.bare token) := by
  have written : (Marker.bare token).written = token.written := by
    simp [Marker.written, Marker.bare]
  rw [Marker.Stands, written]
  exact .bare stands

end Standing

namespace Definition

/-- A definition that stands at an offset: a start marker, the content between blanks,
and the nearest later stop marker with the separator and the name of the start marker. -/
structure Stands (grammar : Grammar) (text : Text) (offset : Nat) (definition : Definition) :
    Prop where
  written : definition.written <+: text.drop offset
  start : Marker.Stands (Token.opener grammar grammar.startWord) text offset definition.start
  stop : Marker.Stands (Token.closer grammar definition.start.token) text
    (offset + definition.start.written.length + definition.body.length) definition.stop
  separator : definition.stop.token.separator = definition.start.token.separator
  nearest : ∀ later marker, offset + definition.start.written.length ≤ later →
    later < offset + definition.start.written.length + definition.body.length →
    ¬ Marker.Stands (Token.closer grammar definition.start.token) text later marker
  framed : Text.Framed definition.body definition.lead definition.content definition.trail
  clear : ∀ place token,
    ¬ (Token.closer grammar definition.start.token).Stands definition.content place token

end Definition

/-- A text cut at definitions that stand where they are cut, so that no start marker in
the plain text has a stop token of its separator and name after it. -/
structure Cutting.Leftmost (grammar : Grammar) (text : Text) (found : Cutting Definition) : Prop where
  whole : found.fill Definition.written = text
  stands : ∀ offset definition,
    (offset, definition) ∈ Cutting.located Definition.written 0 found.cuts →
      definition.Stands grammar text offset
  unmatched : ∀ offset, Cutting.Free Definition.written 0 found offset →
    ∀ start, Marker.Stands (Token.opener grammar grammar.startWord) text offset start →
      ∀ later token, offset + start.written.length ≤ later →
        ¬ (Token.closer grammar start.token).Stands text later token

namespace Marker

variable {shape : Token.Shape} {previous : Option Char} {text : Text} {marker : Marker} {rest : Text}

theorem not_isWord_open : Text.isWord '<' = false := by decide

theorem not_isWord_close : Text.isWord '>' = false := by decide

-- Markers end where a word may begin, unless no word continues after them.
theorem At.ends (here : At shape.At previous text marker rest) :
    closesWord rest = true ∨ opensWord (Cutting.lastOr previous marker.written) = true := by
  cases here with
  | bare here => exact Or.inl here.closes
  | @wrapped tag spaces _ token ending _ opens apart here closes =>
    right
    cases closes with
    | tag before named after =>
      rw [written, ← List.append_assoc, Cutting.lastOr_concat]
      simp [opensWord, not_isWord_close]

theorem At.token (here : At shape.At previous text marker rest) :
    ∃ previous text rest, shape.At previous text marker.token rest := by
  cases here with
  | bare here => exact ⟨_, _, _, here⟩
  | wrapped opens apart here closes => exact ⟨_, _, _, here⟩

-- Markers begin where a word may end, unless they stand where a word may begin.
theorem At.begins (here : At shape.At previous text marker rest) :
    opensWord previous = true ∨ closesWord text = true := by
  cases here with
  | bare here => exact Or.inl here.opens
  | wrapped opens apart here closes =>
    right
    obtain ⟨more, rfl⟩ := isOpeningTag_head opens
    simp [closesWord, not_isWord_open]

theorem isOpeningTag_last {tag : Text} (opens : IsOpeningTag tag) : ∃ front, tag = front ++ ['>'] := by
  cases opens with
  | plain named => exact ⟨_, rfl⟩
  | attributed named apart flat => exact ⟨_, rfl⟩

-- The token of a marker stands after the opening tag.
theorem Stands.token {offset : Nat} (stands : Stands shape text offset marker) :
    shape.Stands text (offset + (marker.opening.getD []).length) marker.token := by
  rw [Stands] at stands
  generalize parts : text.drop offset = tail at stands
  cases stands with
  | bare here =>
    rw [← parts] at here
    simpa [Token.Shape.Stands, bare, written] using here
  | @wrapped tag spaces beyond token ending _ opens apart here closes =>
    have dropped : text.drop (offset + (tag ++ spaces).length) = beyond := by
      rw [← List.drop_drop, parts, List.drop_left]
    have taken : (text.take (offset + (tag ++ spaces).length)).getLast? =
        Cutting.lastOr (some '>') spaces := by
      obtain ⟨front, rfl⟩ := isOpeningTag_last opens
      rw [List.take_add, parts, List.take_left, ← Cutting.lastOr_none, Cutting.lastOr_append,
        Cutting.lastOr_append, Cutting.lastOr_concat]
    have after : text.drop (offset + (tag ++ spaces).length + token.written.length) =
        ending ++ text.drop
          (offset + (Marker.written ⟨some (tag ++ spaces), token, ending⟩).length) := by
      rw [← List.drop_drop, dropped, here.parts, List.drop_left]
    show shape.At _ _ token _
    rw [Option.getD_some, taken, dropped, after]
    exact here

end Marker

namespace Token.Shape

variable {shape : Token.Shape} {token : Token}

-- A token that stands in a part of a text stands in the text, when no word goes on at
-- the ends of the part.
theorem At.within {front text rest : Text} (stands : shape.At front.getLast? text token rest)
    (before : Option Char) (behind : Text)
    (left : front = [] → opensWord before = true) (right : rest = [] → closesWord behind = true) :
    shape.At (Cutting.lastOr before front) (text ++ behind) token (rest ++ behind) where
  opens := by
    cases front with
    | nil => exact left rfl
    | cons c front =>
      rw [Cutting.lastOr_of_ne_nil (by simp) before none, Cutting.lastOr_none]
      exact stands.opens
  parts := by rw [stands.parts, List.append_assoc]
  word := stands.word
  separator := stands.separator
  name := stands.name
  closes := by
    cases rest with
    | nil => exact right rfl
    | cons c rest => exact stands.closes

end Token.Shape

namespace Definition

open Cutting

variable {grammar : Grammar}

-- Tokens that answer to a read one end with a word character.
theorem closer_last {opened token : Token} {previous : Option Char} {text rest : Text}
    (named : IsName opened.name) (stands : (Token.closer grammar opened).At previous text token rest) :
    ∃ front c, token.written = front ++ [c] ∧ Text.isWord c = true := by
  have same : Text.SameLower opened.name token.name := stands.name
  have present : token.name ≠ [] := by
    intro none
    rw [none] at same
    exact named.ne_nil (List.map_eq_nil_iff.mp same)
  have inside : Text.lowered (token.name.getLast present) ∈ opened.name.map Text.lowered := by
    rw [show opened.name.map Text.lowered = token.name.map Text.lowered from same]
    exact List.mem_map_of_mem (List.getLast_mem present)
  obtain ⟨d, member, alike⟩ := List.mem_map.mp inside
  have tail := Text.isNameTail_of_sameLowered (named.tail d member) (beq_iff_eq.mpr alike)
  refine ⟨token.word ++ token.separator ++ token.name.dropLast, token.name.getLast present, ?_,
    Text.isWord_of_isNameTail tail⟩
  rw [Token.written, List.append_assoc _ token.name.dropLast, List.dropLast_append_getLast]

section Spans

variable {previous : Option Char} {text after rest : Text} {definition : Definition}
  (spans : Spans grammar previous text definition after rest)

include spans

theorem Spans.starts_at : Marker.At (Token.opener grammar grammar.startWord).At previous text
    definition.start (definition.body ++ after) :=
  (Marker.mem_recognise_iff_at (Token.opener_readBy _ _)).mp spans.opens

theorem Spans.stops_at : Marker.At (Token.closer grammar definition.start.token).At
    (lastOr (lastOr previous definition.start.written) definition.body) after definition.stop rest := by
  have here := spans.nearest.here
  rw [readAt_length] at here
  exact (Marker.mem_recognise_iff_at (Token.closer_readBy _ _)).mp (List.mem_of_mem_head? here)

theorem Spans.opens_content {c : Char} {beyond : Text}
    (head : definition.content = c :: beyond) (word : Text.isWord c = true) :
    opensWord (lastOr (lastOr previous definition.start.written) definition.lead) = true := by
  by_cases lead : definition.lead = []
  · rcases spans.starts_at.ends with closes | opens
    · simp [body, lead, head, closesWord, word] at closes
    · rwa [lead]
  · have blank := spans.framed.leading _ (List.getLast_mem lead)
    simp [lastOr, List.getLast?_eq_some_getLast lead, opensWord, Text.isWord_of_isBlank blank]

theorem Spans.closes_content {front : Text} {c : Char} (last : definition.content = front ++ [c])
    (word : Text.isWord c = true) : closesWord (definition.trail ++ after) = true := by
  cases trail : definition.trail with
  | nil =>
    rcases spans.stops_at.begins with opens | closes
    · rw [body, trail, last, List.append_nil, ← List.append_assoc, lastOr_concat] at opens
      simp [opensWord, word] at opens
    · exact closes
  | cons d trail' =>
    have blank := spans.framed.trailing d (by simp [trail])
    simp [closesWord, Text.isWord_of_isBlank blank]

theorem Spans.clear (ordinary : grammar.Ordinary) (place : Nat) (token : Token) :
    ¬ (Token.closer grammar definition.start.token).Stands definition.content place token := by
  intro stands
  obtain ⟨_, _, _, opened⟩ := spans.starts_at.token
  obtain ⟨front, last, tokenEnd, wordEnd⟩ := closer_last opened.name stands
  obtain ⟨c, more, tail, word⟩ := stands.head (Token.closer_lettered ordinary.legible _)
  obtain ⟨inner, outer, content, rfl⟩ : ∃ inner outer, definition.content = inner ++ outer ∧
      inner.length = place := by
    have inside : place < definition.content.length := by
      by_contra beyond
      rw [List.drop_of_length_le (Nat.le_of_not_lt beyond)] at tail
      cases tail
    exact ⟨_, _, (List.take_append_drop place _).symm, List.length_take_of_le (Nat.le_of_lt inside)⟩
  rw [Token.Shape.Stands, content, List.take_left, List.drop_left, ← List.drop_drop,
    List.drop_left] at stands
  rw [content, List.drop_left] at tail
  have within := stands.within (lastOr (lastOr previous definition.start.written) definition.lead)
    (definition.trail ++ after)
    (by
      rintro rfl
      exact spans.opens_content (by rw [content, tail]; rfl) word)
    (by
      intro none
      have parts := stands.parts
      rw [none, List.append_nil, tokenEnd] at parts
      exact spans.closes_content (by rw [content, parts, List.append_assoc]) wordEnd)
  -- the token makes a bare marker before the nearest one
  have bodyParts : definition.body ++ after =
      definition.lead ++ (inner ++ (outer ++ (definition.trail ++ after))) := by
    simp [body, content]
  have shorter : definition.lead.length + inner.length < definition.body.length := by
    simp [body, content, tail]
  have none := spans.nearest.before _ shorter
  have marker := (Marker.mem_recognise_iff_at (Token.closer_readBy _ _)).mpr (.bare within)
  rw [bodyParts, readAt_append, readAt_length, stopsFor] at none
  rw [none] at marker
  cases marker

end Spans

section Places

theorem stop_separator {text : Text} {offset : Nat} {start stop : Marker}
    (starts : ∃ previous text rest,
      (Token.opener Grammar.standard Grammar.standard.startWord).At previous text start.token rest)
    (stops : Marker.Stands (Token.closer Grammar.standard start.token) text offset stop) :
    stop.token.separator = start.token.separator := by
  obtain ⟨_, _, _, opened⟩ := starts
  obtain ⟨_, _, _, closed⟩ := Marker.At.token stops
  refine Token.eq_of_sameLower_underscores ?_ closed.separator
  rcases Token.separator_of_separates_underscore opened.separator with once | twice
  · simp [once]
  · simp [twice]

variable {front tail after rest : Text} {definition : Definition}

-- The places after the start marker, in the whole text.
theorem Spans.readAt_stops (ordinary : grammar.Ordinary)
    (spans : Spans grammar (lastOr none front) tail definition after rest) (place : Nat) :
    readAt (stopsFor grammar definition.start) none (front ++ tail)
        (front.length + definition.start.written.length + place) =
      readAt (stopsFor grammar definition.start)
        (lastOr (lastOr none front) definition.start.written) (definition.body ++ after) place := by
  have parts := (starts_faithful ordinary.legible _ _ _ _ spans.opens).1
  rw [Nat.add_assoc, readAt_append, parts, readAt_append]

theorem Spans.start_stands (ordinary : grammar.Ordinary)
    (spans : Spans grammar (lastOr none front) tail definition after rest) :
    Marker.Stands (Token.opener grammar grammar.startWord) (front ++ tail) front.length
      definition.start := by
  have opens : (definition.start, definition.body ++ after) ∈
      readAt (starts grammar) none (front ++ tail) front.length := by
    rw [readAt_length]
    exact spans.opens
  exact Marker.stands_of_mem (Token.opener_readBy _ _)
    (Token.opener_lettered ordinary.startWord.lettered) opens

theorem Spans.stop_stands (ordinary : grammar.Ordinary)
    (spans : Spans grammar (lastOr none front) tail definition after rest) :
    Marker.Stands (Token.closer grammar definition.start.token) (front ++ tail)
      (front.length + definition.start.written.length + definition.body.length)
      definition.stop := by
  have here := spans.nearest.here
  rw [← spans.readAt_stops ordinary] at here
  exact Marker.stands_of_mem (Token.closer_readBy _ _) (Token.closer_lettered ordinary.legible _)
    (List.mem_of_mem_head? here)

theorem Spans.stands
    (spans : Spans Grammar.standard (lastOr none front) tail definition after rest) :
    definition.Stands Grammar.standard (front ++ tail) front.length := by
  have ordinary := standard_ordinary
  have stop := spans.stop_stands ordinary
  refine ⟨?_, spans.start_stands ordinary, stop, stop_separator spans.starts_at.token stop, ?_,
    spans.framed, spans.clear ordinary⟩
  · rw [List.drop_left]
    have found := (recognise_faithful ordinary.legible (lastOr none front) tail definition rest
      (by simp [recognise, here?_of_spans ordinary.legible spans])).1
    exact ⟨rest, found.symm⟩
  · intro later marker past short stands
    have place : later = front.length + definition.start.written.length +
        (later - (front.length + definition.start.written.length)) := by omega
    have member := (Marker.stands_iff (Token.closer_readBy _ _)).mp stands
    have none := spans.nearest.before (later - (front.length + definition.start.written.length))
      (by omega)
    rw [← spans.readAt_stops ordinary, ← place, stopsFor] at none
    rw [none] at member
    cases member

/-- A definition that stands at an offset is read there. -/
theorem Stands.spans {text : Text} {offset : Nat} (ordinary : grammar.Ordinary)
    (stands : definition.Stands grammar text offset) :
    ∃ after rest, Spans grammar (lastOr none (text.take offset)) (text.drop offset) definition
      after rest := by
  obtain ⟨rest, parts⟩ := stands.written
  -- taken apart at the start marker, the text goes on with the body and the stop marker
  have starting := (Marker.stands_iff (Token.opener_readBy _ _)).mp stands.start
  have stopping := (Marker.stands_iff (Token.closer_readBy _ _)).mp stands.stop
  obtain ⟨front, same, rfl⟩ := (starts_faithful ordinary.legible).split starting
  generalize definition.start.written ++ _ = tail at same
  subst same
  rw [List.drop_left, written_eq, List.append_assoc, List.append_assoc] at parts
  rw [List.take_left, List.drop_left]
  have afterStart : (front ++ tail).drop (front.length + definition.start.written.length) =
      definition.body ++ (definition.stop.written ++ rest) := by
    rw [← List.drop_drop, List.drop_left, ← parts, List.drop_left]
  have places : ∀ place, readAt (stopsFor grammar definition.start) none (front ++ tail)
      (front.length + definition.start.written.length + place) =
        readAt (stopsFor grammar definition.start)
          (lastOr (lastOr none front) definition.start.written)
          (definition.body ++ (definition.stop.written ++ rest)) place := by
    intro place
    rw [Nat.add_assoc, readAt_append, ← parts, readAt_append]
  refine ⟨definition.stop.written ++ rest, rest, ?_, stands.framed, ?_, ?_⟩
  · rw [afterStart, readAt_length] at starting
    exact starting
  · have ending : (front ++ tail).drop (front.length + definition.start.written.length +
        definition.body.length + definition.stop.written.length) = rest := by
      rw [← List.drop_drop, ← List.drop_drop, afterStart, List.drop_left, List.drop_left]
    rw [ending] at stopping
    rw [← places]
    exact (stopsFor_single ordinary.legible definition.start).head? stopping
  · intro earlier less
    rw [← places]
    apply List.eq_nil_iff_forall_not_mem.mpr
    rintro ⟨marker, beyond⟩ member
    exact stands.nearest _ marker (Nat.le_add_right _ _) (by omega)
      (Marker.stands_of_mem (Token.closer_readBy _ _) (Token.closer_lettered ordinary.legible _) member)

theorem spans_of_mem (ordinary : grammar.Ordinary) {text : Text} {offset : Nat}
    (member : (definition, rest) ∈ readAt (recognise grammar) none text offset) :
    ∃ front tail after, text = front ++ tail ∧ front.length = offset ∧
      Spans grammar (lastOr none front) tail definition after rest := by
  obtain ⟨front, parts, rfl⟩ := (recognise_faithful ordinary.legible).split member
  rw [parts, readAt_length] at member
  have found : here? grammar (lastOr none front) (definition.written ++ rest) =
      some (definition, rest) := by simpa [recognise] using member
  obtain ⟨after, spans⟩ := here?_spans ordinary.legible found
  exact ⟨front, definition.written ++ rest, after, parts, rfl, spans⟩

theorem stands_of_mem {text : Text} {offset : Nat}
    (member : (definition, rest) ∈ readAt (recognise Grammar.standard) none text offset) :
    definition.Stands Grammar.standard text offset := by
  obtain ⟨front, tail, after, rfl, rfl, spans⟩ := spans_of_mem standard_ordinary member
  exact spans.stands

end Places

end Definition

namespace Extraction

open Cutting

variable {text : Text}

-- The quick test for a start marker hides no definition.
theorem definitions_eq_cutting (text : Text) :
    definitions Grammar.standard text = cutting Grammar.standard text := by
  rw [definitions]
  split
  · rfl
  · next hidden =>
    refine (ofText_eq_tail (Definition.recognise_faithful standard_ordinary.legible) ?_).symm
    intro offset _
    apply List.eq_nil_iff_forall_not_mem.mpr
    rintro ⟨definition, rest⟩ member
    have start := (Definition.stands_of_mem member).start.token
    exact hidden (mayDefine_of_start (List.drop_suffix _ text) start)

theorem leftmost_definitions (text : Text) :
    Leftmost Grammar.standard text (definitions Grammar.standard text) := by
  have ordinary := standard_ordinary
  have faithful := Definition.recognise_faithful ordinary.legible
  rw [definitions_eq_cutting]
  have reads : Reads Definition.written (Definition.recognise Grammar.standard) none text
      (cutting Grammar.standard text) := reads_ofText faithful none text
  refine ⟨reads.fill_written, ?_, ?_⟩
  · intro offset definition member
    obtain ⟨_, rest, found⟩ := reads.located member
    exact Definition.stands_of_mem (List.mem_of_mem_head? found)
  · intro offset free start starts later token past stops
    -- no definition is read at the start marker, so no stop marker is ahead of it
    have missed := reads.unlocated (Nat.zero_le offset) free
    have starting := (Marker.stands_iff (Token.opener_readBy _ _)).mp starts
    have stopping := (Marker.stands_iff (Token.closer_readBy _ _)).mp stops.bare
    obtain ⟨before, wide, rfl⟩ := (Definition.stopsFor_faithful ordinary.legible start).split stopping
    obtain ⟨front, parts, rfl⟩ := (Definition.starts_faithful ordinary.legible).split starting
    generalize text.drop (front.length + start.written.length) = after at parts starting
    subst parts
    rw [Nat.sub_zero] at missed
    rw [readAt_length] at missed starting
    have here : Definition.here? Grammar.standard (lastOr none front) (start.written ++ after) =
        none := by simpa [Definition.recognise] using missed
    have place : before.length =
        front.length + (start.written.length + (before.length - front.length - start.written.length)) := by
      omega
    have inside : before.length - front.length - start.written.length ≤ after.length := by
      have lengths := congrArg List.length wide
      simp at lengths
      omega
    have none := Definition.here?_eq_none ordinary.legible here starting inside
    rw [Definition.stopsFor] at none
    rw [place, readAt_append, readAt_append, none] at stopping
    cases stopping

theorem eq_of_leftmost {text : Text} {found : Cutting Definition}
    (leftmost : Leftmost Grammar.standard text found) :
    found = definitions Grammar.standard text := by
  have ordinary := standard_ordinary
  have faithful := Definition.recognise_faithful ordinary.legible
  have reads : Reads Definition.written (Definition.recognise Grammar.standard) none
      (found.fill Definition.written) found := by
    refine @reads_of_located _ _ _ found none 0 ?_ faithful ?_
    · intro offset definition member
      rw [leftmost.whole]
      -- what stands at an offset is read there
      obtain ⟨after, rest, spans⟩ := (leftmost.stands offset definition member).spans ordinary
      exact ⟨rest, by simp [readAt, Definition.recognise, Definition.here?_of_spans ordinary.legible spans]⟩
    · intro place _ free
      rw [leftmost.whole]
      apply List.eq_nil_iff_forall_not_mem.mpr
      rintro ⟨definition, rest⟩ member
      -- a reading at a free place has a start marker with a stop token ahead, which is ruled out
      have stands := Definition.stands_of_mem member
      exact leftmost.unmatched place free _ stands.start _ _ (by omega) stands.stop.token
  rw [leftmost.whole] at reads
  rw [definitions_eq_cutting]
  exact reads.eq_ofText faithful

/-- Extraction finds the leftmost terminated definitions and nothing else: no other cutting
of the text is made of such definitions. -/
theorem extract_leftmost (text : Text) :
    ∃ found : Cutting Definition,
      (∀ other, Leftmost Grammar.standard text other ↔ other = found) ∧
      (∀ remove, (extract Grammar.standard remove text).blocks =
        found.marks.foldl (fun map definition => map.add definition.name definition.content
          (definition.separator == ['_', '_'])) { split := ['_'] }) ∧
      (extract Grammar.standard true text).text = found.fill (·.content) ∧
      (extract Grammar.standard false text).text = text := by
  refine ⟨definitions Grammar.standard text, fun other => ⟨eq_of_leftmost, ?_⟩, ?_, rfl, rfl⟩
  · rintro rfl
    exact leftmost_definitions text
  · intro remove
    rfl

end Extraction

end Transclusion

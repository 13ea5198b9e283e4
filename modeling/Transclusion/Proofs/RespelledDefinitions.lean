import Transclusion.Proofs.LeftmostDefinitions
import Transclusion.Proofs.RespelledMarkers

/-!
Definitions of a text whose markers are respelled. A stop marker of the other multiplicity
can end a definition once the markers are respelled. Where none comes first, extraction
finds the same definitions, respelled.
-/

namespace Transclusion

open Cutting Token Text

namespace Marker

/-- The marker with the separator of the other multiplicity. -/
def crossed (marker : Marker) : Marker :=
  { marker with token := { marker.token with
      separator := Grammar.standard.separator (!Grammar.standard.isMulti marker.token.separator) } }

end Marker

namespace Definition

/-- The definition with its markers and its content respelled. -/
def respelled (names : List Text) (f : Text → Text) (definition : Definition) : Definition :=
  { start := definition.start.respelled names f
    lead := definition.lead
    content := f definition.content
    trail := definition.trail
    stop := definition.stop.respelled names f }

/-- Before each stop marker of the other multiplicity there is one of the start marker's own. -/
def UncrossedAt (start : Marker) (beyond : Text) : Prop :=
  ∀ place < beyond.length,
    readAt (stopsFor Grammar.standard start.crossed) start.written.getLast? beyond place ≠ [] →
      ∃ earlier ≤ place,
        readAt (stopsFor Grammar.standard start) start.written.getLast? beyond earlier ≠ []

instance (start : Marker) (beyond : Text) : Decidable (UncrossedAt start beyond) :=
  inferInstanceAs (Decidable (∀ place < beyond.length, _ → ∃ earlier ≤ place, _))

end Definition

open Definition

namespace Token

variable {names : List Text} {opened token : Token}

theorem respelled_separator (bounds : bound.Admits token) (among : Among names token.name) :
    (token.respelled names).separator = ['_', '_'] := by
  rcases bounds.separator with once | twice
  · rw [respelled, if_pos ⟨once, among⟩]
    rfl
  · rw [respelled, if_neg (by simp [twice]), twice]

theorem closer_separator (bounds : bound.Admits opened)
    (admits : (closer Grammar.standard opened).Admits token) :
    token.separator = opened.separator := by
  refine eq_of_sameLower_underscores ?_ admits.separator
  rcases bounds.separator with once | twice
  · simp [once]
  · simp [twice]

theorem among_iff_of_closer (admits : (closer Grammar.standard opened).Admits token) :
    Among names token.name ↔ Among names opened.name :=
  ⟨fun among => among.of_spells (spells_of_sameLower admits.name).symm,
    fun among => among.of_spells (spells_of_sameLower admits.name)⟩

-- Once both are respelled only the separators have to be compared again.
theorem closer_of_separator_eq (word : Spells Grammar.standard.stopWord token.word)
    (name : SameLower opened.name token.name)
    (same : (token.respelled names).separator = (opened.respelled names).separator) :
    (closer Grammar.standard (opened.respelled names)).Admits (token.respelled names) := by
  refine ⟨by rw [respelled_word]; exact word, ?_, ?_⟩
  · rw [same]
    exact SameLower.refl _
  · rw [closer, respelled_name, respelled_name]
    exact name

-- Tokens that answer to each other are respelled alike.
theorem closer_respelled (bounds : bound.Admits opened)
    (admits : (closer Grammar.standard opened).Admits token) :
    (closer Grammar.standard (opened.respelled names)).Admits (token.respelled names) := by
  have separator := closer_separator bounds admits
  have among : Among names token.name ↔ Among names opened.name := among_iff_of_closer admits
  refine closer_of_separator_eq admits.word admits.name ?_
  simp only [respelled, separator, among]
  split
  · rfl
  · exact separator

theorem opener_respelled
    (admits : (opener Grammar.standard Grammar.standard.startWord).Admits token) :
    (opener Grammar.standard Grammar.standard.startWord).Admits (token.respelled names) := by
  refine ⟨by rw [respelled_word]; exact admits.word, ?_, by rw [respelled_name]; exact admits.name⟩
  rw [respelled]
  split
  · exact Or.inr (Spells.refl _)
  · exact admits.separator

theorem opener_of_respelled (bounds : bound.Admits token)
    (admits : (opener Grammar.standard Grammar.standard.startWord).Admits (token.respelled names)) :
    (opener Grammar.standard Grammar.standard.startWord).Admits token := by
  refine ⟨by rw [← respelled_word names]; exact admits.word, ?_, bounds.name⟩
  rcases bounds.separator with once | twice
  · exact Or.inl (once ▸ Spells.refl _)
  · exact Or.inr (twice ▸ Spells.refl _)

-- A token that answers once both are respelled answered before, or was of the other
-- multiplicity of a name that is respelled.
theorem closer_of_respelled {start : Marker} (bounds : bound.Admits start.token)
    (bounds' : bound.Admits token)
    (admits : (closer Grammar.standard (start.token.respelled names)).Admits
      (token.respelled names)) :
    (closer Grammar.standard start.token).Admits token ∨
      Among names start.token.name ∧ (closer Grammar.standard start.crossed.token).Admits token := by
  have word : Spells Grammar.standard.stopWord token.word := by
    rw [← respelled_word names]
    exact admits.word
  have name : SameLower start.token.name token.name := by
    have same := admits.name
    rwa [closer, respelled_name, respelled_name] at same
  have separator := closer_separator (bound_respelled bounds) admits
  by_cases same : token.separator = start.token.separator
  · exact Or.inl ⟨word, by rw [same]; exact SameLower.refl _, name⟩
  · have spells := spells_of_sameLower name
    have among : Among names start.token.name := by
      by_contra other
      have other' : ¬ Among names token.name := fun among => other (among.of_spells spells.symm)
      simp only [respelled, other, other', and_false, if_false] at separator
      exact same separator
    refine Or.inr ⟨among, word, ?_, name⟩
    have crossed : token.separator = start.crossed.token.separator := by
      rcases bounds.separator with once | twice
      · rcases bounds'.separator with once' | twice'
        · exact absurd (once'.trans once.symm) same
        · simp [Marker.crossed, once, twice', Grammar.isMulti, Grammar.separator, Grammar.standard]
      · rcases bounds'.separator with once' | twice'
        · simp [Marker.crossed, once', twice, Grammar.isMulti, Grammar.separator, Grammar.standard]
        · exact absurd (twice'.trans twice.symm) same
    rw [crossed]
    exact SameLower.refl _

section Crossed

variable {start : Marker} (bounds : bound.Admits start.token)

include bounds

theorem bound_crossed : bound.Admits start.crossed.token := by
  refine ⟨bounds.word, ?_, bounds.name⟩
  rw [Marker.crossed]
  cases Grammar.standard.isMulti start.token.separator with
  | false => exact Or.inr rfl
  | true => exact Or.inl rfl

theorem closer_of_crossed (among : Among names start.token.name)
    (admits : (closer Grammar.standard start.crossed.token).Admits token) :
    (closer Grammar.standard (start.token.respelled names)).Admits (token.respelled names) := by
  have bounds' : bound.Admits token := bound_of_closer (bound_crossed bounds) admits
  have among' : Among names token.name := (among_iff_of_closer admits).mpr among
  refine closer_of_separator_eq admits.word admits.name ?_
  rw [respelled_separator bounds' among', respelled_separator bounds among]

end Crossed

end Token

namespace Marker

variable {shape : Token.Shape} {front back rest : Text} {marker : Marker}

theorem written_ne_nil (bounds : bound.Admits marker.token) : marker.written ≠ [] := by
  have word := (wordRun_of_bound bounds).present
  simp [written, word]

theorem lastOr_written (bounds : bound.Admits marker.token) (previous : Option Char) :
    lastOr previous marker.written = marker.written.getLast? := by
  rw [lastOr_of_ne_nil (written_ne_nil bounds) previous none, lastOr_none]

-- Where a marker begins no word goes on.
theorem At.apart_before {before : Option Char}
    (here : At shape.At (lastOr before front) back marker rest) : Apart front back := by
  cases front with
  | nil => exact apart_nil back
  | cons c front =>
    rw [lastOr_of_ne_nil (List.cons_ne_nil c front) before none, lastOr_none] at here
    exact here.begins

theorem At.apart_after {previous : Option Char} {text : Text}
    (here : At shape.At previous text marker rest) (present : marker.written ≠ []) :
    Apart marker.written rest := by
  rcases here.ends with closes | opens
  · exact Or.inr closes
  · rw [lastOr_of_ne_nil present previous none, lastOr_none] at opens
    exact Or.inl opens

end Marker

namespace Respells

variable {names : List Text} {f : Text → Text} (respells : Respells names f)

include respells

section Written

variable {shape : Token.Shape} {previous : Option Char} {text rest : Text}
  {marker : Marker} (bounds : bound.Admits marker.token)
  (here : Marker.At shape.At previous text marker rest)

include bounds here

-- The respelled marker is written as the marker is, respelled.
theorem map_marker : f marker.written = (marker.respelled names f).written := by
  have whole := (respells.marker_at bounds (bound_respelled bounds) (Or.inl rfl) here).parts
  rw [here.parts, respells.append (here.apart_after (Marker.written_ne_nil bounds))] at whole
  exact List.append_cancel_right whole

theorem sameSide_marker (before : Option Char) :
    SameSide marker.written.getLast? (lastOr before (marker.respelled names f).written) := by
  have bounds' : bound.Admits (marker.respelled names f).token := bound_respelled bounds
  rw [Marker.lastOr_written bounds', ← respells.map_marker bounds here, ← lastOr_none,
    ← lastOr_none]
  exact respells.sameSide_last (Or.inl rfl) marker.written

end Written

section Stops

variable {before before' : Option Char} {start : Marker} {beyond : Text}

/-- A stop marker that is read off the respelled text comes from one that answers to the
start marker, or to the start marker with the other multiplicity. -/
theorem exists_stop (bounds : bound.Admits start.token) (side : SameSide before before')
    {place : Nat} (found : readAt (stopsFor Grammar.standard (start.respelled names f)) before'
      (f beyond) place ≠ []) :
    ∃ front back, beyond = front ++ back ∧ (f front).length = place ∧
      (readAt (stopsFor Grammar.standard start) before beyond front.length ≠ [] ∨
        Among names start.token.name ∧
          readAt (stopsFor Grammar.standard start.crossed) before beyond front.length ≠ []) := by
  obtain ⟨⟨stop', rest'⟩, member⟩ := List.exists_mem_of_ne_nil _ found
  obtain ⟨front', parts, rfl⟩ := (stopsFor_faithful standard_ordinary.legible _).split member
  rw [parts, readAt_length] at member
  have here := (Marker.mem_recognise_iff_at (closer_readBy _ _)).mp member
  obtain ⟨front, back, rfl, _, rfl, later⟩ := respells.split parts here.apart_before
  rw [← later] at here
  obtain ⟨stop, rest, source, rfl, rfl⟩ := respells.exists_marker_at
    (bound_of_closer (bound_respelled bounds) here.admits) (respells.sameSide_last side front) here
  refine ⟨front, back, rfl, rfl, ?_⟩
  rw [readAt_length, readAt_length]
  have read : ∀ {opened : Token}, (closer Grammar.standard opened).Admits stop.token →
      Marker.recognise (Token.closing Grammar.standard opened) (lastOr before front) back ≠ [] :=
    fun admits => List.ne_nil_of_mem
      ((Marker.mem_recognise_iff_at (closer_readBy _ _)).mpr (source.of_admits admits))
  rcases closer_of_respelled bounds source.admits here.admits with own | ⟨among, crossed⟩
  · exact Or.inl (read own)
  · exact Or.inr ⟨among, read crossed⟩

/-- A stop marker of the other multiplicity answers once both markers are respelled. -/
theorem stop_of_crossed (bounds : bound.Admits start.token) (among : Among names start.token.name)
    (side : SameSide before before') {place : Nat}
    (found : readAt (stopsFor Grammar.standard start.crossed) before beyond place ≠ []) :
    ∃ front back, beyond = front ++ back ∧ Apart front back ∧ front.length = place ∧
      readAt (stopsFor Grammar.standard (start.respelled names f)) before' (f beyond)
        (f front).length ≠ [] := by
  obtain ⟨⟨stop, rest⟩, member⟩ := List.exists_mem_of_ne_nil _ found
  obtain ⟨front, parts, rfl⟩ := (stopsFor_faithful standard_ordinary.legible _).split member
  rw [parts, readAt_length] at member
  have here := (Marker.mem_recognise_iff_at (closer_readBy _ _)).mp member
  have admits := closer_of_crossed bounds among here.admits
  refine ⟨front, stop.written ++ rest, parts, here.apart_before, rfl, ?_⟩
  rw [parts, respells.append here.apart_before, readAt_length]
  exact List.ne_nil_of_mem ((Marker.mem_recognise_iff_at (closer_readBy _ _)).mpr
    (respells.marker_at (bound_of_closer (bound_crossed bounds) here.admits) admits
      (respells.sameSide_last side front) here))

theorem exists_own_stop (bounds : bound.Admits start.token)
    (uncrossed : Among names start.token.name → UncrossedAt start beyond)
    (side : SameSide start.written.getLast? before') {place : Nat}
    (found : readAt (stopsFor Grammar.standard (start.respelled names f)) before'
      (f beyond) place ≠ []) :
    ∃ front back, beyond = front ++ back ∧ (f front).length = place ∧
      ∃ earlier ≤ front.length,
        readAt (stopsFor Grammar.standard start) start.written.getLast? beyond earlier ≠ [] := by
  obtain ⟨front, back, parts, length, own | ⟨among, crossed⟩⟩ :=
    respells.exists_stop bounds side found
  · exact ⟨front, back, parts, length, front.length, Nat.le_refl _, own⟩
  · have inside := (stopsFor_faithful standard_ordinary.legible _).inside crossed
    exact ⟨front, back, parts, length, uncrossed among _ inside crossed⟩

end Stops

section Framed

variable {text lead content trail : Text}

theorem framed_map (framed : Framed text lead content trail) :
    Framed (f text) lead (f content) trail := by
  have blankLead : ∀ c ∈ lead, isWord c = false :=
    fun c member => isWord_of_isBlank (framed.leading c member)
  have blankTrail : ∀ c ∈ trail, isWord c = false :=
    fun c member => isWord_of_isBlank (framed.trailing c member)
  have between : Apart content trail := by
    cases trail with
    | nil => exact Or.inr rfl
    | cons c trail => exact apart_of_head (blankTrail c (by simp)) _ _
  constructor
  case parts =>
    rw [framed.parts, List.append_assoc, respells.append (apart_of_blanks blankLead _),
      respells.append between, respells.map_of_outside blankLead,
      respells.map_of_outside blankTrail, List.append_assoc]
  case leading => exact framed.leading
  case trailing => exact framed.trailing
  case first => exact (respells.sameSide_head content).inked framed.first
  case last =>
    have side := respells.sameSide_last (Or.inl (Eq.refl none)) content
    rw [lastOr_none, lastOr_none] at side
    exact side.inked framed.last
  case empty => exact fun none => framed.empty (respells.eq_nil none)

end Framed

section Spans

variable {previous previous' : Option Char} {text after rest : Text} {definition : Definition}

theorem body_respelled (framed : Framed definition.body definition.lead definition.content
    definition.trail) : (definition.respelled names f).body = f definition.body :=
  (respells.framed_map framed).parts.symm

theorem starts_map (side : SameSide previous previous') {start : Marker} {beyond : Text}
    (opens : (start, beyond) ∈ starts Grammar.standard previous text) :
    (start.respelled names f, f beyond) ∈ starts Grammar.standard previous' (f text) := by
  have here := (Marker.mem_recognise_iff_at (opener_readBy _ _)).mp opens
  exact (Marker.mem_recognise_iff_at (opener_readBy _ _)).mpr
    (respells.marker_at (bound_of_opener here.admits) (opener_respelled here.admits) side here)

/-- A definition spans the respelled text as it spans the text. -/
theorem spans_map (side : SameSide previous previous')
    (uncrossed : Among names definition.start.token.name →
      UncrossedAt definition.start (definition.body ++ after))
    (spans : Spans Grammar.standard previous text definition after rest) :
    Spans Grammar.standard previous' (f text) (definition.respelled names f) (f after) (f rest) := by
  have starts := spans.starts_at
  have bounds : bound.Admits definition.start.token := bound_of_opener starts.admits
  have stops := spans.stops_at
  have body := respells.body_respelled spans.framed
  have whole : f (definition.body ++ after) = f definition.body ++ f after :=
    respells.append stops.apart_before
  have beyond := respells.sameSide_marker bounds starts previous'
  have nearest := spans.nearest
  rw [Marker.lastOr_written bounds] at nearest stops
  refine ⟨?_, ?_, ?_, ?_⟩
  · rw [body, ← whole]
    exact respells.starts_map side spans.opens
  · rw [body]
    exact respells.framed_map spans.framed
  · rw [body, readAt_length]
    have read := respells.marker_at (bound_of_closer bounds stops.admits)
      (closer_respelled bounds stops.admits) (respells.sameSide_last beyond definition.body) stops
    exact (stopsFor_single standard_ordinary.legible _).head?
      ((Marker.mem_recognise_iff_at (closer_readBy _ _)).mpr read)
  · intro earlier less
    rw [body] at less ⊢
    rw [← whole]
    by_contra found
    obtain ⟨front, back, parts, rfl, place, inside, own⟩ :=
      respells.exists_own_stop bounds uncrossed beyond found
    -- the nearest stop marker is not before the end of the body
    have past : definition.body.length ≤ place := by
      by_contra short
      exact own (nearest.before place (Nat.lt_of_not_le short))
    have longer := respells.length_le parts.symm stops.apart_before (Nat.le_trans past inside)
    omega

/-- Where no definition begins, none begins in the respelled text. -/
theorem here?_map_eq_none (side : SameSide previous previous')
    (uncrossed : ∀ reading ∈ starts Grammar.standard previous text,
      Among names reading.1.token.name → UncrossedAt reading.1 reading.2)
    (missed : here? Grammar.standard previous text = none) :
    here? Grammar.standard previous' (f text) = none := by
  rw [Option.eq_none_iff_forall_not_mem]
  rintro ⟨definition, rest'⟩ found
  obtain ⟨after, spans⟩ := here?_spans standard_ordinary.legible found
  have starts' := spans.starts_at
  obtain ⟨start, beyond, source, same, later⟩ :=
    respells.exists_marker_at (bound_of_opener starts'.admits) side starts'
  have bounds := source.admits
  have admits' : (opener Grammar.standard Grammar.standard.startWord).Admits
      (start.token.respelled names) := by
    have token := starts'.admits
    rwa [← same] at token
  have admits := opener_of_respelled bounds admits'
  have opens : (start, beyond) ∈ starts Grammar.standard previous text :=
    (Marker.mem_recognise_iff_at (opener_readBy _ _)).mpr (source.of_admits admits)
  -- the stop marker of the definition comes from one after the start marker
  have stops : readAt (stopsFor Grammar.standard (start.respelled names f))
      (lastOr previous' (start.respelled names f).written) (f beyond) definition.body.length ≠ [] := by
    rw [same, later]
    exact List.ne_nil_of_mem (List.mem_of_mem_head? spans.nearest.here)
  obtain ⟨_, _, _, _, place, _, own⟩ := respells.exists_own_stop bounds
    (uncrossed _ opens) (respells.sameSide_marker bounds source previous') stops
  have inside := (stopsFor_faithful standard_ordinary.legible _).inside own
  rw [← Marker.lastOr_written bounds previous] at own
  exact own (here?_eq_none standard_ordinary.legible missed opens (Nat.le_of_lt inside))

/-- Where the respelled definition is found, the stop marker of the definition comes before
any of the other multiplicity. -/
theorem uncrossed_of_map (side : SameSide previous previous')
    (spans : Spans Grammar.standard previous text definition after rest) {rest' : Text}
    (found : here? Grammar.standard previous' (f text) = some (definition.respelled names f, rest'))
    (among : Among names definition.start.token.name) :
    UncrossedAt definition.start (definition.body ++ after) := by
  have starts := spans.starts_at
  have bounds : bound.Admits definition.start.token := bound_of_opener starts.admits
  obtain ⟨after', spans'⟩ := here?_spans standard_ordinary.legible found
  -- the body of the respelled definition begins where the body of the definition does
  have beyond : (definition.respelled names f).body ++ after' = f (definition.body ++ after) := by
    have parts := (starts_faithful standard_ordinary.legible _ _ _ _ spans'.opens).1
    rw [(starts_faithful standard_ordinary.legible _ _ _ _ (respells.starts_map side spans.opens)).1] at parts
    exact (List.append_cancel_left parts).symm
  have nearest := spans.nearest
  rw [Marker.lastOr_written bounds] at nearest
  intro place _ crossed
  by_cases inside : definition.body.length ≤ place
  · refine ⟨definition.body.length, inside, fun none => ?_⟩
    have here := nearest.here
    rw [none] at here
    cases here
  · obtain ⟨front, back, parts, apart, rfl, read⟩ := respells.stop_of_crossed bounds among
      (respells.sameSide_marker bounds starts previous') crossed
    have shorter := respells.length_lt parts.symm apart (Nat.lt_of_not_le inside)
    rw [← respells.body_respelled spans.framed] at shorter
    rw [← beyond] at read
    exact absurd (spans'.nearest.before _ shorter) read

theorem uncrossed_of_map_eq_none (side : SameSide previous previous')
    (missed : here? Grammar.standard previous' (f text) = none) :
    ∀ reading ∈ starts Grammar.standard previous text, Among names reading.1.token.name →
      UncrossedAt reading.1 reading.2 := by
  rintro ⟨start, beyond⟩ opens among place _ crossed
  have here := (Marker.mem_recognise_iff_at (opener_readBy _ _)).mp opens
  have bounds := bound_of_opener here.admits
  obtain ⟨front, back, _, _, _, read⟩ := respells.stop_of_crossed bounds among
    (respells.sameSide_marker bounds here previous') crossed
  have inside := (stopsFor_faithful standard_ordinary.legible _).inside read
  exact absurd (here?_eq_none standard_ordinary.legible missed (respells.starts_map side opens)
    (Nat.le_of_lt inside)) read

end Spans

end Respells

end Transclusion

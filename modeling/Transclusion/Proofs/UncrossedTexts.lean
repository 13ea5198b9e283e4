import Transclusion.Proofs.RespelledDefinitions

/-!
Texts in which no start marker of a respelled name runs into a stop marker of the other
multiplicity. Exactly these are cut at the same definitions before and after, with the plain
texts and the contents respelled.
-/

namespace Transclusion

namespace Cutting

variable {Mark : Type} {written : Mark → Text}

section Exposure

/-- No mark of the cutting runs over the place; one may begin or end there. -/
def Exposed (written : Mark → Text) (offset : Nat) (cutting : Cutting Mark) (place : Nat) : Prop :=
  ∀ entry ∈ located written offset cutting.cuts,
    ¬ (entry.1 < place ∧ place < entry.1 + (written entry.2).length)

instance (written : Mark → Text) (offset : Nat) (cutting : Cutting Mark) (place : Nat) :
    Decidable (Exposed written offset cutting place) :=
  inferInstanceAs (Decidable (∀ entry ∈ located written offset cutting.cuts, _))

theorem exposed_plain {offset place : Nat} {c : Char} {cutting : Cutting Mark} :
    Exposed written offset (cutting.plain c) place ↔ Exposed written (offset + 1) cutting place := by
  rw [Exposed, located_plain]
  exact Iff.rfl

theorem exposed_marked {offset place : Nat} {mark : Mark} {cutting : Cutting Mark} :
    Exposed written offset (cutting.marked mark) place ↔
      ¬ (offset < place ∧ place < offset + (written mark).length) ∧
        Exposed written (offset + (written mark).length) cutting place := by
  rw [Exposed, located_marked, List.forall_mem_cons]
  exact Iff.rfl

theorem exposed_plains {offset place : Nat} {text : Text} {cutting : Cutting Mark} :
    Exposed written offset (cutting.plains text) place ↔
      Exposed written (offset + text.length) cutting place := by
  induction text generalizing offset with
  | nil => exact Iff.rfl
  | cons c text ih =>
    rw [plains_cons, exposed_plain, ih, List.length_cons, Nat.add_assoc, Nat.add_comm 1]

theorem exposed_shift {offset place : Nat} (shift : Nat) {cutting : Cutting Mark} :
    Exposed written (shift + offset) cutting (shift + place) ↔
      Exposed written offset cutting place := by
  induction cutting using pieces generalizing offset with
  | empty => simp [Exposed, located]
  | plain c cutting ih => rw [exposed_plain, exposed_plain, Nat.add_assoc, ih]
  | marked mark cutting ih =>
    rw [exposed_marked, exposed_marked, Nat.add_assoc, ih]
    refine and_congr_left' (not_congr ?_)
    omega

end Exposure

section Mapping

/-- The cutting with its plain texts and its marks changed. -/
def mapped (f : Text → Text) (g : Mark → Mark) (cutting : Cutting Mark) : Cutting Mark :=
  { cuts := cutting.cuts.map fun cut => ⟨f cut.before, g cut.mark⟩, tail := f cutting.tail }

variable {f : Text → Text} {g : Mark → Mark} {cutting other : Cutting Mark}

theorem marks_mapped (f : Text → Text) (g : Mark → Mark) (cutting : Cutting Mark) :
    (cutting.mapped f g).marks = cutting.marks.map g := by
  simp [mapped, marks]

theorem mapped_empty (wordwise : Text.Wordwise f) : ({} : Cutting Mark).mapped f g = {} := by
  rw [mapped, wordwise.nil]
  rfl

theorem mapped_marked (wordwise : Text.Wordwise f) (mark : Mark) :
    (cutting.marked mark).mapped f g = (cutting.mapped f g).marked (g mark) := by
  simp [mapped, marked, wordwise.nil]

theorem plains_eq (text : Text) :
    cutting.plains text = match cutting.cuts with
      | [] => { cutting with tail := text ++ cutting.tail }
      | first :: rest =>
          { cutting with cuts := { first with before := text ++ first.before } :: rest } := by
  obtain ⟨cuts, tail⟩ := cutting
  induction text with
  | nil => cases cuts <;> rfl
  | cons c text ih =>
    rw [plains_cons, ih]
    cases cuts <;> rfl

theorem mapped_plains (wordwise : Text.Wordwise f) {text : Text}
    (apart : Text.Apart text (cutting.fill written)) :
    (cutting.plains text).mapped f g = (cutting.mapped f g).plains (f text) := by
  obtain ⟨cuts, tail⟩ := cutting
  rw [plains_eq, plains_eq]
  cases cuts with
  | nil =>
    have whole : f (text ++ tail) = f text ++ f tail := wordwise.append apart
    simp [mapped, whole]
  | cons cut cuts =>
    have first : Text.Apart text (cut.before ++ (written cut.mark ++ fill ⟨cuts, tail⟩ written)) := by
      simpa [fill] using apart
    simp [mapped, wordwise.append first.left]

theorem plain_injective {c : Char} (same : cutting.plain c = other.plain c) : cutting = other := by
  obtain ⟨cuts, tail⟩ := cutting
  obtain ⟨cuts', tail'⟩ := other
  cases cuts with
  | nil =>
    cases cuts' with
    | nil => simpa [plain] using same
    | cons cut' cuts' => simp [plain] at same
  | cons cut cuts =>
    cases cuts' with
    | nil => simp [plain] at same
    | cons cut' cuts' =>
      obtain ⟨before, mark⟩ := cut
      obtain ⟨before', mark'⟩ := cut'
      simpa [plain] using same

theorem plains_injective {text : Text} (same : cutting.plains text = other.plains text) :
    cutting = other := by
  induction text with
  | nil => exact same
  | cons c text ih => exact ih (plain_injective same)

theorem marked_injective {mark mark' : Mark} (same : cutting.marked mark = other.marked mark') :
    mark = mark' ∧ cutting = other := by
  obtain ⟨cuts, tail⟩ := cutting
  obtain ⟨cuts', tail'⟩ := other
  simpa [marked, and_assoc] using same

theorem marked_ne_plains {mark : Mark} {text : Text} (present : text ≠ []) :
    cutting.marked mark ≠ other.plains text := by
  obtain ⟨c, text, rfl⟩ := List.exists_cons_of_ne_nil present
  rw [plains_eq, marked]
  cases other.cuts with
  | nil => simp
  | cons cut cuts => simp

end Mapping

end Cutting

open Cutting Definition Text Token

namespace Definition

variable {previous : Option Char} {text front rest : Text} {definition : Definition}

theorem recognise_eq_nil (missed : here? Grammar.standard previous text = none) :
    recognise Grammar.standard previous text = [] := by
  rw [recognise, missed]
  rfl

-- A definition is cut out where it spans the text.
theorem ofText_spans {after : Text}
    (spans : Spans Grammar.standard previous text definition after rest) :
    text = definition.written ++ rest ∧
      ofText (recognise Grammar.standard) previous text =
        (ofText (recognise Grammar.standard) (lastOr previous definition.written) rest).marked
          definition := by
  have found : recognise Grammar.standard previous text = [(definition, rest)] := by
    rw [recognise, here?_of_spans standard_ordinary.legible spans]
    rfl
  have parts := (recognise_faithful standard_ordinary.legible previous text definition rest
    (by rw [found]; exact List.mem_singleton_self _)).1
  refine ⟨parts, ?_⟩
  rw [parts] at found ⊢
  exact ofText_marked (recognise_faithful standard_ordinary.legible) (by rw [found]; rfl)

-- No marker begins inside a piece.
theorem starts_eq_nil (piece : Piece front) {place : Nat} (after : 0 < place)
    (before : place < front.length) :
    readAt (starts Grammar.standard) previous (front ++ rest) place = [] := by
  rw [List.eq_nil_iff_forall_not_mem]
  rintro ⟨start, beyond⟩ member
  obtain ⟨opens, closes⟩ := @Piece.inside front rest piece place after before previous
  rcases ((Marker.mem_recognise_iff_at (opener_readBy _ _)).mp member).begins with begins | begins
  · rw [opens] at begins
    cases begins
  · rw [closes] at begins
    cases begins

-- A piece where no definition begins is passed over as a whole.
theorem ofText_piece (piece : Piece front)
    (missed : here? Grammar.standard previous (front ++ rest) = none) :
    ofText (recognise Grammar.standard) previous (front ++ rest) =
      (ofText (recognise Grammar.standard) (lastOr previous front) rest).plains front := by
  refine ofText_append fun place before => recognise_eq_nil ?_
  rcases Nat.eq_zero_or_pos place with rfl | after
  · exact missed
  · rw [Option.eq_none_iff_forall_not_mem]
    rintro ⟨definition, further⟩ found
    obtain ⟨_, spans⟩ := here?_spans standard_ordinary.legible found
    have none := @starts_eq_nil previous front rest piece place after before
    rw [readAt] at none
    have opens := spans.opens
    rw [none] at opens
    cases opens

-- A cutting with a definition in front has found it at the head of the text.
theorem here?_of_ofText {other : Cutting Definition}
    (cut : ofText (recognise Grammar.standard) previous text = other.marked definition) :
    ∃ rest, here? Grammar.standard previous text = some (definition, rest) ∧
      other = ofText (recognise Grammar.standard) (lastOr previous definition.written) rest := by
  cases found : here? Grammar.standard previous text with
  | some reading =>
    obtain ⟨first, rest⟩ := reading
    obtain ⟨after, spans⟩ := here?_spans standard_ordinary.legible found
    rw [(ofText_spans spans).2] at cut
    obtain ⟨rfl, rfl⟩ := marked_injective cut
    exact ⟨rest, rfl, rfl⟩
  | none =>
    by_cases nothing : text = []
    · rw [nothing, ofText_nil (recognise_faithful standard_ordinary.legible)] at cut
      cases cut
    · obtain ⟨front, rest, rfl, piece, _⟩ := exists_piece nothing
      rw [ofText_piece piece found] at cut
      exact absurd cut.symm (marked_ne_plains piece.present)

end Definition

/-- Each start marker of one of the names that stands in no definition, or opens one, has a
stop marker of its own before any of the other multiplicity. -/
def Uncrossed (names : List Text) (previous : Option Char) (text : Text) : Prop :=
  ∀ place < text.length,
    Exposed Definition.written 0 (ofText (recognise Grammar.standard) previous text) place →
      ∀ reading ∈ readAt (starts Grammar.standard) previous text place,
        Among names reading.1.token.name → UncrossedAt reading.1 reading.2

instance (names : List Text) (previous : Option Char) (text : Text) :
    Decidable (Uncrossed names previous text) :=
  inferInstanceAs (Decidable (∀ place < text.length, _ → ∀ reading ∈ _, _ → _))

namespace Uncrossed

variable {names : List Text} {previous : Option Char} {text front rest : Text}

theorem head (uncrossed : Uncrossed names previous text) :
    ∀ reading ∈ starts Grammar.standard previous text, Among names reading.1.token.name →
      UncrossedAt reading.1 reading.2 := by
  intro reading member
  have begun : reading ∈ readAt (starts Grammar.standard) previous text 0 := by
    rwa [readAt_zero]
  have inside := (starts_faithful standard_ordinary.legible).inside (List.ne_nil_of_mem begun)
  exact uncrossed 0 inside (fun entry _ => by omega) reading begun

/-- A text is uncrossed when it is at its head and after a front in which no start marker
is exposed. -/
theorem append_iff
    (exposed : ∀ place, Exposed Definition.written 0
      (ofText (recognise Grammar.standard) previous (front ++ rest)) (front.length + place) ↔
        Exposed Definition.written 0
          (ofText (recognise Grammar.standard) (lastOr previous front) rest) place)
    (covered : ∀ place, 0 < place → place < front.length →
      Exposed Definition.written 0
        (ofText (recognise Grammar.standard) previous (front ++ rest)) place →
      readAt (starts Grammar.standard) previous (front ++ rest) place = []) :
    Uncrossed names previous (front ++ rest) ↔
      (∀ reading ∈ starts Grammar.standard previous (front ++ rest),
        Among names reading.1.token.name → UncrossedAt reading.1 reading.2) ∧
      Uncrossed names (lastOr previous front) rest := by
  constructor
  · intro uncrossed
    refine ⟨uncrossed.head, ?_⟩
    intro place inside outer reading member
    refine uncrossed (front.length + place) (by simpa using inside) ((exposed place).mpr outer)
      reading ?_
    rwa [readAt_append]
  · rintro ⟨head, later⟩ place inside outer reading member
    by_cases within : place < front.length
    · rcases Nat.eq_zero_or_pos place with rfl | after
      · exact head reading (by rwa [readAt_zero] at member)
      · rw [covered place after within outer] at member
        cases member
    · obtain ⟨further, rfl⟩ := Nat.exists_eq_add_of_le (Nat.le_of_not_lt within)
      rw [readAt_append] at member
      exact later further (by simpa using inside) ((exposed further).mp outer) reading member

theorem plains_iff (piece : Piece front)
    (cut : ofText (recognise Grammar.standard) previous (front ++ rest) =
      (ofText (recognise Grammar.standard) (lastOr previous front) rest).plains front) :
    Uncrossed names previous (front ++ rest) ↔
      (∀ reading ∈ starts Grammar.standard previous (front ++ rest),
        Among names reading.1.token.name → UncrossedAt reading.1 reading.2) ∧
      Uncrossed names (lastOr previous front) rest := by
  refine append_iff (fun place => ?_) fun place after before _ => starts_eq_nil piece after before
  rw [cut, exposed_plains, Nat.zero_add]
  exact @exposed_shift _ _ 0 place front.length _

theorem marked_iff {definition : Definition} {after : Text}
    (spans : Spans Grammar.standard previous (definition.written ++ rest) definition after rest) :
    Uncrossed names previous (definition.written ++ rest) ↔
      (Among names definition.start.token.name →
        UncrossedAt definition.start (definition.body ++ after)) ∧
      Uncrossed names (lastOr previous definition.written) rest := by
  have cut := (ofText_spans spans).2
  rw [append_iff]
  · refine and_congr_left' ⟨fun head => head _ spans.opens, fun head reading member => ?_⟩
    rw [starts_single standard_ordinary.legible _ _ _ _ member spans.opens]
    exact head
  · intro place
    rw [cut, exposed_marked, Nat.zero_add]
    have outside : ¬ (0 < definition.written.length + place ∧
        definition.written.length + place < definition.written.length) := by omega
    rw [and_iff_right outside]
    exact @exposed_shift _ _ 0 place definition.written.length _
  · intro place after before outer
    rw [cut, exposed_marked] at outer
    omega

end Uncrossed

namespace Respells

variable {names : List Text} {f : Text → Text} (respells : Respells names f)
  {previous previous' : Option Char} {text after rest : Text} {definition : Definition}

include respells

theorem sameSide_definition
    (spans : Spans Grammar.standard previous text definition after rest) :
    SameSide (lastOr previous definition.written)
      (lastOr previous' (definition.respelled names f).written) := by
  have stops := spans.stops_at
  have bounds := bound_of_closer (bound_of_opener spans.starts_at.admits) stops.admits
  rw [written_eq, written_eq (definition.respelled names f), lastOr_append previous,
    lastOr_append previous', Marker.lastOr_written bounds]
  exact respells.sameSide_marker bounds stops _

theorem map_definition (spans : Spans Grammar.standard previous text definition after rest) :
    f text = (definition.respelled names f).written ++ f rest := by
  have starts := spans.starts_at
  have bounds := bound_of_opener starts.admits
  have stops := spans.stops_at
  have bounds' := bound_of_closer bounds stops.admits
  have front := (respells.marker_at bounds (bound_respelled bounds) (Or.inl rfl) starts).parts
  have back := (respells.marker_at bounds' (bound_respelled bounds') (Or.inl rfl) stops).parts
  rw [front, respells.append stops.apart_before, back, written_eq,
    respells.body_respelled spans.framed]
  simp [Definition.respelled]

-- One step over a definition of the text.
theorem ofText_marked_iff (side : SameSide previous previous')
    (spans : Spans Grammar.standard previous text definition after rest)
    {other : Cutting Definition} :
    ofText (recognise Grammar.standard) previous' (f text) =
        other.marked (definition.respelled names f) ↔
      (Among names definition.start.token.name →
        UncrossedAt definition.start (definition.body ++ after)) ∧
      ofText (recognise Grammar.standard)
        (lastOr previous' (definition.respelled names f).written) (f rest) = other := by
  constructor
  · intro same
    obtain ⟨rest', found, later⟩ := here?_of_ofText same
    have parts := (recognise_faithful standard_ordinary.legible previous' _ _ rest'
      (by rw [recognise, found]; exact List.mem_singleton_self _)).1
    rw [respells.map_definition spans] at parts
    rw [List.append_cancel_left parts]
    exact ⟨respells.uncrossed_of_map side spans found, later.symm⟩
  · rintro ⟨uncrossed, later⟩
    rw [(ofText_spans (respells.spans_map side uncrossed spans)).2, later]

-- One step over a piece where no definition of the text begins.
theorem ofText_plains_iff (side : SameSide previous previous') {front : Text} (piece : Piece front)
    (apart : Apart front rest) (missed : here? Grammar.standard previous (front ++ rest) = none)
    {other : Cutting Definition} :
    ofText (recognise Grammar.standard) previous' (f (front ++ rest)) = other.plains (f front) ↔
      (∀ reading ∈ starts Grammar.standard previous (front ++ rest),
        Among names reading.1.token.name → UncrossedAt reading.1 reading.2) ∧
      ofText (recognise Grammar.standard) (lastOr previous' (f front)) (f rest) = other := by
  have image := respells.append apart
  have piece' := respells.piece piece
  constructor
  · intro same
    have missed' : here? Grammar.standard previous' (f (front ++ rest)) = none := by
      cases found : here? Grammar.standard previous' (f (front ++ rest)) with
      | none => rfl
      | some reading =>
        obtain ⟨_, spans⟩ := here?_spans standard_ordinary.legible found
        rw [(ofText_spans spans).2] at same
        exact absurd same (marked_ne_plains piece'.present)
    refine ⟨respells.uncrossed_of_map_eq_none side missed', ?_⟩
    rw [image] at same missed'
    rw [ofText_piece piece' missed'] at same
    exact plains_injective same
  · rintro ⟨uncrossed, later⟩
    have missed' := respells.here?_map_eq_none side uncrossed missed
    rw [image] at missed' ⊢
    rw [ofText_piece piece' missed', later]

/-- The respelled text is cut at the definitions of the text, respelled, exactly when the
text is uncrossed. -/
theorem ofText_map_iff (side : SameSide previous previous') :
    ofText (recognise Grammar.standard) previous' (f text) =
        (ofText (recognise Grammar.standard) previous text).mapped f
          (Definition.respelled names f) ↔
      Uncrossed names previous text := by
  -- by the length of the text, since a definition or a piece takes any number of characters
  induction length : text.length using Nat.strongRecOn generalizing previous previous' text with
  | _ size ih =>
    cases found : here? Grammar.standard previous text with
    | some reading =>
      obtain ⟨definition, rest⟩ := reading
      obtain ⟨after, spans⟩ := here?_spans standard_ordinary.legible found
      obtain ⟨rfl, cut⟩ := ofText_spans spans
      have shorter : rest.length < size := by
        have present := Marker.written_ne_nil (bound_of_opener spans.starts_at.admits)
        have := List.length_pos_iff.mpr present
        simp [written_eq] at length
        omega
      rw [cut, mapped_marked respells.toWordwise, respells.ofText_marked_iff side spans,
        Uncrossed.marked_iff spans, ih rest.length shorter (respells.sameSide_definition spans) rfl]
    | none =>
      by_cases nothing : text = []
      · rw [nothing, respells.nil, ofText_nil (recognise_faithful standard_ordinary.legible),
          ofText_nil (recognise_faithful standard_ordinary.legible), mapped_empty respells.toWordwise]
        exact ⟨fun _ place inside => absurd inside (Nat.not_lt_zero place), fun _ => rfl⟩
      · obtain ⟨front, rest, rfl, piece, apart⟩ := exists_piece nothing
        have cut := ofText_piece piece found
        have shorter : rest.length < size := by
          have := List.length_pos_iff.mpr piece.present
          simp at length
          omega
        have whole := (reads_ofText (recognise_faithful standard_ordinary.legible)
          (lastOr previous front) rest).fill_written
        rw [cut, mapped_plains respells.toWordwise (by rwa [whole]),
          respells.ofText_plains_iff side piece apart found, Uncrossed.plains_iff piece cut,
          ih rest.length shorter (respells.sameSide_last side front) rfl]

end Respells

end Transclusion

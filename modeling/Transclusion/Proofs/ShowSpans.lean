import Transclusion.Proofs.LeftmostDefinitions
import Transclusion.Proofs.References

/-!
What substitution does, said of the text alone. A text is cut at the show markers that stand
in it, so that none begins in the plain text between them. Each of them gives its place up to
what its own name and multiplicity resolve to, each written form is asked for once, and the
plain text stays.
-/

namespace Transclusion

namespace Token

/-- A shape whose tokens end with a word character. -/
def Shape.Closed (shape : Shape) : Prop :=
  ∀ name, shape.name name → ∃ front c, name = front ++ [c] ∧ Text.isWord c = true

theorem opener_closed (grammar : Grammar) (word : Text) : (opener grammar word).Closed := by
  intro name named
  have present : name ≠ [] := IsName.ne_nil named
  exact ⟨name.dropLast, name.getLast present, (List.dropLast_append_getLast present).symm,
    Text.isWord_of_isNameTail (IsName.tail named _ (List.getLast_mem present))⟩

variable {shape : Shape}

-- A token is never empty, and no word can begin after one.
theorem Shape.At.last (closed : shape.Closed) {previous : Option Char} {text : Text} {token : Token}
    {rest : Text} (stands : shape.At previous text token rest) :
    token.written ≠ [] ∧ ∀ before, opensWord (Cutting.lastOr before token.written) = false := by
  obtain ⟨front, c, ends, word⟩ := closed token.name stands.name
  have written : token.written = token.word ++ token.separator ++ front ++ [c] := by
    simp [Token.written, ends]
  rw [written]
  refine ⟨by simp, fun before => ?_⟩
  rw [Cutting.lastOr_concat]
  simp [opensWord, word]

theorem Shape.At.not_nil (lettered : shape.Lettered) {previous : Option Char} {token : Token}
    {rest : Text} : ¬ shape.At previous [] token rest := by
  intro stands
  obtain ⟨c, after, none, _⟩ := stands.head lettered
  cases none

end Token

namespace Cutting

variable {Mark : Type}

/-- The plain texts before, between and after the marks. -/
def gaps (cutting : Cutting Mark) : List Text := cutting.cuts.map (·.before) ++ [cutting.tail]

@[simp] theorem gaps_plain (c : Char) (cutting : Cutting Mark) :
    (cutting.plain c).gaps = cutting.gaps.modifyHead (c :: ·) := by
  cases cutting with
  | mk cuts tail => cases cuts <;> rfl

@[simp] theorem gaps_marked (mark : Mark) (cutting : Cutting Mark) :
    (cutting.marked mark).gaps = [] :: cutting.gaps := rfl

/-- A text cut at show markers that stand where they are cut, so that no show marker begins
in the plain text and none of the plain texts holds a token of one. -/
structure Shown (grammar : Grammar) (text : Text) (found : Cutting Marker) : Prop where
  whole : found.fill Marker.written = text
  stands : ∀ offset marker, (offset, marker) ∈ located Marker.written 0 found.cuts →
    Marker.Stands (Token.opener grammar grammar.showWord) text offset marker
  unmarked : ∀ offset, Free Marker.written 0 found offset →
    ∀ marker, ¬ Marker.Stands (Token.opener grammar grammar.showWord) text offset marker
  clear : ∀ gap ∈ found.gaps, ∀ place token,
    ¬ (Token.opener grammar grammar.showWord).Stands gap place token

section Gaps

variable {shape : Token.Shape} {tokens : Recogniser Token} (readBy : shape.ReadBy tokens)
  (lettered : shape.Lettered) (closed : shape.Closed) {previous : Option Char} {text : Text}
  {cutting : Cutting Marker}

include readBy

-- Where a plain text ends no word goes on, unless one may begin there.
theorem Reads.gap (reads : Reads Marker.written (Marker.recognise tokens) previous text cutting) :
    ∃ gap others behind, cutting.gaps = gap :: others ∧ text = gap ++ behind ∧
      (opensWord (lastOr previous gap) = true ∨ closesWord behind = true) := by
  induction reads with
  | done _ => exact ⟨[], [], [], rfl, rfl, Or.inr rfl⟩
  | @plain previous c rest cutting _ _ ih =>
    obtain ⟨gap, others, behind, gaps, rfl, ends⟩ := ih
    exact ⟨c :: gap, others, behind, by simp [gaps], rfl, by simpa using ends⟩
  | @marked previous marker rest cutting preferred _ _ =>
    have here := (Marker.mem_recognise_iff_at readBy).mp (List.mem_of_mem_head? preferred)
    exact ⟨[], cutting.gaps, marker.written ++ rest, rfl, rfl, here.begins⟩

include lettered closed

-- No token stands in the first plain text, with `previous` before it, nor in another plain
-- text by itself.
theorem Reads.clear (reads : Reads Marker.written (Marker.recognise tokens) previous text cutting) :
    ∀ gap others, cutting.gaps = gap :: others →
      (∀ place token rest,
        ¬ shape.At (lastOr previous (gap.take place)) (gap.drop place) token rest) ∧
      ∀ other ∈ others, ∀ place token, ¬ shape.Stands other place token := by
  induction reads with
  | done _ =>
    rintro gap others same
    cases same
    exact ⟨fun place token rest => by simpa using Token.Shape.At.not_nil lettered, by simp⟩
  | @plain previous c rest cutting unread further ih =>
    intro gap others same
    obtain ⟨first, later, behind, gaps, rfl, ends⟩ := further.gap readBy
    simp only [gaps_plain, gaps, List.modifyHead_cons, List.cons.injEq] at same
    obtain ⟨rfl, rfl⟩ := same
    obtain ⟨clear, apart⟩ := ih first later gaps
    refine ⟨fun place token rest stands => ?_, apart⟩
    cases place with
    | succ place => exact clear place token rest (by simpa using stands)
    | zero =>
      -- a token at the head of the plain text would have been read there
      rw [List.take_zero, lastOr_nil, List.drop_zero] at stands
      have closes : closesWord (rest ++ behind) = true := by
        cases rest with
        | cons d rest => exact stands.closes
        | nil =>
          have last := (stands.last closed).2 previous
          rw [← List.append_nil token.written, ← stands.parts, lastOr_cons] at last
          exact ends.resolve_left (by simp [last])
      have whole : shape.At previous (c :: (first ++ behind)) token (rest ++ behind) :=
        ⟨stands.opens, by rw [← List.cons_append, stands.parts, List.append_assoc], stands.word,
          stands.separator, stands.name, closes⟩
      have read := (Marker.mem_recognise_iff_at readBy).mpr (.bare whole)
      rw [unread] at read
      cases read
  | @marked previous marker rest cutting preferred further ih =>
    intro gap others same
    rw [gaps_marked] at same
    obtain ⟨rfl, rfl⟩ := List.cons.inj same
    refine ⟨fun place token rest => by simpa using Token.Shape.At.not_nil lettered, ?_⟩
    obtain ⟨first, later, behind, gaps, rfl, _⟩ := further.gap readBy
    obtain ⟨clear, apart⟩ := ih first later gaps
    have here := (Marker.mem_recognise_iff_at readBy).mp (List.mem_of_mem_head? preferred)
    intro other member place token stands
    rw [gaps] at member
    rcases List.mem_cons.mp member with rfl | after
    · -- by itself the plain text begins a word where it does after the marker
      have begins : other.take place = [] → opensWord (lastOr previous marker.written) = true := by
        intro none
        obtain ⟨c, more, tail, word⟩ := stands.head lettered
        have whole : other = c :: more := by
          rw [← List.take_append_drop place other, none, tail, List.nil_append]
        exact here.ends.resolve_left (by simp [whole, closesWord, word])
      exact clear place token _ (by
        simpa using stands.within (lastOr previous marker.written) [] begins fun _ => rfl)
    · exact apart other after place token stands

end Gaps

end Cutting

namespace Substitution

open Cutting

theorem shown_cutting (text : Text) : Shown Grammar.standard text (cutting Grammar.standard text) := by
  have lettered : (Token.opener Grammar.standard Grammar.standard.showWord).Lettered :=
    Token.opener_lettered standard_ordinary.showWord.lettered
  have reads : Reads Marker.written (Marker.shows Grammar.standard) none text
      (cutting Grammar.standard text) := reads_ofText shows_faithful none text
  refine ⟨reads.fill_written, ?_, ?_, ?_⟩
  · intro offset marker member
    obtain ⟨_, rest, found⟩ := reads.located member
    exact Marker.stands_of_mem shows_readBy lettered (List.mem_of_mem_head? found)
  · intro offset free marker stands
    have unread := reads.unlocated (Nat.zero_le offset) free
    have read := (Marker.stands_iff shows_readBy).mp stands
    rw [Nat.sub_zero, Marker.shows] at unread
    rw [unread] at read
    cases read
  · intro gap member place token stands
    obtain ⟨first, later, behind, gaps, _, _⟩ := reads.gap shows_readBy
    obtain ⟨clear, apart⟩ :=
      reads.clear shows_readBy lettered (Token.opener_closed _ _) first later gaps
    rw [gaps] at member
    rcases List.mem_cons.mp member with rfl | after
    · have here := clear place token (gap.drop (place + token.written.length))
      rw [lastOr_none] at here
      exact here stands
    · exact apart gap after place token stands

theorem eq_of_shown {text : Text} {found : Cutting Marker}
    (shown : Shown Grammar.standard text found) : found = cutting Grammar.standard text := by
  have reads : Reads Marker.written (Marker.shows Grammar.standard) none
      (found.fill Marker.written) found := by
    refine @reads_of_located _ _ _ found none 0 ?_ shows_faithful ?_
    · intro offset marker member
      rw [shown.whole]
      exact ⟨_, shows_single.head? ((Marker.stands_iff shows_readBy).mp
        (shown.stands offset marker member))⟩
    · intro place _ free
      rw [shown.whole]
      apply List.eq_nil_iff_forall_not_mem.mpr
      rintro ⟨marker, rest⟩ member
      exact shown.unmarked place free marker (Marker.stands_of_mem shows_readBy
        (Token.opener_lettered standard_ordinary.showWord.lettered) member)
  rw [shown.whole] at reads
  exact reads.eq_ofText shows_faithful

section Outcomes

variable {Store Failure : Type}

/-- A resolver whose outcome depends on the name and the multiplicity alone, whatever else it
does to the session. -/
def settled (outcome : Text → Bool → Except Failure (Option Text))
    (effect : Text → Bool → Session Store → Session Store) : Resolver Store Failure :=
  fun name multi => do
    modify (effect name multi)
    return outcome name multi

/-- What an outcome puts in the place of a marker. -/
def inserted : Except Failure (Option Text) → Text
  | .ok (some content) => content
  | .ok none => []
  | .error _ => []

/-- A resolver's failure turned into an empty content. -/
def forgiven : Except Failure (Option Text) → Except Failure (Option Text)
  | .ok content => .ok content
  | .error _ => .ok (some [])

theorem inserted_forgiven (outcome : Except Failure (Option Text)) :
    inserted (forgiven outcome) = inserted outcome := by
  cases outcome <;> rfl

def replyOf : Except Failure (Option Text) → Reply
  | .ok (some content) => .content content
  | .ok none => .absent
  | .error _ => .failed

theorem text_replyOf (outcome : Except Failure (Option Text)) :
    (replyOf outcome).text = inserted outcome := by
  rcases outcome with _ | _ | _ <;> rfl

/-- The session after one call of a resolver: a failure leaves a warning behind. -/
def afterCall (outcome : Text → Bool → Except Failure (Option Text))
    (effect : Text → Bool → Session Store → Session Store) (session : Session Store)
    (marker : Marker) : Session Store :=
  let name := marker.token.name
  let multi := marker.token.separator == ['_', '_']
  let after := effect name multi session
  match outcome name multi with
  | .ok _ => after
  | .error _ =>
      { after with records := after.records ++ [⟨.warning, source, failureMessage name multi⟩] }

variable (outcome : Text → Bool → Except Failure (Option Text))
  (effect : Text → Bool → Session Store → Session Store)

theorem ask_run (marker : Marker) (session : Session Store) :
    (ask (settled outcome effect) Grammar.standard marker).run session =
      (answerBy Grammar.standard (fun name multi => replyOf (outcome name multi)) marker,
        afterCall outcome effect session marker) := by
  have multi : Grammar.standard.isMulti marker.token.separator =
      (marker.token.separator == ['_', '_']) := rfl
  simp only [ask, answerBy, afterCall, multi, resolveOne, settled, StateT.run_bind]
  generalize (marker.token.separator == ['_', '_']) = multi
  cases outcome marker.token.name multi with
  | ok content => cases content <;> rfl
  | error failure => rfl

-- The calls come one after the other.
theorem mapM_ask_run_foldl (markers : List Marker) (session : Session Store) :
    (markers.mapM (ask (settled outcome effect) Grammar.standard)).run session =
      (markers.map (answerBy Grammar.standard fun name multi => replyOf (outcome name multi)),
        markers.foldl (afterCall outcome effect) session) := by
  induction markers generalizing session with
  | nil => rfl
  | cons marker markers ih =>
    rw [List.mapM_cons, StateT.run_bind, ask_run]
    change (do
      let rest ← (markers.mapM (ask (settled outcome effect) Grammar.standard)).run
        (afterCall outcome effect session marker)
      pure (_ :: rest.1, rest.2)) = _
    rw [ih]
    rfl

-- The forms that are asked for are those of the markers, each where it first occurs.
theorem written_firsts (known : List Text) (markers : List Marker) :
    (firsts known markers).map (·.written) =
      ((markers.map (·.written)).filter fun form => !known.contains form).eraseDups := by
  induction markers generalizing known with
  | nil => rfl
  | cons marker markers ih =>
    rw [firsts]
    split
    · next seen => simp [ih, seen]
    · next fresh =>
      rw [List.map_cons, ih, List.map_cons, List.filter_cons_of_pos (by simpa using fresh),
        List.eraseDups_cons, List.filter_filter]
      congr 3
      funext form
      simp [Bool.and_comm, Bool.beq_eq_decide_eq]

end Outcomes

/-- Substitution cuts a text at its show markers and puts into each place what the marker's own
name and multiplicity resolve to, or nothing when that fails or gives no content. How the text is
cut depends on the text alone; each written form is asked for once, where it first occurs, and a
failure counts as an empty content. -/
theorem substitute_spans (text : Text) :
    ∃ found : Cutting Marker, (∀ other, Shown Grammar.standard text other ↔ other = found) ∧
      ∃ asked : List Marker, asked.Sublist found.marks ∧
        asked.map (·.written) = (found.marks.map (·.written)).eraseDups ∧
        ∀ (Store Failure : Type) (outcome : Text → Bool → Except Failure (Option Text))
          (effect : Text → Bool → Session Store → Session Store) (session : Session Store),
          let outcomeOf (marker : Marker) : Except Failure (Option Text) :=
            outcome marker.token.name (marker.token.separator == ['_', '_'])
          let filled := found.fill fun marker => inserted (outcomeOf marker)
          (substitute Grammar.standard (settled outcome effect) text).run session =
            ((filled, asked.map fun marker =>
                ⟨marker.written, marker.token.name, replyOf (outcomeOf marker)⟩),
              asked.foldl (afterCall outcome effect) session) ∧
          ((substitute Grammar.standard
            (settled (fun name multi => forgiven (outcome name multi)) effect) text).run
              session).1.1 = filled := by
  refine ⟨cutting Grammar.standard text, fun other => ⟨eq_of_shown, ?_⟩,
    firsts [] (cutting Grammar.standard text).marks, firsts_sublist [] _, ?_, ?_⟩
  · rintro rfl
    exact shown_cutting text
  · simpa using written_firsts [] (cutting Grammar.standard text).marks
  · intro Store Failure outcome effect session outcomeOf filled
    -- each marker gets the reply to the first marker of its written form, which is the same marker
    have run : ∀ outcome : Text → Bool → Except Failure (Option Text),
        (substitute Grammar.standard (settled outcome effect) text).run session =
          (((cutting Grammar.standard text).fill fun marker =>
              inserted (outcome marker.token.name (marker.token.separator == ['_', '_'])),
            (firsts [] (cutting Grammar.standard text).marks).map
              (answerBy Grammar.standard fun name multi => replyOf (outcome name multi))),
            (firsts [] (cutting Grammar.standard text).marks).foldl
              (afterCall outcome effect) session) := by
      intro outcome
      rw [substitute_eq_mapM]
      simp only [StateT.run_bind, mapM_ask_run_foldl]
      refine congrArg (fun filled => ((filled, _), _)) (fill_congr fun marker member => ?_)
      rw [replacement_of_mem (fun first member second member' => eq_of_written_eq text member member')
        member]
      exact text_replyOf _
    refine ⟨run outcome, ?_⟩
    rw [run]
    show (cutting Grammar.standard text).fill (fun marker => inserted (forgiven (outcomeOf marker))) =
      filled
    exact fill_congr fun marker _ => inserted_forgiven (outcomeOf marker)

end Substitution

end Transclusion

import Transclusion.Substitution
import Transclusion.Proofs.Folding

/-!
The references of a text. Of the show markers that are cut out of a text, the first of each
written form is asked for, once, and each marker is replaced by the reply to its own name
and multiplicity. In the standard grammar the quick test hides no show marker.
-/

namespace Transclusion

namespace Marker

variable {shape : Token.Shape} {previous : Option Char} {text : Text} {marker : Marker} {rest : Text}

-- A marker that stands somewhere stands in its written form alone.
theorem At.alone (here : At shape.At previous text marker rest) :
    At shape.At none marker.written marker [] := by
  cases here with
  | @bare _ token _ here =>
    have written : (Marker.bare token).written = token.written := by
      simp [Marker.written, Marker.bare]
    rw [written]
    exact .bare ⟨rfl, (List.append_nil _).symm, here.word, here.separator, here.name, rfl⟩
  | @wrapped tag spaces after token ending _ opens apart here closes =>
    have written : Marker.written ⟨some (tag ++ spaces), token, ending⟩ =
        tag ++ spaces ++ (token.written ++ ending) := by
      simp [Marker.written]
    rw [written]
    refine .wrapped opens apart ⟨here.opens, by simp, here.word, here.separator, here.name, ?_⟩ closes
    -- a closing tag follows, so the text after the marker does not matter
    have closed := here.closes
    cases closes with
    | @tag spaces element blanks _ _ _ =>
      cases spaces with
      | nil => simpa [closesWord] using closed
      | cons c spaces => simpa [closesWord] using closed

end Marker

namespace Substitution

open Cutting

section Asking

variable {Store Failure : Type} {grammar : Grammar} (resolve : Resolver Store Failure)

/-- The markers to ask for when some written forms are known: the first of each other form. -/
def firsts : List Text → List Marker → List Marker
  | _, [] => []
  | known, marker :: rest =>
      if marker.written ∈ known then firsts known rest
      else marker :: firsts (known ++ [marker.written]) rest

/-- Asks for the content of one marker. -/
def ask (grammar : Grammar) (marker : Marker) : Act Store Answer := do
  let reply ← resolveOne resolve marker.token.name (grammar.isMulti marker.token.separator)
  return ⟨marker.written, marker.token.name, reply⟩

theorem firsts_sublist (known : List Text) (markers : List Marker) :
    (firsts known markers).Sublist markers := by
  induction markers generalizing known with
  | nil => exact List.Sublist.refl []
  | cons marker markers ih =>
    rw [firsts]
    split
    · exact (ih known).cons marker
    · exact (ih _).cons_cons marker

-- Every written form is known or asked for.
theorem mem_written_firsts {known : List Text} {markers : List Marker} {form : Text} :
    form ∈ (firsts known markers).map (·.written) ↔
      form ∈ markers.map (·.written) ∧ form ∉ known := by
  induction markers generalizing known with
  | nil => simp [firsts]
  | cons marker markers ih =>
    rw [firsts]
    split
    · next seen =>
      rw [ih, List.map_cons, List.mem_cons]
      constructor
      · exact fun ⟨later, fresh⟩ => ⟨Or.inr later, fresh⟩
      · rintro ⟨rfl | later, fresh⟩
        · exact absurd seen fresh
        · exact ⟨later, fresh⟩
    · next fresh =>
      rw [List.map_cons, List.mem_cons, ih, List.map_cons, List.mem_cons]
      constructor
      · rintro (rfl | ⟨later, apart⟩)
        · exact ⟨Or.inl rfl, fresh⟩
        · exact ⟨Or.inr later, fun seen => apart (List.mem_append_left _ seen)⟩
      · rintro ⟨rfl | later, apart⟩
        · exact Or.inl rfl
        · by_cases same : form = marker.written
          · exact Or.inl same
          · exact Or.inr ⟨later, by simp [apart, same]⟩

theorem known?_isSome_iff {answers : List Answer} {form : Text} :
    (known? answers form).isSome = true ↔ form ∈ answers.map (·.written) := by
  simp [known?]

/-- Answering comes to asking once for each written form that is not answered yet. -/
theorem answerAll_eq_mapM (markers : List Marker) (answers : List Answer) :
    answerAll grammar resolve markers answers = (do
      let fresh ← (firsts (answers.map (·.written)) markers).mapM (ask resolve grammar)
      return answers ++ fresh) := by
  induction markers generalizing answers with
  | nil => simp [answerAll, firsts]
  | cons marker markers ih =>
    rw [answerAll, firsts]
    cases found : known? answers marker.written with
    | some answer =>
      rw [if_pos (known?_isSome_iff.mp (by rw [found]; rfl))]
      exact ih answers
    | none =>
      have fresh : marker.written ∉ answers.map (·.written) := by
        rw [← known?_isSome_iff, found]
        exact Bool.false_ne_true
      rw [if_neg fresh]
      simp only [ih, List.mapM_cons, ask, bind_assoc, pure_bind, List.map_append, List.map_cons,
        List.map_nil, List.append_assoc, List.singleton_append]

/-- The show markers that are replaced, none when the quick test sees none. -/
def replaced (grammar : Grammar) (text : Text) : Cutting Marker :=
  if grammar.mayShow text then cutting grammar text else { tail := text }

theorem substitute_eq_answerAll (grammar : Grammar) (text : Text) :
    substitute grammar resolve text = (do
      let answers ← answerAll grammar resolve (replaced grammar text).marks []
      return ((replaced grammar text).fill (replacement answers), answers)) := by
  rw [substitute, replaced]
  split
  · rfl
  · simp [marks, answerAll, fill]

end Asking

section Replies

variable {Store Failure : Type} {grammar : Grammar} {resolve : Resolver Store Failure}
  {reply : Text → Bool → Reply} {holds : Session Store → Prop}

/-- The answer to a marker when replies depend on the name and the multiplicity alone. -/
def answerBy (grammar : Grammar) (reply : Text → Bool → Reply) (marker : Marker) : Answer :=
  ⟨marker.written, marker.token.name,
    reply marker.token.name (grammar.isMulti marker.token.separator)⟩

theorem mapM_ask_run
    (replies : ∀ name multi session, holds session →
      ∃ after, (resolveOne resolve name multi).run session = (reply name multi, after) ∧ holds after)
    (markers : List Marker) {session : Session Store} (here : holds session) :
    ∃ after, (markers.mapM (ask resolve grammar)).run session =
      (markers.map (answerBy grammar reply), after) ∧ holds after := by
  induction markers generalizing session with
  | nil => exact ⟨session, rfl, here⟩
  | cons marker markers ih =>
    obtain ⟨between, first, there⟩ :=
      replies marker.token.name (grammar.isMulti marker.token.separator) session here
    obtain ⟨after, others, end'⟩ := ih there
    refine ⟨after, ?_, end'⟩
    simp only [List.mapM_cons, ask, bind_assoc, pure_bind, StateT.run_bind, first]
    change (do
      let rest ← (markers.mapM (ask resolve grammar)).run between
      pure (answerBy grammar reply marker :: rest.1, rest.2)) = _
    rw [others]
    rfl

-- A form that was asked for has the reply to the first marker of that form.
theorem replacement_of_mem {markers : List Marker}
    (determined : ∀ first ∈ markers, ∀ second ∈ markers,
      first.written = second.written → first = second)
    {marker : Marker} (member : marker ∈ markers) :
    replacement ((firsts [] markers).map (answerBy grammar reply)) marker =
      (answerBy grammar reply marker).reply.text := by
  obtain ⟨first, asked, same⟩ := List.mem_map.mp
    (mem_written_firsts.mpr ⟨List.mem_map_of_mem member, List.not_mem_nil⟩)
  have equal := determined first ((firsts_sublist [] markers).subset asked) marker member same
  subst equal
  cases found : known? ((firsts [] markers).map (answerBy grammar reply)) first.written with
  | none =>
    have seen := known?_isSome_iff.mpr (show first.written ∈
      ((firsts [] markers).map (answerBy grammar reply)).map (·.written) by
        rw [List.map_map]
        exact List.mem_map_of_mem asked)
    rw [found] at seen
    cases seen
  | some answer =>
    -- the answer that is found has the written form, and so belongs to the same marker
    obtain ⟨other, among, rfl⟩ := List.mem_map.mp (List.mem_of_find?_eq_some found)
    have spelled : other.written = first.written := by
      simpa [answerBy] using List.find?_some found
    have equal := determined other ((firsts_sublist [] markers).subset among) first
      ((firsts_sublist [] markers).subset asked) spelled
    rw [replacement, found, equal]
    rfl

end Replies

section Standard

variable {Store Failure : Type} (resolve : Resolver Store Failure) (text : Text)

theorem shows_readBy :
    (Token.opener Grammar.standard Grammar.standard.showWord).ReadBy
      (Token.withWord Grammar.standard Grammar.standard.showWord) :=
  Token.opener_readBy _ _

theorem shows_faithful : Faithful Marker.written (Marker.shows Grammar.standard) :=
  Marker.shows_faithful standard_ordinary.legible

theorem shows_single : Single (Marker.shows Grammar.standard) :=
  Marker.shows_single standard_ordinary.legible

theorem exists_read_of_mem {marker : Marker}
    (member : marker ∈ (cutting Grammar.standard text).marks) :
    ∃ previous behind rest, behind <:+ text ∧
      (marker, rest) ∈ Marker.shows Grammar.standard previous behind := by
  obtain ⟨offset, located⟩ := exists_located Marker.written 0 member
  obtain ⟨_, rest, found⟩ := (reads_ofText shows_faithful none text).located located
  exact ⟨_, _, rest, List.drop_suffix _ text, List.mem_of_mem_head? found⟩

-- Markers of one written form are one marker.
theorem eq_of_written_eq {first second : Marker}
    (member : first ∈ (cutting Grammar.standard text).marks)
    (member' : second ∈ (cutting Grammar.standard text).marks)
    (same : first.written = second.written) : first = second := by
  have alone : ∀ marker ∈ (cutting Grammar.standard text).marks,
      (marker, []) ∈ Marker.shows Grammar.standard none marker.written := by
    intro marker member
    obtain ⟨_, _, _, _, found⟩ := exists_read_of_mem text member
    exact (Marker.mem_recognise_iff_at shows_readBy).mpr
      ((Marker.mem_recognise_iff_at shows_readBy).mp found).alone
  have here := alone first member
  have there := alone second member'
  rw [same] at here
  exact (Prod.mk.inj (shows_single _ _ _ _ here there)).1

theorem mayShow_of_mem {marker : Marker}
    (member : marker ∈ (cutting Grammar.standard text).marks) :
    Grammar.standard.mayShow text = true := by
  obtain ⟨previous, behind, rest, inside, found⟩ := exists_read_of_mem text member
  cases (Marker.mem_recognise_iff_at shows_readBy).mp found with
  | bare here => exact mayShow_of_show inside here
  | @wrapped tag spaces after token ending _ opens apart here closes =>
    exact mayShow_of_show ((List.suffix_append _ _).trans inside) here

/-- Substitution asks once for each written form of the show markers, whether or not the
quick test sees one. -/
theorem substitute_eq_mapM :
    substitute Grammar.standard resolve text = (do
      let found := cutting Grammar.standard text
      let answers ← (firsts [] found.marks).mapM (ask resolve Grammar.standard)
      return (found.fill (replacement answers), answers)) := by
  rw [substitute]
  split
  · simp only [answerAll_eq_mapM, List.map_nil, List.nil_append, bind_pure]
  · next hidden =>
    have bare : (cutting Grammar.standard text).marks = [] := by
      apply List.eq_nil_iff_forall_not_mem.mpr
      intro marker member
      exact hidden (mayShow_of_mem text member)
    have whole := (reads_ofText shows_faithful none text).fill_written
    simp only [bare, firsts, List.mapM_nil, pure_bind]
    rw [@fill_congr _ _ _ Marker.written (by simp [bare])]
    exact congrArg (fun written => pure (written, [])) whole.symm

/-- The show marker of a name, written alone, is cut out as it is. -/
theorem cutting_showTag {name : Text} (named : IsName name) (multi : Bool) :
    cutting Grammar.standard (Grammar.standard.showTag name multi) =
      ({} : Cutting Marker).marked
        (.bare ⟨Grammar.standard.showWord, Grammar.standard.separator multi, name⟩) := by
  let token : Token := ⟨Grammar.standard.showWord, Grammar.standard.separator multi, name⟩
  have separates : Token.Separates Grammar.standard.split (Grammar.standard.separator multi) := by
    cases multi with
    | false => exact Or.inl (Text.Spells.refl _)
    | true => exact Or.inr (Text.Spells.refl _)
  have stands : Marker.At (Token.opener Grammar.standard Grammar.standard.showWord).At none
      (token.written ++ []) (.bare token) [] :=
    .bare ⟨rfl, rfl, Text.Spells.refl _, separates, named, rfl⟩
  have written : (Marker.bare token).written = Grammar.standard.showTag name multi := by
    simp [Marker.written, Marker.bare, Token.written, Grammar.showTag, token]
  have preferred : (Marker.shows Grammar.standard none ((Marker.bare token).written ++ [])).head? =
      some (.bare token, []) := by
    apply shows_single.head?
    rw [written]
    exact (Marker.mem_recognise_iff_at shows_readBy).mpr (by
      simpa [Token.written, Grammar.showTag, token] using stands)
  have cut := ofText_marked shows_faithful preferred
  rwa [List.append_nil, written, ofText_nil shows_faithful] at cut

end Standard

end Substitution

end Transclusion

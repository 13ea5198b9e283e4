import Transclusion.Proofs.ArchiveRuns
import Transclusion.Proofs.BlockContents
import Transclusion.Proofs.UncrossedTexts

/-!
What becomes of the blocks of a text when validation rewrites the markers of colliding names.
Where no start marker runs into a stop marker of the other multiplicity, all definitions stay:
those of the names as one multi-value block each, all others as they were.
-/

namespace Transclusion

open Cutting Definition Text Token

section Joining

variable {f : Text → Text} (wordwise : Wordwise f)

include wordwise

theorem Text.Wordwise.map_joinLines (texts : List Text) :
    f (joinLines texts) = joinLines (texts.map f) := by
  have outside : isWord '\n' = false := by decide
  induction texts with
  | nil => exact wordwise.nil
  | cons text texts ih =>
    by_cases more : texts = []
    · subst more
      simp [joinLines, List.intercalate]
    · have more' : texts.map f ≠ [] := by simpa using more
      rw [List.map_cons, joinLines_cons more, joinLines_cons more',
        wordwise.append (apart_of_head outside _ _), wordwise.skip _ _ outside, ih]

theorem Text.Wordwise.map_joined? (texts : List Text) :
    (joined? texts).map f = joined? (texts.map f) := by
  cases texts with
  | nil => rfl
  | cons first texts => exact congrArg some (wordwise.map_joinLines (first :: texts))

end Joining

namespace Definition

variable {names : List Text} {f : Text → Text} {definition : Definition} {name : Text}
  {multi : Bool} (bounds : bound.Admits definition.start.token)

theorem name_respelled (names : List Text) (f : Text → Text) (definition : Definition) :
    (definition.respelled names f).name = definition.name :=
  respelled_name names definition.start.token

include bounds

theorem among_iff_of_fold_eq (named : IsName name)
    (same : Text.fold definition.name = Text.fold name) :
    Among names definition.name ↔ Among names name := by
  have spells : Spells definition.name name := spells_of_fold_eq bounds.name named same
  exact ⟨fun among => among.of_spells spells, fun among => among.of_spells spells.symm⟩

-- Definitions of a respelled name all give the multi-value block.
theorem gives_respelled_of_among (named : IsName name) (among : Among names name) :
    (definition.respelled names f).Gives Grammar.standard name multi ↔
      Text.fold definition.name = Text.fold name ∧ multi = true := by
  rw [Gives, name_respelled]
  refine and_congr_right fun same => ?_
  have among' : Among names definition.start.token.name :=
    (among_iff_of_fold_eq bounds named same).mpr among
  have doubled : (definition.respelled names f).separator = ['_', '_'] :=
    respelled_separator bounds among'
  rw [doubled]
  cases multi with
  | false => decide
  | true => decide

theorem gives_respelled_of_not_among (named : IsName name) (other : ¬ Among names name) :
    (definition.respelled names f).Gives Grammar.standard name multi ↔
      definition.Gives Grammar.standard name multi := by
  rw [Gives, Gives, name_respelled]
  refine and_congr_right fun same => ?_
  have other' : ¬ Among names definition.start.token.name :=
    fun among => other ((among_iff_of_fold_eq bounds named same).mp among)
  have kept : (definition.respelled names f).separator = definition.separator := by
    show (definition.start.token.respelled names).separator = _
    rw [Token.respelled, if_neg fun both => other' both.2]
    rfl
  rw [kept]

end Definition

namespace Extraction

theorem bound_of_mem_marks {text : Text} {definition : Definition}
    (member : definition ∈ (definitions Grammar.standard text).marks) :
    bound.Admits definition.start.token := by
  obtain ⟨offset, located⟩ := exists_located Definition.written 0 member
  exact bound_of_opener ((leftmost_definitions text).stands offset definition located).start.admits

variable {names : List Text} {f : Text → Text} {definitions : List Definition} {name : Text}
  {multi : Bool} (bounds : ∀ definition ∈ definitions, bound.Admits definition.start.token)

include bounds

theorem contentsOf_respelled_of_among (named : IsName name) (among : Among names name) :
    contentsOf Grammar.standard (definitions.map (Definition.respelled names f)) name multi =
      if multi then
        (definitions.filter fun definition =>
          Text.fold definition.name = Text.fold name).map fun definition => f definition.content
      else [] := by
  induction definitions with
  | nil => cases multi <;> rfl
  | cons definition definitions ih =>
    have here := bounds definition List.mem_cons_self
    have later := ih fun other member => bounds other (List.mem_cons_of_mem definition member)
    rw [List.map_cons, contentsOf_cons, later]
    cases multi with
    | false => exact if_neg fun gives => by cases ((gives_respelled_of_among here named among).mp gives).2
    | true =>
      by_cases same : Text.fold definition.name = Text.fold name
      · rw [if_pos ((gives_respelled_of_among here named among).mpr ⟨same, rfl⟩)]
        simp [same, Definition.respelled]
      · rw [if_neg fun gives => same ((gives_respelled_of_among here named among).mp gives).1]
        simp [same]

theorem contentsOf_respelled_of_not_among (named : IsName name) (other : ¬ Among names name) :
    contentsOf Grammar.standard (definitions.map (Definition.respelled names f)) name multi =
      (contentsOf Grammar.standard definitions name multi).map f := by
  induction definitions with
  | nil => rfl
  | cons definition definitions ih =>
    have here := bounds definition List.mem_cons_self
    have later := ih fun other member => bounds other (List.mem_cons_of_mem definition member)
    rw [List.map_cons, contentsOf_cons, contentsOf_cons, later]
    by_cases gives : definition.Gives Grammar.standard name multi
    · rw [if_pos gives, if_pos ((gives_respelled_of_not_among here named other).mpr gives)]
      rfl
    · rw [if_neg gives, if_neg fun gives' =>
        gives ((gives_respelled_of_not_among here named other).mp gives')]

-- The blocks of a name that is respelled become one multi-value block.
theorem lookup_respelled_of_among (named : IsName name) (among : Among names name) :
    let blocks := collect Grammar.standard (definitions.map (Definition.respelled names f))
    blocks.lookup name false = none ∧
      blocks.lookup name true = joined? ((definitions.filter fun definition =>
        Text.fold definition.name = Text.fold name).map fun definition => f definition.content) := by
  intro blocks
  constructor
  · rw [lookup_collect_single, contentsOf_respelled_of_among bounds named among]
    rfl
  · rw [lookup_collect_multi, contentsOf_respelled_of_among bounds named among]
    rfl

-- The blocks of other names keep their kind.
theorem lookup_respelled_of_not_among (wordwise : Wordwise f) (named : IsName name)
    (other : ¬ Among names name) :
    (collect Grammar.standard (definitions.map (Definition.respelled names f))).lookup name multi =
      ((collect Grammar.standard definitions).lookup name multi).map f := by
  have contents := @contentsOf_respelled_of_not_among names f definitions name multi bounds named
    other
  cases multi with
  | false => rw [lookup_collect_single, lookup_collect_single, contents, List.head?_map]
  | true => rw [lookup_collect_multi, lookup_collect_multi, contents, wordwise.map_joined?]

end Extraction

namespace Engine

variable {engine : Engine} {session after : Session Archive} {id : String} {fields : List String}

/-- Validation doubles the markers of some of the names, in order, and warns of each. -/
theorem exists_doubled {names : List Text} {validation result : Validation}
    (done : (engine.validateNames id fields names validation).runFrom session = (.ok result, after)) :
    ∃ collided, collided.Sublist names ∧
      result.warnings = validation.warnings ++ collided.map (engine.collisionOf id) ∧
      result.text = engine.doubleAll collided validation.text := by
  induction names generalizing session validation with
  | nil =>
    cases done
    exact ⟨[], List.Sublist.refl [], by simp, rfl⟩
  | cons name names ih =>
    obtain ⟨collides, between, _, further⟩ := ArchiveWork.exists_of_runFrom_bind done
    cases collides with
    | false =>
      obtain ⟨collided, sublist, warned, written⟩ := ih further
      exact ⟨collided, sublist.cons name, warned, written⟩
    | true =>
      obtain ⟨_, noted, _, last⟩ := ArchiveWork.exists_of_runFrom_bind further
      obtain ⟨collided, sublist, warned, written⟩ := ih last
      refine ⟨name :: collided, sublist.cons_cons name, ?_, written⟩
      rw [warned, List.append_assoc]
      rfl

/-- What validation that rewrites the markers of colliding names makes of the definitions. The
text that comes out is cut at the same definitions, with the plain texts and the contents
rewritten, exactly when no start marker of such a name runs into a stop marker of the other
multiplicity. Then the definitions of a name that is rewritten make one multi-value block, and
every other block stays what it was. -/
theorem validate_keeps_definitions (standard : engine.grammar = Grammar.standard) {text : Text}
    {result : Validation}
    (done : (engine.validate id fields text).runFrom session = (.ok result, after)) :
    let names := result.warnings.map (·.name)
    let rewritten := engine.doubleAll names
    let found := Extraction.definitions Grammar.standard text
    let before := Extraction.blockMap Grammar.standard text
    let blocks := Extraction.blockMap Grammar.standard result.text
    result.text = rewritten text ∧
    (∀ name ∈ names, IsName name ∧ (before.lookup name false).isSome = true) ∧
    (Extraction.definitions Grammar.standard result.text =
      found.mapped rewritten (Definition.respelled names rewritten) ↔ Uncrossed names none text) ∧
    (Uncrossed names none text →
      (∀ name, IsName name → Among names name →
        blocks.lookup name false = none ∧
        blocks.lookup name true = joined? ((found.marks.filter fun definition =>
          Text.fold definition.name = Text.fold name).map fun definition =>
            rewritten definition.content)) ∧
      ∀ name multi, IsName name → ¬ Among names name →
        blocks.lookup name multi = (before.lookup name multi).map rewritten) := by
  intro names rewritten found before blocks
  obtain ⟨collided, sublist, warned, written⟩ := exists_doubled done
  have same : names = collided := by
    show result.warnings.map (·.name) = collided
    rw [warned, List.nil_append, List.map_map]
    exact List.map_id collided
  have doubled : result.text = rewritten text := by rw [written, ← same]
  have listed : ∀ name ∈ names, IsName name ∧ (before.lookup name false).isSome = true := by
    intro name member
    have single : name ∈ before.singleNames := by
      have inside := sublist.subset (same ▸ member)
      rwa [standard] at inside
    exact ⟨Extraction.isName_of_singleNames single, BlockMap.isSome_lookup_of_singleNames single⟩
  have respells : Respells names rewritten :=
    respells_doubleAll standard fun name member => (listed name member).1
  have cut : Extraction.definitions Grammar.standard result.text =
      found.mapped rewritten (Definition.respelled names rewritten) ↔ Uncrossed names none text := by
    rw [doubled, Extraction.definitions_eq_cutting, show found = _ from
      Extraction.definitions_eq_cutting text]
    exact respells.ofText_map_iff (Or.inl rfl)
  have bounds : ∀ definition ∈ found.marks, bound.Admits definition.start.token :=
    fun definition member => Extraction.bound_of_mem_marks member
  refine ⟨doubled, listed, cut, fun uncrossed => ?_⟩
  have collected : blocks = Extraction.collect Grammar.standard
      (found.marks.map (Definition.respelled names rewritten)) := by
    rw [← marks_mapped rewritten, ← cut.mpr uncrossed]
    rfl
  rw [collected]
  exact ⟨fun name named among => Extraction.lookup_respelled_of_among bounds named among,
    fun name multi named other =>
      Extraction.lookup_respelled_of_not_among bounds respells.toWordwise named other⟩

/-- The multi-value block that is there already comes after the one that is rewritten. -/
theorem validate_keeps_definitions_sample :
    let document : Document := { id := "A", fields := [("body", .plain "start_a q stop_a".toList)] }
    let session : Session Archive := { store := { shelf := .memory [document] } }
    let text := "start_A x stop_a start__a y stop__a start_b z stop_b".toList
    ∃ result after,
      (Engine.validate {} "B" ["body"] text).runFrom session = (.ok result, after) ∧
      Uncrossed (result.warnings.map (·.name)) none text ∧
      (Extraction.blockMap Grammar.standard result.text).lookup ['a'] true =
        some "x\ny".toList ∧
      (Extraction.blockMap Grammar.standard result.text).lookup ['b'] false = some ['z'] := by
  intro document session text
  let written := "start__A x stop__a start__a y stop__a start_b z stop_b".toList
  let result : Validation := ⟨written, true, [Engine.collisionOf {} "B" ['A']]⟩
  let run := (Engine.validate {} "B" ["body"] text).runFrom session
  have answer : run.1.toOption = some result := by decide +kernel
  have done : run = (.ok result, run.2) := by
    cases outcome : run.1 with
    | ok validation =>
      rw [outcome] at answer
      exact Prod.ext (outcome.trans (congrArg _ (Option.some.inj answer))) rfl
    | error fault =>
      rw [outcome] at answer
      cases answer
  have uncrossed : Uncrossed (result.warnings.map (·.name)) none text := by decide +kernel
  obtain ⟨_, _, _, kept⟩ := validate_keeps_definitions rfl done
  obtain ⟨together, others⟩ := kept uncrossed
  refine ⟨result, run.2, done, uncrossed, ?_, ?_⟩
  · rw [(together ['a'] (by decide) (by decide)).2]
    decide +kernel
  · rw [others ['b'] false (by decide) (by decide)]
    decide +kernel

/-- A stop marker that is double already cuts the content of the colliding block short, and
closes a start marker that had no stop marker, over another block. The dotless i is doubled
as a case form of the letter i, though names with it are other names. -/
theorem not_kept_crossed :
    let session (stored : String) : Session Archive :=
      { store := { shelf := .memory [{ id := "A", fields := [("body", .plain stored.toList)] }] } }
    let validated (stored text : String) : Option (List Text × Text) :=
      ((Engine.validate {} "B" ["body"] text.toList).runFrom (session stored)).1.toOption.map
        fun result => (result.warnings.map (·.name), result.text)
    let blocks (text : String) : List Block :=
      (Extraction.blockMap Grammar.standard text.toList).blocks
    (validated "start_a q stop_a" "start_a x stop__a y stop_a start_a z start_b w stop_b stop__a" =
        some ([['a']],
          "start__a x stop__a y stop__a start__a z start_b w stop_b stop__a".toList) ∧
      blocks "start_a x stop__a y stop_a start_a z start_b w stop_b stop__a" =
        [⟨['a'], false, "x stop__a y".toList⟩, ⟨['b'], false, ['w']⟩] ∧
      blocks "start__a x stop__a y stop__a start__a z start_b w stop_b stop__a" =
        [⟨['a'], true, "x\nz start_b w stop_b".toList⟩]) ∧
    (validated "start_i q stop_i" "start_i x stop_i start_\u0131 y stop_\u0131" =
        some ([['i']], "start__i x stop__i start__\u0131 y stop__\u0131".toList) ∧
      blocks "start_i x stop_i start_\u0131 y stop_\u0131" =
        [⟨['i'], false, ['x']⟩, ⟨['\u0131'], false, ['y']⟩] ∧
      blocks "start__i x stop__i start__\u0131 y stop__\u0131" =
        [⟨['i'], true, ['x']⟩, ⟨['\u0131'], true, ['y']⟩]) := by
  decide +kernel

end Engine

end Transclusion

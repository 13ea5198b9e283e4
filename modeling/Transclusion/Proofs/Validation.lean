import Transclusion.Proofs.Doubling
import Transclusion.Proofs.ArchiveRuns

/-!
What validation does to a text. Each single-value block that another document defines has
its markers doubled, and the text that comes out defines none of them as a single-value
block. Blocks that it defines anew have not been looked for.
-/

namespace Transclusion

namespace Session

/-- Only queries and records came in between. -/
def Follows (session after : Session Archive) : Prop :=
  ∃ queries records,
    after = { session with store := { session.store with queries }, records }

theorem Follows.refl (session : Session Archive) : Follows session session :=
  ⟨session.store.queries, session.records, rfl⟩

theorem Follows.trans {first second third : Session Archive} (before : Follows first second)
    (after : Follows second third) : Follows first third := by
  obtain ⟨_, _, rfl⟩ := before
  obtain ⟨queries, records, rfl⟩ := after
  exact ⟨queries, records, rfl⟩

theorem follows_asked (session : Session Archive) (query : Query) :
    Follows session (session.asked query) := ⟨_, _, rfl⟩

theorem follows_noted (session : Session Archive) (record : Record) :
    Follows session (session.noted record) := ⟨_, _, rfl⟩

theorem Follows.holds {session after : Session Archive} {documents : List Document}
    (follows : Follows session after) (holds : session.store.Holds documents) :
    after.store.Holds documents := by
  obtain ⟨_, _, rfl⟩ := follows
  exact ⟨holds.shelf, holds.answers⟩

end Session

namespace Engine

variable {engine : Engine} {session : Session Archive} {documents : List Document}

/-- Whether a document other than `id` defines the single-value block. -/
def elsewhere (engine : Engine) (documents : List Document) (id : String) (fields : List String)
    (name : Text) : Bool :=
  documents.any fun document => document.id != id && engine.defines fields name document

theorem elsewhere_iff {id : String} {fields : List String} {name : Text} :
    engine.elsewhere documents id fields name = true ↔
      ∃ document ∈ documents, document.id ≠ id ∧ engine.defines fields name document = true := by
  simp [elsewhere]

-- Lookups fold names.
theorem elsewhere_of_fold_eq {id : String} {fields : List String} {name other : Text}
    (same : Text.fold name = Text.fold other) :
    engine.elsewhere documents id fields name = engine.elsewhere documents id fields other := by
  simp only [elsewhere, defines, BlockMap.lookup, BlockMap.find?, Block.answers, same]

/-- The text with the markers of colliding names doubled, one name after the other. -/
def doubledFor (engine : Engine) (collides : Text → Bool) : List Text → Text → Text
  | [], text => text
  | name :: names, text =>
      engine.doubledFor collides names
        (if collides name then engine.doubleMarkers name text else text)

/-- A validation with the colliding ones of some more names told and doubled. -/
def validatedNames (engine : Engine) (collides : Text → Bool) (id : String) (names : List Text)
    (validation : Validation) : Validation where
  text := engine.doubledFor collides names validation.text
  changed := validation.changed || names.any collides
  warnings := validation.warnings ++ (names.filter collides).map (engine.collisionOf id)

section Steps

variable {collides : Text → Bool} {id : String} {name : Text} {names : List Text}
  {validation : Validation}

theorem validatedNames_nil : engine.validatedNames collides id [] validation = validation := by
  simp [validatedNames, doubledFor]

theorem validatedNames_cons_of_not (calm : collides name = false) :
    engine.validatedNames collides id (name :: names) validation =
      engine.validatedNames collides id names validation := by
  simp [validatedNames, doubledFor, calm]

theorem validatedNames_cons (collision : collides name = true) :
    engine.validatedNames collides id (name :: names) validation =
      engine.validatedNames collides id names
        { text := engine.doubleMarkers name validation.text
          changed := true
          warnings := validation.warnings ++ [engine.collisionOf id name] } := by
  simp [validatedNames, doubledFor, collision]

end Steps

section Names

variable (standard : engine.grammar = Grammar.standard) {collides : Text → Bool}
  {names : List Text} {name text : Text}

include standard

theorem Lacks.doubledFor (named : ∀ other ∈ names, IsName other) (isName : IsName name)
    (lacks : Lacks name text) : Lacks name (engine.doubledFor collides names text) := by
  induction names generalizing text with
  | nil => exact lacks
  | cons other names ih =>
    rw [Engine.doubledFor]
    apply ih fun later member => named later (by simp [member])
    split
    · exact lacks.doubleMarkers standard isName (named other (by simp))
    · exact lacks

-- Every colliding name is without tokens in the end.
theorem lacks_doubledFor (named : ∀ other ∈ names, IsName other) (member : name ∈ names)
    (collision : collides name = true) : Lacks name (engine.doubledFor collides names text) := by
  induction names generalizing text with
  | nil => cases member
  | cons other names ih =>
    have namedLater : ∀ later ∈ names, IsName later :=
      fun later inside => named later (by simp [inside])
    rw [Engine.doubledFor]
    rcases List.mem_cons.mp member with rfl | later
    · rw [if_pos collision]
      exact Lacks.doubledFor standard namedLater (named name (by simp))
        (lacks_doubleMarkers standard (named name (by simp)))
    · exact ih namedLater later

end Names

section Runs

variable (standard : engine.grammar = Grammar.standard) (id : String) (fields : List String)

include standard

theorem contains_of_defines {name : Text} {document : Document}
    (defines : engine.defines fields name document = true) :
    document.contains fields (Grammar.standard.startTag name false) = true := by
  obtain ⟨field, enabled, inField⟩ := List.any_eq_true.mp defines
  obtain ⟨text, member, found⟩ := List.any_eq_true.mp inField
  rw [standard] at found
  exact Document.contains_of_lookup enabled member found

theorem isDefinedElsewhere_run (holds : session.store.Holds documents) (name : Text) :
    (engine.isDefinedElsewhere id fields name).runFrom session =
      (.ok (engine.elsewhere documents id fields name),
        session.asked ⟨fields, Grammar.standard.startTag name false⟩) := by
  -- the documents that the query leaves out define no such block
  have same : (documents.filter fun document =>
      document.contains fields (Grammar.standard.startTag name false)).any
        (fun document => document.id != id && engine.defines fields name document) =
      engine.elsewhere documents id fields name := by
    rw [elsewhere, List.any_filter]
    congr 1
    funext document
    cases defines : engine.defines fields name document with
    | false => simp
    | true => simp [contains_of_defines standard fields defines]
  rw [isDefinedElsewhere, standard]
  refine (ArchiveWork.runFrom_bind
    (Archive.search_run holds ⟨fields, Grammar.standard.startTag name false⟩) _).trans ?_
  rw [ArchiveWork.runFrom_pure, same]

theorem validateNames_run (names : List Text) (validation : Validation)
    (holds : session.store.Holds documents) :
    ∃ after, (engine.validateNames id fields names validation).runFrom session =
        (.ok (engine.validatedNames (engine.elsewhere documents id fields) id names validation),
          after) ∧
      session.Follows after := by
  induction names generalizing session validation with
  | nil =>
    refine ⟨session, ?_, Session.Follows.refl session⟩
    rw [validateNames, validatedNames_nil]
    rfl
  | cons name names ih =>
    have asked := isDefinedElsewhere_run standard id fields holds name
    have answered := holds.asked ⟨fields, Grammar.standard.startTag name false⟩
    rw [validateNames, ArchiveWork.runFrom_bind asked]
    cases collision : engine.elsewhere documents id fields name with
    | false =>
      obtain ⟨after, done, follows⟩ := ih validation answered
      rw [validatedNames_cons_of_not collision]
      exact ⟨after, done, (Session.follows_asked _ _).trans follows⟩
    | true =>
      let record : Record := ⟨.warning, uniquenessSource,
        (engine.collisionOf id name).message ++ " (document " ++ id ++ ")"⟩
      obtain ⟨after, done, follows⟩ := @ih
        ((session.asked ⟨fields, Grammar.standard.startTag name false⟩).noted record)
        { text := engine.doubleMarkers name validation.text
          changed := true
          warnings := validation.warnings ++ [engine.collisionOf id name] }
        ⟨answered.shelf, answered.answers⟩
      rw [validatedNames_cons collision]
      refine ⟨after, ?_, ((Session.follows_asked _ _).trans
        (Session.follows_noted _ record)).trans follows⟩
      refine (ArchiveWork.runFrom_bind (Session.note_run _ _ _ _) _).trans ?_
      exact done

/-- What the text becomes before it is saved. -/
def validated (engine : Engine) (documents : List Document) (id : String) (fields : List String)
    (text : Text) : Text :=
  engine.doubledFor (engine.elsewhere documents id fields)
    (Extraction.blockMap Grammar.standard text).singleNames text

/-- The whole of what validation answers. -/
def validation (engine : Engine) (documents : List Document) (id : String) (fields : List String)
    (text : Text) : Validation :=
  engine.validatedNames (engine.elsewhere documents id fields) id
    (Extraction.blockMap Grammar.standard text).singleNames { text }

theorem validate_run (holds : session.store.Holds documents) (text : Text) :
    ∃ after, (engine.validate id fields text).runFrom session =
        (.ok (engine.validation documents id fields text), after) ∧ session.Follows after := by
  rw [validate, standard]
  exact validateNames_run standard id fields _ { text } holds

/-- A block that the text defines and another document defines too is no single-value
block of the text that is saved. -/
theorem lookup_validated {text name : Text}
    (found : ((Extraction.blockMap Grammar.standard text).lookup name false).isSome = true)
    (collision : engine.elsewhere documents id fields name = true) :
    (Extraction.blockMap Grammar.standard
      (engine.validated documents id fields text)).lookup name false = none := by
  obtain ⟨spelled, member, same⟩ := Extraction.exists_singleName found
  -- the name as the text first spells it collides as well
  have alike : engine.elsewhere documents id fields spelled = true := by
    rwa [elsewhere_of_fold_eq same]
  have named : ∀ other ∈ (Extraction.blockMap Grammar.standard text).singleNames, IsName other :=
    fun other inside => Extraction.isName_of_singleNames inside
  exact lookup_of_lacks (named spelled member)
    (lacks_doubledFor standard named member alike) same.symm

end Runs

end Engine

end Transclusion

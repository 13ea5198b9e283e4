import Transclusion.Proofs.PairedRuns
import Transclusion.Proofs.References

/-!
The flag that a render is in progress. A formatting asked for meanwhile gives its text back
and notes that it was skipped, so templates that call for a render do not start another one:
a render asks for each of its references once and leaves the flag as it was.
-/

namespace Transclusion

open Act

/-- Both sessions are the same, and a render is in progress in it. -/
def Session.InProgress (session other : Session Archive) : Prop :=
  session = other ∧ session.busy = true

theorem Session.inProgress_steady {override : Option Override} :
    Session.Steady override Session.InProgress where
  templates := fun _ _ here _ _ => by rw [here.1]
  fields := fun _ _ here _ => by rw [here.1]
  noted := fun _ _ here _ => ⟨by rw [here.1], here.2⟩

namespace Formatting

variable {Store : Type}

def skippedRecord : Record := ⟨.debug, source, "Skipping reentrant format call"⟩

/-- What a formatting comes to while another one runs: the text as it is, and a record. -/
def skipped (text : Text) : Act Store Text := do
  Session.note skippedRecord.severity skippedRecord.source skippedRecord.message
  return text

-- The quick test for definitions makes no difference.
theorem stripDefinitions_eq (grammar : Grammar) (text : Text) (report : Report) :
    stripDefinitions grammar text report =
      ((Extraction.strip grammar text).text,
        { report with
          defined := report.defined ++ (Extraction.strip grammar text).blocks.keys }) := by
  rw [stripDefinitions]
  split
  · rfl
  · next hidden =>
    have bare : Extraction.definitions grammar text = { tail := text } := if_neg hidden
    simp [Extraction.strip, Extraction.extract, bare, Cutting.fill, Cutting.marks,
      Extraction.collect, BlockMap.keys]

end Formatting

namespace Engine

variable (engine : Engine) (code : Option String)

theorem agree_find_inProgress (lookup : Lookup) (name : Text) (fields : List String)
    (language : String) :
    Agree Session.InProgress (engine.find lookup name fields language).run
      (engine.find lookup name fields language).run := by
  have searches : ∀ query, Agree Session.InProgress (Archive.search query true).run
      (Archive.search query true).run := by
    rintro query session _ ⟨rfl, busy⟩
    refine ⟨rfl, rfl, ?_⟩
    have searched := Archive.search_runFrom session query true
    rw [ArchiveWork.runFrom] at searched
    rw [searched]
    exact busy
  exact agree_find_of_searches searches lookup name fields language

theorem agree_references_inProgress {format format' : Text → Act Archive Text}
    (formats : ∀ nested, Agree Session.InProgress (format nested) (format' nested))
    (name : Text) (multi : Bool) :
    Agree Session.InProgress (engine.references code format name multi)
      (engine.references code format' name multi) :=
  agree_references Session.inProgress_steady formats engine.agree_find_inProgress code name multi

theorem renderWith_run_of_busy {session : Session Archive} (busy : session.busy = true)
    (format : Text → Act Archive Text) (text : Text) :
    (renderWithin.renderWith engine code format text).run session =
      ((text, {}), session.noted Formatting.skippedRecord) := by
  show (if session.busy then _ else _ : Act Archive (Text × Report)).run session = _
  rw [if_pos busy]
  rfl

/-- What a render does when none is in progress. -/
def passWith (format : Text → Act Archive Text) (text : Text) : Act Archive (Text × Report) := do
  Session.setBusy true
  let result ← Formatting.runStages engine.grammar (some (engine.references code format))
    Formatting.defaultStages text {}
  Session.setBusy false
  return result

theorem renderWith_run_of_idle {session : Session Archive} (idle : session.busy = false)
    (format : Text → Act Archive Text) (text : Text) :
    (renderWithin.renderWith engine code format text).run session =
      (engine.passWith code format text).run session := by
  show (if session.busy then _ else _ : Act Archive (Text × Report)).run session = _
  rw [if_neg (by rw [idle]; exact Bool.false_ne_true)]
  rfl

-- Templates run only while the render is in progress, so only what formatting does then counts.
theorem renderWith_congr {format format' : Text → Act Archive Text}
    (formats : ∀ nested, Agree Session.InProgress (format nested) (format' nested))
    (text : Text) :
    renderWithin.renderWith engine code format text =
      renderWithin.renderWith engine code format' text := by
  refine StateT.ext fun session => ?_
  cases busy : session.busy with
  | true => rw [renderWith_run_of_busy engine code busy, renderWith_run_of_busy engine code busy]
  | false =>
    rw [renderWith_run_of_idle engine code busy, renderWith_run_of_idle engine code busy]
    have steady : Session.Steady engine.override Session.InProgress := Session.inProgress_steady
    obtain ⟨same, ends, _⟩ := Formatting.agree_runStages steady
      (engine.agree_references_inProgress code formats) engine.grammar Formatting.defaultStages
      text {} { session with busy := true } { session with busy := true } ⟨rfl, rfl⟩
    have stages := Prod.ext same ends
    exact congrArg (fun done : (Text × Report) × Session Archive =>
      (done.1, { done.2 with busy := false })) stages

theorem renderWithin_run_of_busy {session : Session Archive} (busy : session.busy = true)
    (depth : Nat) (text : Text) :
    (engine.renderWithin code depth text).run session =
      ((text, {}), session.noted Formatting.skippedRecord) := by
  cases depth with
  | zero => exact renderWith_run_of_busy engine code busy _ text
  | succ depth => exact renderWith_run_of_busy engine code busy _ text

-- What a template is given when it asks for a text to be formatted.
theorem nested_run {session : Session Archive} (busy : session.busy = true) (depth : Nat)
    (nested : Text) :
    (do return (← engine.renderWithin code depth nested).1 : Act Archive Text).run session =
      (nested, session.noted Formatting.skippedRecord) := by
  show (((engine.renderWithin code depth nested).run session).1.1,
    ((engine.renderWithin code depth nested).run session).2) = _
  rw [renderWithin_run_of_busy engine code busy]

theorem agree_nested (depth : Nat) (nested : Text) :
    Agree Session.InProgress (do return (← engine.renderWithin code depth nested).1)
      (Formatting.skipped nested) := by
  rintro session _ ⟨rfl, busy⟩
  rw [nested_run engine code busy]
  exact ⟨rfl, rfl, busy⟩

theorem render_eq_renderWith_skipped (text : Text) :
    engine.render code text = renderWithin.renderWith engine code Formatting.skipped text :=
  renderWith_congr engine code (engine.agree_nested code 0) text

section Standard

open Substitution

theorem passWith_eq_substitute (standard : engine.grammar = Grammar.standard)
    (format : Text → Act Archive Text) (text : Text) :
    let stripped := Extraction.strip Grammar.standard text
    engine.passWith code format text = (do
      Session.setBusy true
      let (filled, answers) ←
        substitute Grammar.standard (engine.references code format) stripped.text
      Session.setBusy false
      return (Comment.strip filled,
        answers.foldl Report.addAnswer { defined := stripped.blocks.keys })) := by
  intro stripped
  simp only [passWith, standard, Formatting.defaultStages, Formatting.runStages,
    Formatting.runStage, Formatting.stripDefinitions_eq, pure_bind, bind_assoc, List.nil_append,
    stripped]

theorem passWith_eq (standard : engine.grammar = Grammar.standard)
    (format : Text → Act Archive Text) (text : Text) :
    let stripped := Extraction.strip Grammar.standard text
    let shows := cutting Grammar.standard stripped.text
    engine.passWith code format text = (do
      Session.setBusy true
      let answers ← (firsts [] shows.marks).mapM
        (ask (engine.references code format) Grammar.standard)
      Session.setBusy false
      return (Comment.strip (shows.fill (replacement answers)),
        answers.foldl Report.addAnswer { defined := stripped.blocks.keys })) := by
  intro stripped shows
  simp only [passWith_eq_substitute engine code standard, substitute_eq_mapM, pure_bind,
    bind_assoc, stripped, shows]

end Standard

end Engine

end Transclusion

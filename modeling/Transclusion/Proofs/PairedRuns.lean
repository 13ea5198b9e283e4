import Transclusion.Publication
import Transclusion.Proofs.ArchiveRuns

/-!
Two runs side by side. Work agrees under a relation of sessions when runs that begin in
related sessions give the same result and end in related sessions. A render agrees with
another one as soon as their searches for documents and the formatters of their templates
do.
-/

namespace Transclusion

variable {Result Next : Type} {related : Session Archive → Session Archive → Prop}

namespace Act

/-- From related sessions both runs give the same result, and end in related sessions. -/
def Agree (related : Session Archive → Session Archive → Prop)
    (first second : Act Archive Result) : Prop :=
  ∀ session other, related session other →
    (first.run session).1 = (second.run other).1 ∧
      related (first.run session).2 (second.run other).2

theorem Agree.pure (result : Result) : Agree related (pure result) (pure result) :=
  fun _ _ here => ⟨rfl, here⟩

theorem Agree.bind {first second : Act Archive Result} {next next' : Result → Act Archive Next}
    (before : Agree related first second)
    (after : ∀ result, Agree related (next result) (next' result)) :
    Agree related (first >>= next) (second >>= next') := by
  intro session other here
  obtain ⟨same, there⟩ := before session other here
  show ((next (first.run session).1).run (first.run session).2).1 =
      ((next' (second.run other).1).run (second.run other).2).1 ∧
    related ((next (first.run session).1).run (first.run session).2).2
      ((next' (second.run other).1).run (second.run other).2).2
  rw [← same]
  exact after (first.run session).1 _ _ there

theorem Agree.get_bind {next next' : Session Archive → Act Archive Next}
    (after : ∀ session other, related session other → Agree related (next session) (next' other)) :
    Agree related (get >>= next) (get >>= next') :=
  fun session other here => after session other here session other here

end Act

open Act

namespace ArchiveWork

theorem agree_pure (result : Result) :
    Agree related (pure result : ArchiveWork Result).run (pure result : ArchiveWork Result).run :=
  Agree.pure (Except.ok result)

theorem agree_bind {work work' : ArchiveWork Result} {next next' : Result → ArchiveWork Next}
    (before : Agree related work.run work'.run)
    (after : ∀ result, Agree related (next result).run (next' result).run) :
    Agree related (work >>= next).run (work' >>= next').run := by
  rw [ExceptT.run_bind, ExceptT.run_bind]
  apply before.bind
  rintro (fault | result)
  · exact Agree.pure (Except.error fault)
  · exact after result

theorem agree_get_bind {next next' : Session Archive → ArchiveWork Next}
    (after : ∀ session other, related session other →
      Agree related (next session).run (next' other).run) :
    Agree related (get >>= next : ArchiveWork Next).run (get >>= next' : ArchiveWork Next).run :=
  fun session other here => after session other here session other here

end ArchiveWork

/-- Related sessions give the same templates and the same fields for blocks, and noting a
record keeps them related. -/
structure Session.Steady (override : Option Override)
    (related : Session Archive → Session Archive → Prop) : Prop where
  templates : ∀ session other, related session other →
    ∀ given ∈ override, given session.store.files = given other.store.files
  fields : ∀ session other, related session other → ∀ capability,
    session.store.fieldsFor capability = other.store.fieldsFor capability
  noted : ∀ session other, related session other → ∀ record,
    related (session.noted record) (other.noted record)

/-- Related sessions are both busy or both idle, and stay related when both change. -/
structure Session.Guarded (related : Session Archive → Session Archive → Prop) : Prop where
  same : ∀ session other, related session other → session.busy = other.busy
  set : ∀ session other, related session other → ∀ busy,
    related { session with busy } { other with busy }

theorem Session.Guarded.agree_setBusy (guarded : Session.Guarded related) (busy : Bool) :
    Agree related (Session.setBusy busy) (Session.setBusy busy) :=
  fun session other here => ⟨rfl, guarded.set session other here busy⟩

section Steps

variable {override : Option Override} (steady : Session.Steady override related)

include steady

theorem Session.agree_note (severity : Severity) (source message : String) :
    Agree related (Session.note severity source message) (Session.note severity source message) :=
  fun session other here => ⟨rfl, steady.noted session other here ⟨severity, source, message⟩⟩

omit steady in
theorem Rendering.agree_run (rendering : Rendering Result) {format format' : Text → Act Archive Text}
    (formats : ∀ text, Agree related (format text) (format' text)) :
    Agree related (rendering.run format) (rendering.run format') := by
  induction rendering with
  | done result => exact Agree.pure result
  | format text next ih => exact (formats text).bind ih

namespace Substitution

variable {resolve resolve' : Resolver Archive Fault}
  (resolves : ∀ name multi, Agree related (resolve name multi) (resolve' name multi))

include resolves

theorem agree_resolveOne (name : Text) (multi : Bool) :
    Agree related (resolveOne resolve name multi) (resolveOne resolve' name multi) := by
  apply (resolves name multi).bind
  rintro (fault | _ | content)
  · exact (Session.agree_note steady _ _ _).bind fun _ => Agree.pure Reply.failed
  · exact Agree.pure Reply.absent
  · exact Agree.pure (Reply.content content)

theorem agree_answerAll (grammar : Grammar) (markers : List Marker) (answers : List Answer) :
    Agree related (answerAll grammar resolve markers answers)
      (answerAll grammar resolve' markers answers) := by
  induction markers generalizing answers with
  | nil => exact Agree.pure answers
  | cons marker markers ih =>
    simp only [answerAll]
    split
    · exact ih answers
    · exact (agree_resolveOne steady resolves _ _).bind fun reply => ih _

theorem agree_substitute (grammar : Grammar) (text : Text) :
    Agree related (substitute grammar resolve text) (substitute grammar resolve' text) := by
  simp only [substitute]
  split
  · exact (agree_answerAll steady resolves grammar _ []).bind fun answers => Agree.pure _
  · exact Agree.pure _

end Substitution

namespace Formatting

variable {resolve resolve' : Resolver Archive Fault}
  (resolves : ∀ name multi, Agree related (resolve name multi) (resolve' name multi))

include resolves

theorem agree_runStage (grammar : Grammar) (stage : Stage) (text : Text) (report : Report) :
    Agree related (runStage grammar (some resolve) stage text report)
      (runStage grammar (some resolve') stage text report) := by
  cases stage with
  | definitions => exact Agree.pure _
  | shows =>
    exact (Substitution.agree_substitute steady resolves grammar text).bind fun _ => Agree.pure _
  | comments => exact Agree.pure _

theorem agree_runStages (grammar : Grammar) (stages : List Stage) (text : Text) (report : Report) :
    Agree related (runStages grammar (some resolve) stages text report)
      (runStages grammar (some resolve') stages text report) := by
  induction stages generalizing text report with
  | nil => exact Agree.pure _
  | cons stage stages ih =>
    exact (agree_runStage steady resolves grammar stage text report).bind fun done => ih _ _

end Formatting

end Steps

namespace Engine

/-- What is made of the contents that a search found. -/
def resolveFound (engine : Engine) (lookup : Lookup) (format : Text → Act Archive Text) (name : Text)
    (found : List Text) : ArchiveWork Resolved := do
  if lookup.itemized || found.isEmpty then return lookup.shape found
  else return .joined (← engine.applyOverride format name (joinLines found))

variable {engine : Engine} {format format' : Text → Act Archive Text}
  (steady : Session.Steady engine.override related)
  (formats : ∀ text, Agree related (format text) (format' text))

include steady

include formats in
theorem agree_applyOverride (name content : Text) :
    Agree related (engine.applyOverride format name content).run
      (engine.applyOverride format' name content).run := by
  rw [applyOverride, applyOverride]
  split
  · exact ArchiveWork.agree_pure content
  · next override given =>
    apply ArchiveWork.agree_get_bind
    intro session other here
    rw [steady.templates session other here override given]
    refine ArchiveWork.agree_bind (Rendering.agree_run _ formats) ?_
    rintro (_ | given)
    · exact ArchiveWork.agree_pure content
    · refine ArchiveWork.agree_bind ?_ fun _ => ArchiveWork.agree_pure given.text
      exact (Session.agree_note steady _ _ _).bind fun _ => Agree.pure _

include formats in
theorem agree_resolveFound (lookup : Lookup) (name : Text) (found : List Text) :
    Agree related (engine.resolveFound lookup format name found).run
      (engine.resolveFound lookup format' name found).run := by
  rw [resolveFound, resolveFound]
  split
  · exact ArchiveWork.agree_pure _
  · exact ArchiveWork.agree_bind (agree_applyOverride steady formats _ _) fun _ =>
      ArchiveWork.agree_pure _

variable (finds : ∀ lookup name fields language, Agree related
  (engine.find lookup name fields language).run (engine.find lookup name fields language).run)

include finds

theorem agree_findWithFallback (lookup : Lookup) (name : Text) (fields : List String)
    (language : Language) :
    Agree related (engine.findWithFallback lookup name fields language).run
      (engine.findWithFallback lookup name fields language).run := by
  refine ArchiveWork.agree_bind (finds lookup name fields language.current) fun found => ?_
  split
  · refine ArchiveWork.agree_bind ?_ fun _ => finds lookup name fields language.fallback
    exact (Session.agree_note steady _ _ _).bind fun _ => Agree.pure _
  · exact ArchiveWork.agree_pure found

include formats

theorem agree_resolve (lookup : Lookup) (code : Option String) (requested : Text) :
    Agree related (engine.resolve lookup code format requested).run
      (engine.resolve lookup code format' requested).run := by
  apply ArchiveWork.agree_get_bind
  intro session other here
  have scopes : engine.scope lookup session.store = engine.scope lookup other.store := by
    simp only [scope, enabledFields, steady.fields session other here]
  simp only [scopes]
  split
  · exact ArchiveWork.agree_pure _
  · exact ArchiveWork.agree_bind (agree_findWithFallback steady finds _ _ _ _)
      (agree_resolveFound steady formats lookup _)

theorem agree_references (code : Option String) (name : Text) (multi : Bool) :
    Agree related (engine.references code format name multi)
      (engine.references code format' name multi) :=
  (agree_resolve steady formats finds { multi } code name).bind fun _ => Agree.pure _

omit formats

theorem agree_block (lookup : Lookup) (code : Option String) (name : Text) :
    Agree related (engine.block lookup code name).run (engine.block lookup code name).run :=
  agree_resolve steady (fun text => Agree.pure text) finds lookup code name

variable (guarded : Session.Guarded related)

include guarded

theorem agree_renderWith (code : Option String) {format : Text → Act Archive Text}
    (formats : ∀ text, Agree related (format text) (format text)) (text : Text) :
    Agree related (renderWithin.renderWith engine code format text)
      (renderWithin.renderWith engine code format text) := by
  apply Agree.get_bind
  intro session other here
  rw [guarded.same session other here]
  split
  · exact (Session.agree_note steady _ _ _).bind fun _ => Agree.pure _
  · refine (guarded.agree_setBusy true).bind fun _ => ?_
    refine (Formatting.agree_runStages steady
      (agree_references steady formats finds code) _ _ _ _).bind fun result => ?_
    exact (guarded.agree_setBusy false).bind fun _ => Agree.pure result

theorem agree_render (code : Option String) (text : Text) :
    Agree related (engine.render code text) (engine.render code text) := by
  have within : ∀ depth text, Agree related
      (engine.renderWithin code depth text) (engine.renderWithin code depth text) := by
    intro depth
    induction depth with
    | zero => exact agree_renderWith steady finds guarded code fun text => Agree.pure text
    | succ depth ih =>
      exact agree_renderWith steady finds guarded code fun nested =>
        (ih nested).bind fun _ => Agree.pure _
  exact within 1 text

omit steady finds guarded

section Searches

variable (searches : ∀ query, Agree related (Archive.search query true).run
  (Archive.search query true).run)

include searches

theorem agree_find_of_searches (lookup : Lookup) (name : Text) (fields : List String)
    (language : String) :
    Agree related (engine.find lookup name fields language).run
      (engine.find lookup name fields language).run :=
  ArchiveWork.agree_bind (searches _) fun _ => ArchiveWork.agree_pure _

include steady

end Searches

end Engine

namespace Archive

/-- A search answers the same over archives with the same documents that refuse the same. -/
theorem agree_search_of (query : Query) (includeHidden : Bool)
    (same : ∀ session other, related session other →
      session.store.refuses = other.store.refuses ∧ session.store.documents = other.store.documents)
    (asked : ∀ session other, related session other → related (session.asked query) (other.asked query)) :
    Agree related (search query includeHidden).run (search query includeHidden).run := by
  intro session other here
  have first := search_runFrom session query includeHidden
  have second := search_runFrom other query includeHidden
  obtain ⟨refuses, documents⟩ := same session other here
  rw [← refuses, matching, ← documents, ← matching] at second
  rw [ArchiveWork.runFrom] at first second
  rw [first, second]
  exact ⟨rfl, asked session other here⟩

end Archive

end Transclusion

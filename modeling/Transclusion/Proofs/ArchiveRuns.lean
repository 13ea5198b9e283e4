import Transclusion.Archive

/-!
Work on an archive that keeps its documents in memory, run step by step. A search answers
with the documents that hold the text and leaves nothing behind but the query; loading
leaves nothing behind, and keeping a document changes the documents alone.
-/

namespace Transclusion

namespace ArchiveWork

variable {Result Next : Type} {session after : Session Archive}

/-- Runs work from a session to its end. -/
def runFrom (work : ArchiveWork Result) (session : Session Archive) :
    Except Fault Result × Session Archive :=
  (ExceptT.run work).run session

@[simp] theorem runFrom_pure (result : Result) :
    runFrom (pure result) session = (.ok result, session) := rfl

-- Work goes on from the session that finished work leaves.
theorem runFrom_bind {work : ArchiveWork Result} {result : Result}
    (done : work.runFrom session = (.ok result, after)) (next : Result → ArchiveWork Next) :
    runFrom (work >>= next) session = (next result).runFrom after := by
  simp only [runFrom, ExceptT.run_bind, StateT.run_bind] at done ⊢
  rw [done]
  rfl

-- Work that fails does not go on.
theorem runFrom_bind_error {work : ArchiveWork Result} {fault : Fault}
    (failed : work.runFrom session = (.error fault, after)) (next : Result → ArchiveWork Next) :
    runFrom (work >>= next) session = (.error fault, after) := by
  simp only [runFrom, ExceptT.run_bind, StateT.run_bind] at failed ⊢
  rw [failed]
  rfl

-- Work that begins alike, and goes on alike from there, is alike.
theorem runFrom_bind_congr {work work' : ArchiveWork Result} {next next' : Result → ArchiveWork Next}
    (same : work.runFrom session = work'.runFrom session)
    (further : ∀ result after, work.runFrom session = (.ok result, after) →
      (next result).runFrom after = (next' result).runFrom after) :
    runFrom (work >>= next) session = runFrom (work' >>= next') session := by
  rcases ran : work.runFrom session with ⟨outcome, after⟩
  have ran' := ran
  rw [same] at ran'
  cases outcome with
  | ok result => rw [runFrom_bind ran, runFrom_bind ran', further result after ran]
  | error fault => rw [runFrom_bind_error ran, runFrom_bind_error ran']

-- Work that finishes has finished each of its steps.
theorem exists_of_runFrom_bind {work : ArchiveWork Result} {next : Result → ArchiveWork Next}
    {last : Next} (done : runFrom (work >>= next) session = (.ok last, after)) :
    ∃ result between, work.runFrom session = (.ok result, between) ∧
      (next result).runFrom between = (.ok last, after) := by
  simp only [runFrom, ExceptT.run_bind, StateT.run_bind] at done ⊢
  cases ran : (ExceptT.run work).run session with
  | mk outcome between =>
    rw [ran] at done
    cases outcome with
    | ok result => exact ⟨result, between, rfl, done⟩
    | error fault => cases done

theorem runFrom_tryCatch_ok {work : ArchiveWork Result} {result : Result}
    (done : work.runFrom session = (.ok result, after)) (handle : Fault → ArchiveWork Result) :
    runFrom (tryCatch work handle) session = (.ok result, after) := by
  simp only [runFrom, ExceptT.run, tryCatch, tryCatchThe, MonadExceptOf.tryCatch, ExceptT.tryCatch,
    ExceptT.mk, StateT.run_bind] at done ⊢
  rw [done]
  rfl

theorem runFrom_tryCatch_error {work : ArchiveWork Result} {fault : Fault}
    (failed : work.runFrom session = (.error fault, after)) (handle : Fault → ArchiveWork Result) :
    runFrom (tryCatch work handle) session = (handle fault).runFrom after := by
  simp only [runFrom, ExceptT.run, tryCatch, tryCatchThe, MonadExceptOf.tryCatch, ExceptT.tryCatch,
    ExceptT.mk, StateT.run_bind] at failed ⊢
  rw [failed]
  rfl

theorem runFrom_get : runFrom (get : ArchiveWork (Session Archive)) session = (.ok session, session) :=
  rfl

end ArchiveWork

namespace Archive

/-- The archive keeps these documents in memory and refuses no search. -/
structure Holds (archive : Archive) (documents : List Document) : Prop where
  shelf : archive.shelf = .memory documents
  answers : ∀ query, archive.refuses query = false

end Archive

namespace Session

/-- The session after a query. -/
def asked (session : Session Archive) (query : Query) : Session Archive :=
  { session with store := { session.store with queries := session.store.queries ++ [query] } }

/-- The session after a record. -/
def noted (session : Session Archive) (record : Record) : Session Archive :=
  { session with records := session.records ++ [record] }

/-- The session with other documents in memory. -/
def kept (session : Session Archive) (documents : List Document) : Session Archive :=
  { session with store := { session.store with shelf := .memory documents } }

/-- The session with other files. -/
def filed (session : Session Archive) (files : FileTree) : Session Archive :=
  { session with store := { session.store with files } }

end Session

namespace Archive

variable {session : Session Archive} {documents : List Document}

theorem Holds.asked (holds : session.store.Holds documents) (query : Query) :
    (session.asked query).store.Holds documents := ⟨holds.shelf, holds.answers⟩

theorem Holds.documents_eq {archive : Archive} (holds : archive.Holds documents) :
    archive.documents = .ok documents := by
  rw [Archive.documents, holds.shelf]
  rfl

theorem Holds.kept (holds : session.store.Holds documents) (others : List Document) :
    (session.kept others).store.Holds others := ⟨rfl, holds.answers⟩

-- The query is recorded whatever comes of it, and nothing else changes.
theorem search_runFrom (session : Session Archive) (query : Query) (includeHidden : Bool) :
    (search query includeHidden).runFrom session =
      (if session.store.refuses query then .error (.storage .unavailable)
        else session.store.matching query includeHidden, session.asked query) := by
  show ArchiveWork.runFrom
    (if session.store.refuses query then throw (.storage .unavailable)
      else search.liftExcept (session.store.matching query includeHidden))
    (session.asked query) = _
  split
  · rfl
  · cases session.store.matching query includeHidden <;> rfl

theorem search_run (holds : session.store.Holds documents) (query : Query) :
    (search query true).runFrom session =
      (.ok (documents.filter fun document => document.contains query.fields query.contains),
        session.asked query) := by
  rw [search_runFrom, holds.answers query, if_neg Bool.false_ne_true, matching, holds.documents_eq]
  rfl

theorem load_run (session : Session Archive) (id : String) :
    (load id).runFrom session = (session.store.shelf.get session.store.files id, session) := by
  rw [load]
  refine (ArchiveWork.runFrom_bind ArchiveWork.runFrom_get _).trans ?_
  cases found : session.store.shelf.get session.store.files id with
  | ok document =>
    simp only [found]
    rfl
  | error fault =>
    simp only [found]
    rfl

theorem keep_run_of_memory (memory : session.store.shelf = .memory documents)
    (document : Document) :
    (keep document).runFrom session = (.ok (), session.kept (document.putInto documents)) := by
  rw [keep]
  refine (ArchiveWork.runFrom_bind ArchiveWork.runFrom_get _).trans ?_
  simp only [memory]
  rfl

theorem keep_run (holds : session.store.Holds documents) (document : Document) :
    (keep document).runFrom session = (.ok (), session.kept (document.putInto documents)) :=
  keep_run_of_memory holds.shelf document

end Archive

theorem Session.note_run (session : Session Archive) (severity : Severity)
    (source message : String) :
    ArchiveWork.runFrom (show ArchiveWork Unit from
      (Session.note severity source message : Act Archive Unit)) session =
        (.ok (), session.noted ⟨severity, source, message⟩) := rfl

end Transclusion

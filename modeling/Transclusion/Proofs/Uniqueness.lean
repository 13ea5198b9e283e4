import Transclusion.Command.Run
import Transclusion.Proofs.Documents
import Transclusion.Proofs.Validation

/-!
Runs of saves, one after the other, from an empty archive. A single-value block is defined
in one document at most, until a save writes a block that was not in the text it was given:
doubling the markers of one name may uncover a block of another, and that one was never
looked for in other documents.
-/

namespace Transclusion

/-- A text for a field of a document. -/
structure Save where
  id : String
  field : String
  text : Text
  language : Option String := none
  deriving DecidableEq, Repr

namespace Archive

/-- The document of an id, an empty one when there is none. -/
def target (documents : List Document) (id : String) : Document :=
  (documents.find? fun document => document.id == id).getD { id }

variable {session : Session Archive} {documents : List Document}

theorem target_id (documents : List Document) (id : String) : (target documents id).id = id := by
  rw [target]
  cases found : documents.find? fun document => document.id == id with
  | none => rfl
  | some document => simpa using List.find?_some found

theorem documentToSave_run (holds : session.store.Holds documents) (id : String) :
    (Command.documentToSave id true).runFrom session = (.ok (target documents id), session) := by
  have loaded := load_run session id
  rw [holds.shelf, Shelf.get] at loaded
  rw [target, Command.documentToSave]
  cases found : documents.find? fun document => document.id == id with
  | none =>
    rw [found] at loaded
    exact ArchiveWork.runFrom_tryCatch_error loaded _
  | some document =>
    rw [found] at loaded
    exact ArchiveWork.runFrom_tryCatch_ok loaded _

end Archive

namespace Engine

variable {engine : Engine} {session : Session Archive} {documents : List Document}

/-- Loads the document, or makes an empty one, and saves the text to its field. -/
def save (engine : Engine) (save : Save) : ArchiveWork Validation := do
  let document ← Command.documentToSave save.id true
  return (← engine.saveField document save.field save.text save.language).1

/-- The text that a save writes. -/
def textSaved (engine : Engine) (documents : List Document) (fields : List String) (save : Save) :
    Text :=
  if (Archive.target documents save.id).textOf save.field save.language = save.text then save.text
  else engine.validated documents save.id fields save.text

/-- The documents after a save. -/
def documentsAfter (engine : Engine) (documents : List Document) (fields : List String)
    (save : Save) : List Document :=
  ((Archive.target documents save.id).setText save.field
    (engine.textSaved documents fields save) save.language).putInto documents

/-- The whole of what a save answers; a text that is there already is not looked at. -/
def validationFor (engine : Engine) (documents : List Document) (fields : List String)
    (save : Save) : Validation :=
  if (Archive.target documents save.id).textOf save.field save.language = save.text then
    { text := save.text }
  else engine.validation documents save.id fields save.text

theorem text_validationFor {fields : List String} {save : Save} :
    (engine.validationFor documents fields save).text =
      engine.textSaved documents fields save := by
  rw [validationFor, textSaved]
  split <;> rfl

theorem beforeSave_run (standard : engine.grammar = Grammar.standard)
    (holds : session.store.Holds documents) (save : Save) :
    ∃ after,
      (engine.beforeSave (Archive.target documents save.id).id none save.text (some
        ((Archive.target documents save.id).textOf save.field save.language))).runFrom session =
          (.ok (engine.validationFor documents (engine.enabledFields session.store) save), after) ∧
      session.Follows after := by
  rw [beforeSave, validationFor, Archive.target_id]
  by_cases same : (Archive.target documents save.id).textOf save.field save.language = save.text
  · rw [if_pos (congrArg some same), if_pos same]
    exact ⟨session, rfl, Session.Follows.refl session⟩
  · rw [if_neg fun equal => same (Option.some.inj equal), if_neg same,
      ArchiveWork.runFrom_bind ArchiveWork.runFrom_get]
    exact validate_run standard save.id _ holds save.text

theorem save_runFrom (standard : engine.grammar = Grammar.standard)
    (holds : session.store.Holds documents) (save : Save) :
    let fields := engine.enabledFields session.store
    ∃ after, (engine.save save).runFrom session =
        (.ok (engine.validationFor documents fields save), after) ∧
      (session.kept (engine.documentsAfter documents fields save)).Follows after := by
  intro fields
  obtain ⟨before, done, follows⟩ := beforeSave_run standard holds save
  let document := (Archive.target documents save.id).setText save.field
    (engine.validationFor documents fields save).text save.language
  have loaded := follows.holds holds
  have saved : (engine.saveField (Archive.target documents save.id) save.field save.text
      save.language).runFrom session =
        (.ok (engine.validationFor documents fields save, document),
          before.kept (document.putInto documents)) :=
    (ArchiveWork.runFrom_bind done _).trans
      (ArchiveWork.runFrom_bind (Archive.keep_run loaded document) _)
  refine ⟨before.kept (document.putInto documents), ?_, ?_⟩
  · rw [Engine.save, ArchiveWork.runFrom_bind (Archive.documentToSave_run holds save.id),
      ArchiveWork.runFrom_bind saved]
    rfl
  · rw [documentsAfter, ← text_validationFor]
    obtain ⟨_, _, rfl⟩ := follows
    exact ⟨_, _, rfl⟩

theorem save_run (standard : engine.grammar = Grammar.standard)
    (holds : session.store.Holds documents) (save : Save) :
    ∃ validation after, (engine.save save).runFrom session = (.ok validation, after) ∧
      validation.text = engine.textSaved documents (engine.enabledFields session.store) save ∧
      after.store.Holds (engine.documentsAfter documents (engine.enabledFields session.store) save) ∧
      engine.enabledFields after.store = engine.enabledFields session.store := by
  obtain ⟨after, done, follows⟩ := save_runFrom standard holds save
  refine ⟨_, after, done, text_validationFor, follows.holds (holds.kept _), ?_⟩
  obtain ⟨_, _, rfl⟩ := follows
  rfl

/-- Of each name, in any text of the fields, at most one of the documents defines a
single-value block. -/
def UniqueIn (engine : Engine) (fields : List String) (documents : List Document) : Prop :=
  ∀ name, ∀ first ∈ documents, ∀ second ∈ documents,
    engine.defines fields name first = true → engine.defines fields name second = true →
      first.id = second.id

/-- The written text has a single-value block that the text of the save has not, and
another document defines it. -/
structure Exposes (engine : Engine) (documents : List Document) (fields : List String)
    (save : Save) (written name : Text) : Prop where
  enabled : save.field ∈ fields
  made : ((Extraction.blockMap engine.grammar written).lookup name false).isSome = true
  unseen : (Extraction.blockMap engine.grammar save.text).lookup name false = none
  taken : engine.elsewhere documents save.id fields name = true

section Step

variable {fields : List String} {save : Save} {name : Text}

theorem defines_of_mem {document : Document} {field : String} {text : Text}
    (enabled : field ∈ fields) (member : text ∈ document.textsOf field)
    (found : ((Extraction.blockMap engine.grammar text).lookup name false).isSome = true) :
    engine.defines fields name document = true :=
  List.any_eq_true.mpr ⟨field, enabled, List.any_eq_true.mpr ⟨text, member, found⟩⟩

theorem target_mem_of_defines
    (defines : engine.defines fields name (Archive.target documents save.id) = true) :
    Archive.target documents save.id ∈ documents := by
  obtain ⟨field, _, inField⟩ := List.any_eq_true.mp defines
  obtain ⟨text, member, _⟩ := List.any_eq_true.mp inField
  rw [Archive.target] at member ⊢
  cases found : documents.find? fun document => document.id == save.id with
  | none =>
    rw [found] at member
    cases member
  | some document => exact List.mem_of_find?_eq_some found

variable (standard : engine.grammar = Grammar.standard)

include standard

-- A document that a save brings into conflict with another one is so by a block that
-- the save exposed.
theorem exposes_of_conflict (unique : engine.UniqueIn fields documents) {other : Document}
    (member : other ∈ documents) (apart : other.id ≠ save.id)
    (taken : engine.defines fields name other = true)
    (defines : engine.defines fields name ((Archive.target documents save.id).setText save.field
      (engine.textSaved documents fields save) save.language) = true) :
    engine.Exposes documents fields save (engine.textSaved documents fields save) name := by
  -- before the save only the other document defined the name
  have old : engine.defines fields name (Archive.target documents save.id) ≠ true := by
    intro before
    apply apart
    rw [← Archive.target_id documents save.id]
    exact unique name other member _ (target_mem_of_defines before) taken before
  obtain ⟨field, enabled, inField⟩ := List.any_eq_true.mp defines
  obtain ⟨text, inside, found⟩ := List.any_eq_true.mp inField
  by_cases here : field = save.field
  · subst here
    rcases Document.mem_textsOf_setText inside with rfl | rfl | kept
    · have present : engine.textSaved documents fields save ≠ [] :=
        Extraction.ne_nil_of_lookup (standard ▸ found)
      have collision : engine.elsewhere documents save.id fields name = true :=
        List.any_eq_true.mpr ⟨other, member, by simp [apart, taken]⟩
      by_cases same : (Archive.target documents save.id).textOf save.field save.language = save.text
      · -- An unchanged text is not validated, but its blocks stood in the document before.
        rw [textSaved, if_pos same, ← same] at found present
        exact absurd (defines_of_mem enabled (Document.mem_textsOf_of_ne_nil present) found) old
      · refine ⟨enabled, found, ?_, collision⟩
        by_contra present
        have seen := Option.isSome_iff_ne_none.mpr present
        rw [standard] at seen
        rw [textSaved, if_neg same, standard,
          lookup_validated standard save.id fields seen collision] at found
        cases found
    · exact absurd rfl (Extraction.ne_nil_of_lookup (standard ▸ found))
    · exact absurd (defines_of_mem enabled kept found) old
  · rw [Document.textsOf_setText_of_ne here] at inside
    exact absurd (defines_of_mem enabled inside found) old

theorem uniqueIn_documentsAfter (distinct : Document.Distinct documents)
    (unique : engine.UniqueIn fields documents) :
    engine.UniqueIn fields (engine.documentsAfter documents fields save) ↔
      ∀ name, ¬ engine.Exposes documents fields save (engine.textSaved documents fields save)
        name := by
  let document := (Archive.target documents save.id).setText save.field
    (engine.textSaved documents fields save) save.language
  have called : document.id = save.id := Archive.target_id documents save.id
  have after : ∀ other, other ∈ engine.documentsAfter documents fields save ↔
      other = document ∨ (other ∈ documents ∧ other.id ≠ document.id) :=
    fun other => Document.mem_putInto distinct
  constructor
  · rintro uniqueAfter name ⟨enabled, made, _, taken⟩
    obtain ⟨other, member, elsewhere⟩ := List.any_eq_true.mp taken
    simp only [Bool.and_eq_true, bne_iff_ne] at elsewhere
    have apart : other.id ≠ document.id := called ▸ elsewhere.1
    exact apart (uniqueAfter name other ((after other).mpr (Or.inr ⟨member, apart⟩)) document
      ((after document).mpr (Or.inl rfl)) elsewhere.2
      (defines_of_mem enabled Document.text_mem_textsOf_setText made))
  · intro calm name first inFirst second inSecond definesFirst definesSecond
    rcases (after first).mp inFirst with rfl | ⟨oldFirst, apartFirst⟩
    · rcases (after second).mp inSecond with rfl | ⟨oldSecond, apartSecond⟩
      · rfl
      · exact absurd (exposes_of_conflict standard unique oldSecond (called ▸ apartSecond)
          definesSecond definesFirst) (calm name)
    · rcases (after second).mp inSecond with rfl | ⟨oldSecond, apartSecond⟩
      · exact absurd (exposes_of_conflict standard unique oldFirst (called ▸ apartFirst)
          definesFirst definesSecond) (calm name)
      · exact unique name first oldFirst second oldSecond definesFirst definesSecond

end Step

/-- Of each name, in any text of an enabled field, at most one document of the archive
defines a single-value block. -/
def Unique (engine : Engine) (archive : Archive) : Prop :=
  ∃ documents, archive.documents = .ok documents ∧
    engine.UniqueIn (engine.enabledFields archive) documents

/-- The save writes a single-value block that was not in its text and that another document
defines. -/
def Uncovers (engine : Engine) (session : Session Archive) (save : Save) : Prop :=
  ∃ documents validation name, session.store.documents = .ok documents ∧
    ((engine.save save).runFrom session).1 = .ok validation ∧
    engine.Exposes documents (engine.enabledFields session.store) save validation.text name

/-- The session after saves, one after the other. -/
def runSaves (engine : Engine) (saves : List Save) (session : Session Archive) : Session Archive :=
  saves.foldl (fun session save => ((engine.save save).runFrom session).2) session

section Runs

variable (standard : engine.grammar = Grammar.standard)

theorem unique_iff (holds : session.store.Holds documents) :
    engine.Unique session.store ↔ engine.UniqueIn (engine.enabledFields session.store) documents := by
  rw [Unique, holds.documents_eq]
  constructor
  · rintro ⟨_, same, unique⟩
    cases same
    exact unique
  · exact fun unique => ⟨documents, rfl, unique⟩

include standard

/-- One save keeps the blocks unique unless it uncovers one. -/
theorem unique_save_iff (holds : session.store.Holds documents)
    (distinct : Document.Distinct documents) (unique : engine.Unique session.store) (save : Save) :
    engine.Unique ((engine.save save).runFrom session).2.store ↔
      ¬ engine.Uncovers session save := by
  obtain ⟨validation, after, done, written, kept, fields⟩ := save_run standard holds save
  rw [unique_iff holds] at unique
  rw [done, unique_iff kept, fields, uniqueIn_documentsAfter standard distinct unique, ← written]
  constructor
  · rintro calm ⟨_, _, name, stored, saved, exposes⟩
    rw [holds.documents_eq] at stored
    rw [done] at saved
    cases stored
    cases saved
    exact calm name exposes
  · intro calm name exposes
    exact calm ⟨documents, validation, name, holds.documents_eq, by rw [done], exposes⟩

theorem unique_runSaves_iff_from (holds : session.store.Holds documents)
    (distinct : Document.Distinct documents) (unique : engine.Unique session.store)
    (saves : List Save) :
    (∀ front, front <+: saves → engine.Unique (engine.runSaves front session).store) ↔
      ∀ front save, front ++ [save] <+: saves →
        ¬ engine.Uncovers (engine.runSaves front session) save := by
  induction saves generalizing session documents with
  | nil =>
    constructor
    · intro _ front save before
      simp at before
    · intro _ front before
      rw [List.prefix_nil.mp before]
      exact unique
  | cons save saves ih =>
    have step := unique_save_iff standard holds distinct unique save
    obtain ⟨validation, after, done, _, kept, _⟩ := save_run standard holds save
    rw [done] at step
    have next : ∀ front, engine.runSaves (save :: front) session = engine.runSaves front after := by
      intro front
      rw [runSaves, List.foldl_cons, done]
      rfl
    -- once a save has broken uniqueness, both sides fail at that save
    by_cases uniqueAfter : engine.Unique after.store
    · have later := ih kept (Document.distinct_putInto distinct) uniqueAfter
      constructor
      · intro always front other before
        cases front with
        | nil =>
          obtain ⟨rfl, _⟩ := List.cons_prefix_cons.mp before
          exact step.mp uniqueAfter
        | cons first front =>
          obtain ⟨rfl, inRest⟩ := List.cons_prefix_cons.mp before
          rw [next]
          refine later.mp ?_ front other inRest
          intro earlier inRest
          rw [← next]
          exact always _ (List.cons_prefix_cons.mpr ⟨rfl, inRest⟩)
      · intro calm front before
        cases front with
        | nil => exact unique
        | cons first front =>
          obtain ⟨rfl, inRest⟩ := List.cons_prefix_cons.mp before
          rw [next]
          refine later.mpr ?_ front inRest
          intro earlier other inRest
          rw [← next]
          exact calm _ other (List.cons_prefix_cons.mpr ⟨rfl, inRest⟩)
    · constructor
      · intro always
        have uniqueThere := always [save] (by simp)
        rw [next] at uniqueThere
        exact absurd uniqueThere uniqueAfter
      · intro calm
        exact absurd (step.mpr (calm [] save (by simp))) uniqueAfter

omit standard

/-- Saves from an empty archive leave every single-value block in one document at most, as
long as no save uncovers a block. -/
theorem unique_runSaves_iff (language : Language) (override : Option Override)
    (capability offered : String) (fields : List String) (saves : List Save) :
    let engine : Engine := { language, override, capability }
    let start : Session Archive :=
      { store := { shelf := .memory [], enabledFields := fields, capability := offered } }
    (∀ front, front <+: saves → engine.Unique (engine.runSaves front start).store) ↔
      ∀ front save, front ++ [save] <+: saves →
        ¬ engine.Uncovers (engine.runSaves front start) save := by
  intro engine start
  have holds : start.store.Holds [] := ⟨rfl, fun _ => rfl⟩
  refine unique_runSaves_iff_from rfl holds List.nodup_nil ?_ saves
  rw [unique_iff holds]
  intro name first member
  cases member

end Runs

/-- The block `b` of the second text stands inside `a`. Doubling `a` closes it at the marker
that was double already, and leaves `b` a single-value block of its own. -/
theorem not_unique_nested :
    ¬ Engine.Unique {} (Engine.runSaves {}
      [{ id := "A", field := "body", text := "start_a x stop_a start_b y stop_b".toList },
        { id := "B", field := "body", text := "start_a stop__a start_b x stop_b stop_a".toList }]
      { store := { shelf := .memory [] } }).store := by
  let engine : Engine := {}
  let first : Save :=
    { id := "A", field := "body", text := "start_a x stop_a start_b y stop_b".toList }
  let second : Save :=
    { id := "B", field := "body", text := "start_a stop__a start_b x stop_b stop_a".toList }
  let start : Session Archive := { store := { shelf := .memory [] } }
  let former : Document := { id := "A", fields := [("body", .plain first.text)] }
  let latter : Document := { id := "B", fields :=
    [("body", .plain "start__a stop__a start_b x stop_b stop__a".toList)] }
  have stored : engine.documentsAfter (engine.documentsAfter [] ["body"] first) ["body"] second =
      [former, latter] := by decide +kernel
  have holds : start.store.Holds [] := ⟨rfl, fun _ => rfl⟩
  have fields : engine.enabledFields start.store = ["body"] := by decide
  obtain ⟨_, between, done, _, keptFirst, fieldsFirst⟩ := @save_run engine start [] rfl holds first
  rw [fields] at keptFirst fieldsFirst
  obtain ⟨_, after, done', _, keptSecond, fieldsSecond⟩ :=
    @save_run engine between _ rfl keptFirst second
  rw [fieldsFirst] at keptSecond fieldsSecond
  rw [stored] at keptSecond
  have reached : engine.runSaves [first, second] start = after := by
    simp only [runSaves, List.foldl_cons, List.foldl_nil, done, done']
  have both : engine.defines ["body"] ['b'] former = true ∧
      engine.defines ["body"] ['b'] latter = true := by decide +kernel
  intro unique
  rw [reached, unique_iff keptSecond, fieldsSecond] at unique
  have same : former.id = latter.id :=
    unique ['b'] former (by simp) latter (by simp) both.1 both.2
  revert same
  decide

end Engine

end Transclusion

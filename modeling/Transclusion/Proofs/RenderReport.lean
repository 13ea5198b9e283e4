import Transclusion.Proofs.ShowSpans
import Transclusion.Proofs.ShownNames

/-!
The report of a render. A name is reported as shown when a reference to it is answered with some
text, and as missing when one is answered with none; a reference whose lookup fails is not
reported. So the report tells which names have a definition only where no lookup fails for all
references of a name, no definition comes to an empty text, and the single-value and the multi-value
references of a name are both found or both not.
-/

namespace Transclusion

open Act Substitution

namespace Report

variable {report : Report} {answer : Answer} {name wanted : Text}

/-- The lookup did not fail, and gave a text or none. -/
def Counts (answer : Answer) (name : Text) (empty : Bool) : Prop :=
  answer.name = name ∧ answer.reply ≠ .failed ∧ answer.reply.text.isEmpty = empty

theorem mem_insertNew {names : List Text} :
    wanted ∈ insertNew name names ↔ wanted ∈ names ∨ name = wanted := by
  by_cases seen : name ∈ names
  · simp only [insertNew, List.contains_iff_mem, seen, if_true]
    constructor
    · exact Or.inl
    · rintro (member | rfl)
      · exact member
      · exact seen
  · simp [insertNew, seen, eq_comm]

theorem mem_addAnswer :
    (name ∈ (report.addAnswer answer).shown ↔ name ∈ report.shown ∨ Counts answer name false) ∧
    (name ∈ (report.addAnswer answer).missing ↔ name ∈ report.missing ∨ Counts answer name true) := by
  obtain ⟨written, asked, reply⟩ := answer
  cases reply with
  | failed => simp [addAnswer, Counts]
  | absent => simp [addAnswer, Counts, Reply.text, mem_insertNew]
  | content text =>
    cases empty : text.isEmpty with
    | false => simp [addAnswer, Counts, Reply.text, mem_insertNew, empty]
    | true => simp [addAnswer, Counts, Reply.text, mem_insertNew, empty]

theorem mem_foldl_addAnswer (answers : List Answer) :
    (name ∈ (answers.foldl addAnswer report).shown ↔
      name ∈ report.shown ∨ ∃ answer ∈ answers, Counts answer name false) ∧
    (name ∈ (answers.foldl addAnswer report).missing ↔
      name ∈ report.missing ∨ ∃ answer ∈ answers, Counts answer name true) := by
  induction answers generalizing report with
  | nil => simp
  | cons answer answers ih =>
    obtain ⟨shown, missing⟩ := @ih (report.addAnswer answer)
    constructor
    · rw [List.foldl_cons, shown, mem_addAnswer.1, List.exists_mem_cons_iff, or_assoc]
    · rw [List.foldl_cons, missing, mem_addAnswer.2, List.exists_mem_cons_iff, or_assoc]

end Report

/-- What a show marker asks for. -/
structure Reference where
  name : Text
  multi : Bool
  deriving DecidableEq

namespace Reference

def ofMarker (marker : Marker) : Reference :=
  ⟨marker.token.name, Grammar.standard.isMulti marker.token.separator⟩

/-- The references of a text that is left when definitions are stripped. -/
def ofText (text : Text) : List Reference :=
  (cutting Grammar.standard (Extraction.strip Grammar.standard text).text).marks.map ofMarker

end Reference

namespace Report

/-- Each name is where the answers to its references put it. -/
structure Tallies (report : Report) (references : List Reference)
    (answer : Reference → Except Fault Text) : Prop where
  shown : ∀ name, name ∈ report.shown ↔ ∃ reference ∈ references, reference.name = name ∧
    ∃ content, answer reference = .ok content ∧ content ≠ []
  missing : ∀ name, name ∈ report.missing ↔ ∃ reference ∈ references, reference.name = name ∧
    answer reference = .ok []

/-- The report names what the references name, each name on one side only, and on that of the
missing ones where no reference to it finds a definition. -/
structure Exact (report : Report) (references : List Reference) (finds : Reference → Prop) :
    Prop where
  covers : ∀ name, name ∈ report.shown ∨ name ∈ report.missing ↔
    ∃ reference ∈ references, reference.name = name
  apart : ∀ name ∈ report.shown, name ∉ report.missing
  missing : ∀ reference ∈ references, reference.name ∈ report.missing ↔
    ∀ other ∈ references, other.name = reference.name → ¬ finds other

section Exact

variable {report : Report} {references : List Reference} {answer : Reference → Except Fault Text}
  {finds : Reference → Prop} (tallies : report.Tallies references answer)

include tallies

theorem Tallies.reported_iff (name : Text) : name ∈ report.shown ∨ name ∈ report.missing ↔
    ∃ reference ∈ references, reference.name = name ∧ ∃ content, answer reference = .ok content := by
  rw [tallies.shown, tallies.missing]
  constructor
  · rintro (⟨reference, member, same, content, answered, _⟩ | ⟨reference, member, same, answered⟩)
    · exact ⟨reference, member, same, content, answered⟩
    · exact ⟨reference, member, same, [], answered⟩
  · rintro ⟨reference, member, same, content, answered⟩
    by_cases empty : content = []
    · exact Or.inr ⟨reference, member, same, empty ▸ answered⟩
    · exact Or.inl ⟨reference, member, same, content, answered, empty⟩

theorem Tallies.exact_iff
    (found : ∀ reference content, answer reference = .ok content → content ≠ [] → finds reference) :
    report.Exact references finds ↔ ∀ reference ∈ references,
      (∃ other ∈ references, other.name = reference.name ∧ ∃ content, answer other = .ok content) ∧
      (finds reference →
        ∀ other ∈ references, other.name = reference.name → answer other ≠ .ok []) := by
  constructor
  · intro precise reference member
    constructor
    · exact (tallies.reported_iff _).mp ((precise.covers _).mpr ⟨reference, member, rfl⟩)
    · intro finds other inside same silent
      have reported := (tallies.missing _).mpr ⟨other, inside, same, silent⟩
      exact (precise.missing reference member).mp reported reference member rfl finds
  · intro calm
    constructor
    · intro name
      rw [tallies.reported_iff]
      constructor
      · rintro ⟨reference, member, same, _⟩
        exact ⟨reference, member, same⟩
      · rintro ⟨reference, member, rfl⟩
        exact (calm reference member).1
    · intro name here there
      obtain ⟨reference, member, rfl, content, answered, present⟩ := (tallies.shown name).mp here
      obtain ⟨other, inside, same, silent⟩ := (tallies.missing _).mp there
      exact (calm reference member).2 (found reference content answered present) other inside same
        silent
    · intro reference member
      constructor
      · intro there other inside same finds
        obtain ⟨empty, among, alike, silent⟩ := (tallies.missing _).mp there
        exact (calm other inside).2 finds empty among (alike.trans same.symm) silent
      · intro nothing
        obtain ⟨⟨other, inside, same, content, answered⟩, _⟩ := calm reference member
        have empty : content = [] := by
          by_contra present
          exact nothing other inside same (found other content answered present)
        exact (tallies.missing _).mpr ⟨other, inside, same, empty ▸ answered⟩

end Exact

end Report

namespace Engine

/-- What a reference is answered with over an archive. -/
def answer (engine : Engine) (code : Option String) (archive : Archive) (reference : Reference) :
    Except Fault Text :=
  ((engine.block { multi := reference.multi } code reference.name).runFrom ⟨archive, false, []⟩).1.map
    (·.text)

/-- The archive answers the query of a reference, and its documents define the block, in the
reader's language or in the fallback language. -/
def Finds (engine : Engine) (code : Option String) (archive : Archive) (reference : Reference) :
    Prop :=
  let fields := engine.enabledFields archive
  archive.refuses (queryFor { multi := reference.multi } (sanitize reference.name) fields) = false ∧
    ∃ documents, archive.documents = .ok documents ∧
      engine.contents documents fields code reference.multi reference.name ≠ []

section Lookups

variable {engine : Engine} {session : Session Archive} {lookup : Lookup} {name : Text}
  {fields : List String} (standard : engine.grammar = Grammar.standard)

include standard

theorem findWithFallback_result (language : Language) :
    ((engine.findWithFallback lookup name fields language).runFrom session).1 =
      if session.store.refuses (queryFor lookup name fields) then .error (.storage .unavailable)
      else session.store.documents.map fun documents =>
        hitsOf (fun code => lookup.walk name fields code documents) language := by
  have first := @find_runFrom_eq engine session lookup name fields standard language.current
  rw [findWithFallback]
  by_cases refused : session.store.refuses (queryFor lookup name fields) = true
  · rw [if_pos refused] at first ⊢
    rw [ArchiveWork.runFrom_bind_error first]
  · rw [if_neg refused] at first ⊢
    cases stored : session.store.documents with
    | error fault =>
      rw [stored] at first
      rw [ArchiveWork.runFrom_bind_error first]
      rfl
    | ok documents =>
      let hits := fun code => lookup.walk name fields code documents
      rw [stored] at first
      rw [ArchiveWork.runFrom_bind first, Except.map]
      by_cases once : hits language.current ≠ [] ∨ language.current = language.fallback
      · have stays : ¬ ((hits language.current).isEmpty && !language.isFallback) = true :=
          fun again => searchesAgain_iff.mp again once
        dsimp only
        rw [if_neg stays, hitsOf_of_once once]
        rfl
      · have missed : hitsOf hits language = hits language.fallback :=
          if_neg fun found => once (Or.inl found)
        have again := searchesAgain_iff.mpr once
        dsimp only
        rw [if_pos again, ArchiveWork.runFrom_bind (Session.note_run _ _ _ _),
          engine.find_runFrom_eq lookup name fields standard, missed]
        exact (if_neg refused).trans (congrArg _ stored)

-- A search that comes to an end has found what the documents define.
theorem found_of_searched {language : Language} {found : List Text} {after : Session Archive}
    (searched : (engine.findWithFallback lookup name fields language).runFrom session =
      (.ok found, after)) :
    session.store.refuses (queryFor lookup name fields) = false ∧
      ∃ documents, session.store.documents = .ok documents ∧
        found = hitsOf (fun code => lookup.walk name fields code documents) language := by
  have result := @findWithFallback_result engine session lookup name fields standard language
  rw [searched] at result
  by_cases refused : session.store.refuses (queryFor lookup name fields) = true
  · rw [if_pos refused] at result
    cases result
  · rw [if_neg refused] at result
    constructor
    · simpa using refused
    · cases stored : session.store.documents with
      | error fault =>
        rw [stored] at result
        cases result
      | ok documents =>
        rw [stored] at result
        exact ⟨documents, rfl, Except.ok.inj result⟩

end Lookups

section Answers

variable {engine : Engine} {code : Option String} {archive : Archive} {reference : Reference}
  (standard : engine.grammar = Grammar.standard)

include standard

-- What is not found is answered with no text, if it is answered at all.
theorem answer_of_not_finds (nothing : ¬ engine.Finds code archive reference) {text : Text}
    (answered : engine.answer code archive reference = .ok text) : text = [] := by
  let lookup : Lookup := { multi := reference.multi }
  let session : Session Archive := ⟨archive, false, []⟩
  obtain ⟨content, after, resolved, rfl⟩ : ∃ content after,
      (engine.resolve lookup code pure reference.name).runFrom session = (.ok content, after) ∧
        content.text = text := by
    rw [answer, block] at answered
    rcases ran : (engine.resolve lookup code pure reference.name).runFrom session with
      ⟨outcome, after⟩
    rw [ran] at answered
    cases outcome with
    | error fault => cases answered
    | ok content => exact ⟨content, after, rfl, Except.ok.inj answered⟩
  by_cases absent : sanitize reference.name = [] ∨ engine.scope lookup archive = []
  · have same := (resolve_nothing lookup absent).symm.trans resolved
    cases same
    rfl
  · rw [resolve_present lookup absent] at resolved
    obtain ⟨found, between, searched, rest⟩ := ArchiveWork.exists_of_runFrom_bind resolved
    obtain ⟨answers, documents, stored, same⟩ := found_of_searched standard searched
    have empty : found = [] := by
      by_contra present
      exact nothing ⟨answers, documents, stored, fun none => present (same.trans none)⟩
    subst empty
    cases rest
    rfl

end Answers

section Replies

variable {engine : Engine} {code : Option String} {archive : Archive}

/-- The session is over the archive, but for the queries that it was asked. -/
def Over (archive : Archive) (session : Session Archive) : Prop :=
  { session.store with queries := [] } = { archive with queries := [] }

/-- Both sessions are over the archive. -/
def BothOver (archive : Archive) (session other : Session Archive) : Prop :=
  Over archive session ∧ Over archive other

theorem bothOver_steady {override : Option Override} :
    Session.Steady override (BothOver archive) where
  templates := by
    rintro session other ⟨here, there⟩ given _
    have files : session.store.files = other.store.files :=
      (congrArg Archive.files here).trans (congrArg Archive.files there).symm
    rw [files]
  fields := by
    rintro session other ⟨here, there⟩ capability
    exact (congrArg (Archive.fieldsFor · capability) here).trans
      (congrArg (Archive.fieldsFor · capability) there).symm
  noted := fun _ _ here _ => here

theorem agree_find_bothOver (lookup : Lookup) (name : Text) (fields : List String)
    (language : String) :
    Agree (BothOver archive) (engine.find lookup name fields language).run
      (engine.find lookup name fields language).run := by
  apply agree_find_of_searches
  intro query
  apply Archive.agree_search_of
  · rintro session other ⟨here, there⟩
    constructor
    · exact (congrArg Archive.refuses here).trans (congrArg Archive.refuses there).symm
    · exact (congrArg Archive.documents here).trans (congrArg Archive.documents there).symm
  · exact fun _ _ here => here

/-- What comes of asking for a reference. -/
def replyTo (engine : Engine) (code : Option String) (archive : Archive) (name : Text) (multi : Bool) :
    Reply :=
  replyOf ((engine.answer code archive ⟨name, multi⟩).map some)

theorem resolveOne_run {session : Session Archive} (here : Over archive session) (name : Text)
    (multi : Bool) :
    ∃ after, (resolveOne (engine.references code Formatting.skipped) name multi).run session =
        (engine.replyTo code archive name multi, after) ∧ Over archive after := by
  have formats : ∀ nested, Agree (BothOver archive) (Formatting.skipped nested) (pure nested) :=
    fun nested session other here => ⟨rfl, here⟩
  have steady : Session.Steady engine.override (BothOver archive) := bothOver_steady
  obtain ⟨same, after, _⟩ := agree_resolveOne steady
    (agree_references steady formats agree_find_bothOver code) name multi session
    ⟨archive, false, []⟩ ⟨here, rfl⟩
  refine ⟨_, Prod.ext (same.trans ?_) rfl, after⟩
  rw [replyTo, answer, block, ArchiveWork.runFrom, resolveOne, references]
  simp only [bind_assoc, StateT.run_bind]
  rcases ((engine.resolve { multi } code pure name).run).run ⟨archive, false, []⟩ with
    ⟨outcome, after⟩
  cases outcome <;> rfl

end Replies

section Reports

-- Of all markers of a text, the first ones of their written forms are all there are.
theorem mem_firsts_iff {text : Text} {marker : Marker} :
    marker ∈ firsts [] (cutting Grammar.standard text).marks ↔
      marker ∈ (cutting Grammar.standard text).marks := by
  constructor
  · exact fun member => (firsts_sublist [] _).subset member
  · intro member
    obtain ⟨first, asked, same⟩ := List.mem_map.mp
      (mem_written_firsts.mpr ⟨List.mem_map_of_mem member, List.not_mem_nil⟩)
    have equal := eq_of_written_eq text ((firsts_sublist [] _).subset asked) member same
    exact equal ▸ asked

theorem counts_iff {written name wanted : Text} {outcome : Except Fault Text} {empty : Bool} :
    Report.Counts ⟨written, name, replyOf (outcome.map some)⟩ wanted empty ↔
      name = wanted ∧ ∃ text, outcome = .ok text ∧ text.isEmpty = empty := by
  cases outcome with
  | error fault => simp [Report.Counts, replyOf, Except.map]
  | ok text => simp [Report.Counts, replyOf, Except.map, Reply.text]

variable {engine : Engine} (standard : engine.grammar = Grammar.standard) (code : Option String)
  (archive : Archive) (records : List Record) (text : Text)

include standard

theorem render_report :
    let marks := (cutting Grammar.standard (Extraction.strip Grammar.standard text).text).marks
    ((engine.render code text).run ⟨archive, false, records⟩).1.2 =
      ((firsts [] marks).map (answerBy Grammar.standard (engine.replyTo code archive))).foldl
        Report.addAnswer { defined := (Extraction.strip Grammar.standard text).blocks.keys } := by
  intro marks
  have replies : ∀ name multi session, Over archive session → ∃ after,
      (resolveOne (engine.references code Formatting.skipped) name multi).run session =
        (engine.replyTo code archive name multi, after) ∧ Over archive after :=
    fun name multi session here => resolveOne_run here name multi
  have busy : Over archive ⟨archive, true, records⟩ := rfl
  obtain ⟨after, asked, _⟩ :=
    @mapM_ask_run _ _ Grammar.standard _ _ _ replies (firsts [] marks) _ busy
  rw [render_eq_renderWith_skipped, renderWith_run_of_idle engine code rfl,
    passWith_eq engine code standard]
  show ((((firsts [] marks).mapM (ask (engine.references code Formatting.skipped)
    Grammar.standard)).run ⟨archive, true, records⟩).1.foldl _ _) = _
  rw [asked]

theorem tallies_render :
    ((engine.render code text).run ⟨archive, false, records⟩).1.2.Tallies (Reference.ofText text)
      (engine.answer code archive) := by
  let marks := (cutting Grammar.standard (Extraction.strip Grammar.standard text).text).marks
  let answers := (firsts [] marks).map (answerBy Grammar.standard (engine.replyTo code archive))
  have counted : ∀ name empty, (∃ given ∈ answers, Report.Counts given name empty) ↔
      ∃ reference ∈ Reference.ofText text, reference.name = name ∧
        ∃ content, engine.answer code archive reference = .ok content ∧ content.isEmpty = empty := by
    intro name empty
    simp only [answers, Reference.ofText, List.mem_map, exists_exists_and_eq_and]
    constructor
    · rintro ⟨marker, asked, counts⟩
      exact ⟨marker, mem_firsts_iff.mp asked, counts_iff.mp counts⟩
    · rintro ⟨marker, member, given⟩
      exact ⟨marker, mem_firsts_iff.mpr member, counts_iff.mpr given⟩
  rw [render_report standard]
  constructor
  · intro name
    rw [(Report.mem_foldl_addAnswer answers).1, counted]
    simp
  · intro name
    rw [(Report.mem_foldl_addAnswer answers).2, counted]
    simp

end Reports

/-- The report of a render is exact where each name has a reference whose lookup does not fail, and
where no reference to a name that has a definition is answered with an empty text. -/
theorem report_exact_iff (language : Language) (override : Option Override) (capability : String)
    (code : Option String) (archive : Archive) (records : List Record) (text : Text) :
    let engine : Engine := { language, override, capability }
    let report := ((engine.render code text).run ⟨archive, false, records⟩).1.2
    let references := Reference.ofText text
    report.Exact references (engine.Finds code archive) ↔
      ∀ reference ∈ references,
        (∃ other ∈ references, other.name = reference.name ∧
          ∃ content, engine.answer code archive other = .ok content) ∧
        (engine.Finds code archive reference →
          ∀ other ∈ references, other.name = reference.name →
            engine.answer code archive other ≠ .ok []) := by
  intro engine report references
  have standard : engine.grammar = Grammar.standard := rfl
  apply (tallies_render standard code archive records text).exact_iff
  intro reference content answered present
  by_contra nothing
  exact present (answer_of_not_finds standard nothing answered)

-- An empty definition is reported as missing, a name that is defined for one value only is reported
-- on both sides when it is asked for both ways, and a name whose lookup fails on none.
theorem report_not_exact :
    let documents : List Document := [{
      id := "A", fields := [("body", .plain "start_a stop_a start_b\nX\nstop_b".toList)] }]
    let archive : Archive := {
      shelf := .memory documents, refuses := fun query => query.contains == "start_c".toList }
    let engine : Engine := {}
    let text := "show_a show_b show__b show_c".toList
    let report := ((engine.render none text).run ⟨archive, false, []⟩).1.2
    Reference.ofText text = [⟨['a'], false⟩, ⟨['b'], false⟩, ⟨['b'], true⟩, ⟨['c'], false⟩] ∧
      report.shown = [['b']] ∧ report.missing = [['a'], ['b']] ∧
      engine.Finds none archive ⟨['a'], false⟩ ∧ engine.Finds none archive ⟨['b'], false⟩ ∧
      (∀ content, engine.answer none archive ⟨['c'], false⟩ ≠ .ok content) ∧
      ¬ report.Exact (Reference.ofText text) (engine.Finds none archive) := by
  intro documents archive engine text report
  have references : Reference.ofText text =
      [⟨['a'], false⟩, ⟨['b'], false⟩, ⟨['b'], true⟩, ⟨['c'], false⟩] := by decide +kernel
  have shown : report.shown = [['b']] := by decide +kernel
  have missing : report.missing = [['a'], ['b']] := by decide +kernel
  have empty : engine.Finds none archive ⟨['a'], false⟩ :=
    ⟨by decide +kernel, documents, rfl, by decide +kernel⟩
  have once : engine.Finds none archive ⟨['b'], false⟩ :=
    ⟨by decide +kernel, documents, rfl, by decide +kernel⟩
  have fails : ∀ content, engine.answer none archive ⟨['c'], false⟩ ≠ .ok content := by
    intro content answered
    have refused : (engine.answer none archive ⟨['c'], false⟩).toBool = false := by decide +kernel
    rw [answered] at refused
    cases refused
  refine ⟨references, shown, missing, empty, once, fails, fun precise => ?_⟩
  have reported : ['a'] ∈ report.missing := by simp [missing]
  rw [references] at precise
  exact (precise.missing ⟨['a'], false⟩ (by simp)).mp reported ⟨['a'], false⟩ (by simp) rfl empty

end Engine

end Transclusion

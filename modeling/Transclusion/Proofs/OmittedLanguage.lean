import Transclusion.Command.Run
import Transclusion.Proofs.ArchiveRuns
import Transclusion.Proofs.LanguageArguments

/-!
Commands that are told no language. References are then resolved in the current language of
the settings, while a document gives and takes its texts in its own language. So a command that
is told the current language does the same without, provided that the document has the same
text for both or, when it is written to, takes them for the same.
-/

namespace Transclusion

namespace Language

theorem withCurrent_current (language : Language) :
    language.withCurrent (some language.current) = language := by
  rw [withCurrent]
  split
  · rfl
  · rfl

end Language

namespace Engine

variable {engine : Engine}

/-- The language of the settings is the one in which blocks are resolved anyway. -/
theorem resolve_current (lookup : Lookup) :
    engine.resolve lookup (some engine.language.current) = engine.resolve lookup none := by
  funext format requested
  simp only [resolve, Language.withCurrent_current]
  rfl

theorem render_current : engine.render (some engine.language.current) = engine.render none := by
  have references_eq : engine.references (some engine.language.current) =
      engine.references none := by
    funext format name multi
    simp only [references, resolve_current]
  have within : ∀ depth, engine.renderWithin (some engine.language.current) depth =
      engine.renderWithin none depth := by
    intro depth
    induction depth with
    | zero =>
      funext text
      simp only [renderWithin, renderWithin.renderWith, references_eq]
    | succ depth ih =>
      funext text
      simp only [renderWithin, renderWithin.renderWith, references_eq, ih]
  funext text
  exact congrFun (within 1) text

-- A document is saved alike in languages that it takes for the same.
theorem saveField_congr {document : Document} {first second : Option String}
    (same : document.languageOf first = document.languageOf second) (field : String)
    (text : Text) :
    engine.saveField document field text first = engine.saveField document field text second := by
  have reads : document.textOf field first = document.textOf field second := by
    rw [Document.textOf, Document.textOf, same]
  have writes : ∀ written, document.setText field written first =
      document.setText field written second := by
    intro written
    rw [Document.setText, Document.setText, same]
  simp only [saveField, reads, writes]

end Engine

theorem Document.languageOf_own (document : Document) :
    document.languageOf (some document.defaultLanguage) = document.languageOf none := by
  rw [languageOf, languageOf]
  split
  · rfl
  · rfl

namespace Command

namespace Work

variable {Answer Next : Type} {desk : Desk}

/-- Runs work at a desk to its end. -/
def runAt (work : Work Answer) (desk : Desk) : Except Fault Answer × Desk := work.run.run desk

theorem runAt_bind (work : Work Answer) (next : Answer → Work Next) :
    runAt (work >>= next) desk =
      match work.runAt desk with
      | (.ok answer, after) => (next answer).runAt after
      | (.error fault, after) => (.error fault, after) := by
  simp only [runAt, ExceptT.run_bind, StateT.run_bind]
  rcases work.run.run desk with ⟨_ | _, after⟩
  · rfl
  · rfl

-- Work that gives an answer has got through what it began with.
theorem exists_of_runAt_bind {work : Work Answer} {next : Answer → Work Next} {last : Next}
    {after : Desk} (done : runAt (work >>= next) desk = (.ok last, after)) :
    ∃ answer between, work.runAt desk = (.ok answer, between) ∧
      (next answer).runAt between = (.ok last, after) := by
  rw [runAt_bind] at done
  rcases began : work.runAt desk with ⟨_ | answer, between⟩
  · rw [began] at done
    cases done
  · rw [began] at done
    exact ⟨answer, between, rfl, done⟩

/-- Work that goes on alike from what was done so far ends alike. -/
theorem runAt_bind_congr {work : Work Answer} {next next' : Answer → Work Next}
    (same : ∀ answer after, work.runAt desk = (.ok answer, after) →
      (next answer).runAt after = (next' answer).runAt after) :
    runAt (work >>= next) desk = runAt (work >>= next') desk := by
  rw [runAt_bind, runAt_bind]
  split
  · next answer after done => exact same answer after done
  · rfl

-- What is reported and what comes after depend on the work by what it does at the desk.
theorem runAt_reporting_congr {json : Bool} {code : Fault → String} {work work' : Work Answer}
    {next : Answer → Work Nat} (same : work.runAt desk = work'.runAt desk) :
    (reporting json code work next).runAt desk = (reporting json code work' next).runAt desk := by
  have lifted : ∀ work : Work Answer,
      runAt (ExceptT.lift work.run : Work (Except Fault Answer)) desk =
        (.ok (work.runAt desk).1, (work.runAt desk).2) := fun _ => rfl
  rw [reporting, reporting, runAt_bind, runAt_bind, lifted, lifted, same]

theorem runAt_archiveWork_congr {occasion : Occasion} {archive : Archive}
    {work work' : ArchiveWork Answer}
    (same : work.runFrom { store := { archive with files := desk.workspace.files } } =
      work'.runFrom { store := { archive with files := desk.workspace.files } }) :
    (archiveWork occasion archive work).runAt desk =
      (archiveWork occasion archive work').runAt desk := by
  rw [archiveWork, archiveWork]
  apply runAt_bind_congr
  rintro _ _ ⟨⟩
  rw [ArchiveWork.runFrom, ArchiveWork.runFrom] at same
  simp only [same]

theorem runAt_engineWork_congr {occasion : Occasion} {asked : Option String}
    {work work' : Engine → ArchiveWork Answer}
    (same : ∀ engine archive after,
      (openEngine occasion asked).runAt desk = (.ok (engine, archive), after) →
        (work engine).runFrom { store := { archive with files := after.workspace.files } } =
          (work' engine).runFrom { store := { archive with files := after.workspace.files } }) :
    (engineWork occasion asked work).runAt desk = (engineWork occasion asked work').runAt desk := by
  rw [engineWork, engineWork]
  apply runAt_bind_congr
  rintro ⟨engine, archive⟩ after opened
  simp only
  rw [runAt_bind, runAt_bind, runAt_archiveWork_congr (same engine archive after opened)]

end Work

namespace Task

/-- The language that the task names. -/
def language? : Task → Option String
  | .blocks target | .render target | .save target _ _ => target.language
  | .get _ _ language => language
  | _ => none

theorem orLanguage_of_language {task : Task} {code own : String}
    (named : task.language? = some own) : task.orLanguage code = task := by
  cases task with
  | blocks target =>
    replace named : target.language = some own := named
    rw [orLanguage, named, Option.some_or, ← named]
  | render target =>
    replace named : target.language = some own := named
    rw [orLanguage, named, Option.some_or, ← named]
  | save target file create =>
    replace named : target.language = some own := named
    rw [orLanguage, named, Option.some_or, ← named]
  | get name lookup language =>
    replace named : language = some own := named
    rw [orLanguage, named, Option.some_or]
  | _ => rfl

/-- The document that the task is about has the same text in the language of the code as in
its own or, when it is written to, takes the code for its own language. -/
def Suits (store : Archive) (code : String) : Task → Prop
  | .blocks target | .render target =>
      target.language = none →
        ∀ document, store.shelf.get store.files target.id = .ok document →
          document.textOf target.field (some code) = document.textOf target.field none
  | .save target _ create =>
      target.language = none → ∀ document session,
        (documentToSave target.id create).runFrom { store } = (.ok document, session) →
          document.languageOf (some code) = document.languageOf none
  | _ => True

end Task

section Targets

variable {session : Session Archive} {target : Target} {code : String}

theorem targetText_congr {language : Option String}
    (same : ∀ document, session.store.shelf.get session.store.files target.id = .ok document →
      document.textOf target.field language = document.textOf target.field target.language) :
    (targetText { target with language }).runFrom session =
      (targetText target).runFrom session := by
  have loaded := Archive.load_run session target.id
  cases found : session.store.shelf.get session.store.files target.id with
  | error fault =>
    rw [found] at loaded
    exact (ArchiveWork.runFrom_bind_error loaded _).trans
      (ArchiveWork.runFrom_bind_error loaded _).symm
  | ok document =>
    rw [found] at loaded
    refine (ArchiveWork.runFrom_bind loaded _).trans
      (.trans ?_ (ArchiveWork.runFrom_bind loaded _).symm)
    rw [ArchiveWork.runFrom_pure, ArchiveWork.runFrom_pure, same document found]

end Targets

section Tasks

variable {occasion : Occasion} {request : Request} {desk : Desk} {code : String}

/-- The engine that opens for the project has the code for its current language, and the task
suits its archive. -/
def Opens (occasion : Occasion) (root : Option String) (desk : Desk) (code : String)
    (task : Task) : Prop :=
  ∀ engine archive after,
    (openEngine occasion root).runAt desk = (.ok (engine, archive), after) →
      engine.language.current = code ∧
        task.Suits { archive with files := after.workspace.files } code

theorem runBlocks_language {target : Target} (named : target.language = none)
    (opens : Opens occasion request.root desk code (.blocks target)) :
    (runBlocks occasion request { target with language := some code }).runAt desk =
      (runBlocks occasion request target).runAt desk := by
  apply Work.runAt_reporting_congr
  apply Work.runAt_engineWork_congr
  intro engine archive after opened
  apply targetText_congr
  intro document found
  rw [named]
  exact (opens engine archive after opened).2 named document found

theorem runRender_language {target : Target} (named : target.language = none)
    (opens : Opens occasion request.root desk code (.render target)) :
    (runRender occasion request { target with language := some code }).runAt desk =
      (runRender occasion request target).runAt desk := by
  apply Work.runAt_reporting_congr
  apply Work.runAt_engineWork_congr
  intro engine archive after opened
  obtain ⟨current, suits⟩ := opens engine archive after opened
  apply ArchiveWork.runFrom_bind_congr
  · apply targetText_congr
    intro document found
    rw [named]
    exact suits named document found
  · intro text between _
    rw [named, ← current, Engine.render_current]

theorem runGet_language {lookup : Lookup} {name : String}
    (opens : Opens occasion request.root desk code (.get name lookup none)) :
    (runGet occasion request name lookup (some code)).runAt desk =
      (runGet occasion request name lookup none).runAt desk := by
  apply Work.runAt_reporting_congr
  apply Work.runAt_engineWork_congr
  intro engine archive after opened
  rw [← (opens engine archive after opened).1, Engine.block, Engine.block, Engine.resolve_current]

-- Reading what is to be saved leaves the desk as it is.
theorem desk_of_textToSave {file : Option String} {text : Text} {after : Desk}
    (read : (textToSave occasion request file).runAt desk = (.ok (some text), after)) :
    after = desk := by
  cases file with
  | none =>
    cases read
    rfl
  | some name =>
    obtain ⟨tree, between, listed, read⟩ := Work.exists_of_runAt_bind read
    cases listed
    cases octets : desk.workspace.files.octetsAt
        (occasion.surroundings.folder.join (Path.ofString name)) with
    | error fault =>
      simp only [octets] at read
      cases own : fault.isOfFiles with
      | false =>
        rw [own] at read
        cases read
      | true =>
        simp only [own, Bool.not_true, Bool.false_eq_true, if_false] at read
        obtain ⟨_, between, _, last⟩ := Work.exists_of_runAt_bind read
        cases last
    | ok content =>
      simp only [octets] at read
      cases decoded : Text.decode content with
      | error fault =>
        rw [decoded] at read
        cases read
      | ok text =>
        rw [decoded] at read
        cases read
        rfl

theorem runSave_language {target : Target} {file : Option String} {create : Bool}
    (named : target.language = none)
    (opens : Opens occasion request.root desk code (.save target file create)) :
    (runSave occasion request { target with language := some code } file create).runAt desk =
      (runSave occasion request target file create).runAt desk := by
  apply Work.runAt_bind_congr
  intro read after reads
  cases read with
  | none => rfl
  | some text =>
    rw [desk_of_textToSave reads]
    apply Work.runAt_reporting_congr
    apply Work.runAt_engineWork_congr
    intro engine archive after opened
    apply ArchiveWork.runFrom_bind_congr rfl
    intro document between loaded
    rw [named,
      Engine.saveField_congr ((opens engine archive after opened).2 named document _ loaded)]

/-- A request that names no language is done as in the language. -/
theorem perform_orLanguage
    (opens : Opens occasion request.root desk code request.task) :
    (perform occasion (request.orLanguage code)).runAt desk =
      (perform occasion request).runAt desk := by
  obtain ⟨task, root, json⟩ := request
  cases named : task.language? with
  | some own => rw [Request.orLanguage, Task.orLanguage_of_language named]
  | none =>
    cases task with
    | blocks target =>
      replace named : target.language = none := named
      simp only [Request.orLanguage, Task.orLanguage, named, Option.none_or]
      exact runBlocks_language named opens
    | get name lookup language =>
      replace named : language = none := named
      subst named
      exact runGet_language opens
    | render target =>
      replace named : target.language = none := named
      simp only [Request.orLanguage, Task.orLanguage, named, Option.none_or]
      exact runRender_language named opens
    | save target file create =>
      replace named : target.language = none := named
      simp only [Request.orLanguage, Task.orLanguage, named, Option.none_or]
      exact runSave_language named opens
    | _ => rfl

end Tasks

/-- A command that can be told a language does, when it is told none, what it does when it is
told the current language of the project, if that suits the document that it is about. -/
theorem run_language {occasion : Occasion} {workspace : Workspace} {command : String}
    {verb : Verb} (listed : (command, verb) ∈ commands) (takes : verb.TakesLanguage)
    {code : String} {flag : List String} (names : NamesLanguage code flag) (rest : List String)
    (opens : ∀ request, readRequest (command :: rest) = .ok request →
      Opens occasion request.root { workspace } code request.task) :
    run occasion (command :: (flag ++ rest)) workspace =
      run occasion (command :: rest) workspace := by
  rw [run, run, readRequest_language listed takes names]
  cases read : readRequest (command :: rest) with
  | error page => rfl
  | ok request => exact perform_orLanguage (opens request read)

/-- A project in German, with a document of two languages and one in German. -/
def bilingual : Workspace :=
  { files :=
      { entries :=
          [([".textblocks"], .folder), ([".textblocks", "config"], .folder),
           ([".textblocks", "config", "a.yaml"],
            .file "language: \x7bcurrent: de\x7d\n".toUTF8.toList),
           ([".textblocks", "documents"], .folder),
           ([".textblocks", "documents", "x.yaml"],
            .file "fields: \x7bbody: \x7ben: hello, de: hallo\x7d\x7d\n".toUTF8.toList),
           ([".textblocks", "documents", "y.yaml"],
            .file
              "fields: \x7bbody: \x7bde: hallo\x7d\x7d\ndefault_language: de\n".toUTF8.toList)] } }

theorem run_language_sample :
    let occasion : Occasion := { surroundings := { folder := {}, home := "/" } }
    run occasion ["render", "--language", "de", "y"] bilingual =
        run occasion ["render", "y"] bilingual ∧
      (run occasion ["render", "y"] bilingual).2.output = "hallo\n" := by
  intro occasion
  refine ⟨?_, by decide +kernel⟩
  apply @run_language occasion bilingual "render" .render (by decide) (by decide) "de" _
    (.apart (by decide)) ["y"]
  intro request asked
  have read : readRequest ["render", "y"] =
      .ok { task := .render { id := "y", field := "body", language := none }
            root := none, json := false } := rfl
  cases read.symm.trans asked
  intro engine archive after opened
  let opening := (openEngine occasion none).runAt { workspace := bilingual }
  have found : opening.1.toOption.map (fun opened => (opened.1.language.current,
      (opened.2.shelf.get opening.2.workspace.files "y").toOption.map (·.defaultLanguage))) =
        some ("de", some "de") := by decide +kernel
  rw [show opening = _ from opened] at found
  obtain ⟨current, own⟩ := Prod.mk.inj (Option.some.inj found)
  refine ⟨current, fun _ document loaded => ?_⟩
  rw [show Shelf.get _ "y" _ = _ from loaded] at own
  rw [Document.textOf, Document.textOf, ← Option.some.inj own, Document.languageOf_own]

/-- A document in English is rendered in English, though the project is in German. -/
theorem not_run_language :
    let occasion : Occasion := { surroundings := { folder := {}, home := "/" } }
    let opening := (openEngine occasion none).runAt { workspace := bilingual }
    opening.1.toOption.map (·.1.language.current) = some "de" ∧
      (run occasion ["render", "--language", "de", "x"] bilingual).2.output = "hallo\n" ∧
      (run occasion ["render", "x"] bilingual).2.output = "hello\n" := by
  intro occasion opening
  exact ⟨by decide +kernel, by decide +kernel, by decide +kernel⟩

end Command

end Transclusion

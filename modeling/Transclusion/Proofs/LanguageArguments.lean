import Transclusion.Proofs.GivenArguments

/-!
Naming a language to a command. The argument is read wherever the command reads its
arguments, so the request that is made is the request that would be made without it, with the
language in it, unless a later argument names another one.
-/

namespace Transclusion.Command

/-- The ways to name a language. What begins with a dash is no argument by itself. -/
inductive NamesLanguage (code : String) : List String → Prop where
  | attached : NamesLanguage code ["--language=" ++ code]
  | apart (dashless : code.toList.head? ≠ some '-') : NamesLanguage code ["--language", code]

namespace Form

variable {form : Form} {argument code : String}

/-- The names of the parameters begin with a dash and hold no equals sign. -/
def Dashed (form : Form) : Prop :=
  ∀ entry ∈ form.named, entry.1.toList.head? = some '-' ∧ '=' ∉ entry.1.toList

instance (form : Form) : Decidable form.Dashed :=
  inferInstanceAs (Decidable (∀ entry ∈ form.named, _))

theorem find?_eq_none (absent : ∀ entry ∈ form.named, argument ≠ entry.1) :
    form.find? argument = none := by
  rw [find?, List.lookup_eq_none_iff]
  intro entry member
  rw [bne_iff_ne]
  exact absent entry member

theorem classify_dashless (dashed : form.Dashed) (dashless : argument.toList.head? ≠ some '-') :
    form.classify argument = .ok .word := by
  have absent : form.find? argument = none := by
    apply find?_eq_none
    rintro entry member rfl
    exact dashless (dashed entry member).1
  simp only [classify, absent]
  split
  · next c rest letters =>
    rw [letters] at dashless
    exact absurd rfl dashless
  · rfl

theorem toList_attached (code : String) :
    ("--language=" ++ code).toList = "--language".toList ++ '=' :: code.toList := by
  rw [String.toList_append]
  rfl

-- An argument with an equals sign is classified by what stands before the sign.
theorem classify_attached (dashed : form.Dashed) :
    form.classify ("--language=" ++ code) =
      form.classifyDashed ("--language".toList ++ '=' :: code.toList) := by
  have absent : form.find? ("--language=" ++ code) = none := by
    apply find?_eq_none
    intro entry member same
    apply (dashed entry member).2
    rw [← same, toList_attached]
    simp
  rw [classify, absent, toList_attached]
  rfl

theorem cutAtSign_attached (code : String) :
    cutAtSign ("--language".toList ++ '=' :: code.toList) =
      ("--language".toList, some code.toList) :=
  cutAtSign_append (by decide) _

/-- What each of some arguments is taken for, whatever follows. -/
def Takes (form : Form) (items : List (String × Item)) : Prop :=
  ∀ entry ∈ items, entry.1 ≠ "--" ∧ form.classify entry.1 = .ok entry.2

theorem Takes.classifyAll {items : List (String × Item)} (takes : form.Takes items)
    (rest : List String) :
    form.classifyAll (items.map (·.1) ++ rest) = (form.classifyAll rest).map (items ++ ·) := by
  induction items with
  | nil =>
    rw [List.map_nil, List.nil_append]
    cases form.classifyAll rest with
    | error halt => rfl
    | ok more => rfl
  | cons entry items ih =>
    obtain ⟨plain, read⟩ := takes entry List.mem_cons_self
    have later := ih fun other member => takes other (List.mem_cons_of_mem entry member)
    rw [List.map_cons, List.cons_append, classifyAll_cons plain, read, later]
    cases form.classifyAll rest with
    | error halt => rfl
    | ok more => rfl

theorem attached_ne_divider (code : String) : "--language=" ++ code ≠ "--" := by
  intro same
  have lengths := congrArg (·.toList.length) same
  simp at lengths

end Form

section Program

variable {code : String} {flag : List String}

theorem programForm_dashed : programForm.Dashed := by decide

-- The program itself has no such parameter, and leaves the arguments to the command.
theorem exists_program_items (names : NamesLanguage code flag) :
    ∃ items : List (String × Item), items.map (·.1) = flag ∧ programForm.Takes items := by
  have unknown : programForm.classify "--language" = .ok .strange := by rfl
  cases names with
  | attached =>
    obtain ⟨item, read⟩ : ∃ item, programForm.classify ("--language=" ++ code) = .ok item := by
      rw [Form.classify_attached programForm_dashed, Form.classifyDashed, Form.cutAtSign_attached]
      exact ⟨_, rfl⟩
    refine ⟨[("--language=" ++ code, item)], rfl, fun entry member => ?_⟩
    rw [List.mem_singleton.mp member]
    exact ⟨Form.attached_ne_divider code, read⟩
  | apart dashless =>
    have word := Form.classify_dashless programForm_dashed dashless
    have plain : code ≠ "--" := by
      rintro rfl
      exact dashless rfl
    refine ⟨[("--language", .strange), (code, .word)], rfl, fun entry member => ?_⟩
    rcases List.mem_cons.mp member with rfl | later
    · exact ⟨by decide, unknown⟩
    · rw [List.mem_singleton.mp later]
      exact ⟨plain, word⟩

end Program

namespace Verb

variable {verb : Verb} {name code : String} {flag : List String}

theorem form_dashed (verb : Verb) (name : String) : (verb.form name).Dashed := by
  have same : (verb.form name).named = (verb.form "").named := rfl
  have all : (verb.form "").Dashed := by
    cases verb with
    | _ => decide
  rw [Form.Dashed, same]
  exact all

/-- The command can be told a language. -/
def TakesLanguage (verb : Verb) : Prop := languageParameter ∈ verb.parameters

instance (verb : Verb) : Decidable verb.TakesLanguage :=
  inferInstanceAs (Decidable (languageParameter ∈ verb.parameters))

theorem find?_language (takes : verb.TakesLanguage) (name : String) :
    (verb.form name).find? "--language" = some languageParameter := by
  cases verb with
  | blocks => rfl
  | get => rfl
  | render => rfl
  | save => rfl
  | checkDisable => exact absurd takes (by decide)
  | showSettings => exact absurd takes (by decide)
  | validateSettings => exact absurd takes (by decide)

-- A command reads the language before what follows.
theorem exists_items (takes : verb.TakesLanguage) (name : String)
    (names : NamesLanguage code flag) :
    ∃ items : List (String × Item), items.map (·.1) = flag ∧ (verb.form name).Takes items ∧
      ∀ pending more, Reading.readFrom (verb.form name) pending (items ++ more) {} =
        (Reading.readFrom (verb.form name) pending more {}).map
          (Reading.before ("--language", code)) := by
  have dashed := form_dashed verb name
  have known := find?_language takes name
  have holder : languageParameter.placeholder? = some "LANGUAGE" := rfl
  have given : ∀ reading : Reading, reading.give languageParameter code =
      .ok { reading with given := reading.given ++ [("--language", code)] } := fun _ => rfl
  cases names with
  | attached =>
    have read : (verb.form name).classify ("--language=" ++ code) =
        .ok (.parameter languageParameter (some code.toList)) := by
      rw [Form.classify_attached dashed, Form.classifyDashed, Form.cutAtSign_attached]
      simp only [Option.bind_some, String.ofList_toList, known]
    refine ⟨[("--language=" ++ code, .parameter languageParameter (some code.toList))], rfl,
      fun entry member => ?_, fun pending more => ?_⟩
    · rw [List.mem_singleton.mp member]
      exact ⟨Form.attached_ne_divider code, read⟩
    · rw [List.singleton_append, Reading.readFrom_attached holder, String.ofList_toList, given,
        ← Reading.readFrom_before]
      rfl
  | apart dashless =>
    have word := Form.classify_dashless dashed dashless
    have plain : code ≠ "--" := by
      rintro rfl
      exact dashless rfl
    have read : (verb.form name).classify "--language" =
        .ok (.parameter languageParameter none) := by
      rw [Form.classify, known]
    refine ⟨[("--language", .parameter languageParameter none), (code, .word)], rfl,
      fun entry member => ?_, fun pending more => ?_⟩
    · rcases List.mem_cons.mp member with rfl | later
      · exact ⟨by decide, read⟩
      · rw [List.mem_singleton.mp later]
        exact ⟨plain, word⟩
    · rw [List.cons_append, List.singleton_append, Reading.readFrom_word holder, given,
        ← Reading.readFrom_before]
      rfl

theorem read_language (takes : verb.TakesLanguage) (name : String)
    (names : NamesLanguage code flag) (rest : List String) :
    Reading.read (verb.form name) (flag ++ rest) =
      (Reading.read (verb.form name) rest).map (Reading.before ("--language", code)) := by
  obtain ⟨items, rfl, taken, reads⟩ := exists_items takes name names
  rw [Reading.read, Reading.read, taken.classifyAll]
  cases (verb.form name).classifyAll rest with
  | error halt => rfl
  | ok more => exact reads _ more

end Verb

namespace Task

/-- The task in a language, unless it names one itself. -/
def orLanguage (code : String) : Task → Task
  | .blocks target => .blocks { target with language := target.language.or (some code) }
  | .get name lookup language => .get name lookup (language.or (some code))
  | .render target => .render { target with language := target.language.or (some code) }
  | .save target file create =>
      .save { target with language := target.language.or (some code) } file create
  | task => task

end Task

namespace Request

def orLanguage (code : String) (request : Request) : Request :=
  { request with task := request.task.orLanguage code }

end Request

theorem Reading.request_before {verb : Verb} (takes : verb.TakesLanguage) (code : String)
    (reading : Reading) :
    (reading.before ("--language", code)).request verb = (reading.request verb).orLanguage code := by
  have named : (reading.before ("--language", code)).argument? "--language" =
      (reading.argument? "--language").or (some code) := argument?_before "--language"
  have others : ∀ name, name ≠ "--language" →
      (reading.before ("--language", code)).argument? name = reading.argument? name :=
    fun name other => argument?_before_of_ne other
  have fields : (reading.before ("--language", code)).arguments? "--field" =
      reading.arguments? "--field" :=
    arguments?_before_of_ne (show "--language" ≠ "--field" by decide)
  have given : ∀ name, name ≠ "--language" →
      (reading.before ("--language", code)).isGiven name = reading.isGiven name := by
    intro name other
    rw [isGiven, isGiven, others name other]
  have target : (reading.before ("--language", code)).target =
      { reading.target with language := reading.target.language.or (some code) } := by
    simp only [Reading.target, named, others "--field" (by decide)]
    rfl
  have task : (reading.before ("--language", code)).task verb =
      (reading.task verb).orLanguage code := by
    cases verb with
    | blocks => exact congrArg Task.blocks target
    | render => exact congrArg Task.render target
    | get =>
      simp only [Reading.task, Reading.lookup, Task.orLanguage, named, fields,
        given "--multi" (by decide), given "--itemized" (by decide)]
      rfl
    | save =>
      simp only [Reading.task, Task.orLanguage, target, others "--file" (by decide),
        given "--create" (by decide)]
    | checkDisable => exact absurd takes (by decide)
    | showSettings => exact absurd takes (by decide)
    | validateSettings => exact absurd takes (by decide)
  simp only [Reading.request, Request.orLanguage, task, others "--repo-root" (by decide),
    others "--format" (by decide), given "--json" (by decide)]

section Requests

variable {verb : Verb} {command code : String} {flag : List String}

theorem readVerb_language (takes : verb.TakesLanguage) (name : String) (unknown : List String)
    (names : NamesLanguage code flag) (rest : List String) :
    readVerb verb name unknown (flag ++ rest) =
      (readVerb verb name unknown rest).map (Request.orLanguage code) := by
  rw [readVerb, readVerb, Form.reading, Form.reading, Verb.read_language takes name names]
  cases Reading.read (verb.form name) rest with
  | error halt => rfl
  | ok reading =>
    show understood (unknown ++ reading.unknown) _ =
      (understood (unknown ++ reading.unknown) _).map _
    rw [Reading.request_before takes, understood, understood]
    split
    · rfl
    · rfl

-- The program reads the command, and leaves to the command what follows.
theorem read_command (listed : (command, verb) ∈ commands) (arguments : List String) :
    Reading.read programForm (command :: arguments) =
      (programForm.classifyAll arguments).map fun _ => { command := some (command, arguments) } := by
  have dashless : ∀ entry ∈ commands, entry.1.toList.head? ≠ some '-' := by decide
  have plain : ∀ entry ∈ commands, entry.1 ≠ "--" := by decide
  have chosen : ∀ entry ∈ commands, ((summaries commands ++
      [(settingsGroup, settingsGroup ++ " commands")]).map (·.1)).contains entry.1 = true := by
    decide
  have word := Form.classify_dashless programForm_dashed (dashless _ listed)
  rw [Reading.read, Form.classifyAll_cons (plain _ listed), word]
  cases read : programForm.classifyAll arguments with
  | error halt => rfl
  | ok items =>
    show Reading.readFrom programForm programForm.operand ((command, .word) :: items) {} = _
    rw [programForm, Reading.readFrom, Form.map_fst_of_classifyAll read, Reading.takeCommand]
    simp only [chosen _ listed, if_true]
    rfl

theorem Form.reading_of_ok {form : Form} {arguments : List String} {reading : Reading}
    (read : Reading.read form arguments = .ok reading) : form.reading arguments = .ok reading := by
  rw [Form.reading, read]
  rfl

theorem Form.reading_of_error {form : Form} {arguments : List String} {halt : Halt}
    (read : Reading.read form arguments = .error halt) :
    form.reading arguments = .error (form.halted halt) := by
  rw [Form.reading, read]
  rfl

theorem readRequest_command (listed : (command, verb) ∈ commands) (arguments : List String) :
    readRequest (command :: arguments) =
      match programForm.classifyAll arguments with
      | .error halt => .error (programForm.halted halt)
      | .ok _ => readVerb verb (program ++ " " ++ command) [] arguments := by
  have found : ∀ entry ∈ commands, commands.lookup entry.1 = some entry.2 := by decide
  have looked : commands.lookup command = some verb := found _ listed
  have read := read_command listed arguments
  cases classified : programForm.classifyAll arguments with
  | error halt =>
    rw [classified] at read
    rw [readRequest, Form.reading_of_error read]
    rfl
  | ok items =>
    rw [classified] at read
    rw [readRequest, Form.reading_of_ok read]
    simp only [bind, Except.bind, looked]

/-- A command that is told a language first makes the request that it makes without, in the
language. -/
theorem readRequest_language (listed : (command, verb) ∈ commands) (takes : verb.TakesLanguage)
    (names : NamesLanguage code flag) (rest : List String) :
    readRequest (command :: (flag ++ rest)) =
      (readRequest (command :: rest)).map (Request.orLanguage code) := by
  obtain ⟨items, same, taken⟩ := exists_program_items names
  have classified : programForm.classifyAll (flag ++ rest) =
      (programForm.classifyAll rest).map (items ++ ·) := by
    rw [← same]
    exact taken.classifyAll rest
  rw [readRequest_command listed, readRequest_command listed, classified]
  cases programForm.classifyAll rest with
  | error halt => rfl
  | ok more => exact readVerb_language takes _ [] names rest

end Requests

end Transclusion.Command

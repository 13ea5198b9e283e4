import Transclusion.Proofs.FolderReads
import Transclusion.Settings.Layers

/-!
What comes of reading the settings of a project, whatever is in its files and its environment.
Reading fails with a fault of the settings, unless a file is bad for what it holds, the text of a
variable stands for no value, or a problem cannot be told.
-/

namespace Transclusion

namespace Settings

variable {Store : Type} {files : FileTree} {environment : List (String × String)} {root path : Path}
  {fault : Fault}

section Sources

/-- The value that a variable sets, given that the variable names a path. -/
def Override.value (given : Override) : Except Fault Value :=
  if given.path.any (·.isEmpty) then
    .error (.settings (.emptySegment given.key (String.ofList given.raw)))
  else (Coercion.coerce given.text.toList).mapError .number

theorem Override.apply_eq (given : Override) (entries : List (Value × Value)) :
    given.apply entries = given.value.map fun value => assignAt value given.path entries := by
  rw [apply, Override.value]
  split
  · rfl
  · cases Coercion.coerce given.text.toList <;> rfl

end Sources

section Layers

variable {session : Session Store}

theorem layFiles_run (paths : List Path) (entries : List (Value × Value)) (session : Session Store) :
    ∃ after, ((layFiles files paths entries).run).run session =
      ((paths.mapM (readFileEntries files)).map fun others =>
        others.foldl Value.mergeInto entries, after) := by
  induction paths generalizing entries session with
  | nil => exact ⟨session, rfl⟩
  | cons path paths ih =>
    rw [layFiles, List.mapM_cons]
    let noted : Session Store := { session with
      records := session.records ++ [⟨.debug, source, "Loading project config " ++ path.toString⟩] }
    cases read : readFileEntries files path with
    | error fault => exact ⟨noted, rfl⟩
    | ok others =>
      obtain ⟨after, run⟩ := ih (Value.mergeInto entries others) noted
      refine ⟨after, Eq.trans run ?_⟩
      cases paths.mapM (readFileEntries files) <;> rfl

theorem layOverrides_run (given : List Override) (entries : List (Value × Value))
    (session : Session Store) :
    ∃ after, ((layOverrides given entries).run).run session =
      ((given.mapM Override.value).map fun values =>
        (given.zip values).foldl (fun entries set => assignAt set.2 set.1.path entries) entries,
        after) := by
  induction given generalizing entries session with
  | nil => exact ⟨session, rfl⟩
  | cons first given ih =>
    rw [layOverrides, List.mapM_cons, first.apply_eq]
    cases first.value with
    | error fault => exact ⟨session, rfl⟩
    | ok value =>
      let noted : Session Store := { session with
        records := session.records ++
          [⟨.debug, source, "Applying environment override TEXTBLOCKS_" ++ String.ofList first.raw⟩] }
      obtain ⟨after, run⟩ := ih (assignAt value first.path entries) noted
      refine ⟨after, Eq.trans run ?_⟩
      cases given.mapM Override.value <;> rfl

/-- What all layers come to. -/
def outcome (files : FileTree) (environment : List (String × String)) (root : Path) :
    Except Fault (List (Value × Value)) := do
  let paths ← (YamlFile.list files (folder root)).mapError fun cause => .yaml (.file cause)
  let others ← paths.mapM (readFileEntries files)
  let values ← (overrides environment).mapM Override.value
  return ((overrides environment).zip values).foldl
    (fun entries set => assignAt set.2 set.1.path entries)
    (others.foldl Value.mergeInto standardEntries)

theorem layers_run (session : Session Store) :
    ∃ after, ((layers files environment root).run).run session =
      (outcome files environment root, after) := by
  rw [layers, outcome]
  cases YamlFile.list files (folder root) with
  | error cause => exact ⟨session, rfl⟩
  | ok paths =>
    obtain ⟨between, laid⟩ := layFiles_run paths standardEntries session
    show ∃ after, ((layFiles files paths standardEntries >>= layOverrides (overrides environment)).run
      : Act Store (Except Fault (List (Value × Value)))).run session = (_, after)
    rw [ExceptT.run_bind, StateT.run_bind, laid]
    cases read : paths.mapM (readFileEntries files) with
    | error fault =>
      simp only [Shelf.mapError_ok, bind, Except.bind, read]
      exact ⟨between, rfl⟩
    | ok others =>
      obtain ⟨after, given⟩ := layOverrides_run (overrides environment)
        (others.foldl Value.mergeInto standardEntries) between
      refine ⟨after, Eq.trans given ?_⟩
      simp only [Shelf.mapError_ok, bind, Except.bind, read]
      cases (overrides environment).mapM Override.value <;> rfl

end Layers

section Problems

end Problems

theorem load_run (session : Session Store) :
    (((load files environment root).run).run session).1 =
      (outcome files environment root).bind fun entries =>
        (validate (.map entries)).map fun _ => .map entries := by
  obtain ⟨after, run⟩ := @layers_run _ files environment root session
  rw [load, ExceptT.run_bind, StateT.run_bind, run]
  cases outcome files environment root with
  | error cause => rfl
  | ok entries =>
    dsimp only [bind, Except.bind]
    cases validate (.map entries) <;> rfl

end Settings

end Transclusion

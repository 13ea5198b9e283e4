import Transclusion.Rendering
import Transclusion.Session

/-!
What comes of work, whatever comes of it. One statement tells what every result is like and what
every failure is due to, and it goes from the steps of work to the work. Work that asks for texts
to be formatted ends well when it does so for all that it may be answered.
-/

namespace Transclusion

variable {Failure First Result : Type}

/-- Every fault has a cause, and every result is as it should be. -/
def Meets (cause : Failure → Prop) (holds : Result → Prop) : Except Failure Result → Prop
  | .ok result => holds result
  | .error failure => cause failure

namespace Meets

variable {cause : Failure → Prop} {holds : Result → Prop} {before : First → Prop}

theorem bind {first : Except Failure First} {next : First → Except Failure Result}
    (meets : Meets cause before first) (later : ∀ found, before found → Meets cause holds (next found)) :
    Meets cause holds (first >>= next) := by
  cases first with
  | error failure => exact meets
  | ok found => exact later found meets

theorem map {first : Except Failure First} {change : First → Result}
    (meets : Meets cause before first) (later : ∀ found, before found → holds (change found)) :
    Meets cause holds (change <$> first) := by
  cases first with
  | error failure => exact meets
  | ok found => exact later found meets

theorem fault {result : Except Failure Result} {failure : Failure} (meets : Meets cause holds result)
    (failed : result = .error failure) : cause failure := by
  subst failed
  exact meets

theorem imp {weaker : Result → Prop} {result : Except Failure Result} (meets : Meets cause holds result)
    (implies : ∀ found, holds found → weaker found) : Meets cause weaker result := by
  cases result with
  | error failure => exact meets
  | ok found => exact implies found meets

theorem mapM {items : List First} {read : First → Except Failure Result}
    (meets : ∀ item ∈ items, Meets cause holds (read item)) :
    Meets cause (fun results => ∀ result ∈ results, holds result) (items.mapM read) := by
  induction items with
  | nil => exact fun _ member => absurd member List.not_mem_nil
  | cons item items ih =>
    rw [List.mapM_cons]
    refine (meets item List.mem_cons_self).bind fun result here => ?_
    refine (ih fun other member => meets other (List.mem_cons_of_mem _ member)).bind ?_
    intro results there other member
    cases member with
    | head => exact here
    | tail _ later => exact there other later

end Meets

namespace Rendering

theorem bind_assoc {Middle : Type} (work : Rendering First) (next : First → Rendering Middle)
    (last : Middle → Rendering Result) :
    (work.bind next).bind last = work.bind fun found => (next found).bind last := by
  induction work with
  | done result => rfl
  | format text answer ih => exact congrArg (Rendering.format text) (funext ih)

theorem map_same (work : Rendering Result) : id <$> work = work := by
  induction work with
  | done result => rfl
  | format text answer ih => exact congrArg (Rendering.format text) (funext ih)

instance : LawfulMonad Rendering :=
  LawfulMonad.mk' Rendering map_same (fun _ _ => rfl) bind_assoc

/-- However texts are formatted, the end is as it should be. -/
def Ends (holds : Result → Prop) : Rendering Result → Prop
  | .done result => holds result
  | .format _ next => ∀ formatted, (next formatted).Ends holds

variable {holds : Result → Prop} {before : First → Prop}

theorem Ends.bind {work : Rendering First} {next : First → Rendering Result} (ends : work.Ends before)
    (later : ∀ found, before found → (next found).Ends holds) : (work >>= next).Ends holds := by
  induction work with
  | done result => exact later result ends
  | format text answer ih => exact fun formatted => ih formatted (ends formatted)

theorem Ends.imp {weaker : Result → Prop} {work : Rendering Result} (ends : work.Ends holds)
    (implies : ∀ found, holds found → weaker found) : work.Ends weaker := by
  induction work with
  | done result => exact implies result ends
  | format text answer ih => exact fun formatted => ih formatted (ends formatted)

/-- What is so at the end is so after a run. -/
theorem Ends.run {Store : Type} {work : Rendering Result} (ends : work.Ends holds)
    (format : Text → Act Store Text) (session : Session Store) :
    holds ((work.run format).run session).1 := by
  induction work generalizing session with
  | done result => exact ends
  | format text next ih => exact ih _ (ends _) _

end Rendering

end Transclusion

import Transclusion.Command.Request

/-!
Arguments read in order. An argument of a parameter that comes before all others is the
first one given, and what is read of the others is what would be read without it.
-/

namespace Transclusion.Command

namespace Reading

/-- The reading with an argument of a parameter before all others. -/
def before (entry : String × String) (reading : Reading) : Reading :=
  { reading with given := entry :: reading.given }

variable {entry : String × String} {reading : Reading} {form : Form}

theorem give_before (parameter : Parameter) (value : String) :
    (reading.before entry).give parameter value =
      (reading.give parameter value).map (before entry) := by
  rw [give, give]
  cases parameter.taking with
  | choice choices =>
    simp only
    split
    · rfl
    · rfl
  | _ => rfl

theorem giveAll_before (parameters : List Parameter) :
    (reading.before entry).giveAll parameters =
      (reading.giveAll parameters).map (before entry) := by
  rw [giveAll, giveAll]
  induction parameters generalizing reading with
  | nil => rfl
  | cons parameter parameters ih =>
    rw [List.foldlM_cons, List.foldlM_cons, give_before]
    cases reading.give parameter "" with
    | error halt => rfl
    | ok next => exact ih

theorem giveAttached_before (parameter : Parameter) (name : String) (attached : Text) :
    (reading.before entry).giveAttached form parameter name attached =
      (reading.giveAttached form parameter name attached).map (before entry) := by
  rw [giveAttached, giveAttached]
  split
  · rfl
  · cases openCluster form parameter attached with
    | error halt => rfl
    | ok parameters => exact giveAll_before parameters

theorem takeCommand_before (placeholder : String) (choices : List (String × String))
    (arguments : List String) :
    (reading.before entry).takeCommand placeholder choices arguments =
      (reading.takeCommand placeholder choices arguments).map (before entry) := by
  cases arguments with
  | nil => rfl
  | cons name rest =>
    rw [takeCommand, takeCommand]
    split
    · rfl
    · rfl

theorem close_before (pending : Operand) :
    (reading.before entry).close pending = (reading.close pending).map (before entry) := by
  cases pending <;> rfl

theorem readFrom_attached {parameter : Parameter} {placeholder : String}
    (takes : parameter.placeholder? = some placeholder) (pending : Operand) (argument : String)
    (attached : Text) (rest : List (String × Item)) :
    readFrom form pending ((argument, .parameter parameter (some attached)) :: rest) reading =
      (reading.give parameter (String.ofList attached)).bind (readFrom form pending rest) := by
  rw [readFrom.eq_def]
  simp only [takes]
  rfl

theorem readFrom_word {parameter : Parameter} {placeholder : String}
    (takes : parameter.placeholder? = some placeholder) (pending : Operand)
    (argument value : String) (rest : List (String × Item)) :
    readFrom form pending ((argument, .parameter parameter none) :: (value, .word) :: rest) reading =
      (reading.give parameter value).bind (readFrom form pending rest) := by
  rw [readFrom.eq_def]
  simp only [takes]
  rfl

-- Reading goes on from the same place, with the argument still in front.
theorem bind_before {first first' : Except Halt Reading} {next : Reading → Except Halt Reading}
    (same : first' = first.map (before entry))
    (further : ∀ reading, next (reading.before entry) = (next reading).map (before entry)) :
    first'.bind next = (first.bind next).map (before entry) := by
  subst same
  cases first with
  | error halt => rfl
  | ok reading => exact further reading

/-- What is read of arguments does not depend on those that were given before. -/
theorem readFrom_before (pending : Operand) (items : List (String × Item)) :
    readFrom form pending items (reading.before entry) =
      (readFrom form pending items reading).map (before entry) := by
  fun_induction readFrom form pending items reading with
  | case1 pending reading => rw [readFrom, close_before]
  | case2 pending argument rest reading ih => rw [readFrom]; exact ih
  | case3 pending argument parameter rest reading placeholder attached takes ih =>
    rw [readFrom_attached takes]
    exact bind_before (give_before _ _) ih
  | case4 pending argument parameter reading placeholder takes value rest ih =>
    rw [readFrom_word takes]
    exact bind_before (give_before _ _) ih
  | case5 pending argument parameter rest reading placeholder takes alone =>
    rw [readFrom.eq_def]
    simp only [takes]
    rfl
  | case6 pending argument parameter rest reading attached takes ih =>
    simp only [readFrom, takes]
    exact bind_before (giveAttached_before _ _ _) ih
  | case7 pending argument parameter rest reading takes ih =>
    simp only [readFrom, takes]
    exact bind_before (give_before _ _) ih
  | case8 argument item rest reading notStrange notParameter ih =>
    rw [readFrom]
    · exact ih
    · exact notStrange
    · exact notParameter
  | case9 placeholder choices argument rest reading empty =>
    rw [readFrom, if_pos empty]
    rfl
  | case10 placeholder choices argument rest reading more =>
    rw [readFrom, if_neg more, takeCommand_before]
  | case11 placeholder choices argument rest reading =>
    rw [readFrom, takeCommand_before]
  | case12 pending sign word item rest reading notAbsent notCommand ih =>
    rw [readFrom]
    · exact ih
    · exact notAbsent
    · exact notCommand
  | case13 argument reading name help => rfl
  | case14 argument reading pending notOptional notAbsent notCommand =>
    cases pending with
    | absent => exact absurd rfl notAbsent
    | command placeholder choices => exact absurd rfl (notCommand _ _)
    | optional name help => exact absurd rfl (notOptional _ _)
    | required name help => rfl
  | case15 pending word sign rest reading notAbsent notCommand ih =>
    rw [readFrom]
    · exact ih
    · exact notAbsent
    · exact notCommand
  | case16 pending word rest reading notAbsent notCommand noDivider ih =>
    rw [readFrom]
    · exact ih
    · exact noDivider
    · exact notAbsent
    · exact notCommand

theorem argument?_before (name : String) :
    (reading.before entry).argument? name =
      (reading.argument? name).or (if name == entry.1 then some entry.2 else none) := by
  obtain ⟨key, value⟩ := entry
  simp only [argument?, before, List.reverse_cons, List.lookup_append, List.lookup_cons,
    List.lookup_nil]
  cases name == key with
  | false => rfl
  | true => rfl

theorem argument?_before_of_ne {name : String} (other : name ≠ entry.1) :
    (reading.before entry).argument? name = reading.argument? name := by
  rw [argument?_before, beq_eq_false_iff_ne.mpr other]
  simp

theorem arguments?_before_of_ne {name : String} (other : entry.1 ≠ name) :
    (reading.before entry).arguments? name = reading.arguments? name := by
  simp only [arguments?, before, List.filter_cons, beq_eq_false_iff_ne.mpr other,
    Bool.false_eq_true, if_false]

end Reading

namespace Form

variable {form : Form}

theorem cutAtSign_append {front : Text} (plain : '=' ∉ front) (back : Text) :
    cutAtSign (front ++ '=' :: back) = (front, some back) := by
  have stays : ∀ c ∈ front, (c != '=') = true := by
    intro c member
    rw [bne_iff_ne]
    rintro rfl
    exact plain member
  rw [cutAtSign, List.dropWhile_append_of_pos stays, List.takeWhile_append_of_pos stays]
  simp

theorem classifyAll_cons {argument : String} (plain : argument ≠ "--") (rest : List String) :
    form.classifyAll (argument :: rest) =
      (form.classify argument).bind fun item =>
        (form.classifyAll rest).map ((argument, item) :: ·) := by
  rw [classifyAll]
  · rfl
  · exact plain

theorem map_fst_of_classifyAll {arguments : List String} {items : List (String × Item)}
    (read : form.classifyAll arguments = .ok items) : items.map (·.1) = arguments := by
  induction arguments generalizing items with
  | nil =>
    cases read
    rfl
  | cons argument rest ih =>
    by_cases divides : argument = "--"
    · subst divides
      cases read
      simp [Function.comp_def]
    · rw [classifyAll_cons divides] at read
      cases first : form.classify argument with
      | error halt =>
        rw [first] at read
        cases read
      | ok item =>
        rw [first] at read
        cases others : form.classifyAll rest with
        | error halt =>
          rw [others] at read
          cases read
        | ok more =>
          rw [others] at read
          cases read
          rw [List.map_cons, ih others]

end Form

end Transclusion.Command

import Mathlib.Data.List.Infix
import Mathlib.Logic.Function.Iterate
import Transclusion.Formatting

/-!
What is left when comments are removed. A pass leaves a text alone exactly when no delimiter
in it is encoded and no comment is left, and it makes every other text shorter. So passes come
to an end, in a text without a comment however its delimiters are written.
-/

namespace Transclusion.Comment

section Replacing

variable {old new : Text}

theorem length_replaceFrom_le (shorter : new.length ≤ old.length) (skip : Nat) (text : Text) :
    (replaceFrom old new skip text).length ≤ text.length - skip := by
  induction text generalizing skip with
  | nil => simp [replaceFrom]
  | cons c rest ih =>
    cases skip with
    | succ skip =>
      rw [replaceFrom, List.length_cons, Nat.add_sub_add_right]
      exact ih skip
    | zero =>
      rw [replaceFrom]
      split
      · next here =>
        have inside := (List.isPrefixOf_iff_prefix.mp here).length_le
        have later := ih (old.length - 1)
        rw [List.length_append]
        rw [List.length_cons] at inside ⊢
        omega
      · have later := ih 0
        rw [List.length_cons, List.length_cons]
        omega

theorem length_replace_le (shorter : new.length ≤ old.length) (text : Text) :
    (replace old new text).length ≤ text.length :=
  length_replaceFrom_le shorter 0 text

theorem replace_eq_self {text : Text} (absent : ¬ old <:+: text) : replace old new text = text := by
  rw [replace]
  induction text with
  | nil => rfl
  | cons c rest ih =>
    rw [List.infix_cons_iff, not_or] at absent
    rw [replaceFrom, if_neg fun here => absent.1 (List.isPrefixOf_iff_prefix.mp here),
      ih absent.2]

-- The first occurrence makes the difference; what comes after it can only help.
theorem length_replace_lt (shorter : new.length < old.length) {text : Text}
    (present : old <:+: text) : (replace old new text).length < text.length := by
  rw [replace]
  induction text with
  | nil =>
    rw [List.infix_nil.mp present] at shorter
    cases shorter
  | cons c rest ih =>
    rw [replaceFrom]
    split
    · next here =>
      have inside := (List.isPrefixOf_iff_prefix.mp here).length_le
      have later := length_replaceFrom_le (Nat.le_of_lt shorter) (old.length - 1) rest
      rw [List.length_append]
      rw [List.length_cons] at inside ⊢
      omega
    · next absent =>
      have later : old <:+: rest := by
        rcases List.infix_cons_iff.mp present with here | later
        · exact absurd (List.isPrefixOf_iff_prefix.mpr here) absent
        · exact later
      rw [List.length_cons, List.length_cons]
      exact Nat.succ_lt_succ (ih later)

end Replacing

section Removing

/-- No opening delimiter has a closing one behind it. -/
def Uncommented (text : Text) : Prop :=
  ∀ front back, text = front ++ rawOpening ++ back → ¬ rawClosing <:+: back

theorem afterClosing_eq_none_iff {text : Text} :
    afterClosing text = none ↔ ¬ rawClosing <:+: text := by
  induction text with
  | nil => simp [afterClosing, rawClosing]
  | cons c rest ih =>
    rw [afterClosing, List.infix_cons_iff, not_or, ← ih, ← List.isPrefixOf_iff_prefix]
    split
    · next here => simp [here]
    · next absent => simp [absent]

theorem afterComment_eq_none_iff {text : Text} :
    afterComment text = none ↔ ∀ back, text = rawOpening ++ back → ¬ rawClosing <:+: back := by
  rw [afterComment]
  split
  · next here =>
    obtain ⟨rest, rfl⟩ := List.isPrefixOf_iff_prefix.mp here
    rw [show (rawOpening ++ rest).drop 4 = rest from rfl, afterClosing_eq_none_iff]
    constructor
    · intro none back same
      rwa [← List.append_cancel_left same]
    · exact fun apart => apart rest rfl
  · next absent =>
    refine iff_of_true rfl fun back same => absurd ?_ absent
    exact List.isPrefixOf_iff_prefix.mpr ⟨back, same.symm⟩

theorem uncommented_cons_iff {c : Char} {rest : Text} :
    Uncommented (c :: rest) ↔ afterComment (c :: rest) = none ∧ Uncommented rest := by
  rw [afterComment_eq_none_iff]
  constructor
  · intro apart
    refine ⟨fun back => apart [] back, fun front back same => apart (c :: front) back ?_⟩
    rw [same]
    rfl
  · rintro ⟨here, later⟩ front back same
    cases front with
    | nil => exact here back same
    | cons d front => exact later front back (List.cons.inj same).2

theorem length_removeRaw_le (text : Text) : (removeRaw text).length ≤ text.length := by
  fun_induction removeRaw with
  | case1 => exact Nat.le_refl 0
  | case2 c rest after found ih => exact Nat.le_trans ih (Nat.le_of_lt (afterComment_length found))
  | case3 c rest none ih => exact Nat.succ_le_succ ih

theorem removeRaw_eq_self {text : Text} (apart : Uncommented text) : removeRaw text = text := by
  fun_induction removeRaw with
  | case1 => rfl
  | case2 c rest after found ih =>
    rw [(uncommented_cons_iff.mp apart).1] at found
    cases found
  | case3 c rest none ih => rw [ih (uncommented_cons_iff.mp apart).2]

theorem length_removeRaw_lt {text : Text} (commented : ¬ Uncommented text) :
    (removeRaw text).length < text.length := by
  fun_induction removeRaw with
  | case1 => exact absurd (by simp [Uncommented, rawOpening]) commented
  | case2 c rest after found ih =>
    exact Nat.lt_of_le_of_lt (length_removeRaw_le after) (afterComment_length found)
  | case3 c rest none ih =>
    have later : ¬ Uncommented rest := fun apart =>
      commented (uncommented_cons_iff.mpr ⟨none, apart⟩)
    exact Nat.succ_lt_succ (ih later)

end Removing

section Passes

/-- No delimiter is encoded, and no comment is left. -/
structure Normal (text : Text) : Prop where
  opening : ¬ encodedOpening <:+: text
  closing : ¬ encodedClosing <:+: text
  uncommented : Uncommented text

variable {text : Text}

theorem length_pass_le_decode (text : Text) : (pass text).length ≤ (decode text).length :=
  length_removeRaw_le (decode text)

theorem decode_eq_self (opening : ¬ encodedOpening <:+: text) (closing : ¬ encodedClosing <:+: text) :
    decode text = text := by
  rw [decode, replace_eq_self opening, replace_eq_self closing]

theorem Normal.pass_eq_self (normal : Normal text) : pass text = text := by
  rw [pass, decode_eq_self normal.opening normal.closing, removeRaw_eq_self normal.uncommented]

/-- Whatever a pass finds to do, it takes characters away. -/
theorem length_pass_lt (odd : ¬ Normal text) : (pass text).length < text.length := by
  by_cases opening : encodedOpening <:+: text
  · have decoded : (decode text).length < text.length :=
      Nat.lt_of_le_of_lt (length_replace_le (by decide) _) (length_replace_lt (by decide) opening)
    exact Nat.lt_of_le_of_lt (length_pass_le_decode text) decoded
  by_cases closing : encodedClosing <:+: text
  · have decoded : (decode text).length < text.length := by
      rw [decode, replace_eq_self opening]
      exact length_replace_lt (by decide) closing
    exact Nat.lt_of_le_of_lt (length_pass_le_decode text) decoded
  · have commented : ¬ Uncommented text := fun apart => odd ⟨opening, closing, apart⟩
    rw [pass, decode_eq_self opening closing]
    exact length_removeRaw_lt commented

theorem pass_eq_self_iff : pass text = text ↔ Normal text := by
  constructor
  · intro same
    by_contra odd
    have shorter := length_pass_lt odd
    rw [same] at shorter
    exact Nat.lt_irrefl _ shorter
  · exact Normal.pass_eq_self

theorem Normal.strip_eq_self (normal : Normal text) : strip text = text := by
  rw [strip, normal.pass_eq_self]
  exact if_neg (Nat.lt_irrefl _)

theorem strip_eq_strip_pass (odd : ¬ Normal text) : strip text = strip (pass text) := by
  rw [strip]
  exact if_pos (length_pass_lt odd)

/-- Passes run as long as each of them changes the text, and there are at most as many as
characters go. -/
theorem exists_passes (text : Text) :
    ∃ passes, passes + (strip text).length ≤ text.length ∧ pass^[passes] text = strip text ∧
      Normal (strip text) ∧ ∀ earlier < passes, pass (pass^[earlier] text) ≠ pass^[earlier] text := by
  induction length : text.length using Nat.strongRecOn generalizing text with
  | _ size ih =>
    subst length
    by_cases normal : Normal text
    · rw [normal.strip_eq_self]
      exact ⟨0, by omega, rfl, normal, by simp⟩
    · have shorter := length_pass_lt normal
      obtain ⟨passes, bound, last, done, changes⟩ := ih _ shorter (pass text) rfl
      rw [strip_eq_strip_pass normal]
      refine ⟨passes + 1, by omega, last, done, fun earlier before => ?_⟩
      cases earlier with
      | zero => exact fun same => normal (pass_eq_self_iff.mp same)
      | succ earlier => exact changes earlier (Nat.lt_of_succ_lt_succ before)

theorem normal_strip (text : Text) : Normal (strip text) :=
  (exists_passes text).elim fun _ run => run.2.2.1

end Passes

/-- A whole comment, each of its delimiters raw or encoded. -/
inductive IsComment : Text → Prop where
  | written {opening body closing : Text} (opens : opening ∈ [rawOpening, encodedOpening])
      (closes : closing ∈ [rawClosing, encodedClosing]) : IsComment (opening ++ body ++ closing)

theorem Normal.not_isComment {text part : Text} (normal : Normal text) (inside : part <:+: text) :
    ¬ IsComment part := by
  rintro ⟨opens, closes⟩
  next opening body closing =>
  have begins : opening <:+: text :=
    (List.infix_append [] opening (body ++ closing)).trans (by simpa using inside)
  have ends : closing <:+: text := (List.suffix_append _ _).isInfix.trans inside
  rcases List.mem_pair.mp opens with rfl | rfl
  · rcases List.mem_pair.mp closes with rfl | rfl
    · obtain ⟨front, back, rfl⟩ := inside
      refine normal.uncommented front (body ++ rawClosing ++ back) (by simp) ?_
      exact List.infix_append body rawClosing back
    · exact normal.closing ends
  · exact normal.opening begins

-- Comments are removed last, whatever the stages before put together.
theorem exists_strip_of_format {Store Failure : Type} (grammar : Grammar)
    (resolve : Option (Resolver Store Failure)) (text : Text) (report : Report)
    {session : Session Store} (idle : session.busy = false) :
    ∃ filled, ((Formatting.format grammar resolve Formatting.defaultStages text report).run
      session).1.1 = strip filled := by
  have runs : (Formatting.format grammar resolve Formatting.defaultStages text report).run session =
      (do
        Session.setBusy true
        let result ← Formatting.runStages grammar resolve Formatting.defaultStages text report
        Session.setBusy false
        return result : Act Store (Text × Report)).run session := by
    show (if session.busy then _ else _ : Act Store (Text × Report)).run session = _
    rw [if_neg (by rw [idle]; exact Bool.false_ne_true)]
  rw [runs]
  cases resolve with
  | none => exact ⟨_, rfl⟩
  | some resolve => exact ⟨_, rfl⟩

/-- Removing comments comes to an end in a text that holds none, and leaves exactly such texts
alone. So no formatted text holds a comment, whatever is resolved into it. -/
theorem strip_normal_form (text : Text) :
    (∃ passes, passes + (strip text).length ≤ text.length ∧ pass^[passes] text = strip text ∧
      pass (strip text) = strip text ∧
      ∀ earlier < passes, pass (pass^[earlier] text) ≠ pass^[earlier] text) ∧
    Normal (strip text) ∧ (strip text).length ≤ text.length ∧ strip (strip text) = strip text ∧
    (strip text = text ↔ Normal text) ∧
    ∀ (Store Failure : Type) (grammar : Grammar) (resolve : Option (Resolver Store Failure))
      (report : Report) (store : Store) (records : List Record),
      let formatted := ((Formatting.format grammar resolve Formatting.defaultStages text report).run
        ⟨store, false, records⟩).1.1
      Normal formatted ∧ ∀ part, part <:+: formatted → ¬ IsComment part := by
  obtain ⟨passes, bound, last, normal, changes⟩ := exists_passes text
  refine ⟨⟨passes, bound, last, normal.pass_eq_self, changes⟩, normal, by omega,
    normal.strip_eq_self, ⟨fun same => same ▸ normal, Normal.strip_eq_self⟩, ?_⟩
  intro Store Failure grammar resolve report store records formatted
  obtain ⟨filled, same⟩ : ∃ filled, formatted = strip filled :=
    exists_strip_of_format grammar resolve text report rfl
  have clean : Normal formatted := by
    rw [same]
    exact normal_strip filled
  exact ⟨clean, fun part inside => clean.not_isComment inside⟩

example : strip "a<!<!-- x -->-- y --&gt;b".toList = "ab".toList := by decide +kernel

end Transclusion.Comment

import Transclusion.Proofs.Yaml.Places
import Transclusion.Yaml.ScalarText

/-!
What stands between quotes, character by character, and what is read of it. Single quotes
hold every character as it is, but line ends among them are folded; double quotes hold line
ends only behind a backslash, where they count for nothing.
-/

namespace Transclusion.Yaml

/-- Line ends in a row as they are read in quotes. A first one that reads as a line feed gives
a space when it is alone, and nothing otherwise. -/
def settledBreaks : Text → Text
  | [] => []
  | first :: more =>
      (if settledBreak first = '\n' then (if more.isEmpty then [' '] else [])
        else [settledBreak first]) ++
        more.map settledBreak

namespace ScalarText

def isGap (c : Char) : Bool := c == ' ' || c == '\t'

/-- The text does not begin with a blank or a line end. -/
def Firm (text : Text) : Prop := ∀ c ∈ text.head?, isGap c = false ∧ isBreak c = false

theorem Firm.cons {c : Char} {text : Text} (gap : isGap c = false) (isEnd : isBreak c = false) :
    Firm (c :: text) := by
  rintro _ ⟨⟩
  exact ⟨gap, isEnd⟩

/-- What is read of the rest of a scalar in quotes, from a place on. -/
def rest (double : Bool) (fuel more : Nat) (place : Place) : Read := do
  let (run, place) ← quotedRun double fuel place
  let (text, place) ← quotedRest double (if double then '"' else '\'') more place
  return (run ++ text, place)

/-- The rest of a scalar in quotes reads as a text, up to a place. -/
def Ends (double : Bool) (place : Place) (text : Text) (after : Place) : Prop :=
  ∀ fuel more, place.rest.length < fuel → place.rest.length < more →
    rest double fuel more place = .ok (text, after)

variable {double : Bool} {place after : Place} {text following : Text} {c : Char}

theorem quoted_of_ends (ends : Ends double place.next text after) :
    quoted double place = .ok (text, after) := by
  have shorter : place.next.rest.length ≤ place.rest.length := by
    rw [Place.rest_next, List.length_tail]
    omega
  exact ends (place.rest.length + 2) (place.rest.length + 2) (by omega) (by omega)

/-- What is read of a run in quotes from its first mark on. -/
def pastRun (double : Bool) (fuel : Nat) (place : Place) : Read :=
  match place.peek with
  | some '\'' =>
      if double then (quotedRun double fuel place.next).map fun more => ('\'' :: more.1, more.2)
      else if place.peekAt 1 == some '\'' then
        (quotedRun double fuel (place.forward 2)).map fun more => ('\'' :: more.1, more.2)
      else .ok ([], place)
  | some '"' =>
      if double then .ok ([], place)
      else (quotedRun double fuel place.next).map fun more => ('"' :: more.1, more.2)
  | some '\\' =>
      if double then do
        let (text, place) ← escape fuel place.next
        (quotedRun double fuel place).map fun more => (text ++ more.1, more.2)
      else (quotedRun double fuel place.next).map fun more => ('\\' :: more.1, more.2)
  | _ => .ok ([], place)

theorem pastRun_other (noApostrophe : place.peek ≠ some '\'') (noQuote : place.peek ≠ some '"')
    (noStroke : place.peek ≠ some '\\') (double : Bool) (fuel : Nat) :
    pastRun double fuel place = .ok ([], place) := by
  rw [pastRun]
  split
  · next seen => exact absurd seen noApostrophe
  · next seen => exact absurd seen noQuote
  · next seen => exact absurd seen noStroke
  · rfl

theorem quotedRun_eq (fuel : Nat) (place : Place) : quotedRun double (fuel + 1) place =
    (pastRun double fuel (place.skip fun c => !endsRun c)).map fun more =>
      (place.ahead (fun c => !endsRun c) ++ more.1, more.2) := by
  have joined : ∀ (run text : Text) (place : Place),
      (do let (more, place) ← quotedRun double fuel place
          return (run ++ text ++ more, place) : Read) =
        ((quotedRun double fuel place).map fun more => (text ++ more.1, more.2)).map fun more =>
          (run ++ more.1, more.2) := by
    intro run text place
    cases quotedRun double fuel place with
    | error fault => rfl
    | ok more => exact congrArg (fun text => Except.ok (text, more.2)) (List.append_assoc ..)
  have ended : ∀ (run : Text) (place : Place),
      (.ok (run, place) : Read) = (Except.ok ([], place)).map fun more => (run ++ more.1, more.2) :=
    fun run place => by simp [Except.map]
  rw [quotedRun, Place.skip]
  dsimp only
  split
  · next seen =>
    simp only [pastRun, seen]
    cases double with
    | true => exact joined _ _ _
    | false =>
      by_cases twice : (place.forward (place.ahead fun c => !endsRun c).length).peekAt 1 = some '\''
      · simp only [twice]
        exact joined _ _ _
      · simp only [beq_eq_false_iff_ne.mpr twice]
        exact ended _ _
  · next seen =>
    simp only [pastRun, seen]
    cases double with
    | true => exact ended _ _
    | false => exact joined _ _ _
  · next seen =>
    simp only [pastRun, seen]
    cases double with
    | true =>
      cases escape fuel _ with
      | error fault => rfl
      | ok read => exact joined _ _ _
    | false => exact joined _ _ _
  · next noApostrophe noQuote noStroke =>
    rw [pastRun_other noApostrophe noQuote noStroke]
    exact ended _ _

theorem quotedRun_cons (goes : endsRun c = false) (there : place.rest = c :: following)
    (fuel : Nat) : quotedRun double (fuel + 1) place =
      (quotedRun double (fuel + 1) place.next).map fun run => (c :: run.1, run.2) := by
  have run : place.ahead (fun c => !endsRun c) = c :: place.next.ahead fun c => !endsRun c := by
    simp [Place.ahead, there, goes]
  have skipped : place.skip (fun c => !endsRun c) = place.next.skip fun c => !endsRun c := by
    rw [Place.skip, Place.skip, run, List.length_cons, Place.forward_succ]
  rw [quotedRun_eq, quotedRun_eq, run, skipped]
  cases pastRun double fuel (place.next.skip fun c => !endsRun c) <;> rfl

theorem quotedRun_of_ends (stops : endsRun c = true) (there : place.rest = c :: following)
    (fuel : Nat) : quotedRun double (fuel + 1) place = pastRun double fuel place := by
  have none : place.ahead (fun c => !endsRun c) = [] := by
    simp [Place.ahead, there, stops]
  rw [quotedRun_eq, Place.skip, none, List.length_nil, Place.forward_zero]
  cases pastRun double fuel place <;> rfl

theorem ends_close (there : place.rest = (if double then '"' else '\'') :: following)
    (single : double = false → following.head? ≠ some '\'') : Ends double place [] place.next := by
  intro fuel more enough enoughMore
  obtain ⟨fuel, rfl⟩ := Nat.exists_eq_add_one_of_ne_zero (Nat.ne_zero_of_lt enough)
  obtain ⟨more, rfl⟩ := Nat.exists_eq_add_one_of_ne_zero (Nat.ne_zero_of_lt enoughMore)
  have seen : place.sees (if double then '"' else '\'') = true := by
    rw [Place.sees_eq, there]
    simp
  have run : quotedRun double (fuel + 1) place = .ok ([], place) := by
    rw [quotedRun_of_ends (by cases double <;> rfl) there, pastRun, Place.peek_eq there]
    cases double with
    | true => rfl
    | false =>
      have other : place.peekAt 1 ≠ some '\'' := by
        rw [Place.peekAt, there]
        simpa [List.head?_eq_getElem?] using single rfl
      simp [other]
  rw [rest, run]
  simp [quotedRest, seen, bind, Except.bind, pure, Except.pure]

theorem rest_of_run (read : Text) {here : Place} {fuel inner more : Nat}
    (run : quotedRun double fuel place =
      (quotedRun double inner here).map fun run => (read ++ run.1, run.2))
    (remaining : rest double inner more here = .ok (text, after)) :
    rest double fuel more place = .ok (read ++ text, after) := by
  rw [rest] at remaining ⊢
  rw [run]
  cases found : quotedRun double inner here with
  | error fault =>
    rw [found] at remaining
    cases remaining
  | ok found' =>
    simp only [found, bind, Except.bind, Except.map] at remaining ⊢
    split at remaining
    · cases remaining
    · cases remaining
      simp [pure, Except.pure]

theorem ends_cons (goes : endsRun c = false) (there : place.rest = c :: following)
    (ends : Ends double place.next text after) : Ends double place (c :: text) after := by
  intro fuel more enough enoughMore
  obtain ⟨fuel, rfl⟩ := Nat.exists_eq_add_one_of_ne_zero (Nat.ne_zero_of_lt enough)
  have shorter : place.next.rest.length ≤ place.rest.length := by
    rw [Place.rest_next, List.length_tail]
    omega
  exact rest_of_run [c] (quotedRun_cons goes there _)
    (ends (fuel + 1) more (by omega) (by omega))

theorem ends_of_mark (read : Text) {here : Place} (stops : endsRun c = true)
    (there : place.rest = c :: following) (shorter : here.rest.length ≤ following.length)
    (run : ∀ fuel, following.length < fuel → pastRun double fuel place =
      (quotedRun double fuel here).map fun more => (read ++ more.1, more.2))
    (ends : Ends double here text after) : Ends double place (read ++ text) after := by
  intro fuel more enough enoughMore
  obtain ⟨fuel, rfl⟩ := Nat.exists_eq_add_one_of_ne_zero (Nat.ne_zero_of_lt enough)
  simp only [there, List.length_cons] at enough enoughMore
  have first := (quotedRun_of_ends stops there fuel).trans (run fuel (by omega))
  exact rest_of_run read first (ends fuel more (by omega) (by omega))

theorem ends_doubled (there : place.rest = '\'' :: '\'' :: following)
    (ends : Ends false (place.forward 2) text after) : Ends false place ('\'' :: text) after := by
  have shorter : (place.forward 2).rest.length ≤ ('\'' :: following).length := by
    simp [there]
  refine ends_of_mark ['\''] rfl there shorter (fun fuel _ => ?_) ends
  have twice : place.peekAt 1 = some '\'' := by rw [Place.peekAt, there]; rfl
  simp [pastRun, Place.peek_eq there, twice]

/-- A mark of the other kind of quotes is a character as any other. -/
theorem ends_otherMark (other : c = '"' ∨ c = '\\') (there : place.rest = c :: following)
    (ends : Ends false place.next text after) : Ends false place (c :: text) after := by
  have shorter : place.next.rest.length ≤ following.length := by simp [there]
  have stops : endsRun c = true := by rcases other with rfl | rfl <;> rfl
  refine ends_of_mark [c] stops there shorter (fun fuel _ => ?_) ends
  rcases other with rfl | rfl <;> simp [pastRun, Place.peek_eq there]

theorem ends_apostrophe (there : place.rest = '\'' :: following)
    (ends : Ends true place.next text after) : Ends true place ('\'' :: text) after := by
  have shorter : place.next.rest.length ≤ following.length := by simp [there]
  refine ends_of_mark ['\''] rfl there shorter (fun fuel _ => ?_) ends
  simp [pastRun, Place.peek_eq there]

theorem ends_escape {read : Text} {here : Place} (there : place.rest = '\\' :: following)
    (shorter : here.rest.length ≤ following.length)
    (escaped : ∀ fuel, following.length < fuel → escape fuel place.next = .ok (read, here))
    (ends : Ends true here text after) : Ends true place (read ++ text) after := by
  refine ends_of_mark read rfl there shorter (fun fuel enough => ?_) ends
  simp [pastRun, Place.peek_eq there, escaped fuel enough, bind, Except.bind]

section Gaps

theorem quotedBreaks_eq {breaks pad : Text} (ends : ∀ c ∈ breaks, isBreak c = true)
    (blank : ∀ c ∈ pad, c = ' ') (present : pad ≠ []) (firm : Firm following)
    (there : place.rest = breaks ++ (pad ++ following)) {fuel : Nat} (enough : breaks.length < fuel) :
    quotedBreaks fuel place =
      .ok (breaks.map settledBreak, place.forward (breaks.length + pad.length)) := by
  induction breaks generalizing place fuel with
  | nil =>
    obtain ⟨fuel, rfl⟩ := Nat.exists_eq_add_one_of_ne_zero (Nat.ne_zero_of_lt enough)
    obtain ⟨c, pad, rfl⟩ := List.exists_cons_of_ne_nil present
    obtain rfl : c = ' ' := blank c (by simp)
    have noMarker : place.atSeparator = false :=
      Place.atSeparator_eq_false (by simp [there]) (by simp [there])
    have skipped : place.skip (fun c => c == ' ' || c == '\t') = place.forward (pad.length + 1) :=
      Place.skip_eq (fun c member => by rw [blank c member]; rfl)
        (fun c first => (firm c first).1) there
    have peeked : ((place.forward (pad.length + 1)).peek.map isBreak).getD false = false := by
      have left : (place.forward (pad.length + 1)).rest = following := by
        rw [Place.rest_forward, there]
        exact List.drop_left
      rw [Place.peek, left]
      cases following with
      | nil => rfl
      | cons c following => exact (firm c rfl).2
    simp [quotedBreaks, noMarker, skipped, peeked]
  | cons c breaks ih =>
    have isEnd : isBreak c = true := ends c (by simp)
    have plain : c ≠ '-' ∧ c ≠ '.' ∧ isGap c = false := by
      rcases isBreak_iff.mp isEnd with rfl | rfl | rfl | rfl <;> decide
    have noMarker : place.atSeparator = false :=
      Place.atSeparator_eq_false (by simp [there, plain]) (by simp [there, plain])
    have skipped : place.skip (fun c => c == ' ' || c == '\t') = place := by
      refine Place.skip_eq (List.forall_mem_nil _) (fun d first => ?_) rfl
      obtain rfl : c = d := by simpa [there] using first
      exact plain.2.2
    have after : place.next.rest = breaks ++ (pad ++ following) := by
      rw [Place.rest_next, there]
      rfl
    simp only [List.length_cons] at enough
    obtain ⟨fuel, rfl⟩ := Nat.exists_eq_add_one_of_ne_zero (Nat.ne_zero_of_lt enough)
    have remaining := ih (fun c member => ends c (by simp [member])) after (Nat.lt_of_succ_lt_succ enough)
    have count : breaks.length + 1 + pad.length = breaks.length + pad.length + 1 := by omega
    rw [quotedBreaks]
    simp only [noMarker, skipped, Place.peek_eq there, Place.lineBreak_eq isEnd there, isEnd,
      Option.map_some, Option.getD_some, Bool.false_eq_true, if_false, if_true, remaining,
      List.length_cons, count, Place.forward_succ, List.map_cons]
    rfl

/-- One gap in quotes and what comes after it. -/
theorem rest_gap {gap : Text} {here : Place} {fuel more : Nat} (stops : endsRun c = true)
    (noQuote : c ≠ '\'' ∧ c ≠ '"' ∧ c ≠ '\\') (there : place.rest = c :: following)
    (read : quotedSpaces more place = .ok (gap, here)) :
    rest double (fuel + 1) (more + 1) place =
      (rest double more more here).map fun later => (gap ++ later.1, later.2) := by
  have run : quotedRun double (fuel + 1) place = .ok ([], place) := by
    rw [quotedRun_of_ends stops there, pastRun, Place.peek_eq there]
    simp only
    split <;> simp_all
  have unseen : place.sees (if double then '"' else '\'') = false := by
    rw [Place.sees_eq, there]
    cases double <;> simp [noQuote]
  simp only [rest, run, bind, Except.bind, quotedRest, unseen, Bool.false_eq_true, if_false, read,
    List.nil_append]
  cases found : quotedRun double more here with
  | error fault => rfl
  | ok found' =>
    cases later : quotedRest double (if double then '"' else '\'') more found'.2 with
    | error fault => simp [later, Except.map]
    | ok later' => simp [later, Except.map, pure, Except.pure]

theorem ends_gap {gap : Text} {here : Place} (stops : endsRun c = true)
    (noQuote : c ≠ '\'' ∧ c ≠ '"' ∧ c ≠ '\\') (there : place.rest = c :: following)
    (shorter : here.rest.length ≤ following.length)
    (read : ∀ fuel, following.length < fuel → quotedSpaces fuel place = .ok (gap, here))
    (ends : Ends double here text after) : Ends double place (gap ++ text) after := by
  intro fuel more enough enoughMore
  obtain ⟨fuel, rfl⟩ := Nat.exists_eq_add_one_of_ne_zero (Nat.ne_zero_of_lt enough)
  obtain ⟨more, rfl⟩ := Nat.exists_eq_add_one_of_ne_zero (Nat.ne_zero_of_lt enoughMore)
  simp only [there, List.length_cons] at enough enoughMore
  rw [rest_gap stops noQuote there (read more (by omega)), ends more more (by omega) (by omega)]
  rfl

theorem quotedSpaces_blank {blanks : Text} (blank : ∀ c ∈ blanks, isGap c = true)
    (noGap : isGap c = false) (noEnd : isBreak c = false)
    (there : place.rest = blanks ++ c :: following) (fuel : Nat) :
    quotedSpaces fuel place = .ok (blanks, place.forward blanks.length) := by
  have ahead : place.ahead (fun c => c == ' ' || c == '\t') = blanks :=
    Place.ahead_eq blank (by rintro _ ⟨⟩; exact noGap) there
  have peeked : (place.forward blanks.length).peek = some c :=
    Place.peek_eq (Place.rest_forward_of_eq there)
  simp [quotedSpaces, ahead, peeked, noEnd]

/-- After spaces, if there are any, comes a character that is no line end. -/
def Resumes (text : Text) : Prop :=
  ∃ blanks c later, text = blanks ++ c :: later ∧ (∀ b ∈ blanks, isGap b = true) ∧
    isGap c = false ∧ isBreak c = false

theorem Resumes.space (resumes : Resumes text) : Resumes (' ' :: text) := by
  obtain ⟨blanks, c, later, rfl, blank, noGap, noEnd⟩ := resumes
  exact ⟨' ' :: blanks, c, later, rfl, by simpa [isGap] using blank, noGap, noEnd⟩

theorem Resumes.firm (noGap : isGap c = false) (noEnd : isBreak c = false) :
    Resumes (c :: text) := ⟨[], c, text, rfl, by simp, noGap, noEnd⟩

/-- A space in quotes, whether or not others come with it. -/
theorem ends_space (there : place.rest = ' ' :: following) (resumes : Resumes following)
    (ends : Ends double place.next text after) : Ends double place (' ' :: text) after := by
  obtain ⟨blanks, c, later, rfl, blank, noGap, noEnd⟩ := resumes
  have next : place.next.rest = blanks ++ c :: later := by rw [Place.rest_next, there]; rfl
  have blank' : ∀ b ∈ ' ' :: blanks, isGap b = true := by simpa [isGap] using blank
  have read : ∀ fuel, quotedSpaces fuel place =
      .ok (' ' :: blanks, place.next.forward blanks.length) :=
    quotedSpaces_blank blank' noGap noEnd there
  cases blanks with
  | nil =>
    refine ends_gap rfl (by decide) there ?_ (fun fuel _ => read fuel) ends
    simp [there]
  | cons b blanks =>
    have readNext : ∀ fuel, quotedSpaces fuel place.next =
        .ok (b :: blanks, place.next.forward (blanks.length + 1)) :=
      quotedSpaces_blank (fun d member => blank d member) noGap noEnd next
    have gap : endsRun b = true ∧ b ≠ '\'' ∧ b ≠ '"' ∧ b ≠ '\\' := by
      have isGap := blank b (by simp)
      simp only [ScalarText.isGap, Bool.or_eq_true, beq_iff_eq] at isGap
      rcases isGap with rfl | rfl <;> decide
    -- the same gap read from its second blank on
    intro fuel more enough enoughMore
    obtain ⟨fuel, rfl⟩ := Nat.exists_eq_add_one_of_ne_zero (Nat.ne_zero_of_lt enough)
    obtain ⟨more, rfl⟩ := Nat.exists_eq_add_one_of_ne_zero (Nat.ne_zero_of_lt enoughMore)
    have shorter : place.next.rest.length < place.rest.length := by simp [there]
    have remaining := ends (fuel + 1) (more + 1) (by omega) (by omega)
    rw [rest_gap gap.1 gap.2 next (readNext more)] at remaining
    rw [rest_gap rfl (by decide) there (read more)]
    cases found : rest double more more (place.next.forward (blanks.length + 1)) with
    | error fault => simp [found, Except.map] at remaining
    | ok found' =>
      simp only [found, Except.map, Except.ok.injEq, Prod.mk.injEq] at remaining ⊢
      exact ⟨by rw [← remaining.1]; rfl, remaining.2⟩

/-- Line ends in quotes and the indentation after them. -/
theorem ends_breaks {breaks pad : Text} (present : breaks ≠ [])
    (areEnds : ∀ c ∈ breaks, isBreak c = true) (blank : ∀ c ∈ pad, c = ' ') (padded : pad ≠ [])
    (firm : Firm following) (there : place.rest = breaks ++ (pad ++ following))
    (ends : Ends double (place.forward (breaks.length + pad.length)) text after) :
    Ends double place (settledBreaks breaks ++ text) after := by
  obtain ⟨c, breaks, rfl⟩ := List.exists_cons_of_ne_nil present
  have isEnd : isBreak c = true := areEnds c (by simp)
  have plain : endsRun c = true ∧ (c ≠ '\'' ∧ c ≠ '"' ∧ c ≠ '\\') ∧ isGap c = false := by
    rcases isBreak_iff.mp isEnd with rfl | rfl | rfl | rfl <;> decide
  have count : (c :: breaks).length + pad.length = breaks.length + pad.length + 1 := by
    simp only [List.length_cons]
    omega
  rw [count, Place.forward_succ] at ends
  refine ends_gap plain.1 plain.2.1 there ?_ (fun fuel enough => ?_) ends
  · simp [there]
    omega
  have ahead : place.ahead (fun c => c == ' ' || c == '\t') = [] := by
    refine Place.ahead_eq (by simp) (fun d first => ?_) rfl
    obtain rfl : c = d := by simpa [there] using first
    exact plain.2.2
  have next : place.next.rest = breaks ++ (pad ++ following) := by
    rw [Place.rest_next, there]
    rfl
  have later := quotedBreaks_eq (fun c member => areEnds c (by simp [member])) blank padded firm
    next (Nat.lt_of_le_of_lt (by simp) enough)
  rw [quotedSpaces, ahead]
  simp only [List.length_nil, Place.forward_zero, Place.peek_eq there, isEnd, if_true,
    Place.lineBreak_eq isEnd there, bind, Except.bind, later]
  by_cases lineFeed : settledBreak c = '\n' <;>
    simp [settledBreaks, lineFeed, pure, Except.pure]

end Gaps

end ScalarText

end Transclusion.Yaml

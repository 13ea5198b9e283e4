import Transclusion.Proofs.Yaml.Places
import Transclusion.Yaml.ScalarText

/-!
The forms that a text takes without quotes: words, with spaces between them or a new line and
its indentation for one space. The scalar ends at the colon of a key, or at the end of a line
when the next one is indented less.
-/

namespace Transclusion.Yaml

open ScalarText

/-- A text without blanks in which no colon is last. -/
def Solid : Text → Prop
  | [] => True
  | c :: rest => c ≠ ' ' ∧ c ≠ '\t' ∧ isBreak c = false ∧ (c = ':' → rest ≠ []) ∧ Solid rest

/-- What stands in one piece in a plain scalar. -/
structure Word (word : Text) : Prop where
  present : word ≠ []
  noHash : word.head? ≠ some '#'
  solid : Solid word

/-- The forms of a text without quotes, with lines indented by `depth` or more. -/
inductive PlainForm (depth : Nat) : Text → Text → Prop where
  | word {word : Text} (isWord : Word word) : PlainForm depth word word
  | space {word blanks read written : Text} (isWord : Word word) (present : blanks ≠ [])
      (blank : ∀ c ∈ blanks, c = ' ') (form : PlainForm depth read written) :
      PlainForm depth (word ++ (blanks ++ read)) (word ++ (blanks ++ written))
  | fold {word pad read written : Text} (isWord : Word word) (present : pad ≠ [])
      (blank : ∀ c ∈ pad, c = ' ') (padded : depth ≤ pad.length) (form : PlainForm depth read written) :
      PlainForm depth (word ++ (' ' :: read)) (word ++ ('\n' :: (pad ++ written)))

section Runs

variable {place stop after : Place} {word blanks pad text following : Text} {c : Char}

/-- Where a run of a plain scalar ends. -/
def StopsRun (following : Text) : Prop :=
  ∀ c ∈ following.head?, endsPlain false c following.tail.head? = true

theorem plainRun_word (solid : Solid word) (stops : StopsRun following) :
    plainRun false (word ++ following) = word := by
  induction word with
  | nil =>
    cases following with
    | nil => rfl
    | cons c following => simp [plainRun, show endsPlain false c following.head? = true from stops c rfl]
  | cons c word ih =>
    obtain ⟨noSpace, noTab, noEnd, noColon, solid⟩ := solid
    have goes : endsPlain false c (word ++ following).head? = false := by
      by_cases colon : c = ':'
      · obtain ⟨d, word, rfl⟩ := List.exists_cons_of_ne_nil (noColon colon)
        simp [endsPlain, noSpace, noTab, noEnd, isSpaceOrEnd, solid.1, solid.2.1, solid.2.2.1]
      · simp [endsPlain, noSpace, noTab, noEnd, colon]
    rw [List.cons_append, plainRun, goes]
    simp only [Bool.false_eq_true, if_false, ih solid]

theorem plainSpaces_none (noSpace : c ≠ ' ') (noEnd : isBreak c = false)
    (there : place.rest = c :: following) : plainSpaces place = ([], place, false) := by
  have none : place.ahead (· == ' ') = [] :=
    Place.ahead_eq (by simp) (by simp [there, noSpace]) rfl
  simp [plainSpaces, none, Place.peek_eq there, noEnd]

theorem plainSpaces_blank (blank : ∀ c ∈ blanks, c = ' ') (noSpace : c ≠ ' ')
    (noEnd : isBreak c = false) (passes : place.Passes blanks after)
    (there : after.rest = c :: following) : plainSpaces place = (blanks, after, false) := by
  have ahead : place.ahead (· == ' ') = blanks :=
    Place.ahead_eq (fun d member => by simp [blank d member]) (by simp [there, noSpace]) passes.there
  simp [plainSpaces, ahead, ← passes.target, Place.peek_eq there, noEnd]

theorem plainBreaks_blank (blank : ∀ c ∈ pad, c = ' ') (passes : place.Passes pad after)
    (firm : ∀ c ∈ after.rest.head?, c ≠ ' ' ∧ isBreak c = false) {fuel : Nat}
    (enough : pad.length < fuel) : plainBreaks fuel place = (some [], after) := by
  induction pad generalizing place fuel with
  | nil =>
    obtain ⟨fuel, rfl⟩ := Nat.exists_eq_add_one_of_ne_zero (Nat.ne_zero_of_lt enough)
    obtain rfl : after = place := passes.target
    cases there : after.rest with
    | nil => simp [plainBreaks, there]
    | cons c following =>
      obtain ⟨noSpace, noEnd⟩ := firm c (by simp [there])
      simp [plainBreaks, Place.peek_eq there, noSpace, noEnd]
  | cons c pad ih =>
    obtain rfl : c = ' ' := blank c (by simp)
    obtain ⟨fuel, rfl⟩ := Nat.exists_eq_add_one_of_ne_zero (Nat.ne_zero_of_lt enough)
    rw [plainBreaks, Place.peek_eq passes.there]
    exact ih (fun d member => blank d (by simp [member])) passes.next
      (Nat.lt_of_succ_lt_succ enough)

theorem plainSpaces_fold (blank : ∀ c ∈ pad, c = ' ') (passes : place.Passes ('\n' :: pad) after)
    (firm : ∀ c ∈ after.rest.head?, c ≠ ' ' ∧ isBreak c = false)
    (noMarker : place.next.atSeparator = false) : plainSpaces place = ([' '], after, true) := by
  have none : place.ahead (· == ' ') = [] :=
    Place.ahead_eq (by simp) (by simp [passes.there]) rfl
  have breaks := plainBreaks_blank blank passes.next firm
    (show pad.length < place.next.rest.length + 1 by rw [passes.next.length]; omega)
  simp [-Place.rest_next, plainSpaces, none, Place.peek_eq passes.there,
    show isBreak '\n' = true from rfl, Place.lineBreak_eq (show isBreak '\n' = true from rfl)
      passes.there, noMarker, breaks, settledBreak]

theorem plainSpaces_marker (there : place.rest = '\n' :: following)
    (marker : place.next.atSeparator = true) : plainSpaces place = ([], place.next, true) := by
  have none : place.ahead (· == ' ') = [] :=
    Place.ahead_eq (by simp) (by simp [there]) rfl
  simp [plainSpaces, none, Place.peek_eq there, show isBreak '\n' = true from rfl,
    Place.lineBreak_eq (show isBreak '\n' = true from rfl) there, marker]

theorem Word.head (isWord : Word word) : ∃ c rest, word = c :: rest ∧ c ≠ ' ' ∧ c ≠ '#' ∧
    isBreak c = false := by
  obtain ⟨c, rest, rfl⟩ := List.exists_cons_of_ne_nil isWord.present
  exact ⟨c, rest, rfl, isWord.solid.1, fun same => isWord.noHash (by rw [same]; rfl),
    isWord.solid.2.2.1⟩

theorem Solid.noEnd (solid : Solid word) : ∀ c ∈ word, isBreak c = false := by
  induction word with
  | nil => simp
  | cons c word ih =>
    simpa using ⟨solid.2.2.1, ih solid.2.2.2.2⟩

variable {depth : Nat} {read written : Text}

theorem PlainForm.head (form : PlainForm depth read written) :
    ∃ c rest, written = c :: rest ∧ c ≠ ' ' ∧ c ≠ '#' ∧ isBreak c = false := by
  cases form with
  | word isWord => exact isWord.head
  | space isWord _ _ _ =>
    obtain ⟨c, rest, rfl, first⟩ := isWord.head
    exact ⟨c, _, List.cons_append, first⟩
  | fold isWord _ _ _ _ =>
    obtain ⟨c, rest, rfl, first⟩ := isWord.head
    exact ⟨c, _, List.cons_append, first⟩

theorem PlainForm.mono {less : Nat} (form : PlainForm depth read written) (fewer : less ≤ depth) :
    PlainForm less read written := by
  induction form with
  | word isWord => exact .word isWord
  | space isWord present blank _ ih => exact .space isWord present blank ih
  | fold isWord present blank padded _ ih =>
    exact .fold isWord present blank (Nat.le_trans fewer padded) ih

theorem stopsRun_cons {c : Char} (stops : c = ' ' ∨ isBreak c = true) : StopsRun (c :: following) := by
  rintro _ ⟨⟩
  rcases stops with rfl | isEnd
  · rfl
  · simp [endsPlain, isEnd]

/-- One run, and what is read after it. -/
theorem plainRuns_word {joint gap : Text} {broken broken' : Bool} {indent : Int} (isWord : Word word)
    (passes : place.Passes word stop) (stops : StopsRun stop.rest)
    (spaces : plainSpaces stop = (gap, after, broken')) (fuel : Nat) :
    plainRuns false indent (fuel + 1) joint broken place =
      if gap.isEmpty || after.sees '#' || (Int.ofNat after.column < indent : Bool) then
        (joint ++ word, after, broken')
      else
        let (more, later, broken) := plainRuns false indent fuel gap broken' after
        (joint ++ word ++ more, later, broken) := by
  have noHash : place.sees '#' = false := by
    obtain ⟨c, rest, rfl, _, noHash, _⟩ := isWord.head
    simp [Place.sees_eq, passes.there, noHash]
  have run : plainRun false place.rest = word := by
    rw [passes.there, plainRun_word isWord.solid stops]
  rw [plainRuns, noHash, run]
  simp only [Bool.false_eq_true, if_false, List.isEmpty_iff, isWord.present, ← passes.target, spaces,
    Bool.not_false, Bool.true_and]

/-- A word and what parts it from the next one, which stands deep enough. -/
theorem PlainForm.plainRuns_on {joint gap following : Text} {broken broken' : Bool}
    (form : PlainForm depth read written) (isWord : Word word) (passes : place.Passes word stop)
    (stops : StopsRun stop.rest) (spaces : plainSpaces stop = (gap, after, broken')) (parted : gap ≠ [])
    (there : after.rest = written ++ following) (deep : depth ≤ after.column) (fuel : Nat) :
    ScalarText.plainRuns false (Int.ofNat depth) (fuel + 1) joint broken place =
      let (more, later, broken) := ScalarText.plainRuns false (Int.ofNat depth) fuel gap broken' after
      (joint ++ word ++ more, later, broken) := by
  obtain ⟨d, rest, rfl, _, noHash, _⟩ := form.head
  have goes : (gap.isEmpty || after.sees '#' ||
      (Int.ofNat after.column < Int.ofNat depth : Bool)) = false := by
    simpa [Place.sees_eq, there, noHash, parted] using deep
  rw [plainRuns_word isWord passes stops spaces, goes, if_neg (by decide)]

/-- What has a form without quotes is read without quotes. -/
theorem PlainForm.plainRuns {joint gap : Text} {broken broken' : Bool}
    (form : PlainForm depth read written) (passes : place.Passes written stop)
    (inside : depth ≤ place.column + 1) (stops : StopsRun stop.rest)
    (spaces : plainSpaces stop = (gap, after, broken'))
    (last : gap = [] ∨ after.column < depth) {fuel : Nat} (enough : written.length < fuel) :
    ScalarText.plainRuns false (Int.ofNat depth) fuel joint broken place =
      (joint ++ read, after, broken') := by
  induction form generalizing place joint broken fuel with
  | word isWord =>
    obtain ⟨fuel, rfl⟩ := Nat.exists_eq_add_one_of_ne_zero (Nat.ne_zero_of_lt enough)
    have ended : (gap.isEmpty || after.sees '#' ||
        (Int.ofNat after.column < Int.ofNat depth : Bool)) = true := by
      rcases last with rfl | shallow
      · rfl
      · simp [shallow]
    rw [plainRuns_word isWord passes stops spaces, ended, if_pos rfl]
  | @space word blanks read written isWord present blank form ih =>
    obtain ⟨fuel, rfl⟩ := Nat.exists_eq_add_one_of_ne_zero (Nat.ne_zero_of_lt enough)
    obtain ⟨gap, first, second⟩ := passes.split
    obtain ⟨later, third, fourth⟩ := second.split
    obtain ⟨d, rest, rfl, noSpace, _, noEnd⟩ := form.head
    obtain ⟨b, blanks, rfl⟩ := List.exists_cons_of_ne_nil present
    have further : depth ≤ later.column := by
      have before := (first.level isWord.solid.noEnd).2
      have column := (third.straight (Place.straight_of_blank blank)).2
      simp only [List.length_cons] at column
      omega
    have runStops : StopsRun gap.rest := by
      rw [third.there, List.cons_append]
      exact stopsRun_cons (.inl (blank b (by simp)))
    have shorter : (d :: rest).length < fuel := by
      simp only [List.length_append, List.length_cons] at enough ⊢
      omega
    rw [form.plainRuns_on isWord first runStops
      (plainSpaces_blank blank noSpace noEnd third fourth.there) present fourth.there further,
      ih fourth (Nat.le_succ_of_le further) shorter]
    simp
  | @fold word pad read written isWord present blank padded form ih =>
    obtain ⟨fuel, rfl⟩ := Nat.exists_eq_add_one_of_ne_zero (Nat.ne_zero_of_lt enough)
    obtain ⟨gap, first, second⟩ := passes.split
    rw [← List.cons_append] at second
    obtain ⟨later, third, fourth⟩ := second.split
    obtain ⟨d, rest, rfl, noSpace, _, noEnd⟩ := form.head
    have below : gap.Passes ([] ++ '\n' :: pad) later := third
    have further : later.column = pad.length := (below.lineEnd rfl (Place.straight_of_blank blank)).2
    have noMarker : gap.next.atSeparator = false := by
      obtain ⟨b, pad, rfl⟩ := List.exists_cons_of_ne_nil present
      obtain rfl : b = ' ' := blank b (by simp)
      have there := third.next.there
      exact Place.atSeparator_eq_false (by rw [there]; simp) (by rw [there]; simp)
    have runStops : StopsRun gap.rest := by
      rw [third.there, List.cons_append]
      exact stopsRun_cons (.inr rfl)
    have firm : ∀ c ∈ later.rest.head?, c ≠ ' ' ∧ isBreak c = false := by
      simp [fourth.there, noSpace, noEnd]
    have shorter : (d :: rest).length < fuel := by
      simp only [List.length_append, List.length_cons] at enough ⊢
      omega
    rw [form.plainRuns_on isWord first runStops (plainSpaces_fold blank third firm noMarker)
      (List.cons_ne_nil _ _) fourth.there (by omega), ih fourth (by omega) shorter]
    simp

theorem PlainForm.plain_key (form : PlainForm depth read written)
    (passes : place.Passes written stop) (inside : depth ≤ place.column + 1)
    (there : stop.rest = ':' :: following) (ends : isSpaceOrEnd following.head? = true) :
    plain false (Int.ofNat depth) place = (read, stop, false) := by
  have stops : StopsRun stop.rest := by
    rw [there]
    rintro _ ⟨⟩
    simp [endsPlain, ends]
  exact form.plainRuns passes inside stops (plainSpaces_none (by decide) rfl there) (.inl rfl)
    (by rw [passes.length]; omega)

theorem PlainForm.plain_line {target : Place} (form : PlainForm depth read written)
    (passes : place.Passes written stop) (inside : depth ≤ place.column + 1)
    (blank : ∀ c ∈ pad, c = ' ') (next : stop.Passes ('\n' :: pad) target)
    (atToken : target.AtToken) (outside : target.column < depth) :
    ∃ after left, plain false (Int.ofNat depth) place = (read, after, true) ∧
      after.Passes left target ∧ (∀ c ∈ left, c = ' ') ∧ after.rest.length ≤ stop.rest.length := by
  have stops : StopsRun stop.rest := by
    rw [next.there, List.cons_append]
    exact stopsRun_cons (.inr rfl)
  have enough : written.length < place.rest.length + 1 := by
    rw [passes.length]
    omega
  by_cases marker : stop.next.atSeparator = true
  · exact ⟨stop.next, pad, form.plainRuns passes inside stops (plainSpaces_marker next.there marker)
      (.inl rfl) enough, next.next, blank, by simp⟩
  · have firm : ∀ c ∈ target.rest.head?, c ≠ ' ' ∧ isBreak c = false :=
      fun c first => ⟨(atToken c first).1, (atToken c first).2.2⟩
    exact ⟨target, [], form.plainRuns passes inside stops
      (plainSpaces_fold blank next firm (Bool.eq_false_iff.mpr marker)) (.inr outside) enough,
      .nil target, by simp, by rw [next.length]; omega⟩

end Runs

end Transclusion.Yaml

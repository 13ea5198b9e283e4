import Transclusion.Proofs.Markers

/-!
Names character by character. The characters of names are ASCII but for four stray letters, so
a finite table says how each of them folds and goes into lower case. The fold of a name is read
back character by character, and names with one fold are case forms of each other.
-/

namespace Transclusion.Text

/-- Each of the signs stands at the same places of both texts. -/
def SamePlaces (signs : List Char) (first second : Text) : Prop :=
  ∀ sign ∈ signs, first.map (· == sign) = second.map (· == sign)

instance (signs : List Char) (first second : Text) : Decidable (SamePlaces signs first second) :=
  List.decidableBAll _ signs

-- Comparing by one key is comparing by a coarser one and by the places of some signs.
theorem map_eq_iff_samePlaces {Key Key' : Type} {fine : Char → Key} {coarse : Char → Key'}
    {signs : List Char} {first second : Text}
    (refines : ∀ c ∈ first, ∀ d ∈ second, fine c = fine d ↔
      coarse c = coarse d ∧ ∀ sign ∈ signs, (c == sign) = (d == sign)) :
    first.map fine = second.map fine ↔
      first.map coarse = second.map coarse ∧ SamePlaces signs first second := by
  induction first generalizing second with
  | nil =>
    cases second with
    | nil => simp [SamePlaces]
    | cons d second => simp
  | cons c first ih =>
    cases second with
    | nil => simp
    | cons d second =>
      have heads := refines c (by simp) d (by simp)
      have tails := @ih second fun c inside d inside' =>
        refines c (List.mem_cons_of_mem _ inside) d (List.mem_cons_of_mem _ inside')
      simp only [List.map_cons, List.cons.injEq, heads, tails, SamePlaces, forall_and]
      constructor
      · rintro ⟨⟨key, here⟩, keys, later⟩
        exact ⟨⟨key, keys⟩, here, later⟩
      · rintro ⟨⟨key, keys⟩, here, later⟩
        exact ⟨⟨key, here⟩, keys, later⟩

/-- The fold and the lower case of a character of a name are told by its case form and by
whether it is a stray letter, and tell them. -/
structure NameForm (c : Char) : Prop where
  folds : folded c = if c == '\u0130' then ['i', '\u0307'] else if c == '\u0131' then ['\u0131']
    else [caseKey c]
  unfolds : (folded c).head?.map caseKey = some (caseKey c)
  dotted : (c == '\u0130') = (folded c == ['i', '\u0307'])
  dotless : (c == '\u0131') = (folded c == ['\u0131'])
  lowers : lowered c = if c == '\u0131' then '\u0131' else if c == '\u017F' then '\u017F'
    else caseKey c
  small : (c == '\u0131') = (lowered c == '\u0131')
  long : (c == '\u017F') = (lowered c == '\u017F')
  plain : caseKey c ≠ '\u0307'

instance (c : Char) : Decidable (NameForm c) :=
  decidable_of_iff (_ ∧ _ ∧ _ ∧ _ ∧ _ ∧ _ ∧ _ ∧ _)
    ⟨fun ⟨folds, unfolds, dotted, dotless, lowers, small, long, plain⟩ =>
      ⟨folds, unfolds, dotted, dotless, lowers, small, long, plain⟩,
    fun form => ⟨form.folds, form.unfolds, form.dotted, form.dotless, form.lowers, form.small,
      form.long, form.plain⟩⟩

theorem nameForm {c : Char} (tail : isNameTail c = true) : NameForm c := by
  rcases ascii_or_stray_of_isNameTail tail with ascii | stray
  · exact forall_ascii NameForm (by decide +kernel) ascii
  · have all : strayForms.all (fun c => decide (NameForm c)) = true := by decide +kernel
    exact of_decide_eq_true (List.all_eq_true.mp all c stray)

section Names

variable {c d : Char} {first second : Text}

theorem folded_eq_iff (form : NameForm c) (form' : NameForm d) :
    folded c = folded d ↔
      caseKey c = caseKey d ∧ ∀ sign ∈ ['\u0130', '\u0131'], (c == sign) = (d == sign) := by
  constructor
  · intro same
    have key : some (caseKey c) = some (caseKey d) := by rw [← form.unfolds, same, form'.unfolds]
    refine ⟨Option.some.inj key, List.forall_mem_cons.mpr ⟨?_, List.forall_mem_singleton.mpr ?_⟩⟩
    · rw [form.dotted, form'.dotted, same]
    · rw [form.dotless, form'.dotless, same]
  · rintro ⟨key, signs⟩
    rw [form.folds, form'.folds, key, signs _ (by simp), signs _ (by simp)]

theorem lowered_eq_iff (form : NameForm c) (form' : NameForm d) :
    lowered c = lowered d ↔
      caseKey c = caseKey d ∧ ∀ sign ∈ ['\u0131', '\u017F'], (c == sign) = (d == sign) := by
  constructor
  · intro same
    refine ⟨by rw [caseKey, same, ← caseKey],
      List.forall_mem_cons.mpr ⟨?_, List.forall_mem_singleton.mpr ?_⟩⟩
    · rw [form.small, form'.small, same]
    · rw [form.long, form'.long, same]
  · rintro ⟨key, signs⟩
    rw [form.lowers, form'.lowers, key, signs _ (by simp), signs _ (by simp)]

-- The dot over a folded i stands second in the fold of a character, never first.
theorem NameForm.folded_eq (form : NameForm c) :
    ∃ letter, letter ≠ '\u0307' ∧ (folded c = [letter] ∨ folded c = [letter, '\u0307']) := by
  rw [form.folds]
  split
  · exact ⟨'i', by decide, Or.inr rfl⟩
  · split
    · exact ⟨'\u0131', by decide, Or.inl rfl⟩
    · exact ⟨caseKey c, form.plain, Or.inl rfl⟩

theorem head?_fold_ne_dot (forms : ∀ c ∈ first, NameForm c) : (fold first).head? ≠ some '\u0307' := by
  cases first with
  | nil => simp [fold]
  | cons c first =>
    obtain ⟨letter, notDot, single | double⟩ := (forms c (by simp)).folded_eq
    · simpa [fold, single] using notDot
    · simpa [fold, double] using notDot

theorem folded_append_inj (form : NameForm c) (form' : NameForm d)
    (noDot : first.head? ≠ some '\u0307') (noDot' : second.head? ≠ some '\u0307')
    (same : folded c ++ first = folded d ++ second) : folded c = folded d ∧ first = second := by
  obtain ⟨letter, _, here⟩ := form.folded_eq
  obtain ⟨letter', _, here'⟩ := form'.folded_eq
  rcases here with single | double <;> rcases here' with single' | double'
  · simpa [single, single'] using same
  -- a dot behind one of the two would begin what stands behind the other
  · have behind : first = '\u0307' :: second := by
      rw [single, double'] at same
      exact (List.cons.inj same).2
    simp [behind] at noDot
  · have behind : '\u0307' :: first = second := by
      rw [double, single'] at same
      exact (List.cons.inj same).2
    simp [← behind] at noDot'
  · simpa [double, double'] using same

theorem NameForm.folded_ne_nil (form : NameForm c) : folded c ≠ [] := by
  obtain ⟨letter, _, single | double⟩ := form.folded_eq
  · simp [single]
  · simp [double]

theorem fold_cons_ne_nil (form : NameForm c) : fold (c :: first) ≠ [] :=
  fun none => form.folded_ne_nil (List.append_eq_nil_iff.mp none).1

-- So the fold of a name is read back character by character.
theorem fold_eq_iff (forms : ∀ c ∈ first, NameForm c) (forms' : ∀ c ∈ second, NameForm c) :
    fold first = fold second ↔ first.map folded = second.map folded := by
  constructor
  · intro same
    induction first generalizing second with
    | nil =>
      cases second with
      | nil => rfl
      | cons d second => exact absurd same.symm (fold_cons_ne_nil (forms' d (by simp)))
    | cons c first ih =>
      cases second with
      | nil => exact absurd same (fold_cons_ne_nil (forms c (by simp)))
      | cons d second =>
        have later : ∀ c ∈ first, NameForm c := fun c inside => forms c (List.mem_cons_of_mem _ inside)
        have later' : ∀ c ∈ second, NameForm c :=
          fun c inside => forms' c (List.mem_cons_of_mem _ inside)
        obtain ⟨heads, tails⟩ := folded_append_inj (forms c (by simp)) (forms' d (by simp))
          (head?_fold_ne_dot later) (head?_fold_ne_dot later') same
        rw [List.map_cons, List.map_cons, heads, ih later later' tails]
  · intro same
    rw [fold, fold, List.flatMap_def, List.flatMap_def, same]

theorem fold_eq_iff_spells (named : IsName first) (named' : IsName second) :
    fold first = fold second ↔
      Spells first second ∧ SamePlaces ['\u0130', '\u0131'] first second := by
  rw [fold_eq_iff (fun c inside => nameForm (named.tail c inside))
    fun c inside => nameForm (named'.tail c inside)]
  exact map_eq_iff_samePlaces fun c inside d inside' =>
    folded_eq_iff (nameForm (named.tail c inside)) (nameForm (named'.tail d inside'))

theorem sameLower_iff_spells (named : IsName first) (named' : IsName second) :
    SameLower first second ↔
      Spells first second ∧ SamePlaces ['\u0131', '\u017F'] first second :=
  map_eq_iff_samePlaces fun c inside d inside' =>
    lowered_eq_iff (nameForm (named.tail c inside)) (nameForm (named'.tail d inside'))

/-- Names that fold to the same text spell each other. -/
theorem spells_of_fold_eq (named : IsName first) (named' : IsName second)
    (same : fold first = fold second) : Spells first second :=
  ((fold_eq_iff_spells named named').mp same).1

theorem fold_ne_nil_of_isName (named : IsName first) : fold first ≠ [] := by
  cases first with
  | nil => exact absurd named id
  | cons c rest => exact fold_cons_ne_nil (nameForm (isNameTail_of_isNameHead named.1))

end Names

end Transclusion.Text

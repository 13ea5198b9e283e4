import Mathlib.Data.Char
import Transclusion.Marker
import Transclusion.Text.Casefold

/-!
Characters as markers see them. Only four characters beyond ASCII are case forms of
an ASCII letter, so the letters of marker words, the characters of names and the
blanks around contents are told apart by finite tables.
-/

namespace Transclusion.Text

/-- Characters beyond ASCII that have an ASCII letter among their case forms. -/
def strayForms : List Char := ['\u0130', '\u0131', '\u017F', '\u212A']

theorem forall_ascii (holds : Char → Prop) (checked : ∀ code < 128, holds (Char.ofNat code))
    {c : Char} (ascii : c.toNat < 128) : holds c := by
  have same := checked c.toNat ascii
  rwa [Char.ofNat_toNat] at same

theorem isAlpha_eq (c : Char) : c.isAlpha = (c.isUpper || c.isLower) := rfl

theorem isUpper_iff {c : Char} : c.isUpper = true ↔ 65 ≤ c.toNat ∧ c.toNat ≤ 90 := by
  show decide (c.val ≥ 65 ∧ c.val ≤ 90) = true ↔ _
  simp [UInt32.le_iff_toNat_le]

theorem isLower_iff {c : Char} : c.isLower = true ↔ 97 ≤ c.toNat ∧ c.toNat ≤ 122 := by
  show (decide (c.val ≥ 97) && decide (c.val ≤ 122)) = true ↔ _
  simp [UInt32.le_iff_toNat_le]

theorem isDigit_iff {c : Char} : c.isDigit = true ↔ 48 ≤ c.toNat ∧ c.toNat ≤ 57 := by
  show (decide (c.val ≥ 48) && decide (c.val ≤ 57)) = true ↔ _
  simp [UInt32.le_iff_toNat_le]

theorem toNat_ofNat_of_valid (code : Nat)
    (valid : code < 0xD800 ∨ 0xDFFF < code ∧ code < 0x110000) :
    (Char.ofNat code).toNat = code := by
  have scalar : code.isValidChar := valid
  rw [Char.ofNat, dif_pos scalar]
  rfl

theorem eq_of_toNat_eq {c : Char} (code : Nat) (same : c.toNat = code) : c = Char.ofNat code := by
  rw [← same, Char.ofNat_toNat]

section Tables

/-- A row of lower-case shifts stays within ASCII, or is one of two stray capitals, or
maps codes beyond ASCII to codes beyond ASCII, none of them a stray small letter. -/
def Shift.Sound (row : Shift) : Prop :=
  row.last < 0x80 ∨ (row.first = 0x130 ∧ row.last = 0x130) ∨
    (row.first = 0x212A ∧ row.last = 0x212A) ∨
    (0x80 ≤ row.first + row.offset ∧
      (row.last + row.offset < 0xD800 ∨
        0xDFFF < row.first + row.offset ∧ row.last + row.offset < 0x110000) ∧
      (row.last + row.offset < 0x131 ∨ 0x131 < row.first + row.offset) ∧
      (row.last + row.offset < 0x17F ∨ 0x17F < row.first + row.offset))

instance (row : Shift) : Decidable row.Sound := by
  unfold Shift.Sound
  infer_instance

theorem lowerShifts_sound : ∀ row ∈ lowerShifts.toList, row.Sound := by decide +kernel

theorem Shift.image_eq (row : Shift) (code : Nat) (positive : 0 ≤ code + row.offset) :
    row.image code = code ∨ (row.image code : Int) = code + row.offset := by
  unfold Shift.image
  split
  · exact Or.inr (Int.toNat_of_nonneg positive)
  · exact Or.inl rfl

/-- The codes that a table of ranges covers. -/
def rangeCodes (rows : Array (Nat × Nat)) : List Nat :=
  rows.toList.flatMap fun row => List.range' row.1 (row.2 - row.1 + 1)

theorem mem_rangeCodes {rows : Array (Nat × Nat)} {code : Nat}
    (covered : Ranges.contains rows code = true) : code ∈ rangeCodes rows := by
  obtain ⟨row, found⟩ := Option.isSome_iff_exists.mp covered
  obtain ⟨member, above, below⟩ := Ranges.find?_covers found
  refine List.mem_flatMap.mpr ⟨row, Array.mem_toList_iff.mpr member, ?_⟩
  exact List.mem_range'_1.mpr ⟨above, by omega⟩

end Tables

section LowerCase

-- Beyond ASCII, lower case leaves a character beyond ASCII unless it is one of two
-- stray capitals, and makes no dotless i or long s.
theorem lowered_beyond_ascii {c : Char} (beyond : 128 ≤ c.toNat) :
    c = '\u0130' ∨ c = '\u212A' ∨ lowered c = c ∨
      (128 ≤ (lowered c).toNat ∧ lowered c ≠ '\u0131' ∧ lowered c ≠ '\u017F') := by
  have large : ¬ c.val < 0x80 := by
    intro small
    have ascii : c.toNat < 128 := small
    omega
  rw [lowered, if_neg large, Shift.apply]
  split
  · next row found =>
    obtain ⟨member, above, below⟩ := Ranges.find?_covers found
    rcases lowerShifts_sound row (Array.mem_toList_iff.mpr member) with
      ascii | ⟨first, last⟩ | ⟨first, last⟩ | ⟨beyondAscii, valid, noDotless, noLong⟩
    · omega
    · exact Or.inl (eq_of_toNat_eq 0x130 (by omega))
    · exact Or.inr (Or.inl (eq_of_toNat_eq 0x212A (by omega)))
    · rcases row.image_eq c.toNat (by omega) with same | moved
      · exact Or.inr (Or.inr (Or.inl (by rw [same, Char.ofNat_toNat])))
      · have code := toNat_ofNat_of_valid (row.image c.toNat) (by omega)
        refine Or.inr (Or.inr (Or.inr ⟨by omega, ?_, ?_⟩))
        · intro dotless
          have : row.image c.toNat = 0x131 := by rw [← code, dotless]; rfl
          omega
        · intro long
          have : row.image c.toNat = 0x17F := by rw [← code, long]; rfl
          omega
  · exact Or.inr (Or.inr (Or.inl rfl))

theorem lowered_ascii {c : Char} (ascii : c.toNat < 128) : lowered c = c.toLower := by
  have small : c.val < 0x80 := ascii
  rw [lowered, if_pos small]

-- A character whose lower case is ASCII, a dotless i or a long s is ASCII itself or
-- one of the stray forms.
theorem ascii_or_stray_of_lowered {c : Char}
    (low : (lowered c).toNat < 128 ∨ lowered c = '\u0131' ∨ lowered c = '\u017F') :
    c.toNat < 128 ∨ c ∈ strayForms := by
  by_cases ascii : c.toNat < 128
  · exact Or.inl ascii
  · right
    rcases lowered_beyond_ascii (Nat.le_of_not_lt ascii) with rfl | rfl | same | ⟨beyond, noDotless, noLong⟩
    · decide
    · decide
    · rw [same] at low
      rcases low with small | rfl | rfl
      · exact absurd small ascii
      · decide
      · decide
    · rcases low with small | dotless | long
      · omega
      · exact absurd dotless noDotless
      · exact absurd long noLong

end LowerCase

section CaseForms

theorem alike_refl (c : Char) : alike c c = true := by simp [alike]

/-- How an ASCII character goes into lower case. -/
structure PlainForm (c : Char) : Prop where
  key : caseKey c = c.toLower
  again : caseKey c.toLower = c.toLower
  small : c.toLower.toNat < 128
  letter : isLetterForm c = c.isAlpha
  lower : c.toLower = c ∨ c.isUpper = true ∧ c.toLower.isLower = true

theorem plainForm {c : Char} (ascii : c.toNat < 128) : PlainForm c := by
  obtain ⟨key, again, small, letter, lower⟩ := forall_ascii
    (fun c => caseKey c = c.toLower ∧ caseKey c.toLower = c.toLower ∧ c.toLower.toNat < 128 ∧
      isLetterForm c = c.isAlpha ∧
      (c.toLower = c ∨ c.isUpper = true ∧ c.toLower.isLower = true)) (by decide +kernel) ascii
  exact ⟨key, again, small, letter, lower⟩

theorem caseKey_ascii {c : Char} (ascii : c.toNat < 128) : caseKey c = c.toLower :=
  (plainForm ascii).key

-- What is no small letter is the lower case of nothing but itself.
theorem eq_of_toLower_eq {c other : Char} (ascii : c.toNat < 128) (same : c.toLower = other)
    (notLower : other.isLower = false) : c = other := by
  rcases (plainForm ascii).lower with stays | ⟨_, lower⟩
  · rw [← stays, same]
  · rw [same, notLower] at lower
    cases lower

/-- How a stray form goes into lower case. -/
structure StrayForm (c : Char) : Prop where
  alphanumeric : isAlphanumeric c = true
  letter : isLetterForm c = true
  key : (caseKey c).isLower = true
  again : caseKey (caseKey c) = caseKey c
  folds : caseKey c = 'i' ∨ folded c = [caseKey c]

theorem strayForm {c : Char} (stray : c ∈ strayForms) : StrayForm c := by
  have all : strayForms.all (fun c => isAlphanumeric c && isLetterForm c && (caseKey c).isLower &&
      caseKey (caseKey c) == caseKey c && (caseKey c == 'i' || folded c == [caseKey c])) = true := by
    decide +kernel
  have this := List.all_eq_true.mp all c stray
  simp only [Bool.and_eq_true, Bool.or_eq_true, beq_iff_eq] at this
  obtain ⟨⟨⟨⟨alphanumeric, letter⟩, key⟩, again⟩, folds⟩ := this
  exact ⟨alphanumeric, letter, key, again, folds⟩

-- A character whose lower case is no form of a letter is that character.
theorem eq_of_lowered_eq {c other : Char} (same : lowered c = other) (ascii : other.toNat < 128)
    (notLower : other.isLower = false) : c = other := by
  rcases ascii_or_stray_of_lowered (Or.inl (same ▸ ascii)) with small | stray
  · rw [lowered_ascii small] at same
    exact eq_of_toLower_eq small same notLower
  · have letter := (strayForm stray).letter
    have apart : ∀ form : Char, 128 ≤ form.toNat → other ≠ form := by
      rintro form beyond rfl
      omega
    simp [isLetterForm, same, notLower, apart '\u0131' (by decide),
      apart '\u017F' (by decide)] at letter

-- The first of the forms that stand together, when it is ASCII, stands for i or s.
theorem caseVariants_ascii : ∀ forms ∈ caseVariants, ∀ first ∈ forms.head?,
    (Char.ofNat first).toNat < 128 → forms = [0x69, 0x131] ∨ forms = [0x73, 0x17F] := by
  decide

theorem lowered_of_caseKey_ascii {c : Char} (ascii : (caseKey c).toNat < 128) :
    (lowered c).toNat < 128 ∨ lowered c = '\u0131' ∨ lowered c = '\u017F' := by
  by_cases small : (lowered c).toNat < 128
  · exact Or.inl small
  · right
    have large : ¬ (lowered c).val < 0x80 := small
    simp only [caseKey, large, decide_false, Bool.false_and, Bool.false_eq_true, if_false] at ascii
    split at ascii
    · next first rest found =>
      have member := List.mem_of_find?_eq_some found
      have listed : (lowered c).toNat ∈ first :: rest := by
        simpa using List.find?_some found
      rcases caseVariants_ascii _ member first (by simp) ascii with same | same
      · rw [same] at listed
        have code : (lowered c).toNat = 0x131 := by
          rcases List.mem_cons.mp listed with plain | other
          · omega
          · simpa using other
        exact Or.inl (eq_of_toNat_eq 0x131 code)
      · rw [same] at listed
        have code : (lowered c).toNat = 0x17F := by
          rcases List.mem_cons.mp listed with plain | other
          · omega
          · simpa using other
        exact Or.inr (eq_of_toNat_eq 0x17F code)
    · exact absurd ascii small

theorem ascii_or_stray_of_caseKey {c : Char} (ascii : (caseKey c).toNat < 128) :
    c.toNat < 128 ∨ c ∈ strayForms :=
  ascii_or_stray_of_lowered (lowered_of_caseKey_ascii ascii)

-- A character that stands with a character that is no letter is that character.
theorem eq_of_caseKey_eq {c other : Char} (same : caseKey c = other) (ascii : other.toNat < 128)
    (notLower : other.isLower = false) : c = other := by
  rcases ascii_or_stray_of_caseKey (same ▸ ascii) with small | stray
  · rw [caseKey_ascii small] at same
    exact eq_of_toLower_eq small same notLower
  · have lower := (strayForm stray).key
    rw [same, notLower] at lower
    cases lower

-- What stands for a case form of an ASCII character is its lower case.
theorem forms_of_ascii {letter c : Char} (ascii : letter.toNat < 128)
    (same : alike letter c = true) :
    (c.toNat < 128 ∧ c.toLower = letter.toLower) ∨
      (c ∈ strayForms ∧ caseKey c = letter.toLower) := by
  have keys : caseKey c = letter.toLower := by
    rw [← caseKey_ascii ascii]
    exact (beq_iff_eq.mp same).symm
  have small : (caseKey c).toNat < 128 := by
    rw [keys]
    exact (plainForm ascii).small
  rcases ascii_or_stray_of_caseKey small with plain | stray
  · exact Or.inl ⟨plain, by rw [← caseKey_ascii plain, keys]⟩
  · exact Or.inr ⟨stray, keys⟩

theorem eq_of_alike_underscore {c : Char} (same : alike '_' c = true) : c = '_' := by
  have key : caseKey c = '_' := by
    rw [← (beq_iff_eq.mp same : caseKey '_' = caseKey c)]
    exact (plainForm (by decide)).key
  exact eq_of_caseKey_eq key (by decide) (by decide)

theorem eq_of_sameLowered_underscore {c : Char} (same : sameLowered '_' c = true) : c = '_' := by
  have lower : lowered c = '_' := by
    rw [← (beq_iff_eq.mp same : lowered '_' = lowered c)]
    decide
  exact eq_of_lowered_eq lower (by decide) (by decide)

-- Case forms of an ASCII letter fold to its lower case, those of i apart.
theorem folded_of_alike {letter c : Char} (ascii : letter.toNat < 128)
    (notI : letter.toLower ≠ 'i') (same : alike letter c = true) :
    folded c = [letter.toLower] := by
  rcases forms_of_ascii ascii same with ⟨plain, lower⟩ | ⟨stray, key⟩
  · have small : c.val < 0x80 := plain
    rw [folded, if_pos small, lower]
  · rcases (strayForm stray).folds with isI | single
    · exact absurd (key.symm.trans isI) notI
    · rw [single, key]

end CaseForms

section WordCharacters

theorem ascii_of_isAlphanum {c : Char} (alphanumeric : c.isAlphanum = true) : c.toNat < 128 := by
  simp only [Char.isAlphanum, isAlpha_eq, Bool.or_eq_true, isUpper_iff, isLower_iff,
    isDigit_iff] at alphanumeric
  omega

theorem isAlphanumeric_of_isAlphanum {c : Char} (alphanumeric : c.isAlphanum = true) :
    isAlphanumeric c = true := by
  have small : c.val < 0x80 := ascii_of_isAlphanum alphanumeric
  rw [isAlphanumeric, if_pos small, alphanumeric]

theorem isAlphanum_toLower {c : Char} (ascii : c.toNat < 128) :
    c.toLower.isAlphanum = c.isAlphanum := by
  rcases (plainForm ascii).lower with same | ⟨upper, lower⟩
  · rw [same]
  · simp [Char.isAlphanum, isAlpha_eq, upper, lower]

theorem isAlphanumeric_of_alike {letter c : Char} (alphanumeric : letter.isAlphanum = true)
    (same : alike letter c = true) : isAlphanumeric c = true := by
  have ascii := ascii_of_isAlphanum alphanumeric
  rcases forms_of_ascii ascii same with ⟨plain, lower⟩ | ⟨stray, _⟩
  · apply isAlphanumeric_of_isAlphanum
    rw [← isAlphanum_toLower plain, lower, isAlphanum_toLower ascii, alphanumeric]
  · exact (strayForm stray).alphanumeric

theorem ascii_or_stray_of_isLetterForm {c : Char} (form : isLetterForm c = true) :
    c.toNat < 128 ∨ c ∈ strayForms := by
  apply ascii_or_stray_of_lowered
  simp only [isLetterForm, Bool.or_eq_true, beq_iff_eq] at form
  rcases form with (lower | dotless) | long
  · exact Or.inl (ascii_of_isAlphanum (by simp [Char.isAlphanum, isAlpha_eq, lower]))
  · exact Or.inr (Or.inl dotless)
  · exact Or.inr (Or.inr long)

theorem ascii_or_stray_of_isNameTail {c : Char} (tail : isNameTail c = true) :
    c.toNat < 128 ∨ c ∈ strayForms := by
  simp only [isNameTail, isNameHead, Bool.or_eq_true, beq_iff_eq] at tail
  rcases tail with (form | digit) | underscore
  · exact ascii_or_stray_of_isLetterForm form
  · exact Or.inl (ascii_of_isAlphanum (by simp [Char.isAlphanum, digit]))
  · exact Or.inl (by rw [underscore]; decide)

theorem isAlphanumeric_of_isLetterForm {c : Char} (form : isLetterForm c = true) :
    isAlphanumeric c = true := by
  rcases ascii_or_stray_of_isLetterForm form with ascii | stray
  · apply isAlphanumeric_of_isAlphanum
    rw [(plainForm ascii).letter] at form
    simp [Char.isAlphanum, form]
  · exact (strayForm stray).alphanumeric

theorem caseKey_of_isNameHead {c : Char} (head : isNameHead c = true) :
    (caseKey c).isAlphanum = true ∧ caseKey (caseKey c) = caseKey c := by
  have plain : c.toNat < 128 → c.isAlphanum = true →
      (caseKey c).isAlphanum = true ∧ caseKey (caseKey c) = caseKey c := by
    intro ascii alphanumeric
    rw [caseKey_ascii ascii, isAlphanum_toLower ascii]
    exact ⟨alphanumeric, (plainForm ascii).again⟩
  rcases Bool.or_eq_true _ _ |>.mp head with form | digit
  · rcases ascii_or_stray_of_isLetterForm form with ascii | stray
    · rw [(plainForm ascii).letter] at form
      exact plain ascii (by simp [Char.isAlphanum, form])
    · exact ⟨by simp [Char.isAlphanum, isAlpha_eq, (strayForm stray).key],
        (strayForm stray).again⟩
  · have alphanumeric : c.isAlphanum = true := by simp [Char.isAlphanum, digit]
    exact plain (ascii_of_isAlphanum alphanumeric) alphanumeric

theorem isAlphanumeric_of_isNameHead {c : Char} (head : isNameHead c = true) :
    isAlphanumeric c = true := by
  rcases Bool.or_eq_true _ _ |>.mp head with form | digit
  · exact isAlphanumeric_of_isLetterForm form
  · exact isAlphanumeric_of_isAlphanum (by simp [Char.isAlphanum, digit])

theorem no_letter_of_isDigit {c : Char} (digit : c.isDigit = true) :
    c.isUpper = false ∧ c.isLower = false := by
  have code := isDigit_iff.mp digit
  constructor
  · apply Bool.eq_false_iff.mpr
    intro capital
    have capitalCode := isUpper_iff.mp capital
    omega
  · apply Bool.eq_false_iff.mpr
    intro small
    have smallCode := isLower_iff.mp small
    omega

theorem isNameHead_of_sameLowered {first second : Char} (head : isNameHead first = true)
    (same : sameLowered first second = true) : isNameHead second = true := by
  have lower : lowered first = lowered second := beq_iff_eq.mp same
  rcases Bool.or_eq_true _ _ |>.mp head with form | digit
  · have form' : isLetterForm second = true := by
      rw [isLetterForm, ← lower]
      exact form
    simp [isNameHead, form']
  · have ascii := ascii_of_isAlphanum (show first.isAlphanum = true by simp [Char.isAlphanum, digit])
    obtain ⟨noCapital, notLower⟩ := no_letter_of_isDigit digit
    rcases (plainForm ascii).lower with itself | ⟨capital, _⟩
    · rw [lowered_ascii ascii, itself] at lower
      rw [eq_of_lowered_eq lower.symm ascii notLower]
      exact head
    · rw [noCapital] at capital
      cases capital

-- The case forms of a character of a name may stand in a name too.
theorem isNameHead_of_alike {first second : Char} (head : isNameHead first = true)
    (same : alike first second = true) : isNameHead second = true := by
  obtain ⟨alphanumeric, stable⟩ := caseKey_of_isNameHead head
  have ascii := ascii_of_isAlphanum alphanumeric
  have form : alike (caseKey first) second = true := by
    rw [alike, stable]
    exact same
  rcases forms_of_ascii ascii form with ⟨plain, lower⟩ | ⟨stray, _⟩
  · have letter : second.isAlphanum = true := by
      rw [← isAlphanum_toLower plain, lower, isAlphanum_toLower ascii, alphanumeric]
    rw [isNameHead, (plainForm plain).letter]
    simpa [Char.isAlphanum] using letter
  · simp [isNameHead, (strayForm stray).letter]

theorem isNameTail_of_alike {first second : Char} (tail : isNameTail first = true)
    (same : alike first second = true) : isNameTail second = true := by
  rcases Bool.or_eq_true _ _ |>.mp tail with head | underscore
  · simp [isNameTail, isNameHead_of_alike head same]
  · rw [beq_iff_eq.mp underscore] at same
    rw [eq_of_alike_underscore same]
    decide

theorem isNameTail_of_sameLowered {first second : Char} (tail : isNameTail first = true)
    (same : sameLowered first second = true) : isNameTail second = true := by
  rcases Bool.or_eq_true _ _ |>.mp tail with head | underscore
  · simp [isNameTail, isNameHead_of_sameLowered head same]
  · rw [beq_iff_eq.mp underscore] at same
    rw [eq_of_sameLowered_underscore same]
    decide

theorem isWord_of_isAlphanumeric {c : Char} (alphanumeric : isAlphanumeric c = true) :
    isWord c = true := by simp [isWord, alphanumeric]

theorem isWord_of_isNameTail {c : Char} (tail : isNameTail c = true) : isWord c = true := by
  rcases Bool.or_eq_true _ _ |>.mp tail with head | underscore
  · exact isWord_of_isAlphanumeric (isAlphanumeric_of_isNameHead head)
  · simp [isWord, underscore]

theorem isWord_of_isBlank {c : Char} (blank : isBlank c = true) : isWord c = false := by
  have plain : ∀ code ∈ rangeCodes blankRanges, isWord (Char.ofNat code) = false := by
    decide +kernel
  have same := plain c.toNat (mem_rangeCodes blank)
  rwa [Char.ofNat_toNat] at same

theorem isBlank_of_isInlineSpace {c : Char} (space : isInlineSpace c = true) : isBlank c = true := by
  rcases Bool.or_eq_true _ _ |>.mp space with same | same
  · rw [beq_iff_eq.mp same]
    decide
  · rw [beq_iff_eq.mp same]
    decide

end WordCharacters

end Transclusion.Text

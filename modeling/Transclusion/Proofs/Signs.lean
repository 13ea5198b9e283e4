import Mathlib.Algebra.Group.Nat.Defs
import Mathlib.Data.List.Chain
import Transclusion.Proofs.Letters

/-!
Signs and their case forms. What is neither letter nor digit stands for itself when a marker
is matched, the circled letters and the small iota below a letter apart; a sign and its case
forms always fold to the same text, and no sign folds to a text with an i in it. The facts
come from the rows of the character tables, where halving misses no row.
-/

namespace Transclusion.Text

namespace Ranges

variable {Row : Type} {first last : Row → Nat} {rows : Array Row} {code : Nat} {row : Row}

/-- One row lies before another. -/
def Before (first last : Row → Nat) (row next : Row) : Prop :=
  first row ≤ last row ∧ last row < first next ∧ first next ≤ last next

instance (first last : Row → Nat) : Trans (Before first last) (Before first last) (Before first last) where
  trans := fun ⟨whole, apart, _⟩ ⟨between, apart', further⟩ => ⟨whole, by omega, further⟩

instance (first last : Row → Nat) : DecidableRel (Before first last) := fun row next => by
  unfold Before
  infer_instance

/-- The rows of a table lie one behind the other. -/
def Sorted (first last : Row → Nat) (rows : Array Row) : Prop :=
  rows.toList.IsChain (Before first last)

theorem Sorted.before (sorted : Sorted first last rows) {index later : Nat} {next : Row}
    (less : index < later) (here : rows[index]? = some row) (there : rows[later]? = some next) :
    Before first last row next := by
  obtain ⟨inside, rfl⟩ := Array.getElem?_eq_some_iff.mp here
  obtain ⟨inside', rfl⟩ := Array.getElem?_eq_some_iff.mp there
  have apart := List.pairwise_iff_getElem.mp (List.isChain_iff_pairwise.mp sorted) index later
    (by simpa using inside) (by simpa using inside') less
  rwa [Array.getElem_toList, Array.getElem_toList] at apart

-- The row that covers the code stays between the bounds.
theorem search_of_covers (sorted : Sorted first last rows) {index : Nat}
    (here : rows[index]? = some row) (above : first row ≤ code) (below : code ≤ last row)
    (fuel low high : Nat) (inside : low ≤ index ∧ index < high) (bounded : high ≤ rows.size)
    (enough : high - low < 2 ^ fuel) : search first last rows code fuel low high = some row := by
  induction fuel generalizing low high with
  | zero => omega
  | succ fuel ih =>
    have power : 2 ^ (fuel + 1) = 2 * 2 ^ fuel := Nat.pow_succ'
    have middle : (low + high) / 2 < rows.size := by omega
    have found : rows[(low + high) / 2]? = some rows[(low + high) / 2] :=
      Array.getElem?_eq_getElem middle
    rw [search, if_pos (by omega), found]
    rcases Nat.lt_trichotomy index ((low + high) / 2) with left | same | right
    · obtain ⟨_, apart, _⟩ := sorted.before left here found
      simp only [if_pos (show code < first rows[(low + high) / 2] by omega)]
      exact ih low _ ⟨inside.1, left⟩ (by omega) (by omega)
    · subst same
      cases here.symm.trans found
      simp only [if_neg (show ¬ code < first rows[(low + high) / 2] by omega),
        if_neg (show ¬ last rows[(low + high) / 2] < code by omega)]
    · obtain ⟨whole, apart, _⟩ := sorted.before right found here
      simp only [if_neg (show ¬ code < first rows[(low + high) / 2] by omega),
        if_pos (show last rows[(low + high) / 2] < code by omega)]
      exact ih _ high ⟨right, inside.2⟩ bounded (by omega)

/-- Halving finds the row that covers a code. -/
theorem find?_of_covers (sorted : Sorted first last rows) (member : row ∈ rows)
    (above : first row ≤ code) (below : code ≤ last row) :
    find? first last rows code = some row := by
  obtain ⟨index, inside, rfl⟩ := Array.mem_iff_getElem.mp member
  exact search_of_covers sorted (Array.getElem?_eq_getElem inside) above below _ 0 rows.size
    ⟨Nat.zero_le _, inside⟩ (Nat.le_refl _) Nat.lt_log2_self

end Ranges

section Tables

theorem alphanumericRanges_sorted : Ranges.Sorted Prod.fst Prod.snd alphanumericRanges := by
  unfold Ranges.Sorted
  decide +kernel

/-- Of the ranges, in order, the first that goes as far as `first` holds all codes from there
to `last`. -/
def within (ranges : List (Nat × Nat)) (first last : Nat) : Bool :=
  match ranges.dropWhile fun range => Nat.blt range.2 first with
  | [] => false
  | range :: _ => Nat.ble range.1 first && Nat.ble last range.2

theorem isAlphanumeric_of_within {first last : Nat} {c : Char}
    (inside : within alphanumericRanges.toList first last = true) (above : first ≤ c.toNat)
    (below : c.toNat ≤ last) : isAlphanumeric c = true := by
  obtain ⟨range, member, before, after⟩ : ∃ range ∈ alphanumericRanges.toList,
      range.1 ≤ first ∧ last ≤ range.2 := by
    rw [within] at inside
    split at inside
    · cases inside
    · next range rest found =>
      obtain ⟨before, after⟩ := Bool.and_eq_true_iff.mp inside
      exact ⟨range, (List.dropWhile_suffix _).subset (found ▸ List.mem_cons_self),
        Nat.le_of_ble_eq_true before, Nat.le_of_ble_eq_true after⟩
  have covered : Ranges.contains alphanumericRanges c.toNat = true := by
    rw [Ranges.contains, Ranges.find?_of_covers alphanumericRanges_sorted
      (Array.mem_toList_iff.mp member) (Nat.le_trans before above) (Nat.le_trans below after)]
    rfl
  by_cases ascii : c.toNat < 128
  · exact forall_ascii (fun c => Ranges.contains alphanumericRanges c.toNat = true →
      isAlphanumeric c = true) (by decide +kernel) ascii covered
  · rwa [isAlphanumeric, if_neg (show ¬ c.val < 0x80 from ascii)]

/-- The circled letters, and the small iota below a letter with the other forms of iota. -/
def mixedCodes : List Nat := [0x345, 0x399, 0x3B9, 0x1FBE] ++ List.range' 0x24B6 52

/-- A row of lower-case shifts takes letters to letters. The capital iota alone becomes an iota. -/
structure Shift.Lettered (row : Shift) : Prop where
  source : within alphanumericRanges.toList row.first row.last = true ∨
    ∀ code ∈ List.range' row.first (row.last - row.first + 1),
      row.image code = code ∨ within alphanumericRanges.toList code code = true
  positive : 0 ≤ row.first + row.offset
  target : within alphanumericRanges.toList (row.first + row.offset).toNat
    (row.last + row.offset).toNat = true
  valid : row.last + row.offset < 0xD800 ∨
    0xDFFF < row.first + row.offset ∧ row.last + row.offset < 0x110000
  apart : row.last + row.offset < 0x24B6 ∨ 0x24E9 < row.first + row.offset
  iota : ∀ code ∈ [0x345, 0x399, 0x3B9, 0x1FBE], (code : Int) < row.first + row.offset ∨
    row.last + row.offset < code ∨ code - row.offset = 0x399

/-- What a row of lower-case shifts may be: one of ASCII letters, of circled letters or of
other letters. -/
def Shift.IsCased (row : Shift) : Prop :=
  row.last < 0x80 ∨ (0x24B6 ≤ row.first ∧ row.last ≤ 0x24E9) ∨ row.Lettered

instance (row : Shift) : Decidable row.Lettered :=
  decidable_of_iff
    ((within alphanumericRanges.toList row.first row.last = true ∨
      ∀ code ∈ List.range' row.first (row.last - row.first + 1),
        row.image code = code ∨ within alphanumericRanges.toList code code = true) ∧
      0 ≤ row.first + row.offset ∧
      within alphanumericRanges.toList (row.first + row.offset).toNat
        (row.last + row.offset).toNat = true ∧
      (row.last + row.offset < 0xD800 ∨
        0xDFFF < row.first + row.offset ∧ row.last + row.offset < 0x110000) ∧
      (row.last + row.offset < 0x24B6 ∨ 0x24E9 < row.first + row.offset) ∧
      ∀ code ∈ [0x345, 0x399, 0x3B9, 0x1FBE], (code : Int) < row.first + row.offset ∨
        row.last + row.offset < code ∨ code - row.offset = 0x399)
    ⟨fun ⟨source, positive, target, valid, apart, iota⟩ =>
      ⟨source, positive, target, valid, apart, iota⟩,
    fun row => ⟨row.source, row.positive, row.target, row.valid, row.apart, row.iota⟩⟩

instance (row : Shift) : Decidable row.IsCased := by
  unfold Shift.IsCased
  infer_instance

theorem lowerShifts_cased : ∀ row ∈ lowerShifts.toList, row.IsCased := by decide +kernel

theorem mem_mixedCodes_iff {code : Nat} :
    code ∈ mixedCodes ↔ code ∈ [0x345, 0x399, 0x3B9, 0x1FBE] ∨ 0x24B6 ≤ code ∧ code ≤ 0x24E9 := by
  rw [mixedCodes, List.mem_append, List.mem_range'_1]
  exact or_congr_right (by omega)

-- Where a row moves a character that is not mixed, it moves a letter to a letter, not mixed either.
theorem Shift.Lettered.moved {row : Shift} (lettered : row.Lettered) {c : Char}
    (above : row.first ≤ c.toNat) (below : c.toNat ≤ row.last) (plain : c.toNat ∉ mixedCodes)
    (moved : row.image c.toNat ≠ c.toNat) :
    isAlphanumeric c = true ∧ isAlphanumeric (Char.ofNat (row.image c.toNat)) = true ∧
      (Char.ofNat (row.image c.toNat)).toNat ∉ mixedCodes := by
  have positive := lettered.positive
  have image : (row.image c.toNat : Int) = c.toNat + row.offset :=
    (row.image_eq c.toNat (by omega)).resolve_left moved
  have code : (Char.ofNat (row.image c.toNat)).toNat = row.image c.toNat := by
    have valid := lettered.valid
    exact toNat_ofNat_of_valid _ (by omega)
  refine ⟨?_, ?_, ?_⟩
  · rcases lettered.source with whole | each
    · exact isAlphanumeric_of_within whole above below
    · have here := each c.toNat (List.mem_range'_1.mpr ⟨above, by omega⟩)
      exact isAlphanumeric_of_within (here.resolve_left moved) (Nat.le_refl _) (Nat.le_refl _)
  · exact isAlphanumeric_of_within lettered.target (by omega) (by omega)
  · rw [code, mem_mixedCodes_iff]
    rintro (iota | circled)
    · have apart := lettered.iota
      simp only [List.forall_mem_cons] at apart
      simp only [mem_mixedCodes_iff, List.mem_cons, List.not_mem_nil, or_false, not_or] at plain
      simp only [List.mem_cons, List.not_mem_nil, or_false] at iota
      omega
    · have apart := lettered.apart
      omega

end Tables

section CaseForms

-- Beyond ASCII, lower case moves a letter to a letter or nothing, the mixed codes apart.
theorem lowered_of_not_mixed {c : Char} (beyond : 128 ≤ c.toNat) (plain : c.toNat ∉ mixedCodes) :
    lowered c = c ∨ isAlphanumeric c = true ∧ isAlphanumeric (lowered c) = true ∧
      (lowered c).toNat ∉ mixedCodes := by
  have large : ¬ c.val < 0x80 := fun small => absurd (show c.toNat < 128 from small) (by omega)
  rw [lowered, if_neg large, Shift.apply]
  split
  · next row found =>
    obtain ⟨member, above, below⟩ := Ranges.find?_covers found
    rcases lowerShifts_cased row (Array.mem_toList_iff.mpr member) with ascii | circled | lettered
    · omega
    · exact absurd (mem_mixedCodes_iff.mpr (Or.inr (by omega))) plain
    · by_cases stays : row.image c.toNat = c.toNat
      · exact Or.inl (by rw [stays, Char.ofNat_toNat])
      · exact Or.inr (lettered.moved above below plain stays)
  · exact Or.inl rfl

-- The forms that stand together are forms of iota or letters that are not mixed.
theorem caseVariants_lettered : ∀ forms ∈ caseVariants,
    (∀ code ∈ forms, code ∈ mixedCodes) ∨
      ∀ code ∈ forms, isAlphanumeric (Char.ofNat code) = true ∧
        (Char.ofNat code).toNat ∉ mixedCodes ∧ code ∉ mixedCodes := by
  decide +kernel

-- A lower-case character stands for itself or is among forms of which the first does.
theorem caseKey_eq (c : Char) :
    caseKey c = lowered c ∨ ∃ first rest, first :: rest ∈ caseVariants ∧
      (lowered c).toNat ∈ first :: rest ∧ caseKey c = Char.ofNat first := by
  unfold caseKey
  simp only
  split
  · exact Or.inl rfl
  · split
    · next first rest found =>
      refine Or.inr ⟨first, rest, List.mem_of_find?_eq_some found, ?_, rfl⟩
      simpa using List.find?_some found
    · exact Or.inl rfl

/-- What is not mixed stands for itself, or is a letter with a letter to stand for it. -/
theorem caseKey_of_not_mixed {c : Char} (plain : c.toNat ∉ mixedCodes) :
    caseKey c = c ∨ isAlphanumeric c = true ∧ isAlphanumeric (caseKey c) = true ∧
      (caseKey c).toNat ∉ mixedCodes := by
  by_cases ascii : c.toNat < 128
  · rw [caseKey_ascii ascii]
    rcases (plainForm ascii).lower with same | ⟨upper, lower⟩
    · exact Or.inl same
    · refine Or.inr ⟨isAlphanumeric_of_isAlphanum (by simp [Char.isAlphanum, isAlpha_eq, upper]),
        isAlphanumeric_of_isAlphanum (by simp [Char.isAlphanum, isAlpha_eq, lower]), ?_⟩
      have small := (plainForm ascii).small
      rw [mem_mixedCodes_iff]
      simp only [List.mem_cons, List.not_mem_nil, or_false]
      omega
  · have low := lowered_of_not_mixed (Nat.le_of_not_lt ascii) plain
    have apart : (lowered c).toNat ∉ mixedCodes := by
      rcases low with same | ⟨_, _, apart⟩
      · rwa [same]
      · exact apart
    rcases caseKey_eq c with same | ⟨first, rest, forms, listed, key⟩
    · rw [same]
      exact low
    · rcases caseVariants_lettered _ forms with mixed | lettered
      · exact absurd (mixed _ listed) apart
      · have letter : isAlphanumeric (lowered c) = true := by
          have here := (lettered _ listed).1
          rwa [Char.ofNat_toNat] at here
        refine Or.inr ⟨?_, ?_⟩
        · rcases low with same | ⟨letter', _⟩
          · exact same ▸ letter
          · exact letter'
        · rw [key]
          obtain ⟨alphanumeric, apart', _⟩ := lettered first List.mem_cons_self
          exact ⟨alphanumeric, apart'⟩

theorem caseKey_of_mixed {c : Char} (mixed : c.toNat ∈ mixedCodes) :
    (caseKey c).toNat ∈ mixedCodes ∧ folded (caseKey c) = folded c := by
  have all : ∀ code ∈ mixedCodes, (caseKey (Char.ofNat code)).toNat ∈ mixedCodes ∧
      folded (caseKey (Char.ofNat code)) = folded (Char.ofNat code) := by decide +kernel
  have here := all c.toNat mixed
  rwa [Char.ofNat_toNat] at here

/-- A sign and its case forms fold to the same text. -/
theorem folded_of_alike_sign {sign c : Char} (isSign : isAlphanumeric sign = false)
    (same : alike sign c = true) : folded c = folded sign := by
  have keys : caseKey sign = caseKey c := beq_iff_eq.mp same
  by_cases mixed : sign.toNat ∈ mixedCodes
  · have mixed' : c.toNat ∈ mixedCodes := by
      by_contra plain
      rcases caseKey_of_not_mixed plain with itself | ⟨_, _, apart⟩
      · rw [← itself, ← keys] at plain
        exact plain (caseKey_of_mixed mixed).1
      · rw [← keys] at apart
        exact apart (caseKey_of_mixed mixed).1
    rw [← (caseKey_of_mixed mixed').2, ← keys, (caseKey_of_mixed mixed).2]
  · have itself : caseKey sign = sign := by
      rcases caseKey_of_not_mixed mixed with itself | ⟨letter, _⟩
      · exact itself
      · rw [isSign] at letter
        cases letter
    rw [itself] at keys
    -- what stands for a letter is a letter, so only the sign itself stands for the sign
    have plain : c.toNat ∉ mixedCodes := by
      intro mixed'
      have here := (caseKey_of_mixed mixed').1
      rw [← keys] at here
      exact mixed here
    rcases caseKey_of_not_mixed plain with stays | ⟨_, letter, _⟩
    · rw [keys, stays]
    · rw [← keys, isSign] at letter
      cases letter

end CaseForms

section Folding

theorem foldExpansions_lettered : ∀ row ∈ foldExpansions.toList,
    'i' ∈ row.2.map Char.ofNat → isAlphanumeric (Char.ofNat row.1) = true := by decide +kernel

theorem foldShifts_apart : ∀ row ∈ foldShifts.toList, row.last < 0x80 ∨
    0x69 < row.first + row.offset ∧ (row.last + row.offset < 0xD800 ∨
      0xDFFF < row.first + row.offset ∧ row.last + row.offset < 0x110000) := by decide +kernel

/-- No sign folds to a text with an i in it. -/
theorem not_mem_folded_of_sign {c : Char} (isSign : isAlphanumeric c = false) :
    'i' ∉ folded c := by
  intro member
  by_cases small : c.val < 0x80
  · rw [folded, if_pos small, List.mem_singleton] at member
    have ascii : c.toNat < 128 := small
    have letter : c.isAlphanum = true := by
      rw [← isAlphanum_toLower ascii, ← member]
      decide
    rw [isAlphanumeric_of_isAlphanum letter] at isSign
    cases isSign
  · rw [folded, if_neg small] at member
    split at member
    · next row found =>
      obtain ⟨inside, above, below⟩ := Ranges.find?_covers found
      have letter := foldExpansions_lettered row (Array.mem_toList_iff.mpr inside) member
      rw [Nat.le_antisymm above below, Char.ofNat_toNat, isSign] at letter
      cases letter
    · rw [List.mem_singleton, Shift.apply] at member
      have itself : 'i' ≠ c := by
        rintro rfl
        exact small (by decide)
      split at member
      · next row found =>
        obtain ⟨inside, above, below⟩ := Ranges.find?_covers found
        have beyond : ¬ c.toNat < 128 := small
        rcases foldShifts_apart row (Array.mem_toList_iff.mpr inside) with ascii | ⟨low, valid⟩
        · omega
        · rcases row.image_eq c.toNat (by omega) with stays | image
          · rw [stays, Char.ofNat_toNat] at member
            exact itself member
          · have code := toNat_ofNat_of_valid (row.image c.toNat) (by omega)
            rw [← member] at code
            have number : 'i'.toNat = 0x69 := rfl
            omega
      · exact itself member

end Folding

end Transclusion.Text

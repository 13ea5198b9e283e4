import Transclusion.Proofs.Yaml.BlockScalars
import Transclusion.Proofs.Yaml.PlainScalars
import Transclusion.Proofs.Yaml.QuotedForms
import Transclusion.Yaml.Reading

/-!
What is written holds only characters that a YAML text may hold, and none that reading takes for
something else: a carriage return or a byte order mark.
-/

namespace Transclusion.Yaml

/-- Characters that are read as they are. -/
structure CleanChar (c : Char) : Prop where
  allowed : isAllowed c = true
  noReturn : c ≠ '\r'
  noMark : c ≠ '\uFEFF'

def Clean (text : Text) : Prop := ∀ c ∈ text, CleanChar c

section Characters

variable {c : Char} {text more : Text}

@[simp] theorem clean_nil : Clean [] := by simp [Clean]

@[simp] theorem clean_cons : Clean (c :: text) ↔ CleanChar c ∧ Clean text := by simp [Clean]

@[simp] theorem clean_append : Clean (text ++ more) ↔ Clean text ∧ Clean more := by
  simp only [Clean, List.mem_append]
  exact ⟨fun all => ⟨fun c member => all c (.inl member), fun c member => all c (.inr member)⟩,
    fun ⟨first, second⟩ c member => member.elim (first c) (second c)⟩

theorem cleanChar_of_printable (low : ' ' ≤ c) (high : c ≤ '~') : CleanChar c := by
  refine ⟨by simp [isAllowed, low, high], ?_, ?_⟩
  · rintro rfl
    exact absurd low (by decide)
  · rintro rfl
    exact absurd high (by decide)

theorem cleanChar_of_ordinary (ordinary : Shape.isOrdinary c = true) : CleanChar c := by
  refine ⟨?_, ?_, ?_⟩
  · simp only [Shape.isOrdinary, Bool.or_eq_true, Bool.and_eq_true] at ordinary
    simp only [isAllowed, Bool.or_eq_true, Bool.and_eq_true]
    rcases ordinary with (lineFeed | printable) | ⟨((next | low) | middle) | high, _⟩
    · simp [lineFeed]
    · simp [printable]
    · simp [next]
    · simp [low]
    · simp [middle]
    · simp [high.1]
  · rintro rfl
    exact absurd ordinary (by decide)
  · rintro rfl
    exact absurd ordinary (by decide)

theorem cleanChar_of_verbatim (verbatim : Sheet.isVerbatim c = true) : CleanChar c := by
  refine ⟨?_, ?_, ?_⟩
  · simp only [Sheet.isVerbatim, Bool.and_eq_true, Bool.or_eq_true] at verbatim
    simp only [isAllowed, Bool.or_eq_true, Bool.and_eq_true]
    rcases verbatim.2 with (printable | low) | middle
    · simp [printable]
    · simp [low]
    · simp [middle]
  · rintro rfl
    exact absurd verbatim (by decide)
  · rintro rfl
    exact absurd verbatim (by decide)

theorem cleanChar_of_isBreak (isEnd : isBreak c = true) : CleanChar c := by
  rcases isBreak_iff.mp isEnd with rfl | rfl | rfl | rfl <;>
    exact ⟨by decide, by decide, by decide⟩

theorem clean_spaces (blank : ∀ c ∈ text, c = ' ') : Clean text := by
  intro c member
  rw [blank c member]
  exact cleanChar_of_printable (by decide) (by decide)

theorem toDigits_digitChar (number : Nat) :
    ∀ digit ∈ Nat.toDigits 16 number, ∃ value < 16, digit = Nat.digitChar value := by
  induction number using Nat.strongRecOn with
  | ind number ih =>
    by_cases small : number < 16
    · rw [Nat.toDigits_of_lt_base small]
      simpa using ⟨number, small, rfl⟩
    · rw [Nat.toDigits_of_base_le (by decide) (by omega)]
      intro digit member
      rcases List.mem_append.mp member with member | member
      · exact ih (number / 16) (by omega) digit member
      · exact ⟨number % 16, Nat.mod_lt _ (by decide), by simpa using member⟩

theorem printable_digits : ∀ value < 16,
    ' ' ≤ (Nat.digitChar value).toUpper ∧ (Nat.digitChar value).toUpper ≤ '~' := by decide

theorem printable_upperHex {width number : Nat} :
    ∀ digit ∈ Sheet.upperHex width number, ' ' ≤ digit ∧ digit ≤ '~' := by
  intro digit member
  rw [Sheet.upperHex] at member
  rcases List.mem_append.mp member with zero | member
  · rw [List.eq_of_mem_replicate zero]
    decide
  · obtain ⟨letter, listed, rfl⟩ := List.mem_map.mp member
    obtain ⟨value, small, rfl⟩ := toDigits_digitChar number letter listed
    exact printable_digits value small

theorem printable_escapes : ∀ pair ∈ Sheet.escapes, ' ' ≤ pair.2 ∧ pair.2 ≤ '~' := by decide

/-- An escape is written in printable characters. -/
theorem printable_escape : ∀ d ∈ Sheet.escape c, ' ' ≤ d ∧ d ≤ '~' := by
  rw [Sheet.escape]
  cases found : Sheet.escapes.lookup c with
  | some letter =>
    obtain ⟨before, after, parts, _⟩ := List.lookup_eq_some_iff.mp found
    have letter' := printable_escapes (c, letter) (by rw [parts]; simp)
    simpa using letter'
  | none =>
    have hex : ∀ mark width, ' ' ≤ mark ∧ mark ≤ '~' →
        ∀ d ∈ '\\' :: mark :: Sheet.upperHex width c.toNat, ' ' ≤ d ∧ d ≤ '~' := by
      intro mark width printable d member
      rcases List.mem_cons.mp member with rfl | member
      · decide
      · rcases List.mem_cons.mp member with rfl | member
        · exact printable
        · exact printable_upperHex d member
    dsimp only
    split
    · exact hex 'x' 2 (by decide)
    · split
      · exact hex 'u' 4 (by decide)
      · exact hex 'U' 8 (by decide)

theorem clean_escape : Clean (Sheet.escape c) :=
  fun d member => cleanChar_of_printable (printable_escape d member).1 (printable_escape d member).2

end Characters

section Forms

variable {read written last blanks pad : Text} {depth column : Nat} {plain closed : Bool}

theorem PlainForm.clean (form : PlainForm depth read written) (clean : Clean read) : Clean written := by
  induction form with
  | word _ => exact clean
  | space _ _ _ _ ih =>
    simp only [clean_append] at clean ⊢
    exact ⟨clean.1, clean.2.1, ih clean.2.2⟩
  | fold _ _ blank _ _ ih =>
    simp only [clean_append, clean_cons] at clean ⊢
    exact ⟨clean.1, cleanChar_of_isBreak rfl, clean_spaces blank, ih clean.2.2⟩

theorem SingleForm.clean (form : SingleForm read written) (clean : Clean read) : Clean written := by
  induction form with
  | nil => exact clean
  | char _ _ _ _ ih =>
    rw [clean_cons] at clean ⊢
    exact ⟨clean.1, ih clean.2⟩
  | quote _ ih =>
    simp only [clean_cons] at clean ⊢
    exact ⟨clean.1, clean.1, ih clean.2⟩
  | space _ _ ih =>
    rw [clean_cons] at clean ⊢
    exact ⟨clean.1, ih clean.2⟩
  | breaks _ areEnds blank _ _ _ ih =>
    simp only [clean_append] at clean ⊢
    exact ⟨fun c member => cleanChar_of_isBreak (areEnds c member), clean_spaces blank, ih clean.2⟩

theorem DoubleForm.clean (form : DoubleForm read written) : Clean written := by
  induction form with
  | nil => exact clean_nil
  | char verbatim _ _ ih => exact clean_cons.mpr ⟨cleanChar_of_verbatim verbatim, ih⟩
  | space _ ih => exact clean_cons.mpr ⟨cleanChar_of_printable (by decide) (by decide), ih⟩
  | escaped _ ih => exact clean_append.mpr ⟨clean_escape, ih⟩
  | escapedSpace _ ih =>
    simp only [clean_cons]
    exact ⟨cleanChar_of_printable (by decide) (by decide), cleanChar_of_printable (by decide) (by decide), ih⟩
  | fold blank _ _ _ ih =>
    simp only [clean_cons, clean_append]
    exact ⟨cleanChar_of_printable (by decide) (by decide), cleanChar_of_isBreak rfl, clean_spaces blank, ih⟩

theorem BlockForm.clean (form : BlockForm pad read last blanks written) (blank : ∀ c ∈ pad, c = ' ')
    (clean : Clean read) : Clean written := by
  induction form with
  | last _ isEnd areEnds =>
    simp only [clean_append, clean_cons]
    exact ⟨clean, cleanChar_of_isBreak isEnd, fun c member => cleanChar_of_isBreak (areEnds c member)⟩
  | more _ isEnd areEnds _ ih =>
    simp only [clean_append, clean_cons] at clean ⊢
    exact ⟨clean.1, cleanChar_of_isBreak isEnd, fun c member => cleanChar_of_isBreak (areEnds c member),
      clean_spaces blank, ih clean.2.2.2⟩

theorem clean_header (indented : Bool) (chomping : ScalarText.Chomping) :
    Clean (header indented chomping) := by
  cases indented <;> cases chomping <;> simp [header, cleanChar_of_printable]

theorem clean_of_chomped {chomping : ScalarText.Chomping} (clean : Clean (chomped chomping read last blanks)) :
    Clean read := by
  cases chomping with
  | clip => exact (clean_append.mp clean).1
  | strip => exact clean
  | keep => exact (clean_append.mp (clean_append.mp clean).1).1

theorem LiteralForm.clean (form : LiteralForm pad read written) (blank : ∀ c ∈ pad, c = ' ')
    (clean : Clean read) : Clean written := by
  cases form with
  | plain form _ =>
    simp only [clean_append, clean_cons]
    exact ⟨cleanChar_of_printable (by decide) (by decide), clean_header _ _, cleanChar_of_isBreak rfl, clean_spaces blank,
      form.clean blank (clean_of_chomped clean)⟩
  | indented areEnds form =>
    simp only [clean_append, clean_cons]
    exact ⟨cleanChar_of_printable (by decide) (by decide), clean_header _ _, cleanChar_of_isBreak rfl,
      fun c member => cleanChar_of_isBreak (areEnds c member), clean_spaces blank,
      form.clean blank (clean_append.mp (clean_of_chomped clean)).2⟩
  | breaks areEnds _ =>
    simp only [clean_append, clean_cons]
    exact ⟨cleanChar_of_printable (by decide) (by decide), clean_header _ _, cleanChar_of_isBreak rfl,
      fun c member => cleanChar_of_isBreak (areEnds c member)⟩

end Forms

end Transclusion.Yaml

import Mathlib.Data.Nat.Digits.Defs
import Transclusion.Proofs.Yaml.QuotedScalars
import Transclusion.Yaml.ScalarStyle

/-!
The forms that a text takes in quotes. In single quotes an apostrophe is doubled, and spaces
and line ends may be followed by a new line's indentation; in double quotes a character may be
escaped, and a line may end behind a backslash anywhere. Whatever form is chosen, the same is
read.
-/

namespace Transclusion.Yaml

open ScalarText

section Escapes

theorem hexValue?_toUpper_digitChar : ∀ digit < 16,
    Json.hexValue? (Nat.digitChar digit).toUpper = some digit := by decide

theorem hexNumber?_concat (digits : Text) (digit : Char) : hexNumber? (digits ++ [digit]) =
    (hexNumber? digits).bind fun total => (Json.hexValue? digit).map (total * 16 + ·) := by
  rw [hexNumber?, List.foldl_append, List.foldl_cons, List.foldl_nil, ← hexNumber?]
  cases hexNumber? digits <;> cases Json.hexValue? digit <;> rfl

theorem hexNumber?_toDigits (number : Nat) :
    hexNumber? ((Nat.toDigits 16 number).map Char.toUpper) = some number := by
  induction number using Nat.strongRecOn with
  | ind number ih =>
    by_cases small : number < 16
    · rw [Nat.toDigits_of_lt_base small]
      simp [hexNumber?, hexValue?_toUpper_digitChar number small]
    · rw [Nat.toDigits_of_base_le (by decide) (by omega), List.map_append, List.map_singleton,
        hexNumber?_concat, ih (number / 16) (by omega),
        hexValue?_toUpper_digitChar _ (Nat.mod_lt _ (by decide))]
      simp only [Option.bind_some, Option.map_some, Option.some.injEq]
      omega

theorem hexNumber?_upperHex (width number : Nat) :
    hexNumber? (Sheet.upperHex width number) = some number := by
  have zeros : ∀ count (digits : Text), hexNumber? (List.replicate count '0' ++ digits) =
      hexNumber? digits := by
    intro count digits
    induction count with
    | zero => rfl
    | succ count ih => exact ih
  rw [Sheet.upperHex, zeros, hexNumber?_toDigits]

theorem length_upperHex {width number : Nat} (present : 0 < width) (small : number < 16 ^ width) :
    (Sheet.upperHex width number).length = width := by
  have short := Nat.toDigits_length 16 number width present small
  simp only [Sheet.upperHex, List.length_append, List.length_replicate, List.length_map]
  omega

variable {place : Place} {following : Text} {c : Char}

theorem escape_hex {mark : Char} {width : Nat} (unlisted : ScalarText.escapes.lookup mark = none)
    (wide : escapeWidth? mark = some width) (present : 0 < width) (small : c.toNat < 16 ^ width)
    (there : place.rest = mark :: (Sheet.upperHex width c.toNat ++ following)) (fuel : Nat) :
    ScalarText.escape fuel place = .ok ([c], place.forward (width + 1)) := by
  have after : place.next.rest = Sheet.upperHex width c.toNat ++ following := by
    rw [Place.rest_next, there]
    rfl
  have size := length_upperHex present small
  have taken : place.next.rest.take width = Sheet.upperHex width c.toNat := by
    rw [after, List.take_left' size]
  have valid : c.toNat < 0x110000 := by
    have valid : c.toNat < 0xD800 ∨ (0xDFFF < c.toNat ∧ c.toNat < 0x110000) := c.valid
    omega
  rw [ScalarText.escape, Place.peek_eq there]
  simp only [unlisted, wide, taken, hexNumber?_upperHex, size, Nat.lt_irrefl, if_false, valid,
    if_true, Char.ofNat_toNat]
  rfl

theorem escape_listed {letter : Char} (listed : ScalarText.escapes.lookup letter = some c)
    (there : place.rest = letter :: following) (fuel : Nat) :
    ScalarText.escape fuel place = .ok ([c], place.forward 1) := by
  rw [ScalarText.escape, Place.peek_eq there]
  simp only [listed]
  rfl

-- Every letter that stands for a character is read as the character.
theorem escapes_lookup : ∀ pair ∈ Sheet.escapes, ScalarText.escapes.lookup pair.2 = some pair.1 := by
  decide

/-- What is written behind a backslash is read as the character it was written for. -/
theorem escape_written (c : Char) : ∃ behind, Sheet.escape c = '\\' :: behind ∧
    ∀ {place : Place} {following : Text}, place.rest = behind ++ following → ∀ fuel,
      ScalarText.escape fuel place = .ok ([c], place.forward behind.length) := by
  rw [Sheet.escape]
  cases found : Sheet.escapes.lookup c with
  | some letter =>
    obtain ⟨before, after, parts, _⟩ := List.lookup_eq_some_iff.mp found
    have listed := escapes_lookup (c, letter) (by rw [parts]; simp)
    exact ⟨[letter], rfl, fun there fuel => escape_listed listed there fuel⟩
  | none =>
    have wide : ∀ mark width, ScalarText.escapes.lookup mark = none →
        escapeWidth? mark = some width → 0 < width → c.toNat < 16 ^ width →
        ∃ behind, '\\' :: mark :: Sheet.upperHex width c.toNat = '\\' :: behind ∧
          ∀ {place : Place} {following : Text}, place.rest = behind ++ following → ∀ fuel,
            ScalarText.escape fuel place = .ok ([c], place.forward behind.length) := by
      intro mark width unlisted wide present small
      refine ⟨mark :: Sheet.upperHex width c.toNat, rfl, fun there fuel => ?_⟩
      rw [List.length_cons, length_upperHex present small]
      exact escape_hex unlisted wide present small there fuel
    have valid : c.toNat < 0xD800 ∨ (0xDFFF < c.toNat ∧ c.toNat < 0x110000) := c.valid
    dsimp only
    split
    · exact wide 'x' 2 rfl rfl (by decide) (by omega)
    · split
      · exact wide 'u' 4 rfl rfl (by decide) (by omega)
      · exact wide 'U' 8 rfl rfl (by decide) (by omega)

end Escapes

section Forms

/-- The forms of a text in single quotes. -/
inductive SingleForm : Text → Text → Prop where
  | nil : SingleForm [] []
  | char {c : Char} {read written : Text} (noQuote : c ≠ '\'') (noGap : isGap c = false)
      (noEnd : isBreak c = false) (form : SingleForm read written) :
      SingleForm (c :: read) (c :: written)
  | quote {read written : Text} (form : SingleForm read written) :
      SingleForm ('\'' :: read) ('\'' :: '\'' :: written)
  | space {read written : Text} (resumes : Resumes (written ++ ['\'']))
      (form : SingleForm read written) : SingleForm (' ' :: read) (' ' :: written)
  | breaks {breaks pad read written : Text} (present : breaks ≠ [])
      (areEnds : ∀ c ∈ breaks, isBreak c = true) (blank : ∀ c ∈ pad, c = ' ') (padded : pad ≠ [])
      (firm : Firm (written ++ ['\''])) (form : SingleForm read written) :
      SingleForm (settledBreaks breaks ++ read) (breaks ++ (pad ++ written))

/-- The forms of a text in double quotes. -/
inductive DoubleForm : Text → Text → Prop where
  | nil : DoubleForm [] []
  | char {c : Char} {read written : Text} (verbatim : Sheet.isVerbatim c = true)
      (noSpace : c ≠ ' ') (form : DoubleForm read written) : DoubleForm (c :: read) (c :: written)
  | space {read written : Text} (form : DoubleForm read written) :
      DoubleForm (' ' :: read) (' ' :: written)
  | escaped {c : Char} {read written : Text} (form : DoubleForm read written) :
      DoubleForm (c :: read) (Sheet.escape c ++ written)
  | escapedSpace {read written : Text} (form : DoubleForm read written) :
      DoubleForm (' ' :: read) ('\\' :: ' ' :: written)
  | fold {pad read written : Text} (blank : ∀ c ∈ pad, c = ' ') (padded : pad ≠ [])
      (firm : Firm (written ++ ['"'])) (form : DoubleForm read written) :
      DoubleForm read ('\\' :: '\n' :: (pad ++ written))

variable {read written following : Text} {place : Place}

theorem firm_append {text more : Text} (firm : Firm (text ++ [c])) : Firm (text ++ c :: more) := by
  cases text with
  | nil => exact firm
  | cons d text => exact firm

theorem resumes_append {text more : Text} {c : Char} (resumes : Resumes (text ++ [c])) :
    Resumes (text ++ c :: more) := by
  obtain ⟨blanks, d, later, parts, blank, noGap, noEnd⟩ := resumes
  have longer : text ++ c :: more = blanks ++ d :: (later ++ more) := by
    simpa using congrArg (· ++ more) parts
  exact ⟨blanks, d, later ++ more, longer, blank, noGap, noEnd⟩

/-- What has a form in single quotes is read from them. -/
theorem SingleForm.ends (form : SingleForm read written)
    (there : place.rest = written ++ '\'' :: following) (closed : following.head? ≠ some '\'') :
    Ends false place read (place.forward (written.length + 1)) := by
  induction form generalizing place with
  | nil => exact ends_close there fun _ => closed
  | @char c read written noQuote noGap noEnd form ih =>
    have next : place.next.rest = written ++ '\'' :: following := by rw [Place.rest_next, there]; rfl
    by_cases other : c = '"' ∨ c = '\\'
    · exact ends_otherMark other there (ih next)
    · have goes : endsRun c = false := by
        simp only [isGap, Bool.or_eq_false_iff, beq_eq_false_iff_ne] at noGap
        simp_all [endsRun]
      exact ends_cons goes there (ih next)
  | quote form ih =>
    exact ends_doubled there (ih (by rw [Place.rest_forward, there]; rfl))
  | space resumes form ih =>
    exact ends_space there (resumes_append resumes) (ih (by rw [Place.rest_next, there]; rfl))
  | @breaks breaks pad read written present areEnds blank padded firm form ih =>
    have there' : place.rest = breaks ++ (pad ++ (written ++ '\'' :: following)) := by
      rw [there]
      simp
    have after : (place.forward (breaks.length + pad.length)).rest = written ++ '\'' :: following := by
      rw [Place.rest_forward, there', ← List.append_assoc, ← List.length_append, List.drop_left]
    have size : (breaks ++ (pad ++ written)).length + 1 =
        breaks.length + pad.length + (written.length + 1) := by
      simp only [List.length_append]
      omega
    rw [size, Place.forward_add]
    exact ends_breaks present areEnds blank padded (firm_append firm) there' (ih after)

theorem verbatim_ne {c : Char} (verbatim : Sheet.isVerbatim c = true) :
    c ≠ '"' ∧ c ≠ '\\' ∧ isBreak c = false ∧ c ≠ '\t' := by
  refine ⟨?_, ?_, ?_, ?_⟩
  · rintro rfl
    revert verbatim
    decide
  · rintro rfl
    revert verbatim
    decide
  · rw [Bool.eq_false_iff]
    intro isEnd
    rcases isBreak_iff.mp isEnd with rfl | rfl | rfl | rfl <;> revert verbatim <;> decide
  · rintro rfl
    revert verbatim
    decide

theorem DoubleForm.resumes (form : DoubleForm read written) (following : Text) :
    Resumes (written ++ '"' :: following) := by
  induction form with
  | nil => exact .firm rfl rfl
  | char verbatim noSpace form ih =>
    obtain ⟨_, _, noEnd, noTab⟩ := verbatim_ne verbatim
    exact .firm (by simp [isGap, noSpace, noTab]) noEnd
  | space form ih => exact ih.space
  | @escaped c read written form ih =>
    obtain ⟨behind, same, _⟩ := escape_written c
    rw [same]
    exact .firm rfl rfl
  | escapedSpace form ih => exact .firm rfl rfl
  | fold blank padded firm form ih => exact .firm rfl rfl

-- A line end behind a backslash and the indentation after it are passed over.
theorem escape_fold {pad : Text} (blank : ∀ c ∈ pad, c = ' ') (padded : pad ≠ [])
    (firm : Firm following) (there : place.rest = '\n' :: (pad ++ following)) {fuel : Nat}
    (enough : 0 < fuel) :
    ScalarText.escape fuel place = .ok ([], place.forward (pad.length + 1)) := by
  have next : place.next.rest = [] ++ (pad ++ following) := by rw [Place.rest_next, there]; rfl
  have passed := quotedBreaks_eq (by simp) blank padded firm next enough
  have broken : place.lineBreak = (['\n'], place.next) := Place.lineBreak_eq rfl there
  rw [ScalarText.escape, Place.peek_eq there]
  simp only [show ScalarText.escapes.lookup '\n' = none from rfl,
    show escapeWidth? '\n' = none from rfl, show isBreak '\n' = true from rfl, if_true, broken, passed]
  simp [Place.forward_succ]

/-- What has a form in double quotes is read from them. -/
theorem DoubleForm.ends (form : DoubleForm read written)
    (there : place.rest = written ++ '"' :: following) :
    Ends true place read (place.forward (written.length + 1)) := by
  induction form generalizing place with
  | nil => exact ends_close there (by simp)
  | @char c read written verbatim noSpace form ih =>
    obtain ⟨noQuote, noSlash, noEnd, noTab⟩ := verbatim_ne verbatim
    have next : place.next.rest = written ++ '"' :: following := by rw [Place.rest_next, there]; rfl
    by_cases apostrophe : c = '\''
    · subst apostrophe
      exact ends_apostrophe there (ih next)
    · have goes : endsRun c = false := by simp_all [endsRun]
      exact ends_cons goes there (ih next)
  | space form ih =>
    exact ends_space there (form.resumes following) (ih (by rw [Place.rest_next, there]; rfl))
  | @escaped c read written form ih =>
    obtain ⟨behind, same, reads⟩ := escape_written c
    rw [same] at there ⊢
    have next : place.next.rest = behind ++ (written ++ '"' :: following) := by
      rw [Place.rest_next, there]
      simp
    have after : (place.next.forward behind.length).rest = written ++ '"' :: following :=
      Place.rest_forward_of_eq next
    have size : ('\\' :: behind ++ written).length + 1 = behind.length + (written.length + 1) + 1 := by
      simp only [List.length_append, List.length_cons]
      omega
    rw [size, Place.forward_succ, Place.forward_add]
    refine ends_escape (show _ = '\\' :: (behind ++ (written ++ '"' :: following)) from ?_) ?_
      (fun fuel _ => reads next fuel) (ih after)
    · rw [there]
      simp
    · rw [after]
      simp
  | @escapedSpace read written form ih =>
    have next : place.next.rest = ' ' :: (written ++ '"' :: following) := by
      rw [Place.rest_next, there]
      rfl
    have after : place.next.next.rest = written ++ '"' :: following := by rw [Place.rest_next, next]; rfl
    exact ends_escape there (show place.next.next.rest.length ≤ _ by rw [after]; simp)
      (fun fuel _ => escape_listed (c := ' ') rfl next fuel) (ih after)
  | @fold pad read written blank padded firm form ih =>
    have next : place.next.rest = '\n' :: (pad ++ (written ++ '"' :: following)) := by
      rw [Place.rest_next, there]
      simp
    have after : (place.next.forward (pad.length + 1)).rest = written ++ '"' :: following := by
      rw [Place.rest_forward, next, List.drop_succ_cons, List.drop_left]
    have size : ('\\' :: '\n' :: (pad ++ written)).length + 1 =
        (pad.length + 1) + (written.length + 1) + 1 := by
      simp only [List.length_append, List.length_cons]
      omega
    rw [size, Place.forward_succ, Place.forward_add]
    refine ends_escape (show _ = '\\' :: '\n' :: (pad ++ (written ++ '"' :: following)) from ?_) ?_
      (fun fuel enough => escape_fold blank padded (firm_append firm) next (by omega)) (ih after)
    · rw [there]
      simp
    · rw [after]
      simp only [List.length_append, List.length_cons]
      omega

variable {target : Place}

theorem SingleForm.quoted (form : SingleForm read written)
    (passes : place.Passes ('\'' :: (written ++ ['\''])) target)
    (closed : target.rest.head? ≠ some '\'') :
    ScalarText.quoted false place = .ok (read, target) := by
  have there : place.next.rest = written ++ '\'' :: target.rest := by
    rw [passes.next.there, List.append_assoc]
    rfl
  have ends := form.ends there closed
  have size : (written ++ ['\'']).length = written.length + 1 := List.length_append
  rw [← size, ← passes.next.target] at ends
  exact quoted_of_ends ends

theorem DoubleForm.quoted (form : DoubleForm read written)
    (passes : place.Passes ('"' :: (written ++ ['"'])) target) :
    ScalarText.quoted true place = .ok (read, target) := by
  have there : place.next.rest = written ++ '"' :: target.rest := by
    rw [passes.next.there, List.append_assoc]
    rfl
  have ends := form.ends there
  have size : (written ++ ['"']).length = written.length + 1 := List.length_append
  rw [← size, ← passes.next.target] at ends
  exact quoted_of_ends ends

end Forms

end Transclusion.Yaml

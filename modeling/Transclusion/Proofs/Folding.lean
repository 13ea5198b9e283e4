import Mathlib.Data.List.Infix
import Transclusion.Extraction
import Transclusion.Proofs.NameForms
import Transclusion.Proofs.OrdinaryGrammar

/-!
Searching without regard to case. A text that spells a word folds as the word does, so
the quick tests for a marker pass wherever the marker can be read.
-/

namespace Transclusion

namespace Text

theorem occursIn_iff {needle text : Text} : occursIn needle text = true ↔ needle <:+: text := by
  induction text with
  | nil => simp [occursIn]
  | cons c rest ih =>
    rw [occursIn, Bool.or_eq_true, List.isPrefixOf_iff_prefix, ih, List.infix_cons_iff]

@[simp] theorem fold_append (first second : Text) :
    fold (first ++ second) = fold first ++ fold second :=
  List.flatMap_append

theorem fold_isInfix {part whole : Text} (inside : part <:+: whole) : fold part <:+: fold whole := by
  obtain ⟨front, back, rfl⟩ := inside
  exact ⟨fold front, fold back, by simp⟩

-- The letter i is left out: two letters match it and fold otherwise.
theorem fold_of_spells {word text : Text} (ascii : ∀ c ∈ word, c.toNat < 128)
    (notI : 'i' ∉ word.map Char.toLower) (spells : Spells word text) : fold text = fold word := by
  induction word generalizing text with
  | nil =>
    have nothing := List.map_eq_nil_iff.mp (show text.map caseKey = [] from spells.symm)
    subst nothing
    rfl
  | cons letter word ih =>
    obtain ⟨c, rest, rfl, same, others⟩ := List.map_eq_cons_iff.mp spells.symm
    have isAscii := ascii letter (by simp)
    have isNotI : letter.toLower ≠ 'i' := fun same => notI (by simp [same])
    have first := folded_of_alike isAscii isNotI (beq_iff_eq.mpr same.symm)
    have itself := folded_of_alike isAscii isNotI (alike_refl letter)
    have later := ih (fun d member => ascii d (by simp [member]))
      (fun member => notI (List.mem_cons_of_mem _ member)) others.symm
    simp only [fold, List.flatMap_cons] at later ⊢
    rw [first, itself, later]

end Text

namespace Token

theorem separator_of_separates_underscore {separator : Text} (separates : Separates ['_'] separator) :
    separator = ['_'] ∨ separator = ['_', '_'] := by
  rcases separates_sign separates with ⟨a, rfl, once⟩ | ⟨a, b, rfl, first, second⟩
  · rw [Text.eq_of_alike_underscore once]
    exact Or.inl rfl
  · rw [Text.eq_of_alike_underscore first, Text.eq_of_alike_underscore second]
    exact Or.inr rfl

theorem eq_of_sameLower_underscores {first second : Text} (only : ∀ c ∈ first, c = '_')
    (same : Text.SameLower first second) : second = first := by
  induction first generalizing second with
  | nil => exact List.map_eq_nil_iff.mp same.symm
  | cons c first ih =>
    obtain ⟨d, rest, rfl, alike, others⟩ := List.map_eq_cons_iff.mp same.symm
    have underscore : c = '_' := only c (by simp)
    subst underscore
    have equal := Text.eq_of_sameLowered_underscore (beq_iff_eq.mpr alike.symm)
    rw [equal, ih (fun e member => only e (by simp [member])) others.symm]

end Token

section Standard

variable {word : Text} {previous : Option Char} {text rest : Text} {token : Token}

-- A token of the standard grammar is written with the separator itself.
theorem standard_separator
    (stands : (Token.opener Grammar.standard word).At previous text token rest) :
    token.separator = Grammar.standard.separator (Grammar.standard.isMulti token.separator) := by
  rcases Token.separator_of_separates_underscore stands.separator with once | twice
  · rw [once]
    decide
  · rw [twice]
    decide

-- The fold of a token is the fold of the marker with its name.
theorem fold_written (plain : IsPlainWord word) (notI : 'i' ∉ word.map Char.toLower)
    (stands : (Token.opener Grammar.standard word).At previous text token rest) :
    Text.fold token.written = Text.fold (word ++
      Grammar.standard.separator (Grammar.standard.isMulti token.separator) ++ token.name) := by
  have same : Text.fold token.word = Text.fold word :=
    Text.fold_of_spells
      (fun c member => Text.ascii_of_isAlphanum (plain.alphanumeric c member)) notI stands.word
  rw [Token.written, Text.fold_append, Text.fold_append, Text.fold_append, Text.fold_append,
    ← standard_separator stands, same]

/-- Where a token of a word is read, the quick test for the word passes, as long as the
separator folds as its case forms do. -/
theorem foldOccursIn_of_opener {grammar : Grammar} (lettered : IsLettered word)
    (ascii : ∀ c ∈ word, c.toNat < 128) (notI : 'i' ∉ word.map Char.toLower)
    (even : ∀ form, Text.Spells grammar.split form → Text.fold form = Text.fold grammar.split)
    {whole : Text} (inside : text <:+ whole)
    (stands : (Token.opener grammar word).At previous text token rest) :
    whole ≠ [] ∧ Text.foldOccursIn (word ++ grammar.split) whole = true := by
  have part : token.written <:+: whole := by
    have front : token.written <+: text := ⟨rest, stands.parts.symm⟩
    exact front.isInfix.trans inside.isInfix
  have separator : Text.fold grammar.split <+: Text.fold token.separator := by
    rcases stands.separator with once | twice
    · rw [even _ once]
    · rw [Text.Spells, List.map_append] at twice
      obtain ⟨first, second, parts, key, _⟩ := List.map_eq_append_iff.mp twice.symm
      rw [parts, Text.fold_append, even first key.symm]
      exact List.prefix_append _ _
  have prefixed : Text.fold (word ++ grammar.split) <+: Text.fold token.written := by
    rw [Token.written, Text.fold_append, Text.fold_append, Text.fold_append, List.append_assoc,
      Text.fold_of_spells ascii notI stands.word]
    exact (List.prefix_append_right_inj _).mpr (separator.trans (List.prefix_append _ _))
  have present : whole ≠ [] := by
    rintro rfl
    obtain ⟨c, letters, spelled, _⟩ := Token.opener_lettered lettered token.word stands.word
    rw [List.infix_nil, Token.written, spelled] at part
    cases part
  exact ⟨present, Text.occursIn_iff.mpr (prefixed.isInfix.trans (Text.fold_isInfix part))⟩

theorem standard_even (form : Text) (spells : Text.Spells Grammar.standard.split form) :
    Text.fold form = Text.fold Grammar.standard.split := by
  obtain ⟨c, rfl, same⟩ := List.map_eq_singleton_iff.mp spells.symm
  rw [Text.eq_of_alike_underscore (beq_iff_eq.mpr same.symm)]
  rfl

theorem mayDefine_of_start {whole : Text} (inside : text <:+ whole)
    (stands : (Token.opener Grammar.standard Grammar.standard.startWord).At previous text token rest) :
    Grammar.standard.mayDefine whole = true := by
  obtain ⟨present, occurs⟩ :=
    foldOccursIn_of_opener standard_ordinary.startWord.lettered (by simp [Grammar.standard]) (by decide)
      standard_even inside stands
  rw [Grammar.mayDefine, occurs]
  simp [present]

theorem mayShow_of_show {whole : Text} (inside : text <:+ whole)
    (stands : (Token.opener Grammar.standard Grammar.standard.showWord).At previous text token rest) :
    Grammar.standard.mayShow whole = true := by
  obtain ⟨present, occurs⟩ :=
    foldOccursIn_of_opener standard_ordinary.showWord.lettered (by simp [Grammar.standard]) (by decide)
      standard_even inside stands
  rw [Grammar.mayShow, occurs]
  simp [present]

end Standard

end Transclusion

import Mathlib.Data.List.TakeWhile
import Transclusion.Proofs.Cutting
import Transclusion.Proofs.Letters

/-!
What the readers of tags, tokens and markers accept, said without reading: a text has
the shape of a marker when it is made of a word, a separator and a name that stand as
a whole word, bare or between the two tags of a wrapper.
-/

namespace Transclusion

namespace Text

/-- The letters of `word` in any case forms. -/
def Spells (word text : Text) : Prop := word.map caseKey = text.map caseKey

/-- Equal in lower case, character by character. -/
def SameLower (first second : Text) : Prop := first.map lowered = second.map lowered

instance (word text : Text) : Decidable (Spells word text) := by
  unfold Spells
  infer_instance

instance (first second : Text) : Decidable (SameLower first second) := by
  unfold SameLower
  infer_instance

@[refl] theorem Spells.refl (text : Text) : Spells text text := rfl

@[refl] theorem SameLower.refl (text : Text) : SameLower text text := rfl

theorem Spells.append {first second third fourth : Text} (front : Spells first second)
    (back : Spells third fourth) : Spells (first ++ third) (second ++ fourth) := by
  unfold Spells at *
  rw [List.map_append, List.map_append, front, back]

theorem Spells.length_eq {word text : Text} (spells : Spells word text) :
    text.length = word.length := by
  simpa using (congrArg List.length spells).symm

-- What is equal in lower case matches.
theorem spells_of_sameLower {first second : Text} (same : SameLower first second) :
    Spells first second := by
  induction first generalizing second with
  | nil => rw [List.map_eq_nil_iff.mp (show second.map lowered = [] from same.symm)]
  | cons c first ih =>
    obtain ⟨d, rest, rfl, lower, others⟩ := List.map_eq_cons_iff.mp same.symm
    have keys : caseKey c = caseKey d := by rw [caseKey, caseKey, lower]
    rw [Spells, List.map_cons, List.map_cons, keys, show first.map caseKey = _ from ih others.symm]

theorem SameLower.length_eq {first second : Text} (same : SameLower first second) :
    second.length = first.length := by
  simpa using (congrArg List.length same).symm

-- A run of characters in a class, read as far as it goes.
theorem run_eq_iff {inside : Char → Bool} {text run rest : Text} :
    (text.takeWhile inside = run ∧ text.dropWhile inside = rest) ↔
      text = run ++ rest ∧ (∀ c ∈ run, inside c = true) ∧ ∀ c ∈ rest.head?, inside c = false := by
  constructor
  · rintro ⟨rfl, rfl⟩
    refine ⟨List.takeWhile_append_dropWhile.symm, fun c member => List.mem_takeWhile_imp member, ?_⟩
    intro c head
    have stopped := List.head?_dropWhile_not inside text
    rw [Option.mem_def.mp head] at stopped
    simpa using stopped
  · rintro ⟨rfl, all, stop⟩
    rw [List.takeWhile_append_of_pos all, List.dropWhile_append_of_pos all]
    cases rest with
    | nil => simp
    | cons c rest =>
      have outside := stop c (by simp)
      simp [outside]

end Text

section Words

theorem expect_eq_some_iff {Key : Type} [BEq Key] [LawfulBEq Key] {key : Char → Key}
    {expected text read rest : Text} :
    expect (fun letter c => key letter == key c) expected text = some (read, rest) ↔
      text = read ++ rest ∧ expected.map key = read.map key := by
  induction expected generalizing text read with
  | nil =>
    simp only [expect, Option.some.injEq, Prod.mk.injEq, List.map_nil]
    constructor
    · rintro ⟨rfl, rfl⟩
      exact ⟨rfl, rfl⟩
    · rintro ⟨rfl, empty⟩
      have nothing := List.map_eq_nil_iff.mp empty.symm
      subst nothing
      exact ⟨rfl, rfl⟩
  | cons letter expected ih =>
    cases text with
    | nil =>
      constructor
      · intro found
        simp [expect] at found
      · rintro ⟨parts, same⟩
        rw [(List.append_eq_nil_iff.mp parts.symm).1] at same
        simp at same
    | cons c text =>
      constructor
      · intro found
        simp only [expect] at found
        split at found
        · next same =>
          obtain ⟨⟨read', rest'⟩, inner, parts⟩ := Option.map_eq_some_iff.mp found
          cases parts
          obtain ⟨rfl, keys⟩ := ih.mp inner
          exact ⟨rfl, by simp [keys, eq_of_beq same]⟩
        · cases found
      · rintro ⟨parts, same⟩
        cases read with
        | nil => simp at same
        | cons d read =>
          obtain ⟨rfl, rfl⟩ := List.cons.inj parts
          obtain ⟨first, others⟩ := List.cons.inj same
          simp [expect, first, ih.mpr ⟨rfl, others⟩]

theorem expect_alike_iff {word text read rest : Text} :
    expect Text.alike word text = some (read, rest) ↔
      text = read ++ rest ∧ Text.Spells word read :=
  expect_eq_some_iff

theorem expect_sameLowered_iff {first text read rest : Text} :
    expect Text.sameLowered first text = some (read, rest) ↔
      text = read ++ rest ∧ Text.SameLower first read :=
  expect_eq_some_iff

/-- A letter or digit, then letters, digits and underscores. -/
def IsName : Text → Prop
  | [] => False
  | c :: rest => isNameHead c = true ∧ ∀ d ∈ rest, isNameTail d = true

instance (name : Text) : Decidable (IsName name) :=
  match name with
  | [] => inferInstanceAs (Decidable False)
  | c :: rest =>
      decidable_of_iff ((isNameHead c && rest.all isNameTail) = true) (by simp [IsName])

theorem IsName.ne_nil {name : Text} (shape : IsName name) : name ≠ [] := by
  rintro rfl
  exact shape

theorem isNameTail_of_isNameHead {c : Char} (head : isNameHead c = true) : isNameTail c = true := by
  simp [isNameTail, head]

theorem IsName.tail {name : Text} (shape : IsName name) : ∀ c ∈ name, isNameTail c = true := by
  cases name with
  | nil => simp
  | cons c rest =>
    intro d member
    rcases List.mem_cons.mp member with rfl | later
    · exact isNameTail_of_isNameHead shape.1
    · exact shape.2 d later

-- The case forms of a name are names.
theorem IsName.of_spells {name other : Text} (shape : IsName name)
    (spells : Text.Spells name other) : IsName other := by
  cases name with
  | nil => exact absurd shape id
  | cons c rest =>
    obtain ⟨d, others, rfl, head, tail⟩ := List.map_eq_cons_iff.mp spells.symm
    refine ⟨Text.isNameHead_of_alike shape.1 (beq_iff_eq.mpr head.symm), fun e member => ?_⟩
    have form : Text.caseKey e ∈ rest.map Text.caseKey := by
      rw [← tail]
      exact List.mem_map_of_mem member
    obtain ⟨letter, inside, same⟩ := List.mem_map.mp form
    exact Text.isNameTail_of_alike (shape.2 letter inside) (beq_iff_eq.mpr same)

theorem readName_eq_some_iff {text name rest : Text} :
    readName text = some (name, rest) ↔
      text = name ++ rest ∧ IsName name ∧ ∀ c ∈ rest.head?, isNameTail c = false := by
  cases text with
  | nil =>
    constructor
    · intro found
      simp [readName] at found
    · rintro ⟨parts, shape, _⟩
      exact absurd (List.append_eq_nil_iff.mp parts.symm).1 shape.ne_nil
  | cons c text =>
    constructor
    · intro found
      simp only [readName] at found
      split at found
      · next head =>
        cases found
        obtain ⟨parts, all, stop⟩ := Text.run_eq_iff.mp ⟨rfl, rfl⟩
        exact ⟨congrArg (c :: ·) parts, ⟨head, all⟩, stop⟩
      · cases found
    · rintro ⟨parts, shape, stop⟩
      cases name with
      | nil => exact absurd rfl shape.ne_nil
      | cons d name =>
        obtain ⟨rfl, rfl⟩ := List.cons.inj parts
        obtain ⟨taken, dropped⟩ := Text.run_eq_iff.mpr ⟨rfl, shape.2, stop⟩
        simp [readName, shape.1, taken, dropped]

end Words

namespace Token

/-- What the word, the separator and the name of a token have to be. -/
structure Shape where
  word : Text → Prop
  separator : Text → Prop
  name : Text → Prop

/-- A token of a shape at the head of a text, as a whole word. -/
structure Shape.At (shape : Shape) (previous : Option Char) (text : Text) (token : Token)
    (rest : Text) : Prop where
  opens : opensWord previous = true
  parts : text = token.written ++ rest
  word : shape.word token.word
  separator : shape.separator token.separator
  name : shape.name token.name
  closes : closesWord rest = true

/-- The recogniser reads the tokens of the shape and nothing else. -/
def Shape.ReadBy (shape : Shape) (tokens : Recogniser Token) : Prop :=
  ∀ previous text token rest, (token, rest) ∈ tokens previous text ↔
    shape.At previous text token rest

/-- The separator in any case form, once or twice. -/
def Separates (split separator : Text) : Prop :=
  Text.Spells split separator ∨ Text.Spells (split ++ split) separator

/-- Tokens that open with a word. -/
def opener (grammar : Grammar) (word : Text) : Shape :=
  { word := Text.Spells word, separator := Separates grammar.split, name := IsName }

/-- Stop tokens that answer to an opened one. -/
def closer (grammar : Grammar) (opened : Token) : Shape :=
  { word := Text.Spells grammar.stopWord
    separator := Text.SameLower opened.separator
    name := Text.SameLower opened.name }

/-- Start and stop tokens of a name, with the separator once. -/
def bearer (grammar : Grammar) (name : Text) : Shape :=
  { word := fun word => Text.Spells grammar.startWord word ∨ Text.Spells grammar.stopWord word
    separator := Text.Spells grammar.split
    name := Text.Spells name }

theorem mem_separators_iff {split text separator rest : Text} :
    (separator, rest) ∈ separators split text ↔
      text = separator ++ rest ∧ Separates split separator := by
  constructor
  · intro member
    simp only [separators] at member
    split at member
    · cases member
    · next once rest' first =>
      obtain ⟨rfl, spellsOnce⟩ := expect_alike_iff.mp first
      split at member
      · cases List.mem_singleton.mp member
        exact ⟨rfl, Or.inl spellsOnce⟩
      · next twice beyond second =>
        obtain ⟨rfl, spellsTwice⟩ := expect_alike_iff.mp second
        rcases List.mem_cons.mp member with same | single
        · cases same
          exact ⟨by simp, Or.inr (spellsOnce.append spellsTwice)⟩
        · cases List.mem_singleton.mp single
          exact ⟨rfl, Or.inl spellsOnce⟩
  · rintro ⟨rfl, once | twice⟩
    · have first : expect Text.alike split (separator ++ rest) = some (separator, rest) :=
        expect_alike_iff.mpr ⟨rfl, once⟩
      simp only [separators, first]
      split <;> simp
    -- the shorter reading comes second, after the longer one
    · obtain ⟨front, back, rfl, frontSpells, backSpells⟩ : ∃ front back,
          separator = front ++ back ∧ Text.Spells split front ∧ Text.Spells split back := by
        unfold Text.Spells at twice
        rw [List.map_append] at twice
        obtain ⟨front, back, parts, frontKeys, backKeys⟩ := List.map_eq_append_iff.mp twice.symm
        exact ⟨front, back, parts, frontKeys.symm, backKeys.symm⟩
      have first : expect Text.alike split (front ++ (back ++ rest)) = some (front, back ++ rest) :=
        expect_alike_iff.mpr ⟨rfl, frontSpells⟩
      have second : expect Text.alike split (back ++ rest) = some (back, rest) :=
        expect_alike_iff.mpr ⟨rfl, backSpells⟩
      simp [separators, first, second]

theorem not_isNameTail_of_closesWord {rest : Text} (closes : closesWord rest = true) :
    ∀ c ∈ rest.head?, isNameTail c = false := by
  intro c head
  cases rest with
  | nil => simp at head
  | cons d rest =>
    cases Option.mem_some_iff.mp head
    by_contra tail
    have word := Text.isWord_of_isNameTail (Bool.not_eq_false _ ▸ tail)
    simp [closesWord, word] at closes

theorem opener_readBy (grammar : Grammar) (word : Text) :
    (opener grammar word).ReadBy (withWord grammar word) := by
  intro previous text token rest
  constructor
  · intro member
    simp only [withWord] at member
    split at member
    · next opens =>
      split at member
      · cases member
      · next spelled after found =>
        obtain ⟨rfl, spells⟩ := expect_alike_iff.mp found
        obtain ⟨⟨separator, beyond⟩, separated, read⟩ := List.mem_filterMap.mp member
        obtain ⟨rfl, separates⟩ := mem_separators_iff.mp separated
        simp only at read
        split at read
        · next name final named =>
          obtain ⟨rfl, shape, _⟩ := readName_eq_some_iff.mp named
          split at read
          · next closes =>
            cases read
            exact ⟨opens, by simp [written], spells, separates, shape, closes⟩
          · cases read
        · cases read
    · cases member
  · rintro ⟨opens, rfl, spells, separates, shape, closes⟩
    have first : expect Text.alike word (token.written ++ rest) =
        some (token.word, token.separator ++ (token.name ++ rest)) :=
      expect_alike_iff.mpr ⟨by simp [written], spells⟩
    have named : readName (token.name ++ rest) = some (token.name, rest) :=
      readName_eq_some_iff.mpr ⟨rfl, shape, not_isNameTail_of_closesWord closes⟩
    simp only [withWord, opens, if_true, first]
    refine List.mem_filterMap.mpr ⟨(token.separator, token.name ++ rest),
      mem_separators_iff.mpr ⟨rfl, separates⟩, ?_⟩
    simp [named, closes]

theorem closer_readBy (grammar : Grammar) (opened : Token) :
    (closer grammar opened).ReadBy (closing grammar opened) := by
  intro previous text token rest
  constructor
  · intro member
    simp only [closing] at member
    split at member
    · next opens =>
      split at member
      · cases member
      · next spelled after found =>
        obtain ⟨rfl, spells⟩ := expect_alike_iff.mp found
        split at member
        · cases member
        · next separator beyond separated =>
          obtain ⟨rfl, sameSeparator⟩ := expect_sameLowered_iff.mp separated
          split at member
          · cases member
          · next name final named =>
            obtain ⟨rfl, sameName⟩ := expect_sameLowered_iff.mp named
            split at member
            · next closes =>
              cases List.mem_singleton.mp member
              exact ⟨opens, by simp [written], spells, sameSeparator, sameName, closes⟩
            · cases member
    · cases member
  · rintro ⟨opens, rfl, spells, sameSeparator, sameName, closes⟩
    have first : expect Text.alike grammar.stopWord (token.written ++ rest) =
        some (token.word, token.separator ++ (token.name ++ rest)) :=
      expect_alike_iff.mpr ⟨by simp [written], spells⟩
    have second : expect Text.sameLowered opened.separator
        (token.separator ++ (token.name ++ rest)) = some (token.separator, token.name ++ rest) :=
      expect_sameLowered_iff.mpr ⟨rfl, sameSeparator⟩
    have third : expect Text.sameLowered opened.name (token.name ++ rest) =
        some (token.name, rest) :=
      expect_sameLowered_iff.mpr ⟨rfl, sameName⟩
    simp [closing, opens, first, second, third, closes]

theorem bearer_readBy (grammar : Grammar) (name : Text) :
    (bearer grammar name).ReadBy (named grammar name) := by
  intro previous text token rest
  constructor
  · intro member
    simp only [named] at member
    split at member
    · next opens =>
      obtain ⟨word, either, read⟩ := List.mem_filterMap.mp member
      split at read
      · cases read
      · next spelled after found =>
        obtain ⟨rfl, spells⟩ := expect_alike_iff.mp found
        split at read
        · cases read
        · next separator beyond separated =>
          obtain ⟨rfl, separates⟩ := expect_alike_iff.mp separated
          split at read
          · cases read
          · next name' final called =>
            obtain ⟨rfl, spellsName⟩ := expect_alike_iff.mp called
            split at read
            · next closes =>
              cases read
              refine ⟨opens, by simp [written], ?_, separates, spellsName, closes⟩
              rcases List.mem_pair.mp either with rfl | rfl
              · exact Or.inl spells
              · exact Or.inr spells
            · cases read
    · cases member
  · rintro ⟨opens, rfl, spells, separates, spellsName, closes⟩
    have first : ∀ word, Text.Spells word token.word →
        expect Text.alike word (token.written ++ rest) =
          some (token.word, token.separator ++ (token.name ++ rest)) :=
      fun word spells => expect_alike_iff.mpr ⟨by simp [written], spells⟩
    have second : expect Text.alike grammar.split (token.separator ++ (token.name ++ rest)) =
        some (token.separator, token.name ++ rest) := expect_alike_iff.mpr ⟨rfl, separates⟩
    have third : expect Text.alike name (token.name ++ rest) = some (token.name, rest) :=
      expect_alike_iff.mpr ⟨rfl, spellsName⟩
    simp only [named, opens, if_true]
    rcases spells with starts | stops
    · exact List.mem_filterMap.mpr ⟨grammar.startWord, by simp, by
        simp [first _ starts, second, third, closes]⟩
    · exact List.mem_filterMap.mpr ⟨grammar.stopWord, by simp, by
        simp [first _ stops, second, third, closes]⟩

end Token

section Tags

/-- A letter, then letters and digits. -/
def IsElement : Text → Prop
  | [] => False
  | c :: rest => isLetterForm c = true ∧ ∀ d ∈ rest, isElementTail d = true

instance (element : Text) : Decidable (IsElement element) :=
  match element with
  | [] => inferInstanceAs (Decidable False)
  | c :: rest =>
      decidable_of_iff ((isLetterForm c && rest.all isElementTail) = true) (by simp [IsElement])

inductive IsOpeningTag : Text → Prop where
  | plain {element : Text} (named : IsElement element) : IsOpeningTag ('<' :: element ++ ['>'])
  | attributed {element attributes : Text} {blank : Char} (named : IsElement element)
      (apart : Text.isBlank blank = true) (flat : ∀ c ∈ attributes, isAngle c = false) :
      IsOpeningTag ('<' :: element ++ blank :: attributes ++ ['>'])

/-- Spaces before a closing tag belong to it. -/
inductive IsClosingTag : Text → Prop where
  | tag {spaces element blanks : Text} (before : ∀ c ∈ spaces, isInlineSpace c = true)
      (named : IsElement element) (after : ∀ c ∈ blanks, Text.isBlank c = true) :
      IsClosingTag (spaces ++ '<' :: '/' :: element ++ blanks ++ ['>'])

theorem isWord_of_isElementTail {c : Char} (tail : isElementTail c = true) :
    Text.isWord c = true :=
  Text.isWord_of_isAlphanumeric (Text.isAlphanumeric_of_isNameHead tail)

theorem isElementTail_of_isBlank {c : Char} (blank : Text.isBlank c = true) :
    isElementTail c = false := by
  by_contra tail
  have word := isWord_of_isElementTail (Bool.not_eq_false _ ▸ tail)
  rw [Text.isWord_of_isBlank blank] at word
  cases word

theorem isElementTail_close : isElementTail '>' = false := by decide

theorem IsOpeningTag.of_read {text tag rest : Text} (read : readOpeningTag text = some (tag, rest)) :
    text = tag ++ rest ∧ IsOpeningTag tag := by
  unfold readOpeningTag at read
  split at read
  · next c after =>
    split at read
    · next letter =>
      simp only at read
      split at read
      · next beyond found =>
        cases read
        obtain ⟨parts, all, _⟩ := Text.run_eq_iff.mp ⟨rfl, found⟩
        refine ⟨?_, .plain ⟨letter, all⟩⟩
        conv_lhs => rw [parts]
        simp
      · next blank more found =>
        split at read
        · next apart =>
          split at read
          · next beyond found' =>
            cases read
            obtain ⟨parts, all, _⟩ := Text.run_eq_iff.mp ⟨rfl, found⟩
            obtain ⟨parts', flat, _⟩ := Text.run_eq_iff.mp ⟨rfl, found'⟩
            refine ⟨?_, .attributed ⟨letter, all⟩ apart (by simpa using flat)⟩
            conv_lhs => rw [parts, parts']
            simp
          · cases read
        · cases read
      · cases read
    · cases read
  · cases read

theorem IsOpeningTag.read {tag : Text} (shape : IsOpeningTag tag) (rest : Text) :
    readOpeningTag (tag ++ rest) = some (tag, rest) := by
  cases shape with
  | @plain element named =>
    cases element with
    | nil => exact absurd named id
    | cons c element =>
      have stop : ∀ c ∈ ('>' :: rest).head?, isElementTail c = false := by
        simpa using isElementTail_close
      obtain ⟨taken, dropped⟩ := Text.run_eq_iff.mpr ⟨rfl, named.2, stop⟩
      simp [readOpeningTag, named.1, taken, dropped]
  | @attributed element attributes blank named apart flat =>
    cases element with
    | nil => exact absurd named id
    | cons c element =>
      have stop : ∀ c ∈ (blank :: (attributes ++ '>' :: rest)).head?, isElementTail c = false := by
        simpa using isElementTail_of_isBlank apart
      -- the element name ends at the blank and the attributes at the bracket
      have stop' : ∀ c ∈ ('>' :: rest).head?, (!isAngle c) = false := by simp [isAngle]
      obtain ⟨taken, dropped⟩ := Text.run_eq_iff.mpr ⟨rfl, named.2, stop⟩
      obtain ⟨taken', dropped'⟩ := Text.run_eq_iff.mpr ⟨rfl, by simpa using flat, stop'⟩
      simp only [List.cons_append, List.append_assoc, List.nil_append, readOpeningTag, named.1,
        if_true, taken, dropped]
      split
      · next same =>
        have closed : Text.isBlank '>' = false := by decide
        rw [(List.cons.inj same).1, closed] at apart
        cases apart
      · next same =>
        cases same
        simp [apart, taken', dropped']
      · next same => cases same

theorem readOpeningTag_eq_some_iff {text tag rest : Text} :
    readOpeningTag text = some (tag, rest) ↔ text = tag ++ rest ∧ IsOpeningTag tag := by
  constructor
  · exact IsOpeningTag.of_read
  · rintro ⟨rfl, shape⟩
    exact shape.read rest

theorem IsClosingTag.of_read {text ending rest : Text}
    (read : readClosingTag text = some (ending, rest)) : text = ending ++ rest ∧ IsClosingTag ending := by
  simp only [readClosingTag] at read
  split at read
  · next c after found =>
    split at read
    · next letter =>
      split at read
      · next beyond found' =>
        cases read
        obtain ⟨parts, spaces, _⟩ := Text.run_eq_iff.mp ⟨rfl, found⟩
        obtain ⟨parts', all, _⟩ := Text.run_eq_iff.mp
          (⟨rfl, rfl⟩ : after.takeWhile isElementTail = _ ∧ after.dropWhile isElementTail = _)
        obtain ⟨parts'', blanks, _⟩ := Text.run_eq_iff.mp ⟨rfl, found'⟩
        refine ⟨?_, .tag spaces ⟨letter, all⟩ blanks⟩
        conv_lhs => rw [parts, parts', parts'']
        simp
      · cases read
    · cases read
  · cases read

theorem IsClosingTag.read {ending : Text} (shape : IsClosingTag ending) (rest : Text) :
    readClosingTag (ending ++ rest) = some (ending, rest) := by
  cases shape with
  | @tag spaces element blanks before named after =>
    cases element with
    | nil => exact absurd named id
    | cons c element =>
      have stop : ∀ d ∈ ('<' :: '/' :: c :: (element ++ (blanks ++ '>' :: rest))).head?,
          isInlineSpace d = false := by simp [isInlineSpace]
      have stop' : ∀ d ∈ (blanks ++ '>' :: rest).head?, isElementTail d = false := by
        cases blanks with
        | nil => simpa using isElementTail_close
        | cons blank blanks => simpa using isElementTail_of_isBlank (after blank (by simp))
      have stop'' : ∀ d ∈ ('>' :: rest).head?, Text.isBlank d = false := by
        have closed : Text.isBlank '>' = false := by decide
        simpa using closed
      obtain ⟨taken, dropped⟩ := Text.run_eq_iff.mpr ⟨rfl, before, stop⟩
      obtain ⟨taken', dropped'⟩ := Text.run_eq_iff.mpr ⟨rfl, named.2, stop'⟩
      obtain ⟨taken'', dropped''⟩ := Text.run_eq_iff.mpr ⟨rfl, after, stop''⟩
      simp [readClosingTag, taken, dropped, named.1, taken', dropped', taken'', dropped'']

theorem readClosingTag_eq_some_iff {text ending rest : Text} :
    readClosingTag text = some (ending, rest) ↔ text = ending ++ rest ∧ IsClosingTag ending := by
  constructor
  · exact IsClosingTag.of_read
  · rintro ⟨rfl, shape⟩
    exact shape.read rest

theorem mem_afterSpaces_iff {previous before : Option Char} {text spaces rest : Text} :
    (spaces, before, rest) ∈ afterSpaces previous text ↔
      text = spaces ++ rest ∧ (∀ c ∈ spaces, isInlineSpace c = true) ∧
        before = Cutting.lastOr previous spaces := by
  induction text generalizing previous spaces with
  | nil =>
    constructor
    · intro member
      cases List.mem_singleton.mp member
      simp
    · rintro ⟨parts, _, rfl⟩
      obtain ⟨rfl, rfl⟩ := List.append_eq_nil_iff.mp parts.symm
      simp [afterSpaces]
  | cons c text ih =>
    -- every split of the run of spaces is read, the longest first; here none is taken
    have stay : (spaces, before, rest) = (([] : Text), previous, c :: text) ↔
        spaces = [] ∧ c :: text = spaces ++ rest ∧ before = Cutting.lastOr previous spaces := by
      constructor
      · intro same
        cases same
        simp
      · rintro ⟨rfl, parts, rfl⟩
        simp [parts]
    by_cases space : isInlineSpace c = true
    · simp only [afterSpaces, space, if_true, List.mem_append, List.mem_singleton, stay,
        List.mem_map, Prod.exists, Prod.mk.injEq]
      constructor
      · rintro (⟨further, _, _, member, rfl, rfl, rfl⟩ | ⟨rfl, parts, rfl⟩)
        · obtain ⟨rfl, all, rfl⟩ := ih.mp member
          refine ⟨rfl, ?_, by simp⟩
          simpa [space] using all
        · exact ⟨parts, by simp, rfl⟩
      · rintro ⟨parts, all, rfl⟩
        cases spaces with
        | nil => exact Or.inr ⟨rfl, parts, rfl⟩
        | cons d spaces =>
          obtain ⟨rfl, rfl⟩ := List.cons.inj parts
          have inner : ∀ e ∈ spaces, isInlineSpace e = true :=
            fun e member => all e (List.mem_cons_of_mem _ member)
          exact Or.inl ⟨spaces, _, _, ih.mpr ⟨rfl, inner, Cutting.lastOr_cons _ _ _⟩, rfl, rfl, rfl⟩
    · simp only [afterSpaces, space, Bool.false_eq_true, if_false, List.mem_singleton, stay]
      constructor
      · rintro ⟨rfl, parts, rfl⟩
        exact ⟨parts, by simp, rfl⟩
      · rintro ⟨parts, all, rfl⟩
        cases spaces with
        | nil => exact ⟨rfl, parts, rfl⟩
        | cons d spaces =>
          obtain ⟨rfl, rfl⟩ := List.cons.inj parts
          exact absurd (all c (by simp)) space

end Tags

namespace Marker

/-- A marker at the head of a text: a token alone, or a token hugged by an opening and
a closing tag. `stands` tells where a token stands. -/
inductive At (stands : Option Char → Text → Token → Text → Prop) (previous : Option Char) :
    Text → Marker → Text → Prop where
  | bare {text : Text} {token : Token} {rest : Text} (here : stands previous text token rest) :
      At stands previous text (bare token) rest
  | wrapped {tag spaces text : Text} {token : Token} {ending rest : Text}
      (opens : IsOpeningTag tag) (apart : ∀ c ∈ spaces, isInlineSpace c = true)
      (here : stands (Cutting.lastOr (some '>') spaces) text token (ending ++ rest))
      (closes : IsClosingTag ending) :
      At stands previous (tag ++ spaces ++ text) ⟨some (tag ++ spaces), token, ending⟩ rest

theorem At.imp {stands stands' : Option Char → Text → Token → Text → Prop}
    (weaker : ∀ previous text token rest, stands previous text token rest →
      stands' previous text token rest)
    {previous : Option Char} {text : Text} {marker : Marker} {rest : Text}
    (here : At stands previous text marker rest) : At stands' previous text marker rest := by
  cases here with
  | bare here => exact .bare (weaker _ _ _ _ here)
  | wrapped opens apart here closes => exact .wrapped opens apart (weaker _ _ _ _ here) closes

theorem mem_recognise_iff {tokens : Recogniser Token} {previous : Option Char} {text : Text}
    {marker : Marker} {rest : Text} :
    (marker, rest) ∈ recognise tokens previous text ↔
      At (fun previous text token rest => (token, rest) ∈ tokens previous text)
        previous text marker rest := by
  constructor
  · intro member
    rcases List.mem_append.mp member with wrapped | plain
    · split at wrapped
      · cases wrapped
      · next tag after read =>
        obtain ⟨rfl, opens⟩ := readOpeningTag_eq_some_iff.mp read
        obtain ⟨⟨spaces, before, further⟩, placed, inner⟩ := List.mem_flatMap.mp wrapped
        obtain ⟨rfl, apart, rfl⟩ := mem_afterSpaces_iff.mp placed
        obtain ⟨⟨token, beyond⟩, stands, closed⟩ := List.mem_filterMap.mp inner
        obtain ⟨⟨ending, final⟩, closing, same⟩ := Option.map_eq_some_iff.mp closed
        obtain ⟨rfl, closes⟩ := readClosingTag_eq_some_iff.mp closing
        cases same
        rw [← List.append_assoc]
        exact .wrapped opens apart stands closes
    · obtain ⟨⟨token, beyond⟩, stands, same⟩ := List.mem_map.mp plain
      cases same
      exact .bare stands
  · intro stands
    cases stands with
    | @bare _ token _ stands =>
      exact List.mem_append_right _ (List.mem_map.mpr ⟨(token, rest), stands, rfl⟩)
    | @wrapped tag spaces after token ending _ opens apart stands closes =>
      apply List.mem_append_left
      -- a wrapped marker is read before the bare ones
      have read : readOpeningTag (tag ++ spaces ++ after) = some (tag, spaces ++ after) :=
        readOpeningTag_eq_some_iff.mpr ⟨by simp, opens⟩
      have closing : readClosingTag (ending ++ rest) = some (ending, rest) :=
        readClosingTag_eq_some_iff.mpr ⟨rfl, closes⟩
      rw [read]
      refine List.mem_flatMap.mpr ⟨(spaces, _, after), mem_afterSpaces_iff.mpr ⟨rfl, apart, rfl⟩, ?_⟩
      exact List.mem_filterMap.mpr ⟨(token, ending ++ rest), stands, by simp [closing]⟩

theorem mem_recognise_iff_at {shape : Token.Shape} {tokens : Recogniser Token}
    (readBy : shape.ReadBy tokens) {previous : Option Char} {text : Text} {marker : Marker}
    {rest : Text} :
    (marker, rest) ∈ recognise tokens previous text ↔ At shape.At previous text marker rest := by
  rw [mem_recognise_iff]
  exact ⟨At.imp fun _ _ _ _ => (readBy _ _ _ _).mp, At.imp fun _ _ _ _ => (readBy _ _ _ _).mpr⟩

-- Tokens that take their written form make markers that do.
theorem recognise_faithful {tokens : Recogniser Token}
    (faithful : Cutting.Faithful Token.written tokens) :
    Cutting.Faithful written (recognise tokens) := by
  intro previous text marker rest member
  cases mem_recognise_iff.mp member with
  | @bare _ token _ stands =>
    simpa [written, Marker.bare] using faithful _ _ _ _ stands
  | @wrapped tag spaces after token ending _ opens apart stands closes =>
    obtain ⟨rfl, present⟩ := faithful _ _ _ _ stands
    refine ⟨by simp [written], ?_⟩
    simp [written, present]

end Marker

end Transclusion

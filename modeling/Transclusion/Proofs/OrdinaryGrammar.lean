import Transclusion.Proofs.Markers

/-!
Grammars whose words begin with a letter and whose separator is one sign, among them the
ordinary ones, whose words are plain words. Their tokens begin and end with word characters
around the separator, so tokens and markers are never empty, never begin with a blank, and
can be read in one way only.
-/

namespace Transclusion

/-- A letter, then letters and digits, all of them ASCII. -/
def IsPlainWord : Text → Prop
  | [] => False
  | c :: rest => c.isAlpha = true ∧ ∀ d ∈ rest, d.isAlphanum = true

instance (word : Text) : Decidable (IsPlainWord word) :=
  match word with
  | [] => inferInstanceAs (Decidable False)
  | c :: rest =>
      decidable_of_iff ((c.isAlpha && rest.all Char.isAlphanum) = true) (by simp [IsPlainWord])

/-- A letter, whatever follows it. -/
def IsLettered : Text → Prop
  | [] => False
  | c :: _ => c.isAlpha = true

/-- A sign between words: no letter or digit, no blank, no angle bracket. -/
structure IsSign (c : Char) : Prop where
  notAlphanumeric : Text.isAlphanumeric c = false
  notBlank : Text.isBlank c = false
  notAngle : isAngle c = false

structure Grammar.Ordinary (grammar : Grammar) : Prop where
  startWord : IsPlainWord grammar.startWord
  stopWord : IsPlainWord grammar.stopWord
  showWord : IsPlainWord grammar.showWord
  startStop : ¬ Text.SameLower grammar.startWord grammar.stopWord
  startShow : ¬ Text.SameLower grammar.startWord grammar.showWord
  stopShow : ¬ Text.SameLower grammar.stopWord grammar.showWord
  split : ∃ sign, grammar.split = [sign] ∧ IsSign sign

/-- What it takes to read the markers of a grammar in one way only. -/
structure Grammar.Legible (grammar : Grammar) : Prop where
  startWord : IsLettered grammar.startWord
  stopWord : IsLettered grammar.stopWord
  showWord : IsLettered grammar.showWord
  split : ∃ sign, grammar.split = [sign] ∧ IsSign sign

theorem IsPlainWord.lettered {word : Text} (plain : IsPlainWord word) : IsLettered word := by
  cases word with
  | nil => exact plain
  | cons c rest => exact plain.1

theorem Grammar.Ordinary.legible {grammar : Grammar} (ordinary : grammar.Ordinary) :
    grammar.Legible where
  startWord := ordinary.startWord.lettered
  stopWord := ordinary.stopWord.lettered
  showWord := ordinary.showWord.lettered
  split := ordinary.split

theorem standard_ordinary : Grammar.standard.Ordinary where
  startWord := by decide
  stopWord := by decide
  showWord := by decide
  startStop := by decide
  startShow := by decide
  stopShow := by decide
  split := ⟨'_', rfl, by decide, by decide, by decide⟩

namespace Cutting

variable {Mark : Type}

/-- No mark begins with a blank. -/
def Inked (readings : Recogniser Mark) : Prop :=
  ∀ previous c text, Text.isBlank c = true → readings previous (c :: text) = []

/-- A place can be read in one way at most. -/
def Single (readings : Recogniser Mark) : Prop :=
  ∀ previous text first second,
    first ∈ readings previous text → second ∈ readings previous text → first = second

theorem Single.head? {readings : Recogniser Mark} (single : Single readings)
    {previous : Option Char} {text : Text} {reading : Mark × Text}
    (member : reading ∈ readings previous text) :
    (readings previous text).head? = some reading := by
  cases found : readings previous text with
  | nil => simp [found] at member
  | cons first others =>
    have same := single previous text first reading (by simp [found]) member
    simp [same]

end Cutting

section Words

theorem IsPlainWord.alphanumeric {word : Text} (plain : IsPlainWord word) :
    ∀ c ∈ word, c.isAlphanum = true := by
  cases word with
  | nil => simp
  | cons c rest =>
    intro d member
    rcases List.mem_cons.mp member with rfl | later
    · simp [Char.isAlphanum, plain.1]
    · exact plain.2 d later

theorem IsPlainWord.ne_nil {word : Text} (plain : IsPlainWord word) : word ≠ [] := by
  rintro rfl
  exact plain

theorem isAlphanumeric_of_spells {word text : Text} (plain : IsPlainWord word)
    (spells : Text.Spells word text) : ∀ c ∈ text, Text.isAlphanumeric c = true := by
  intro c member
  have key : Text.caseKey c ∈ word.map Text.caseKey := by
    rw [show word.map Text.caseKey = text.map Text.caseKey from spells]
    exact List.mem_map_of_mem member
  obtain ⟨letter, inside, same⟩ := List.mem_map.mp key
  exact Text.isAlphanumeric_of_alike (plain.alphanumeric letter inside) (beq_iff_eq.mpr same)

theorem not_isNameHead_of_alike_sign {sign c : Char} (isSign : IsSign sign)
    (same : Text.alike sign c = true) : isNameHead c = false := by
  by_contra head
  obtain ⟨alphanumeric, stable⟩ := Text.caseKey_of_isNameHead (Bool.not_eq_false _ ▸ head)
  -- the case forms of a letter are letters, so a sign is none of them
  have form : Text.alike (Text.caseKey c) sign = true := by
    rw [Text.alike, stable, beq_iff_eq]
    exact (beq_iff_eq.mp same).symm
  have letter := Text.isAlphanumeric_of_alike alphanumeric form
  rw [isSign.notAlphanumeric] at letter
  cases letter

end Words

namespace Token

/-- A shape whose tokens begin with a word character. -/
def Shape.Lettered (shape : Shape) : Prop :=
  ∀ word, shape.word word → ∃ c rest, word = c :: rest ∧ Text.isAlphanumeric c = true

variable {shape : Shape} {tokens : Recogniser Token}

theorem Shape.At.head {previous : Option Char} {text : Text} {token : Token} {rest : Text}
    (lettered : shape.Lettered) (stands : shape.At previous text token rest) :
    ∃ c after, text = c :: after ∧ Text.isWord c = true := by
  obtain ⟨c, word, spelled, alphanumeric⟩ := lettered token.word stands.word
  refine ⟨c, word ++ token.separator ++ token.name ++ rest, ?_,
    Text.isWord_of_isAlphanumeric alphanumeric⟩
  rw [stands.parts, written, spelled]
  simp

theorem Shape.ReadBy.faithful (readBy : shape.ReadBy tokens) (lettered : shape.Lettered) :
    Cutting.Faithful written tokens := by
  intro previous text token rest member
  have stands := (readBy _ _ _ _).mp member
  obtain ⟨c, word, spelled, _⟩ := lettered token.word stands.word
  exact ⟨stands.parts, by simp [written, spelled]⟩

theorem Shape.ReadBy.inked (readBy : shape.ReadBy tokens) (lettered : shape.Lettered) :
    Cutting.Inked tokens := by
  intro previous c text blank
  apply List.eq_nil_iff_forall_not_mem.mpr
  rintro ⟨token, rest⟩ member
  obtain ⟨d, after, parts, word⟩ := ((readBy _ _ _ _).mp member).head lettered
  rw [(List.cons.inj parts).1] at blank
  rw [Text.isWord_of_isBlank blank] at word
  cases word

theorem lettered_of_spells {word : Text} (lettered : IsLettered word) {text : Text}
    (spells : Text.Spells word text) :
    ∃ c rest, text = c :: rest ∧ Text.isAlphanumeric c = true := by
  cases word with
  | nil => exact absurd lettered id
  | cons letter word =>
    obtain ⟨c, rest, rfl, same, _⟩ := List.map_eq_cons_iff.mp spells.symm
    have alphanumeric : letter.isAlphanum = true := by
      rw [Char.isAlphanum, show letter.isAlpha = true from lettered, Bool.true_or]
    exact ⟨c, rest, rfl, Text.isAlphanumeric_of_alike alphanumeric (beq_iff_eq.mpr same.symm)⟩

variable {grammar : Grammar} (legible : grammar.Legible)

theorem opener_lettered {word : Text} (lettered : IsLettered word) :
    (opener grammar word).Lettered :=
  fun _ spells => lettered_of_spells lettered spells

include legible in
theorem closer_lettered (opened : Token) : (closer grammar opened).Lettered :=
  fun _ spells => lettered_of_spells legible.stopWord spells

include legible in
theorem bearer_lettered (name : Text) : (bearer grammar name).Lettered := by
  rintro word (spells | spells)
  · exact lettered_of_spells legible.startWord spells
  · exact lettered_of_spells legible.stopWord spells

theorem separates_sign {sign : Char} {separator : Text} (separates : Separates [sign] separator) :
    (∃ a, separator = [a] ∧ Text.alike sign a = true) ∨
      ∃ a b, separator = [a, b] ∧ Text.alike sign a = true ∧ Text.alike sign b = true := by
  rcases separates with once | twice
  · left
    obtain ⟨a, rfl, same⟩ := List.map_eq_singleton_iff.mp once.symm
    exact ⟨a, rfl, beq_iff_eq.mpr same.symm⟩
  · right
    obtain ⟨a, rest, rfl, first, others⟩ := List.map_eq_cons_iff.mp twice.symm
    obtain ⟨b, rfl, second⟩ := List.map_eq_singleton_iff.mp others
    exact ⟨a, b, rfl, beq_iff_eq.mpr first.symm, beq_iff_eq.mpr second.symm⟩

include legible in
-- A second separator is no beginning of a name.
theorem separator_unique {first second name name' rest rest' : Text}
    (separates : Separates grammar.split first) (separates' : Separates grammar.split second)
    (named : IsName name) (named' : IsName name')
    (same : first ++ (name ++ rest) = second ++ (name' ++ rest')) : first = second := by
  obtain ⟨sign, split, isSign⟩ := legible.split
  rw [split] at separates separates'
  have noName : ∀ {name : Text} {c : Char} {rest beyond : Text}, IsName name →
      Text.alike sign c = true → name ++ rest ≠ c :: beyond := by
    rintro name c rest beyond named alike parts
    cases name with
    | nil => exact named
    | cons d name =>
      have head : isNameHead c = true := by
        rw [← (List.cons.inj parts).1]
        exact named.1
      rw [not_isNameHead_of_alike_sign isSign alike] at head
      cases head
  rcases separates_sign separates with ⟨a, rfl, _⟩ | ⟨a, b, rfl, _, alike⟩
  · rcases separates_sign separates' with ⟨a', rfl, _⟩ | ⟨a', b', rfl, _, alike'⟩
    · rw [(List.cons.inj same).1]
    · have after : name ++ rest = b' :: (name' ++ rest') := (List.cons.inj same).2
      exact absurd after (noName named alike')
  · rcases separates_sign separates' with ⟨a', rfl, _⟩ | ⟨a', b', rfl, _, alike'⟩
    · have after : b :: (name ++ rest) = name' ++ rest' := (List.cons.inj same).2
      exact absurd after.symm (noName named' alike)
    · obtain ⟨rfl, others⟩ := List.cons.inj same
      rw [(List.cons.inj others).1]

include legible in
theorem opener_single (word : Text) : Cutting.Single (withWord grammar word) := by
  rintro previous text ⟨first, rest⟩ ⟨second, rest'⟩ member member'
  obtain ⟨_, parts, spells, separates, named, closes⟩ := (opener_readBy _ _ _ _ _ _).mp member
  obtain ⟨_, parts', spells', separates', named', closes'⟩ :=
    (opener_readBy _ _ _ _ _ _).mp member'
  -- case forms keep the length, so the word, the separator and the name end at the same places
  have length : first.word.length = second.word.length :=
    spells.length_eq.trans spells'.length_eq.symm
  simp only [written, List.append_assoc] at parts parts'
  obtain ⟨sameWord, after⟩ := List.append_inj (parts.symm.trans parts') length
  have sameSeparator := separator_unique legible separates separates' named named' after
  rw [sameSeparator] at after
  have read := readName_eq_some_iff.mpr ⟨rfl, named, not_isNameTail_of_closesWord closes⟩
  have read' := readName_eq_some_iff.mpr ⟨rfl, named', not_isNameTail_of_closesWord closes'⟩
  rw [List.append_cancel_left after, read'] at read
  cases first
  cases second
  cases read
  cases sameWord
  cases sameSeparator
  rfl

theorem closer_single (opened : Token) : Cutting.Single (closing grammar opened) := by
  rintro previous text ⟨first, rest⟩ ⟨second, rest'⟩ member member'
  obtain ⟨_, parts, spells, separates, named, _⟩ := (closer_readBy _ _ _ _ _ _).mp member
  obtain ⟨_, parts', spells', separates', named', _⟩ := (closer_readBy _ _ _ _ _ _).mp member'
  simp only [written, List.append_assoc] at parts parts'
  obtain ⟨sameWord, after⟩ := List.append_inj (parts.symm.trans parts')
    (spells.length_eq.trans spells'.length_eq.symm)
  obtain ⟨sameSeparator, after'⟩ := List.append_inj after
    (separates.length_eq.trans separates'.length_eq.symm)
  obtain ⟨sameName, sameRest⟩ := List.append_inj after'
    (named.length_eq.trans named'.length_eq.symm)
  cases first
  cases second
  cases sameWord
  cases sameSeparator
  cases sameName
  cases sameRest
  rfl

end Token

namespace Marker

variable {shape : Token.Shape} {tokens : Recogniser Token}

theorem isOpeningTag_head {tag : Text} (opens : IsOpeningTag tag) : ∃ rest, tag = '<' :: rest := by
  cases opens with
  | plain named => exact ⟨_, rfl⟩
  | attributed named apart flat => exact ⟨_, rfl⟩

theorem recognise_inked (inked : Cutting.Inked tokens) : Cutting.Inked (recognise tokens) := by
  intro previous c text blank
  apply List.eq_nil_iff_forall_not_mem.mpr
  rintro ⟨marker, rest⟩ member
  generalize same : c :: text = whole at member
  cases mem_recognise_iff.mp member with
  | bare stands =>
    rw [← same, inked previous c text blank] at stands
    cases stands
  | wrapped opens apart stands closes =>
    obtain ⟨after, rfl⟩ := isOpeningTag_head opens
    have angle : Text.isBlank '<' = false := by decide
    rw [(List.cons.inj same).1, angle] at blank
    cases blank

theorem not_isInlineSpace_of_isWord {c : Char} (word : Text.isWord c = true) :
    isInlineSpace c = false := by
  by_contra space
  have blank := Text.isBlank_of_isInlineSpace (Bool.not_eq_false _ ▸ space)
  rw [Text.isWord_of_isBlank blank] at word
  cases word

theorem recognise_single (readBy : shape.ReadBy tokens) (lettered : shape.Lettered)
    (single : Cutting.Single tokens) : Cutting.Single (recognise tokens) := by
  rintro previous text ⟨first, rest⟩ ⟨second, rest'⟩ member member'
  -- a bare marker begins with a letter and a wrapped one with an angle bracket
  have apart : ∀ {tag spaces after : Text} {token : Token} {rest : Text}, IsOpeningTag tag →
      (token, rest) ∉ tokens previous (tag ++ spaces ++ after) := by
    intro tag spaces after token rest opens stands
    obtain ⟨c, beyond, parts, word⟩ := ((readBy _ _ _ _).mp stands).head lettered
    obtain ⟨more, rfl⟩ := isOpeningTag_head opens
    have angle : Text.isWord '<' = false := by decide
    rw [← (List.cons.inj parts).1, angle] at word
    cases word
  cases mem_recognise_iff.mp member with
  | bare stands =>
    generalize same : text = whole at member'
    cases mem_recognise_iff.mp member' with
    | bare stands' =>
      rw [same] at stands
      cases single _ _ _ _ stands stands'
      rfl
    | wrapped opens' apart' stands' closes' =>
      rw [same] at stands
      exact absurd stands (apart opens')
  | @wrapped tag spaces after token ending _ opens space stands closes =>
    generalize same : tag ++ spaces ++ after = whole at member'
    cases mem_recognise_iff.mp member' with
    | bare stands' =>
      rw [← same] at stands'
      exact absurd stands' (apart opens)
    | @wrapped tag' spaces' after' token' ending' _ opens' space' stands' closes' =>
      have read := readOpeningTag_eq_some_iff.mpr ⟨List.append_assoc tag spaces after, opens⟩
      have read' := readOpeningTag_eq_some_iff.mpr ⟨List.append_assoc tag' spaces' after', opens'⟩
      rw [same, read'] at read
      obtain ⟨rfl, further⟩ := Prod.mk.inj (Option.some.inj read)
      -- the token begins with a word character, so the spaces before it are the whole run
      have stop : ∀ {after : Text} {token : Token} {previous : Option Char} {rest : Text},
          (token, rest) ∈ tokens previous after → ∀ c ∈ after.head?, isInlineSpace c = false := by
        intro after token previous rest stands c head
        obtain ⟨d, beyond, rfl, word⟩ := ((readBy _ _ _ _).mp stands).head lettered
        cases Option.mem_some_iff.mp head
        exact not_isInlineSpace_of_isWord word
      obtain ⟨taken, dropped⟩ := Text.run_eq_iff.mpr ⟨rfl, space, stop stands⟩
      obtain ⟨taken', dropped'⟩ := Text.run_eq_iff.mpr ⟨rfl, space', stop stands'⟩
      rw [further, taken] at taken'
      rw [further, dropped] at dropped'
      subst taken'
      subst dropped'
      obtain ⟨rfl, beyond⟩ := Prod.mk.inj (single _ _ _ _ stands stands')
      have closed := readClosingTag_eq_some_iff.mpr ⟨beyond, closes'⟩
      rw [readClosingTag_eq_some_iff.mpr ⟨rfl, closes⟩] at closed
      cases closed
      rfl

theorem shows_faithful {grammar : Grammar} (legible : grammar.Legible) :
    Cutting.Faithful written (shows grammar) :=
  recognise_faithful
    ((Token.opener_readBy _ _).faithful (Token.opener_lettered legible.showWord))

theorem shows_single {grammar : Grammar} (legible : grammar.Legible) :
    Cutting.Single (shows grammar) :=
  recognise_single (Token.opener_readBy _ _) (Token.opener_lettered legible.showWord)
    (Token.opener_single legible grammar.showWord)

end Marker

end Transclusion

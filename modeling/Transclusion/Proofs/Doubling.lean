import Transclusion.Uniqueness
import Transclusion.Proofs.BlockOrigins
import Transclusion.Proofs.WordMaps

/-!
Doubling the markers of a name, seen on whole words. In the standard grammar a token is
a whole word, doubling puts other words in place of the single-value tokens of the name
and leaves all other words alone. So a name once doubled has no single-value token, and
no later doubling gives it one.
-/

namespace Transclusion

open Cutting

namespace Text

/-- A whole word of a text that stands after `previous`. -/
structure WordBetween (previous : Option Char) (text word : Text) (front back : Text) : Prop where
  parts : text = front ++ (word ++ back)
  present : word ≠ []
  inside : ∀ c ∈ word, isWord c = true
  opens : opensWord (lastOr previous front) = true
  closes : closesWord back = true

/-- The word is one of the whole words of the text. -/
def HasWord (previous : Option Char) (text word : Text) : Prop :=
  ∃ front back, WordBetween previous text word front back

-- The words of the image of a text come from words of the text.
theorem Wordwise.exists_word {f : Text → Text} (wordwise : Wordwise f) {text image : Text}
    (holds : HasWord none (f text) image) :
    ∃ word, HasWord none text word ∧ WordRun word ∧ f word = image := by
  obtain ⟨front', back', parts, present, inside, opens, closes⟩ := holds
  rw [lastOr_none] at opens
  obtain ⟨front, after, rfl, between, rfl, later⟩ := wordwise.split parts (Or.inl opens)
  obtain ⟨word, back, rfl, _, rfl, rfl⟩ := wordwise.split later (Or.inr closes)
  have run := wordwise.run_of_map ⟨present, inside⟩
  have side : SameSide front.getLast? (f front).getLast? := by
    rw [← lastOr_none, ← lastOr_none]
    exact wordwise.sameSide_last (Or.inl rfl) front
  refine ⟨word, ⟨front, back, rfl, run.present, run.inside, ?_, ?_⟩, run, rfl⟩
  · rwa [lastOr_none, ← side.opensWord_eq]
  · rwa [← wordwise.closesWord_map]

theorem hasWord_of_stands {shape : Token.Shape} {text : Text} {offset : Nat} {token : Token}
    (stands : shape.Stands text offset token) (run : WordRun token.written) :
    HasWord none text token.written := by
  refine ⟨text.take offset, text.drop (offset + token.written.length), ?_, run.present, run.inside,
    ?_, stands.closes⟩
  · rw [← stands.parts, List.take_append_drop]
  · rw [lastOr_none]
    exact stands.opens

end Text

namespace Token

/-- The word is a single-value token of the name. -/
def Bears (name word : Text) : Prop :=
  ∃ token : Token, word = token.written ∧
    (Text.Spells Grammar.standard.startWord token.word ∨
      Text.Spells Grammar.standard.stopWord token.word) ∧
    token.separator = ['_'] ∧ Text.Spells name token.name

/-- The parts of the token are what the shape asks for. -/
structure Shape.Admits (shape : Shape) (token : Token) : Prop where
  word : shape.word token.word
  separator : shape.separator token.separator
  name : shape.name token.name

theorem Shape.At.admits {shape : Shape} {previous : Option Char} {text rest : Text} {token : Token}
    (stands : shape.At previous text token rest) : shape.Admits token :=
  ⟨stands.word, stands.separator, stands.name⟩

/-- Tokens that start or stop a definition. -/
def bound : Shape :=
  { word := fun word => Text.Spells Grammar.standard.startWord word ∨
      Text.Spells Grammar.standard.stopWord word
    separator := fun separator => separator = ['_'] ∨ separator = ['_', '_']
    name := IsName }

/-- What a token of the name is turned into. -/
def doubled (token : Token) : Text :=
  token.word ++ Grammar.standard.separator true ++ token.name

variable {name : Text} {token : Token}

theorem isWord_underscore : Text.isWord '_' = true := by decide

theorem isWord_of_marker_word {word : Text}
    (spells : Text.Spells Grammar.standard.startWord word ∨
      Text.Spells Grammar.standard.stopWord word) : ∀ c ∈ word, Text.isWord c = true := by
  intro c member
  apply Text.isWord_of_isAlphanumeric
  rcases spells with starts | stops
  · exact isAlphanumeric_of_spells standard_ordinary.startWord starts c member
  · exact isAlphanumeric_of_spells standard_ordinary.stopWord stops c member

theorem bearer_separator {separator : Text} (spells : Text.Spells Grammar.standard.split separator) :
    separator = ['_'] := by
  obtain ⟨c, rfl, same⟩ := List.map_eq_singleton_iff.mp spells.symm
  rw [Text.eq_of_alike_underscore (beq_iff_eq.mpr same.symm)]

-- The two marker words differ in their third letter.
theorem marker_words_apart {first second after after' : Text}
    (starts : Text.Spells Grammar.standard.startWord first)
    (stops : Text.Spells Grammar.standard.stopWord second) : first ++ after ≠ second ++ after' := by
  intro same
  obtain ⟨a, rest, rfl, _, starts⟩ := List.map_eq_cons_iff.mp starts.symm
  obtain ⟨b, rest, rfl, _, starts⟩ := List.map_eq_cons_iff.mp starts
  obtain ⟨c, rest, rfl, third, _⟩ := List.map_eq_cons_iff.mp starts
  obtain ⟨a', rest', rfl, _, stops⟩ := List.map_eq_cons_iff.mp stops.symm
  obtain ⟨b', rest', rfl, _, stops⟩ := List.map_eq_cons_iff.mp stops
  obtain ⟨c', rest', rfl, third', _⟩ := List.map_eq_cons_iff.mp stops
  simp only [List.cons_append, List.cons.injEq] at same
  rw [same.2.2.1, third'] at third
  revert third
  decide

theorem marker_word_unique {first second after after' : Text}
    (marker : Text.Spells Grammar.standard.startWord first ∨
      Text.Spells Grammar.standard.stopWord first)
    (marker' : Text.Spells Grammar.standard.startWord second ∨
      Text.Spells Grammar.standard.stopWord second)
    (same : first ++ after = second ++ after') : first = second ∧ after = after' := by
  rcases marker with starts | stops
  · rcases marker' with starts' | stops'
    · exact List.append_inj same (starts.length_eq.trans starts'.length_eq.symm)
    · exact absurd same (marker_words_apart starts stops')
  · rcases marker' with starts' | stops'
    · exact absurd same.symm (marker_words_apart starts' stops)
    · exact List.append_inj same (stops.length_eq.trans stops'.length_eq.symm)

theorem wordRun_of_bound (bounds : bound.Admits token) : Text.WordRun token.written := by
  have present := bounds.name.ne_nil
  refine ⟨by simp [written, present], fun c member => ?_⟩
  rw [written, List.mem_append, List.mem_append] at member
  rcases member with (inWord | between) | inName
  · exact isWord_of_marker_word bounds.word c inWord
  · have underscore : c = '_' := by
      rcases bounds.separator with once | twice
      · simpa [once] using between
      · simpa [twice] using between
    rw [underscore]
    exact isWord_underscore
  · exact Text.isWord_of_isNameTail (bounds.name.tail c inName)

theorem separates_of_bound (bounds : bound.Admits token) :
    Separates Grammar.standard.split token.separator := by
  rcases bounds.separator with once | twice
  · exact Or.inl (once ▸ Text.Spells.refl _)
  · exact Or.inr (twice ▸ Text.Spells.refl _)

-- A token is read off its written form in one way.
theorem bound_unique {other : Token} (bounds : bound.Admits token) (bounds' : bound.Admits other)
    (same : token.written = other.written) : token = other := by
  simp only [written, List.append_assoc] at same
  obtain ⟨sameWord, after⟩ := marker_word_unique bounds.word bounds'.word same
  have sameSeparator : token.separator = other.separator :=
    @separator_unique Grammar.standard standard_ordinary.legible _ _ _ _ [] [] (separates_of_bound bounds)
      (separates_of_bound bounds') bounds.name bounds'.name (by simpa using after)
  rw [sameSeparator] at after
  cases token
  cases other
  cases sameWord
  cases sameSeparator
  cases List.append_cancel_left after
  rfl

section Bearer

variable (named : IsName name) {previous : Option Char} {text rest : Text}

theorem bears_of_at (stands : (bearer Grammar.standard name).At previous text token rest) :
    Bears name token.written :=
  ⟨token, rfl, stands.word, bearer_separator stands.separator, stands.name⟩

include named in
theorem bound_of_spells
    (marker : Text.Spells Grammar.standard.startWord token.word ∨
      Text.Spells Grammar.standard.stopWord token.word)
    (separator : token.separator = ['_']) (spells : Text.Spells name token.name) :
    bound.Admits token :=
  ⟨marker, Or.inl separator, named.of_spells spells⟩

include named in
theorem wordRun_of_bears {word : Text} (bears : Bears name word) : Text.WordRun word := by
  obtain ⟨token, rfl, marker, separator, spells⟩ := bears
  exact wordRun_of_bound (bound_of_spells named marker separator spells)

theorem wordRun_doubled (bounds : bound.Admits token) : Text.WordRun token.doubled :=
  @wordRun_of_bound { token with separator := Grammar.standard.separator true }
    ⟨bounds.word, Or.inr rfl, bounds.name⟩

-- A word with the separator twice is no single-value token.
theorem not_bears_doubled (named : IsName name) {other : Token}
    (marker : Text.Spells Grammar.standard.startWord other.word ∨
      Text.Spells Grammar.standard.stopWord other.word) : ¬ Bears name other.doubled := by
  rintro ⟨token, same, marker', separator, spells⟩
  rw [doubled, written, separator, List.append_assoc, List.append_assoc] at same
  have after := (marker_word_unique marker marker' same).2
  -- the name would begin with the second underscore
  have begins : token.name = '_' :: other.name := (List.cons.inj after).2.symm
  have head := (named.of_spells spells)
  rw [begins] at head
  exact absurd head.1 (by decide)

end Bearer

-- A token that is one of the words of a text stands in it.
theorem Shape.exists_stands {shape : Shape} {text : Text} (admits : shape.Admits token)
    (holds : Text.HasWord none text token.written) : ∃ offset, shape.Stands text offset token := by
  obtain ⟨front, back, rfl, _, _, opens, closes⟩ := holds
  rw [lastOr_none] at opens
  refine ⟨front.length, ?_⟩
  rw [Shape.Stands, List.take_left, List.drop_left, ← List.drop_drop, List.drop_left, List.drop_left]
  exact ⟨opens, rfl, admits.word, admits.separator, admits.name, closes⟩

end Token

namespace Engine

variable {engine : Engine} (standard : engine.grammar = Grammar.standard) {name other text : Text}

include standard

section Words

variable (named : IsName name) {word rest : Text} {token : Token}

theorem doubleMarkers_eq (name text : Text) :
    engine.doubleMarkers name text =
      (ofText (Token.named Grammar.standard name) none text).fill Token.doubled := by
  rw [doubleMarkers, standard]
  rfl

omit standard in
theorem named_faithful (name : Text) :
    Faithful Token.written (Token.named Grammar.standard name) :=
  (Token.bearer_readBy Grammar.standard name).faithful
    (Token.bearer_lettered standard_ordinary.legible name)

omit standard in
theorem named_of_closesWord (closes : closesWord text = true) (previous : Option Char) :
    Token.named Grammar.standard name previous text = [] := by
  apply List.eq_nil_iff_forall_not_mem.mpr
  rintro ⟨token, rest⟩ member
  obtain ⟨c, after, rfl, word⟩ := ((Token.bearer_readBy _ _ _ _ _ _).mp member).head
    (Token.bearer_lettered standard_ordinary.legible name)
  simp [closesWord, word] at closes

-- Between words the text before a place makes no difference.
theorem doubleMarkers_after (closes : closesWord text = true) (previous : Option Char) :
    (ofText (Token.named Grammar.standard name) previous text).fill Token.doubled =
      engine.doubleMarkers name text := by
  rw [doubleMarkers_eq standard, ofText_congr (named_faithful name)
    ((named_of_closesWord closes previous).trans (named_of_closesWord closes none).symm)]

theorem doubleMarkers_nil : engine.doubleMarkers name [] = [] := by
  rw [doubleMarkers_eq standard, ofText_nil (named_faithful name)]
  rfl

theorem doubleMarkers_skip {c : Char} (outside : Text.isWord c = false) (rest : Text) :
    engine.doubleMarkers name (c :: rest) = c :: engine.doubleMarkers name rest := by
  have closes : closesWord (c :: rest) = true := by simp [closesWord, outside]
  have opens : Token.named Grammar.standard name (some c) rest =
      Token.named Grammar.standard name none rest := by
    simp [Token.named, opensWord, outside]
  rw [doubleMarkers_eq standard, ofText_plain (named_of_closesWord closes none), fill_plain,
    ofText_congr (named_faithful name) opens, ← doubleMarkers_eq standard]

include named

theorem doubleMarkers_bearer
    (marker : Text.Spells Grammar.standard.startWord token.word ∨
      Text.Spells Grammar.standard.stopWord token.word)
    (separator : token.separator = ['_']) (spells : Text.Spells name token.name)
    (closes : closesWord rest = true) :
    engine.doubleMarkers name (token.written ++ rest) =
      token.doubled ++ engine.doubleMarkers name rest := by
  have stands : (Token.bearer Grammar.standard name).At none (token.written ++ rest) token rest :=
    ⟨rfl, rfl, marker, by rw [separator]; exact Text.Spells.refl _, spells, closes⟩
  have preferred : (Token.named Grammar.standard name none (token.written ++ rest)).head? =
      some (token, rest) := by
    obtain ⟨⟨other, rest'⟩, first⟩ := Option.isSome_iff_exists.mp (List.isSome_head?.mpr
      (List.ne_nil_of_mem ((Token.bearer_readBy _ _ _ _ _ _).mpr stands)))
    have stands' := (Token.bearer_readBy _ _ _ _ _ _).mp (List.mem_of_mem_head? first)
    -- a token is all of its word, so what is read first is this token
    have same := Text.word_unique (Token.wordRun_of_bears named (Token.bears_of_at stands)).inside
      closes (Token.wordRun_of_bears named (Token.bears_of_at stands')).inside stands'.closes
      stands'.parts
    have equal := Token.bound_unique (Token.bound_of_spells named marker separator spells)
      (Token.bound_of_spells named stands'.word (Token.bearer_separator stands'.separator)
        stands'.name) same
    subst equal
    rw [first, List.append_cancel_left stands'.parts]
  rw [doubleMarkers_eq standard, ofText_marked (named_faithful name) preferred, fill_marked,
    doubleMarkers_after standard closes]

theorem doubleMarkers_other (run : Text.WordRun word) (unborne : ¬ Token.Bears name word)
    (closes : closesWord rest = true) :
    engine.doubleMarkers name (word ++ rest) = word ++ engine.doubleMarkers name rest := by
  have here : Token.named Grammar.standard name none (word ++ rest) = [] := by
    apply List.eq_nil_iff_forall_not_mem.mpr
    rintro ⟨token, rest'⟩ member
    have stands := (Token.bearer_readBy _ _ _ _ _ _).mp member
    have bears := Token.bears_of_at stands
    rw [← Text.word_unique run.inside closes (Token.wordRun_of_bears named bears).inside
      stands.closes stands.parts] at bears
    exact unborne bears
  have unread : ∀ offset < word.length,
      readAt (Token.named Grammar.standard name) none (word ++ rest) offset = [] := by
    intro offset inside
    cases offset with
    | zero => rw [readAt_zero, here]
    | succ offset =>
      -- no token begins inside the word
      have taken : Text.WordRun ((word ++ rest).take (offset + 1)) := by
        rw [List.take_append_of_le_length (by omega)]
        exact ⟨List.ne_nil_of_length_pos (by simp; omega),
          fun c member => run.inside c (List.mem_of_mem_take member)⟩
      simp [readAt, Token.named, taken.opensWord_lastOr none]
  rw [doubleMarkers_eq standard, ofText_append unread, fill_plains,
    doubleMarkers_after standard closes]

theorem doubleMarkers_written
    (marker : Text.Spells Grammar.standard.startWord token.word ∨
      Text.Spells Grammar.standard.stopWord token.word)
    (separator : token.separator = ['_']) (spells : Text.Spells name token.name) :
    engine.doubleMarkers name token.written = token.doubled := by
  have whole := doubleMarkers_bearer standard named marker separator spells
    (show closesWord [] = true from rfl)
  rwa [List.append_nil, doubleMarkers_nil standard, List.append_nil] at whole

theorem doubleMarkers_eq_self (run : Text.WordRun word) (unborne : ¬ Token.Bears name word) :
    engine.doubleMarkers name word = word := by
  have whole := doubleMarkers_other standard named run unborne (show closesWord [] = true from rfl)
  rwa [List.append_nil, doubleMarkers_nil standard, List.append_nil] at whole

/-- Doubling the markers of a name works word by word. -/
theorem wordwise_doubleMarkers : Text.Wordwise (engine.doubleMarkers name) where
  nil := doubleMarkers_nil standard
  skip := fun _ rest outside => doubleMarkers_skip standard outside rest
  word := by
    intro word rest run closes
    by_cases bears : Token.Bears name word
    · obtain ⟨token, rfl, marker, separator, spells⟩ := bears
      rw [doubleMarkers_bearer standard named marker separator spells closes,
        doubleMarkers_written standard named marker separator spells]
    · rw [doubleMarkers_other standard named run bears closes,
        doubleMarkers_eq_self standard named run bears]
  run := by
    intro word run
    by_cases bears : Token.Bears name word
    · obtain ⟨token, rfl, marker, separator, spells⟩ := bears
      rw [doubleMarkers_written standard named marker separator spells]
      exact Token.wordRun_doubled (Token.bound_of_spells named marker separator spells)
    · rwa [doubleMarkers_eq_self standard named run bears]

end Words

/-- No whole word of the text is a single-value token of the name. -/
def Lacks (name text : Text) : Prop :=
  ∀ word, Text.HasWord none text word → ¬ Token.Bears name word

-- Words of the doubled text are words of the text that are no single-value tokens of the
-- name, or doubled tokens.
theorem hasWord_of_doubleMarkers (named : IsName name) {word : Text}
    (holds : Text.HasWord none (engine.doubleMarkers name text) word) :
    (Text.HasWord none text word ∧ ¬ Token.Bears name word) ∨
      ∃ token : Token, (Text.Spells Grammar.standard.startWord token.word ∨
        Text.Spells Grammar.standard.stopWord token.word) ∧ word = token.doubled := by
  obtain ⟨source, inText, run, rfl⟩ := (wordwise_doubleMarkers standard named).exists_word holds
  by_cases bears : Token.Bears name source
  · obtain ⟨token, rfl, marker, separator, spells⟩ := bears
    exact Or.inr ⟨token, marker, doubleMarkers_written standard named marker separator spells⟩
  · rw [doubleMarkers_eq_self standard named run bears]
    exact Or.inl ⟨inText, bears⟩

theorem lacks_doubleMarkers (named : IsName name) : Lacks name (engine.doubleMarkers name text) := by
  intro word holds bears
  rcases hasWord_of_doubleMarkers standard named holds with ⟨_, unborne⟩ | ⟨token, marker, rfl⟩
  · exact unborne bears
  · exact Token.not_bears_doubled named marker bears

-- A name once doubled stays without tokens when another name is doubled.
theorem Lacks.doubleMarkers (named : IsName name) (named' : IsName other)
    (lacks : Lacks name text) : Lacks name (engine.doubleMarkers other text) := by
  intro word holds bears
  rcases hasWord_of_doubleMarkers standard named' holds with ⟨stays, _⟩ | ⟨token, marker, rfl⟩
  · exact lacks word stays bears
  · exact Token.not_bears_doubled named marker bears

omit standard in
/-- A text without tokens of a name does not define it as a single-value block. -/
theorem lookup_of_lacks (named : IsName name) (lacks : Lacks name text)
    (same : Text.fold other = Text.fold name) :
    (Extraction.blockMap Grammar.standard text).lookup other false = none := by
  by_contra found
  obtain ⟨offset, token, stands, sameName, single⟩ :=
    Extraction.exists_start_of_lookup (Option.isSome_iff_ne_none.mpr found)
  have separator : token.separator = ['_'] := by
    rw [standard_separator stands, single]
    rfl
  have bears : Token.Bears name token.written :=
    ⟨token, rfl, Or.inl stands.word, separator,
      Text.spells_of_fold_eq named stands.name (by rw [sameName, same])⟩
  exact lacks token.written
    (Text.hasWord_of_stands stands (Token.wordRun_of_bears named bears)) bears

end Engine

end Transclusion

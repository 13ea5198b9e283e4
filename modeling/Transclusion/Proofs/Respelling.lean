import Transclusion.Proofs.Doubling

/-!
Respelling the markers of some names: their single-value tokens get the separator twice and
all other words stay. Tokens and markers of definitions are read off the respelled text
where they are read off the text, respelled.
-/

namespace Transclusion

open Cutting

/-- The name is a case form of one of the names. -/
def Among (names : List Text) (name : Text) : Prop :=
  ∃ other ∈ names, Text.Spells other name

instance (names : List Text) (name : Text) : Decidable (Among names name) :=
  inferInstanceAs (Decidable (∃ other ∈ names, Text.Spells other name))

theorem Among.of_spells {names : List Text} {name other : Text} (among : Among names name)
    (spells : Text.Spells name other) : Among names other := by
  obtain ⟨listed, member, same⟩ := among
  exact ⟨listed, member, same.trans spells⟩

theorem among_append {names others : List Text} {name : Text} :
    Among (names ++ others) name ↔ Among names name ∨ Among others name := by
  simp only [Among, List.mem_append, or_and_right, exists_or]

namespace Token

variable {names : List Text} {token other : Token}

theorem bound_of_opener
    (admits : (opener Grammar.standard Grammar.standard.startWord).Admits token) :
    bound.Admits token :=
  ⟨Or.inl admits.word, separator_of_separates_underscore admits.separator, admits.name⟩

theorem bound_of_closer (opened : bound.Admits other)
    (admits : (closer Grammar.standard other).Admits token) : bound.Admits token := by
  refine ⟨Or.inr admits.word, ?_, opened.name.of_spells (Text.spells_of_sameLower admits.name)⟩
  have only : ∀ c ∈ other.separator, c = '_' := by
    rcases opened.separator with once | twice
    · simp [once]
    · simp [twice]
  rw [bound, eq_of_sameLower_underscores only admits.separator]
  exact opened.separator

/-- The token with the separator twice, if it is a single-value token of one of the names. -/
def respelled (names : List Text) (token : Token) : Token :=
  if token.separator = ['_'] ∧ Among names token.name then
    { token with separator := Grammar.standard.separator true }
  else token

theorem respelled_word (names : List Text) (token : Token) :
    (token.respelled names).word = token.word := by
  rw [respelled]
  split <;> rfl

theorem respelled_name (names : List Text) (token : Token) :
    (token.respelled names).name = token.name := by
  rw [respelled]
  split <;> rfl

theorem bound_respelled (bounds : bound.Admits token) : bound.Admits (token.respelled names) := by
  refine ⟨by rw [respelled_word]; exact bounds.word, ?_, by rw [respelled_name]; exact bounds.name⟩
  rw [respelled]
  split
  · exact Or.inr rfl
  · exact bounds.separator

theorem respelled_written (names : List Text) (token : Token) :
    (token.respelled names).written =
      if token.separator = ['_'] ∧ Among names token.name then token.doubled else token.written := by
  rw [respelled]
  split <;> rfl

-- A doubled token is no single-value token.
theorem doubled_ne_written (bounds : bound.Admits token) (bounds' : bound.Admits other)
    (single : other.separator = ['_']) : token.doubled ≠ other.written := by
  intro same
  have equal := @bound_unique { token with separator := Grammar.standard.separator true } other
    ⟨bounds.word, Or.inr rfl, bounds.name⟩ bounds' same
  rw [← equal] at single
  cases single

end Token

open Token

/-- A map that turns the single-value tokens of some names into multi-value ones, and keeps
all other words. -/
structure Respells (names : List Text) (f : Text → Text) : Prop extends Text.Wordwise f where
  doubles : ∀ token, bound.Admits token → token.separator = ['_'] → Among names token.name →
    f token.written = token.doubled
  keeps : ∀ word, Text.WordRun word → (∀ token, bound.Admits token → token.separator = ['_'] →
    Among names token.name → word ≠ token.written) → f word = word

theorem respells_nil : Respells [] id where
  toWordwise := Text.wordwise_id
  doubles := by
    rintro _ _ _ ⟨_, none, _⟩
    cases none
  keeps := fun _ _ _ => rfl

theorem respells_doubleMarkers {engine : Engine} (standard : engine.grammar = Grammar.standard)
    {name : Text} (named : IsName name) : Respells [name] (engine.doubleMarkers name) where
  toWordwise := Engine.wordwise_doubleMarkers standard named
  doubles := by
    rintro token bounds single ⟨other, listed, spells⟩
    rw [List.mem_singleton.mp listed] at spells
    exact Engine.doubleMarkers_written standard named bounds.word single spells
  keeps := by
    intro word run others
    refine Engine.doubleMarkers_eq_self standard named run ?_
    rintro ⟨token, written, marker, single, spells⟩
    exact others token (bound_of_spells named marker single spells) single
      ⟨name, List.mem_singleton_self name, spells⟩ written

theorem Respells.compose {names others : List Text} {f g : Text → Text} (first : Respells names f)
    (second : Respells others g) : Respells (names ++ others) (fun text => g (f text)) where
  toWordwise := first.toWordwise.comp second.toWordwise
  doubles := by
    intro token bounds single among
    by_cases here : Among names token.name
    · rw [first.doubles token bounds single here]
      -- what the first map has doubled the second one keeps
      exact second.keeps _ (wordRun_doubled bounds) fun other bounds' single' _ =>
        doubled_ne_written bounds bounds' single'
    · have kept : f token.written = token.written := by
        refine first.keeps _ (wordRun_of_bound bounds) fun other bounds' _ among' same => here ?_
        rwa [bound_unique bounds bounds' same]
      rw [kept]
      exact second.doubles token bounds single ((among_append.mp among).resolve_left here)
  keeps := by
    intro word run unlisted
    have kept : f word = word := first.keeps word run fun token bounds single among =>
      unlisted token bounds single (among_append.mpr (Or.inl among))
    rw [kept]
    exact second.keeps word run fun token bounds single among =>
      unlisted token bounds single (among_append.mpr (Or.inr among))

namespace Engine

/-- The text with the markers of all the names doubled, one name after the other. -/
def doubleAll (engine : Engine) (names : List Text) (text : Text) : Text :=
  names.foldl (fun text name => engine.doubleMarkers name text) text

theorem respells_doubleAll {engine : Engine} (standard : engine.grammar = Grammar.standard)
    {names : List Text} (named : ∀ name ∈ names, IsName name) :
    Respells names (engine.doubleAll names) := by
  induction names with
  | nil => exact respells_nil
  | cons name names ih =>
    exact (respells_doubleMarkers standard (named name (by simp))).compose
      (ih fun other later => named other (List.mem_cons_of_mem name later))

end Engine

namespace Respells

variable {names : List Text} {f : Text → Text} (respells : Respells names f)

include respells

section Words

theorem map_written {token : Token} (bounds : bound.Admits token) :
    f token.written = (token.respelled names).written := by
  rw [respelled_written]
  split
  · next changes => exact respells.doubles token bounds changes.1 changes.2
  · next stays =>
    refine respells.keeps _ (wordRun_of_bound bounds) fun other bounds' single among same => ?_
    rw [← bound_unique bounds bounds' same] at single among
    exact stays ⟨single, among⟩

-- The words that become a token are tokens.
theorem exists_token {word : Text} {token' : Token} (run : Text.WordRun word)
    (bounds' : bound.Admits token') (image : f word = token'.written) :
    ∃ token, bound.Admits token ∧ word = token.written ∧ token.respelled names = token' := by
  by_cases changes : ∃ token, bound.Admits token ∧ token.separator = ['_'] ∧
      Among names token.name ∧ word = token.written
  · obtain ⟨token, bounds, single, among, rfl⟩ := changes
    rw [respells.map_written bounds] at image
    exact ⟨token, bounds, rfl, bound_unique (bound_respelled bounds) bounds' image⟩
  · have kept : f word = word := respells.keeps word run fun token bounds single among same =>
      changes ⟨token, bounds, single, among, same⟩
    rw [kept] at image
    refine ⟨token', bounds', image, ?_⟩
    rw [respelled, if_neg fun ⟨single, among⟩ => changes ⟨token', bounds', single, among, image⟩]

-- Words without an underscore stay, and no others become such words.
theorem map_of_plain {text : Text} (plain : '_' ∉ text) : f text = text := by
  induction text using Text.wordByWord with
  | nil => exact respells.nil
  | skip c rest outside ih =>
    rw [respells.skip c rest outside, ih fun member => plain (List.mem_cons_of_mem c member)]
  | word word rest run closes ih =>
    have kept : f word = word := by
      refine respells.keeps word run fun token bounds single among same => plain ?_
      rw [same, written, single]
      simp
    rw [respells.word word rest run closes, kept,
      ih fun member => plain (List.mem_append_right word member)]

theorem eq_of_map_plain {text image : Text} (plain : '_' ∉ image) (same : f text = image) :
    text = image := by
  subst same
  induction text using Text.wordByWord with
  | nil => exact respells.nil.symm
  | skip c rest outside ih =>
    rw [respells.skip c rest outside] at plain ⊢
    rw [← ih fun member => plain (List.mem_cons_of_mem c member)]
  | word word rest run closes ih =>
    rw [respells.word word rest run closes] at plain ⊢
    have kept : f word = word := by
      refine respells.keeps word run fun token bounds single among same => ?_
      have doubled := respells.doubles token bounds single among
      rw [← same] at doubled
      exact plain (by rw [doubled, Token.doubled]; simp [Grammar.separator, Grammar.standard])
    rw [kept, ← ih fun member => plain (List.mem_append_right _ member)]

end Words

end Respells

end Transclusion

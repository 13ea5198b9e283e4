import Transclusion.Proofs.Respelling
import Transclusion.Proofs.Validation

/-!
What validation does to a text, seen token by token. The doublings come one after the other,
each on what the last one made, and still touch just the tokens that stand in the text that
was given: a token is a whole word, and each word is doubled for one name or stays.
-/

namespace Transclusion

open Cutting

namespace Token.Shape

variable {shape : Shape} {front rest : Text} {place : Nat} {token : Token}

/-- Where a token stands depends on what is before it through one question alone. -/
theorem At.of_opens {previous other : Option Char} {text : Text}
    (stands : shape.At previous text token rest) (opens : opensWord other = true) :
    shape.At other text token rest :=
  ⟨opens, stands.parts, stands.word, stands.separator, stands.name, stands.closes⟩

theorem not_stands_nil (lettered : shape.Lettered) : ¬ shape.Stands [] place token := by
  intro stands
  obtain ⟨c, after, none, _⟩ := stands.head lettered
  rw [List.drop_nil] at none
  cases none

-- A token that no word joins to the text before it stands there with or without that text.
theorem stands_append (lettered : shape.Lettered) (apart : Text.Apart front rest) :
    shape.Stands (front ++ rest) (front.length + place) token ↔ shape.Stands rest place token := by
  have dropped : ∀ more, (front ++ rest).drop (front.length + more) = rest.drop more := by
    intro more
    rw [← List.drop_drop, List.drop_left]
  have taken : (front ++ rest).take (front.length + place) = front ++ rest.take place := by
    rw [List.take_add, List.take_left, List.drop_left]
  rw [Stands, Stands, Nat.add_assoc, dropped, dropped, taken]
  by_cases start : rest.take place = []
  · constructor
    · intro stands
      rw [start]
      exact stands.of_opens rfl
    · intro stands
      rw [start, List.append_nil]
      apply stands.of_opens
      -- the token begins the rest with a word character
      obtain ⟨c, after, head, word⟩ := stands.head lettered
      have begins : rest = c :: after := by
        rcases List.take_eq_nil_iff.mp start with rfl | rfl
        · exact head
        · rw [List.drop_nil] at head
          cases head
      rcases apart with opens | closes
      · exact opens
      · rw [begins, closesWord, word] at closes
        cases closes
  · rw [List.getLast?_append_of_ne_nil _ start]

-- A token stands at the beginning of a piece or after it.
theorem stands_piece (lettered : shape.Lettered) (piece : Text.Piece front)
    (apart : Text.Apart front rest) :
    shape.Stands (front ++ rest) place token ↔
      (place = 0 ∧ shape.Stands (front ++ rest) 0 token) ∨
        ∃ later, place = front.length + later ∧ shape.Stands rest later token := by
  constructor
  · intro stands
    rcases Nat.eq_zero_or_pos place with rfl | after
    · exact Or.inl ⟨rfl, stands⟩
    · right
      by_cases before : place < front.length
      · have within := (@Text.Piece.inside front rest piece place after before none).1
        rw [lastOr_none, stands.opens] at within
        cases within
      · obtain ⟨later, rfl⟩ := Nat.exists_eq_add_of_le (Nat.le_of_not_lt before)
        exact ⟨later, rfl, (stands_append lettered apart).mp stands⟩
  · rintro (⟨rfl, stands⟩ | ⟨later, rfl, stands⟩)
    · exact stands
    · exact (stands_append lettered apart).mpr stands

end Token.Shape

namespace Token

/-- Start and stop tokens of some names, with the separator once. -/
def bearers (names : List Text) : Shape :=
  { word := fun word => Text.Spells Grammar.standard.startWord word ∨
      Text.Spells Grammar.standard.stopWord word
    separator := Text.Spells Grammar.standard.split
    name := Among names }

variable {names : List Text} {text : Text} {offset : Nat} {token : Token}

theorem stands_bearers_iff :
    (bearers names).Stands text offset token ↔
      ∃ name ∈ names, (bearer Grammar.standard name).Stands text offset token := by
  constructor
  · rintro ⟨opens, parts, word, separator, ⟨name, member, spells⟩, closes⟩
    exact ⟨name, member, opens, parts, word, separator, spells, closes⟩
  · rintro ⟨name, member, opens, parts, word, separator, spells, closes⟩
    exact ⟨opens, parts, word, separator, ⟨name, member, spells⟩, closes⟩

theorem bearers_lettered : (bearers names).Lettered :=
  bearer_lettered standard_ordinary.legible []

theorem bound_of_bearers (named : ∀ name ∈ names, IsName name)
    (admits : (bearers names).Admits token) : bound.Admits token := by
  obtain ⟨name, member, spells⟩ := admits.name
  exact bound_of_spells (named name member) admits.word (bearer_separator admits.separator) spells

/-- The token with the separator once more, right after the word. -/
def widened (token : Token) : Text :=
  token.word ++ Grammar.standard.split ++ token.separator ++ token.name

end Token

open Token

/-- The text with the tokens that are touched widened, and nothing else changed. -/
def Widened (touched : Nat → Token → Prop) (text result : Text) : Prop :=
  ∃ cutting : Cutting Token,
    cutting.fill written = text ∧ cutting.fill widened = result ∧
    ∀ offset token, (offset, token) ∈ located written 0 cutting.cuts ↔ touched offset token

/-- A cutting of the text at the tokens of the names, which the map widens. -/
structure CutAtBearers (names : List Text) (f : Text → Text) (text : Text)
    (cutting : Cutting Token) : Prop where
  whole : cutting.fill written = text
  image : cutting.fill widened = f text
  placed : ∀ base offset token, (offset, token) ∈ located written base cutting.cuts ↔
    ∃ place, offset = base + place ∧ (bearers names).Stands text place token

namespace CutAtBearers

variable {names : List Text} {f : Text → Text} {front rest : Text} {cutting : Cutting Token}

-- The places of a text are those of its first piece and those after it.
theorem placed_piece (piece : Text.Piece front) (apart : Text.Apart front rest)
    (base offset : Nat) (token : Token) :
    (∃ place, offset = base + place ∧ (bearers names).Stands (front ++ rest) place token) ↔
      (offset = base ∧ (bearers names).Stands (front ++ rest) 0 token) ∨
        ∃ place, offset = base + front.length + place ∧
          (bearers names).Stands rest place token := by
  constructor
  · rintro ⟨place, rfl, stands⟩
    rcases (Shape.stands_piece bearers_lettered piece apart).mp stands with
      ⟨rfl, first⟩ | ⟨later, rfl, further⟩
    · exact Or.inl ⟨rfl, first⟩
    · exact Or.inr ⟨later, (Nat.add_assoc _ _ _).symm, further⟩
  · rintro (⟨rfl, first⟩ | ⟨later, rfl, further⟩)
    · exact ⟨0, rfl, first⟩
    · exact ⟨front.length + later, Nat.add_assoc _ _ _,
        (Shape.stands_append bearers_lettered apart).mpr further⟩

theorem nil (empty : f [] = []) : CutAtBearers names f [] {} where
  whole := rfl
  image := empty.symm
  placed := by
    intro base offset token
    constructor
    · intro member
      cases member
    · rintro ⟨place, _, stands⟩
      exact absurd stands (Shape.not_stands_nil bearers_lettered)

theorem plains (cut : CutAtBearers names f rest cutting) (piece : Text.Piece front)
    (apart : Text.Apart front rest) (kept : f (front ++ rest) = front ++ f rest)
    (unborne : ∀ token, ¬ (bearers names).Stands (front ++ rest) 0 token) :
    CutAtBearers names f (front ++ rest) (cutting.plains front) where
  whole := by rw [fill_plains, cut.whole]
  image := by rw [fill_plains, cut.image, kept]
  placed := by
    intro base offset token
    rw [located_plains, cut.placed, placed_piece piece apart]
    constructor
    · exact Or.inr
    · rintro (⟨_, first⟩ | further)
      · exact absurd first (unborne token)
      · exact further

theorem marked {token : Token} (cut : CutAtBearers names f rest cutting)
    (run : Text.WordRun token.written) (closes : closesWord rest = true)
    (changed : f (token.written ++ rest) = token.widened ++ f rest)
    (only : ∀ other, (bearers names).Stands (token.written ++ rest) 0 other ↔ other = token) :
    CutAtBearers names f (token.written ++ rest) (cutting.marked token) where
  whole := by rw [fill_marked, cut.whole]
  image := by rw [fill_marked, cut.image, changed]
  placed := by
    intro base offset other
    rw [located_marked, List.mem_cons, cut.placed, placed_piece (Or.inl run) (Or.inr closes), only,
      Prod.mk.injEq]

end CutAtBearers

section Words

variable {names : List Text} (named : ∀ name ∈ names, IsName name)

include named

-- A token that stands before a word is all of the word.
theorem stands_bearers_word_iff {word rest : Text} {token : Token} (run : Text.WordRun word)
    (closes : closesWord rest = true) :
    (bearers names).Stands (word ++ rest) 0 token ↔
      (bearers names).Admits token ∧ word = token.written := by
  constructor
  · intro stands
    have inside := (wordRun_of_bound (bound_of_bearers named stands.admits)).inside
    exact ⟨stands.admits,
      Text.word_unique run.inside closes inside stands.closes stands.parts⟩
  · rintro ⟨admits, rfl⟩
    have after : (token.written ++ rest).drop (0 + token.written.length) = rest := by
      rw [Nat.zero_add, List.drop_left]
    rw [Shape.Stands, after]
    exact ⟨rfl, rfl, admits.word, admits.separator, admits.name, closes⟩

/-- A map that respells the tokens of the names widens them where they stand. -/
theorem Respells.exists_cutAtBearers {f : Text → Text} (respells : Respells names f)
    (text : Text) : ∃ cutting, CutAtBearers names f text cutting := by
  induction text using Text.wordByWord with
  | nil => exact ⟨{}, .nil respells.nil⟩
  | skip c rest outside ih =>
    obtain ⟨cutting, cut⟩ := ih
    refine ⟨cutting.plains [c], cut.plains (Or.inr ⟨c, outside, rfl⟩)
      (Or.inl (by simp [opensWord, outside])) (respells.skip c rest outside) ?_⟩
    intro token stands
    obtain ⟨d, after, same, word⟩ := stands.head bearers_lettered
    rw [← (List.cons.inj same).1, outside] at word
    cases word
  | word word rest run closes ih =>
    obtain ⟨cutting, cut⟩ := ih
    by_cases borne : ∃ token, (bearers names).Admits token ∧ word = token.written
    · obtain ⟨token, admits, rfl⟩ := borne
      have bounds := bound_of_bearers named admits
      have single := bearer_separator admits.separator
      have changed : f token.written = token.widened := by
        rw [respells.doubles token bounds single admits.name, widened, single]
        simp [doubled, Grammar.separator, Grammar.standard]
      refine ⟨cutting.marked token, cut.marked run closes ?_ fun other => ?_⟩
      · rw [respells.word _ _ run closes, changed]
      · rw [stands_bearers_word_iff named run closes]
        constructor
        · rintro ⟨admits', same⟩
          exact bound_unique (bound_of_bearers named admits') bounds same.symm
        · rintro rfl
          exact ⟨admits, rfl⟩
    · refine ⟨cutting.plains word, cut.plains (Or.inl run) (Or.inr closes) ?_ fun token stands =>
        borne ⟨token, (stands_bearers_word_iff named run closes).mp stands⟩⟩
      have kept : f word = word := by
        refine respells.keeps word run fun token bounds single among same => borne ⟨token, ?_, same⟩
        exact ⟨bounds.word, by rw [single]; exact Text.Spells.refl _, among⟩
      rw [respells.word word rest run closes, kept]

/-- Doubling the markers of the names, one name after the other, widens the tokens of all of
them and changes nothing else. -/
theorem widened_doubleAll {engine : Engine} (standard : engine.grammar = Grammar.standard)
    (text : Text) :
    Widened (fun offset token => ∃ name ∈ names,
      (bearer Grammar.standard name).Stands text offset token) text (engine.doubleAll names text) := by
  obtain ⟨cutting, cut⟩ := (Engine.respells_doubleAll standard named).exists_cutAtBearers named text
  refine ⟨cutting, cut.whole, cut.image, fun offset token => ?_⟩
  have beginning : (∃ place, offset = 0 + place ∧ (bearers names).Stands text place token) ↔
      (bearers names).Stands text offset token := by
    simp
  exact (cut.placed 0 offset token).trans (beginning.trans stands_bearers_iff)

end Words

namespace Engine

variable {engine : Engine} {documents : List Document} {id : String} {fields : List String}
  {text name : Text}

/-- The text defines the name as a single-value block, and so does a text that another
document has in one of the fields. -/
structure Collides (documents : List Document) (id : String) (fields : List String)
    (text name : Text) : Prop where
  named : IsName name
  here : ((Extraction.blockMap Grammar.standard text).lookup name false).isSome = true
  elsewhere : ∃ document ∈ documents, document.id ≠ id ∧
    ∃ field ∈ fields, ∃ stored ∈ document.textsOf field,
      ((Extraction.blockMap Grammar.standard stored).lookup name false).isSome = true

/-- The names of the text that collide, as the text first spells them and in its order. -/
def colliding (engine : Engine) (documents : List Document) (id : String) (fields : List String)
    (text : Text) : List Text :=
  (Extraction.blockMap Grammar.standard text).singleNames.filter
    (engine.elsewhere documents id fields)

theorem doubledFor_eq_doubleAll (collides : Text → Bool) (names : List Text) (text : Text) :
    engine.doubledFor collides names text = engine.doubleAll (names.filter collides) text := by
  induction names generalizing text with
  | nil => rfl
  | cons name names ih =>
    rw [doubledFor, ih]
    cases collision : collides name with
    | false => simp [collision]
    | true => simp [collision, doubleAll]

theorem validation_eq :
    engine.validation documents id fields text =
      { text := engine.doubleAll (engine.colliding documents id fields text) text
        changed := !(engine.colliding documents id fields text).isEmpty
        warnings := (engine.colliding documents id fields text).map (engine.collisionOf id) } := by
  have any : ∀ (names : List Text) (collides : Text → Bool),
      names.any collides = !(names.filter collides).isEmpty := by
    intro names collides
    rw [Bool.eq_iff_iff]
    simp
  rw [validation, validatedNames, doubledFor_eq_doubleAll, any, Bool.false_or, List.nil_append]
  rfl

theorem isName_of_colliding (member : name ∈ engine.colliding documents id fields text) :
    IsName name :=
  Extraction.isName_of_singleNames (List.mem_of_mem_filter member)

section Standard

variable (standard : engine.grammar = Grammar.standard)

include standard

theorem defines_iff {document : Document} :
    engine.defines fields name document = true ↔
      ∃ field ∈ fields, ∃ stored ∈ document.textsOf field,
        ((Extraction.blockMap Grammar.standard stored).lookup name false).isSome = true := by
  simp only [defines, standard, List.any_eq_true]

theorem collides_iff :
    Collides documents id fields text name ↔
      IsName name ∧ ∃ listed ∈ engine.colliding documents id fields text,
        Text.fold listed = Text.fold name := by
  have taken : ∀ {name : Text}, engine.elsewhere documents id fields name = true ↔
      ∃ document ∈ documents, document.id ≠ id ∧
        ∃ field ∈ fields, ∃ stored ∈ document.textsOf field,
          ((Extraction.blockMap Grammar.standard stored).lookup name false).isSome = true := by
    intro name
    simp only [elsewhere_iff, defines_iff standard]
  constructor
  · rintro ⟨named, here, there⟩
    obtain ⟨listed, member, same⟩ := Extraction.exists_singleName here
    refine ⟨named, listed, List.mem_filter.mpr ⟨member, ?_⟩, same⟩
    rw [elsewhere_of_fold_eq same]
    exact taken.mpr there
  · rintro ⟨named, listed, member, same⟩
    obtain ⟨single, collision⟩ := List.mem_filter.mp member
    rw [elsewhere_of_fold_eq same] at collision
    refine ⟨named, ?_, taken.mp collision⟩
    have here := BlockMap.isSome_lookup_of_singleNames single
    simp only [BlockMap.lookup, BlockMap.find?, Block.answers, same] at here ⊢
    exact here

-- A colliding name is spelled by its listed form, so both have the same tokens.
theorem exists_collides_stands_iff {offset : Nat} {token : Token} :
    (∃ name, Collides documents id fields text name ∧
        (bearer Grammar.standard name).Stands text offset token) ↔
      ∃ name ∈ engine.colliding documents id fields text,
        (bearer Grammar.standard name).Stands text offset token := by
  constructor
  · rintro ⟨name, collides, stands⟩
    obtain ⟨named, listed, member, same⟩ := (collides_iff standard).mp collides
    have spells := Text.spells_of_fold_eq (isName_of_colliding member) named same
    exact ⟨listed, member, stands.opens, stands.parts, stands.word, stands.separator,
      spells.trans stands.name, stands.closes⟩
  · rintro ⟨name, member, stands⟩
    exact ⟨name, (collides_iff standard).mpr ⟨isName_of_colliding member, name, member, rfl⟩, stands⟩

/-- No token of a colliding name is left. -/
theorem not_stands_validation (collides : Collides documents id fields text name) (offset : Nat)
    (token : Token) :
    ¬ (bearer Grammar.standard name).Stands (engine.validation documents id fields text).text
      offset token := by
  intro stands
  obtain ⟨named, listed, member, same⟩ := (collides_iff standard).mp collides
  obtain ⟨single, collision⟩ := List.mem_filter.mp member
  have spells := Text.spells_of_fold_eq (isName_of_colliding member) named same
  have bears : Bears listed token.written :=
    ⟨token, rfl, stands.word, bearer_separator stands.separator, spells.trans stands.name⟩
  have lacks : Lacks listed (engine.validation documents id fields text).text :=
    lacks_doubledFor standard (fun other inside => Extraction.isName_of_singleNames inside) single
      collision
  exact lacks token.written
    (Text.hasWord_of_stands stands (wordRun_of_bears (isName_of_colliding member) bears)) bears

/-- A text with a colliding name does not stay as it is. -/
theorem validation_text_ne (collides : Collides documents id fields text name) :
    (engine.validation documents id fields text).text ≠ text := by
  intro same
  obtain ⟨offset, token, stands, sameName, single⟩ :=
    Extraction.exists_start_of_lookup collides.here
  have separator : token.separator = Grammar.standard.split := by
    rw [standard_separator stands, single]
    rfl
  apply not_stands_validation standard collides offset token
  rw [same]
  exact ⟨stands.opens, stands.parts, Or.inl stands.word, by rw [separator]; exact Text.Spells.refl _,
    Text.spells_of_fold_eq collides.named stands.name sameName.symm, stands.closes⟩

theorem exists_collides_iff :
    (∃ name, Collides documents id fields text name) ↔
      engine.colliding documents id fields text ≠ [] := by
  constructor
  · rintro ⟨name, collides⟩
    obtain ⟨_, listed, member, _⟩ := (collides_iff standard).mp collides
    exact List.ne_nil_of_mem member
  · intro listed
    obtain ⟨name, member⟩ := List.exists_mem_of_ne_nil _ listed
    exact ⟨name, (collides_iff standard).mpr ⟨isName_of_colliding member, name, member, rfl⟩⟩

theorem validation_changed_iff :
    (engine.validation documents id fields text).changed = true ↔
      ∃ name, Collides documents id fields text name := by
  rw [exists_collides_iff standard, validation_eq]
  simp

theorem validation_text_ne_iff :
    (engine.validation documents id fields text).text ≠ text ↔
      ∃ name, Collides documents id fields text name := by
  constructor
  · intro changed
    rw [exists_collides_iff standard]
    intro none
    apply changed
    rw [validation_eq, none]
    rfl
  · rintro ⟨name, collides⟩
    exact validation_text_ne standard collides

/-- Of the text that is validated, the tokens of the colliding names are widened. -/
theorem widened_validation :
    Widened (fun offset token => ∃ name, Collides documents id fields text name ∧
      (bearer Grammar.standard name).Stands text offset token) text
      (engine.validation documents id fields text).text := by
  simp only [exists_collides_stands_iff standard]
  rw [validation_eq]
  exact widened_doubleAll (fun name member => isName_of_colliding member) standard text

/-- Each colliding name is told of once, in the order of the text. -/
theorem exists_validation_warnings :
    ∃ names : List Text, names.Sublist (Extraction.blockMap Grammar.standard text).singleNames ∧
      (names.map Text.fold).Nodup ∧
      (∀ name, Collides documents id fields text name ↔
        IsName name ∧ ∃ listed ∈ names, Text.fold listed = Text.fold name) ∧
      (engine.validation documents id fields text).warnings =
        names.map (engine.collisionOf id) := by
  let names := engine.colliding documents id fields text
  have sublist : names.Sublist (Extraction.blockMap Grammar.standard text).singleNames :=
    List.filter_sublist
  refine ⟨names, sublist, ?_, fun name => collides_iff standard, by rw [validation_eq]⟩
  exact (Extraction.nodup_fold_singleNames _ text).sublist (sublist.map _)

end Standard

/-- What validation touches. Of the text that is given, exactly the single-value start and stop
tokens of the colliding names get the separator once more, after the word; none of these tokens
is left, each colliding name is told of once, in the order of the text, and the text is changed
just when there is one. -/
theorem validate_touches (language : Language) (override : Option Override)
    (capability offered : String) (documents : List Document) (enabled : List String) (id : String)
    (fields : List String) (text : Text) :
    let engine : Engine := { language, override, capability }
    let start : Session Archive :=
      { store := { shelf := .memory documents, enabledFields := enabled, capability := offered } }
    let collides := Collides documents id fields text
    ∃ result after, (engine.validate id fields text).runFrom start = (.ok result, after) ∧
      start.Follows after ∧
      Widened (fun offset token => ∃ name, collides name ∧
        (bearer Grammar.standard name).Stands text offset token) text result.text ∧
      (∀ name, collides name → ∀ offset token,
        ¬ (bearer Grammar.standard name).Stands result.text offset token) ∧
      (∃ names : List Text, names.Sublist (Extraction.blockMap Grammar.standard text).singleNames ∧
        (names.map Text.fold).Nodup ∧
        (∀ name, collides name ↔
          IsName name ∧ ∃ listed ∈ names, Text.fold listed = Text.fold name) ∧
        result.warnings = names.map (engine.collisionOf id)) ∧
      (result.changed = true ↔ ∃ name, collides name) ∧
      (result.text ≠ text ↔ ∃ name, collides name) := by
  intro engine start collides
  have standard : engine.grammar = Grammar.standard := rfl
  have holds : start.store.Holds documents := ⟨rfl, fun _ => rfl⟩
  obtain ⟨after, done, follows⟩ := validate_run standard id fields holds text
  exact ⟨engine.validation documents id fields text, after, done, follows,
    widened_validation standard, fun name collision => not_stands_validation standard collision,
    exists_validation_warnings standard, validation_changed_iff standard,
    validation_text_ne_iff standard⟩

end Engine

end Transclusion

import Transclusion.Proofs.Markers

/-!
Maps of texts that work word by word: a character that belongs to no word stays, and a whole
word becomes a whole word. Such a map keeps apart what no word joins, and each way to cut its
image between words comes from a way to cut the text.
-/

namespace Transclusion

open Cutting

namespace Text

/-- A run of word characters. -/
structure WordRun (word : Text) : Prop where
  present : word ≠ []
  inside : ∀ c ∈ word, isWord c = true

theorem closesWord_eq (text : Text) : closesWord text = opensWord text.head? := by
  cases text <;> rfl

theorem not_isWord_of_closesWord {back : Text} (closes : closesWord back = true) :
    ∀ c ∈ back.head?, isWord c = false := by
  intro c head
  rw [closesWord_eq, Option.mem_def.mp head] at closes
  simpa [opensWord] using closes

theorem closesWord_dropWhile (text : Text) : closesWord (text.dropWhile isWord) = true := by
  cases rest : text.dropWhile isWord with
  | nil => rfl
  | cons c more =>
    have stopped := List.head?_dropWhile_not isWord text
    rw [rest] at stopped
    simpa [closesWord] using stopped

-- A word at the front of a text is the run of word characters there.
theorem run_of_word {word back : Text} (inside : ∀ c ∈ word, isWord c = true)
    (closes : closesWord back = true) :
    (word ++ back).takeWhile isWord = word ∧ (word ++ back).dropWhile isWord = back :=
  run_eq_iff.mpr ⟨rfl, inside, not_isWord_of_closesWord closes⟩

theorem word_unique {first second rest rest' : Text} (inside : ∀ c ∈ first, isWord c = true)
    (closes : closesWord rest = true) (inside' : ∀ c ∈ second, isWord c = true)
    (closes' : closesWord rest' = true) (same : first ++ rest = second ++ rest') :
    first = second := by
  rw [← (run_of_word inside closes).1, same, (run_of_word inside' closes').1]

theorem WordRun.closesWord_append {word : Text} (run : WordRun word) (back : Text) :
    closesWord (word ++ back) = false := by
  obtain ⟨c, rest, rfl⟩ := List.exists_cons_of_ne_nil run.present
  simp [closesWord, run.inside c (by simp)]

theorem WordRun.opensWord_lastOr {word : Text} (run : WordRun word) (previous : Option Char) :
    opensWord (lastOr previous word) = false := by
  rw [lastOr_of_ne_nil run.present previous none, lastOr_none,
    List.getLast?_eq_some_getLast run.present]
  simp [opensWord, run.inside _ (List.getLast_mem run.present)]

/-- A text is empty, or begins with a character that is in no word, or with a whole word. -/
@[elab_as_elim]
theorem wordByWord {motive : Text → Prop} (nil : motive [])
    (skip : ∀ c rest, isWord c = false → motive rest → motive (c :: rest))
    (word : ∀ word rest, WordRun word → closesWord rest = true → motive rest →
      motive (word ++ rest)) (text : Text) : motive text := by
  induction length : text.length using Nat.strongRecOn generalizing text with
  | _ size ih =>
    cases text with
    | nil => exact nil
    | cons c rest =>
      cases inside : isWord c with
      | false => exact skip c rest inside (ih rest.length (by simp at length; omega) rest rfl)
      | true =>
        have run : WordRun ((c :: rest).takeWhile isWord) :=
          ⟨by simp [inside], fun d member => List.mem_takeWhile_imp member⟩
        have shorter : ((c :: rest).dropWhile isWord).length < size := by
          have shrinks := (List.dropWhile_suffix isWord : rest.dropWhile isWord <:+ rest).length_le
          simp only [List.dropWhile_cons, inside, if_true, List.length_cons] at length ⊢
          omega
        have whole := word _ _ run (closesWord_dropWhile (c :: rest)) (ih _ shorter _ rfl)
        rwa [List.takeWhile_append_dropWhile] at whole

/-- A whole word, or one character outside words. -/
def Piece (text : Text) : Prop := WordRun text ∨ ∃ c, isWord c = false ∧ text = [c]

theorem Piece.present {text : Text} (piece : Piece text) : text ≠ [] := by
  rcases piece with run | ⟨c, _, rfl⟩
  · exact run.present
  · exact List.cons_ne_nil c []

-- Inside a piece, as inside a word, no word begins or ends.
theorem Piece.inside {text rest : Text} (piece : Piece text) {place : Nat} (after : 0 < place)
    (before : place < text.length) (previous : Option Char) :
    opensWord (lastOr previous ((text ++ rest).take place)) = false ∧
      closesWord ((text ++ rest).drop place) = false := by
  rw [List.take_append_of_le_length (Nat.le_of_lt before),
    List.drop_append_of_le_length (Nat.le_of_lt before)]
  rcases piece with run | ⟨c, _, rfl⟩
  · have front : WordRun (text.take place) := by
      refine ⟨fun none => ?_, fun d member => run.inside d (List.mem_of_mem_take member)⟩
      rcases List.take_eq_nil_iff.mp none with zero | nothing
      · omega
      · exact run.present nothing
    have back : WordRun (text.drop place) := by
      refine ⟨fun none => ?_, fun d member => run.inside d (List.mem_of_mem_drop member)⟩
      have := List.drop_eq_nil_iff.mp none
      omega
    exact ⟨front.opensWord_lastOr previous, back.closesWord_append rest⟩
  · simp at before
    omega

/-- No word goes on from the front to the back. -/
def Apart (front back : Text) : Prop :=
  opensWord front.getLast? = true ∨ closesWord back = true

theorem apart_nil (back : Text) : Apart [] back := Or.inl rfl

-- A text that is not empty begins with a piece.
theorem exists_piece {text : Text} (present : text ≠ []) :
    ∃ front rest, text = front ++ rest ∧ Piece front ∧ Apart front rest := by
  induction text using wordByWord with
  | nil => exact absurd rfl present
  | skip c rest outside _ =>
    exact ⟨[c], rest, rfl, Or.inr ⟨c, outside, rfl⟩, Or.inl (by simp [opensWord, outside])⟩
  | word word rest run closes _ => exact ⟨word, rest, rfl, Or.inl run, Or.inr closes⟩

theorem Apart.tail {c : Char} {front back : Text} (apart : Apart (c :: front) back) :
    Apart front back := by
  cases front with
  | nil => exact apart_nil back
  | cons d front => simpa [Apart, List.getLast?_cons] using apart

theorem Apart.drop {front middle back : Text} (apart : Apart (front ++ middle) back) :
    Apart middle back := by
  induction front with
  | nil => exact apart
  | cons c front ih => exact ih apart.tail

theorem WordRun.closes_of_apart {word back : Text} (run : WordRun word) (apart : Apart word back) :
    closesWord back = true := by
  rcases apart with opens | closes
  · rw [← lastOr_none, run.opensWord_lastOr] at opens
    cases opens
  · exact closes

theorem Apart.cons {c : Char} {front back : Text} (apart : Apart front back)
    (outside : isWord c = false) : Apart (c :: front) back := by
  cases front with
  | nil => exact Or.inl (by simp [opensWord, outside])
  | cons d front => simpa [Apart, List.getLast?_cons] using apart

theorem Apart.word {word front back : Text} (apart : Apart front back)
    (closes : closesWord (front ++ back) = true) : Apart (word ++ front) back := by
  cases front with
  | nil => exact Or.inr closes
  | cons c front => rwa [Apart, List.getLast?_append_of_ne_nil _ (List.cons_ne_nil c front)]

theorem Apart.left {front middle back : Text} (apart : Apart front (middle ++ back)) :
    Apart front middle := by
  cases middle with
  | nil => exact Or.inr rfl
  | cons c middle => exact apart

/-- Both places have the same character before them, or a word character both. -/
def SameSide (first second : Option Char) : Prop :=
  first = second ∨ opensWord first = false ∧ opensWord second = false

theorem SameSide.opensWord_eq {first second : Option Char} (same : SameSide first second) :
    opensWord second = opensWord first := by
  rcases same with rfl | ⟨inside, inside'⟩
  · rfl
  · rw [inside, inside']

theorem SameSide.inked {first second : Option Char} (same : SameSide first second)
    (ink : ∀ c ∈ first, isBlank c = false) : ∀ c ∈ second, isBlank c = false := by
  rcases same with rfl | ⟨_, inside⟩
  · exact ink
  · intro c here
    by_contra blank
    rw [Option.mem_def.mp here, opensWord, isWord_of_isBlank (Bool.not_eq_false _ ▸ blank)] at inside
    cases inside

/-- A map that works word by word. -/
structure Wordwise (f : Text → Text) : Prop where
  nil : f [] = []
  skip : ∀ c rest, isWord c = false → f (c :: rest) = c :: f rest
  word : ∀ word rest, WordRun word → closesWord rest = true → f (word ++ rest) = f word ++ f rest
  run : ∀ word, WordRun word → WordRun (f word)

theorem wordwise_id : Wordwise id where
  nil := rfl
  skip := fun _ _ _ => rfl
  word := fun _ _ _ _ => rfl
  run := fun _ run => run

namespace Wordwise

variable {f g : Text → Text} (wordwise : Wordwise f)

include wordwise

theorem piece {text : Text} (piece : Piece text) : Piece (f text) := by
  rcases piece with run | ⟨c, outside, rfl⟩
  · exact Or.inl (wordwise.run text run)
  · refine Or.inr ⟨c, outside, ?_⟩
    rw [wordwise.skip c [] outside, wordwise.nil]

theorem sameSide_head (text : Text) : SameSide text.head? (f text).head? := by
  induction text using wordByWord with
  | nil => rw [wordwise.nil]; exact Or.inl rfl
  | skip c rest outside _ => rw [wordwise.skip c rest outside]; exact Or.inl rfl
  | word word rest run closes _ =>
    right
    rw [wordwise.word word rest run closes, ← closesWord_eq, ← closesWord_eq]
    exact ⟨run.closesWord_append rest, (wordwise.run word run).closesWord_append _⟩

theorem closesWord_map (text : Text) : closesWord (f text) = closesWord text := by
  rw [closesWord_eq, closesWord_eq]
  exact (wordwise.sameSide_head text).opensWord_eq

theorem sameSide_last {previous previous' : Option Char} (side : SameSide previous previous')
    (text : Text) : SameSide (lastOr previous text) (lastOr previous' (f text)) := by
  induction text using wordByWord generalizing previous previous' with
  | nil => rwa [wordwise.nil]
  | skip c rest outside ih =>
    rw [wordwise.skip c rest outside, lastOr_cons, lastOr_cons]
    exact ih (Or.inl rfl)
  | word word rest run closes ih =>
    rw [wordwise.word word rest run closes, lastOr_append, lastOr_append]
    exact ih (Or.inr ⟨run.opensWord_lastOr _, (wordwise.run word run).opensWord_lastOr _⟩)

theorem append {front back : Text} (apart : Apart front back) :
    f (front ++ back) = f front ++ f back := by
  induction front using wordByWord with
  | nil => rw [wordwise.nil]; rfl
  | skip c rest outside ih =>
    rw [List.cons_append, wordwise.skip _ _ outside, wordwise.skip _ _ outside, ih apart.tail]
    rfl
  | word word rest run closes ih =>
    -- the word ends before the rest, or before the back when nothing is left of the front
    have ends : closesWord (rest ++ back) = true := by
      cases rest with
      | nil => exact run.closes_of_apart (by simpa using apart)
      | cons c rest => exact closes
    rw [List.append_assoc, wordwise.word word _ run ends, wordwise.word word rest run closes,
      ih apart.drop, List.append_assoc]

-- Of two parts of a text that end between words, the longer one has the longer image.
theorem length_le {front back body after : Text} (parts : front ++ back = body ++ after)
    (apart : Apart body after) (longer : body.length ≤ front.length) :
    (f body).length ≤ (f front).length := by
  obtain ⟨more, rfl⟩ : body <+: front :=
    List.prefix_of_prefix_length_le ⟨after, parts.symm⟩ (List.prefix_append _ _) longer
  rw [List.append_assoc] at parts
  rw [← List.append_cancel_left parts] at apart
  rw [wordwise.append apart.left, List.length_append]
  omega

/-- Where the image can be cut between words, the text can. -/
theorem split {text front' back' : Text} (parts : f text = front' ++ back')
    (apart : Apart front' back') :
    ∃ front back, text = front ++ back ∧ Apart front back ∧ f front = front' ∧ f back = back' := by
  induction text using wordByWord generalizing front' with
  | nil =>
    rw [wordwise.nil] at parts
    obtain ⟨rfl, rfl⟩ := List.append_eq_nil_iff.mp parts.symm
    exact ⟨[], [], rfl, apart_nil _, wordwise.nil, wordwise.nil⟩
  | skip c rest outside ih =>
    cases front' with
    | nil => exact ⟨[], c :: rest, rfl, apart_nil _, wordwise.nil, parts⟩
    | cons d front' =>
      rw [wordwise.skip c rest outside, List.cons_append] at parts
      obtain ⟨rfl, later⟩ := List.cons.inj parts
      obtain ⟨front, back, rfl, between, first, second⟩ := ih later apart.tail
      exact ⟨c :: front, back, rfl, between.cons outside, by rw [wordwise.skip _ _ outside, first],
        second⟩
  | word word rest run closes ih =>
    have whole := parts
    rw [wordwise.word word rest run closes] at parts
    rcases List.append_eq_append_iff.mp parts with ⟨more, rfl, later⟩ | ⟨more, begun, rfl⟩
    · obtain ⟨front, back, rfl, between, first, second⟩ := ih later apart.drop
      have ends : closesWord (front ++ back) = true := closes
      refine ⟨word ++ front, back, (List.append_assoc _ _ _).symm, between.word ends, ?_, second⟩
      rw [wordwise.append (Or.inr ?_), first]
      cases front with
      | nil => rfl
      | cons c front => exact ends
    · -- a cut inside the image of the word is at one of its ends
      have image := wordwise.run word run
      cases more with
      | nil =>
        rw [List.append_nil] at begun
        exact ⟨word, rest, rfl, Or.inr closes, begun, rfl⟩
      | cons c more =>
        cases front' with
        | nil => exact ⟨[], word ++ rest, rfl, apart_nil _, wordwise.nil, whole⟩
        | cons d front' =>
          have front : WordRun (d :: front') :=
            ⟨by simp, fun e member => image.inside e (by rw [begun]; simp at member ⊢; tauto)⟩
          have inWord : isWord c = true := image.inside c (by rw [begun]; simp)
          have stops := front.closes_of_apart apart
          simp [closesWord, inWord] at stops

theorem eq_nil {text : Text} (nothing : f text = []) : text = [] := by
  induction text using wordByWord with
  | nil => rfl
  | skip c rest outside _ =>
    rw [wordwise.skip c rest outside] at nothing
    cases nothing
  | word word rest run closes _ =>
    rw [wordwise.word word rest run closes] at nothing
    exact absurd (List.append_eq_nil_iff.mp nothing).1 (wordwise.run word run).present

theorem length_lt {front back body after : Text} (parts : front ++ back = body ++ after)
    (apart : Apart front back) (shorter : front.length < body.length) :
    (f front).length < (f body).length := by
  obtain ⟨more, rfl⟩ : front <+: body :=
    List.prefix_of_prefix_length_le ⟨back, parts⟩ (List.prefix_append _ _) (Nat.le_of_lt shorter)
  rw [List.append_assoc] at parts
  rw [List.append_cancel_left parts] at apart
  have present : f more ≠ [] := by
    intro nothing
    rw [wordwise.eq_nil nothing, List.append_nil] at shorter
    omega
  have positive := List.length_pos_iff.mpr present
  rw [wordwise.append apart.left, List.length_append]
  omega

theorem run_of_map {text : Text} (image : WordRun (f text)) : WordRun text := by
  refine ⟨fun nothing => image.present (by rw [nothing, wordwise.nil]), ?_⟩
  have inside := image.inside
  clear image
  induction text using wordByWord with
  | nil => simp
  | skip c rest outside _ =>
    rw [wordwise.skip c rest outside] at inside
    have word := inside c (by simp)
    rw [outside] at word
    cases word
  | word word rest run closes ih =>
    rw [wordwise.word word rest run closes] at inside
    intro c member
    rcases List.mem_append.mp member with here | later
    · exact run.inside c here
    · exact ih (fun d member => inside d (List.mem_append_right _ member)) c later

-- Characters that are in no word stay, and no others come in.
theorem mem_map_iff {text : Text} {c : Char} (outside : isWord c = false) :
    c ∈ f text ↔ c ∈ text := by
  have apart : ∀ {word : Text}, WordRun word → c ∉ word := by
    intro word run member
    rw [run.inside c member] at outside
    cases outside
  induction text using wordByWord with
  | nil => rw [wordwise.nil]
  | skip d rest outside' ih =>
    rw [wordwise.skip d rest outside', List.mem_cons, List.mem_cons]
    exact or_congr_right ih
  | word word rest run closes ih =>
    rw [wordwise.word word rest run closes, List.mem_append, List.mem_append]
    exact or_congr (iff_of_false (apart (wordwise.run word run)) (apart run)) ih

theorem map_of_outside {text : Text} (outside : ∀ c ∈ text, isWord c = false) : f text = text := by
  induction text with
  | nil => exact wordwise.nil
  | cons c rest ih =>
    rw [wordwise.skip c rest (outside c (by simp)),
      ih fun d member => outside d (List.mem_cons_of_mem c member)]

theorem comp (wordwise' : Wordwise g) : Wordwise (fun text => g (f text)) where
  nil := by rw [wordwise.nil, wordwise'.nil]
  skip := fun c rest outside => by rw [wordwise.skip c rest outside, wordwise'.skip _ _ outside]
  word := by
    intro word rest run closes
    rw [wordwise.word word rest run closes, wordwise'.word _ _ (wordwise.run word run)]
    rwa [wordwise.closesWord_map]
  run := fun word run => wordwise'.run _ (wordwise.run word run)

end Wordwise

end Text

end Transclusion

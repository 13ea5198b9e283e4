import Mathlib.Data.List.Basic
import Transclusion.Cutting

/-!
Cutting a text, seen from the result: every mark is the preferred reading at the place
where it begins, no reading begins at a place of the plain text, and the pieces put
together give the text back. A cutting is determined by these facts.
-/

namespace Transclusion.Cutting

variable {Mark : Type}

section Pieces

variable (cutting : Cutting Mark) (replacement : Mark → Text)

@[simp] theorem fill_empty : ({} : Cutting Mark).fill replacement = [] := rfl

@[simp] theorem fill_plain (c : Char) :
    (cutting.plain c).fill replacement = c :: cutting.fill replacement := by
  cases cutting with
  | mk cuts tail => cases cuts <;> simp [plain, fill]

@[simp] theorem fill_marked (mark : Mark) :
    (cutting.marked mark).fill replacement = replacement mark ++ cutting.fill replacement := by
  simp [marked, fill]

@[simp] theorem marks_plain (c : Char) : (cutting.plain c).marks = cutting.marks := by
  cases cutting with
  | mk cuts tail => cases cuts <;> simp [plain, marks]

@[simp] theorem marks_marked (mark : Mark) : (cutting.marked mark).marks = mark :: cutting.marks := by
  simp [marked, marks]

@[simp] theorem located_plain (written : Mark → Text) (offset : Nat) (c : Char) :
    located written offset (cutting.plain c).cuts = located written (offset + 1) cutting.cuts := by
  cases cutting with
  | mk cuts tail => cases cuts <;> simp [plain, located, Nat.add_assoc, Nat.add_comm 1]

@[simp] theorem located_marked (written : Mark → Text) (offset : Nat) (mark : Mark) :
    located written offset (cutting.marked mark).cuts =
      (offset, mark) :: located written (offset + (written mark).length) cutting.cuts := by
  simp [marked, located]

/-- A cutting is empty, or has a plain character or a mark in front of another. -/
@[elab_as_elim]
theorem pieces {motive : Cutting Mark → Prop} (empty : motive {})
    (plain : ∀ c cutting, motive cutting → motive (cutting.plain c))
    (marked : ∀ mark cutting, motive cutting → motive (cutting.marked mark))
    (cutting : Cutting Mark) : motive cutting := by
  obtain ⟨cuts, tail⟩ := cutting
  induction cuts with
  | nil =>
    induction tail with
    | nil => exact empty
    | cons c tail ih => exact plain c ⟨[], tail⟩ ih
  | cons cut cuts ih =>
    obtain ⟨before, mark⟩ := cut
    induction before with
    | nil => exact marked mark ⟨cuts, tail⟩ ih
    | cons c before ih => exact plain c ⟨⟨before, mark⟩ :: cuts, tail⟩ ih

theorem exists_located {cutting : Cutting Mark} {mark : Mark} (written : Mark → Text)
    (offset : Nat) (member : mark ∈ cutting.marks) :
    ∃ start, (start, mark) ∈ located written offset cutting.cuts := by
  induction cutting using pieces generalizing offset with
  | empty => simp [marks] at member
  | plain c cutting ih =>
    rw [located_plain]
    exact ih (offset + 1) (by simpa using member)
  | marked other cutting ih =>
    rw [located_marked]
    rw [marks_marked] at member
    rcases List.mem_cons.mp member with rfl | later
    · exact ⟨offset, by simp⟩
    · obtain ⟨start, further⟩ := ih _ later
      exact ⟨start, List.mem_cons_of_mem _ further⟩

-- Only what replaces the marks that are there matters.
theorem fill_congr {cutting : Cutting Mark} {replacement replacement' : Mark → Text}
    (same : ∀ mark ∈ cutting.marks, replacement mark = replacement' mark) :
    cutting.fill replacement = cutting.fill replacement' := by
  induction cutting using pieces with
  | empty => rfl
  | plain c cutting ih =>
    rw [marks_plain] at same
    rw [fill_plain, fill_plain, ih same]
  | marked mark cutting ih =>
    rw [marks_marked] at same
    rw [fill_marked, fill_marked, same mark List.mem_cons_self,
      ih fun other later => same other (List.mem_cons_of_mem _ later)]

/-- Plain text in front. -/
def plains (text : Text) (cutting : Cutting Mark) : Cutting Mark := text.foldr plain cutting

@[simp] theorem plains_cons (c : Char) (text : Text) :
    plains (c :: text) cutting = (plains text cutting).plain c := rfl

theorem plains_empty (text : Text) : plains text ({} : Cutting Mark) = { tail := text } := by
  induction text with
  | nil => rfl
  | cons c rest ih =>
    rw [plains_cons, ih]
    rfl

@[simp] theorem fill_plains (text : Text) :
    (cutting.plains text).fill replacement = text ++ cutting.fill replacement := by
  induction text with
  | nil => rfl
  | cons c rest ih => simp [ih]

@[simp] theorem located_plains (written : Mark → Text) (offset : Nat) (text : Text) :
    located written offset (cutting.plains text).cuts =
      located written (offset + text.length) cutting.cuts := by
  induction text generalizing offset with
  | nil => rfl
  | cons c rest ih => simp [ih, Nat.add_assoc, Nat.add_comm 1]

end Pieces

section Places

@[simp] theorem lastOr_nil (previous : Option Char) : lastOr previous [] = previous := rfl

theorem lastOr_none (text : Text) : lastOr none text = text.getLast? := by
  simp [lastOr]

@[simp] theorem lastOr_cons (previous : Option Char) (c : Char) (text : Text) :
    lastOr previous (c :: text) = lastOr (some c) text := by
  cases text with
  | nil => rfl
  | cons d rest => simp [lastOr, List.getLast?_cons]

@[simp] theorem lastOr_concat (previous : Option Char) (text : Text) (c : Char) :
    lastOr previous (text ++ [c]) = some c := by
  simp [lastOr]

theorem lastOr_append (previous : Option Char) (first second : Text) :
    lastOr previous (first ++ second) = lastOr (lastOr previous first) second := by
  induction first generalizing previous with
  | nil => rfl
  | cons c rest ih => simp [ih]

theorem lastOr_of_ne_nil {text : Text} (present : text ≠ []) (previous other : Option Char) :
    lastOr previous text = lastOr other text := by
  cases text with
  | nil => exact absurd rfl present
  | cons c rest => simp

/-- What is read at an offset of a text that stands after `previous`. -/
def readAt (readings : Recogniser Mark) (previous : Option Char) (text : Text) (offset : Nat) :
    List (Mark × Text) :=
  readings (lastOr previous (text.take offset)) (text.drop offset)

variable (readings : Recogniser Mark) (previous : Option Char)

@[simp] theorem readAt_zero (text : Text) : readAt readings previous text 0 = readings previous text := by
  simp [readAt]

@[simp] theorem readAt_cons_succ (c : Char) (text : Text) (offset : Nat) :
    readAt readings previous (c :: text) (offset + 1) = readAt readings (some c) text offset := by
  simp [readAt]

theorem readAt_append (first second : Text) (offset : Nat) :
    readAt readings previous (first ++ second) (first.length + offset) =
      readAt readings (lastOr previous first) second offset := by
  have taken : first.take (first.length + offset) = first := List.take_of_length_le (by omega)
  have dropped : first.drop (first.length + offset) = [] := List.drop_of_length_le (by omega)
  simp [readAt, List.take_append, List.drop_append, lastOr_append, taken, dropped]

theorem readAt_length (first second : Text) :
    readAt readings previous (first ++ second) first.length =
      readings (lastOr previous first) second := by
  simpa using readAt_append readings previous first second 0

end Places

section Scanning

/-- Every reading takes its written form, and so something, from the head of the text. -/
def Faithful (written : Mark → Text) (readings : Recogniser Mark) : Prop :=
  ∀ previous text mark rest, (mark, rest) ∈ readings previous text →
    text = written mark ++ rest ∧ written mark ≠ []

variable {written : Mark → Text} {readings : Recogniser Mark}

theorem Faithful.nil (faithful : Faithful written readings) (previous : Option Char) :
    readings previous [] = [] := by
  apply List.eq_nil_iff_forall_not_mem.mpr
  rintro ⟨mark, rest⟩ member
  obtain ⟨parts, present⟩ := faithful previous [] mark rest member
  exact present (List.append_eq_nil_iff.mp parts.symm).1

theorem Faithful.readAt (faithful : Faithful written readings) {previous : Option Char}
    {text : Text} {offset : Nat} {mark : Mark} {rest : Text}
    (member : (mark, rest) ∈ readAt readings previous text offset) :
    text.drop offset = written mark ++ rest :=
  (faithful _ _ _ _ member).1

theorem Faithful.rest (faithful : Faithful written readings) {previous : Option Char}
    {text : Text} {offset : Nat} {mark : Mark} {rest : Text}
    (member : (mark, rest) ∈ Cutting.readAt readings previous text offset) :
    rest = text.drop (offset + (written mark).length) := by
  rw [← List.drop_drop, faithful.readAt member, List.drop_left]

theorem Faithful.inside (faithful : Faithful written readings) {previous : Option Char}
    {text : Text} {offset : Nat}
    (found : Cutting.readAt readings previous text offset ≠ []) : offset < text.length := by
  obtain ⟨⟨mark, rest⟩, member⟩ := List.exists_mem_of_ne_nil _ found
  obtain ⟨parts, present⟩ := faithful _ _ _ _ member
  by_contra beyond
  rw [List.drop_of_length_le (Nat.le_of_not_lt beyond)] at parts
  exact present (List.append_eq_nil_iff.mp parts.symm).1

-- The text that a reading at an offset takes apart.
theorem Faithful.split (faithful : Faithful written readings) {previous : Option Char}
    {text : Text} {offset : Nat} {mark : Mark} {rest : Text}
    (member : (mark, rest) ∈ Cutting.readAt readings previous text offset) :
    ∃ front, text = front ++ (written mark ++ rest) ∧ front.length = offset := by
  have inside := faithful.inside (List.ne_nil_of_mem member)
  refine ⟨text.take offset, ?_, List.length_take_of_le (Nat.le_of_lt inside)⟩
  rw [← faithful.readAt member, List.take_append_drop]

/-- A cutting as read off a text from left to right. -/
inductive Reads (written : Mark → Text) (readings : Recogniser Mark) :
    Option Char → Text → Cutting Mark → Prop where
  | done {previous : Option Char} (none : readings previous [] = []) :
      Reads written readings previous [] {}
  | plain {previous : Option Char} {c : Char} {rest : Text} {cutting : Cutting Mark}
      (none : readings previous (c :: rest) = [])
      (further : Reads written readings (some c) rest cutting) :
      Reads written readings previous (c :: rest) (cutting.plain c)
  | marked {previous : Option Char} {mark : Mark} {rest : Text} {cutting : Cutting Mark}
      (preferred : (readings previous (written mark ++ rest)).head? = some (mark, rest))
      (further : Reads written readings (lastOr previous (written mark)) rest cutting) :
      Reads written readings previous (written mark ++ rest) (cutting.marked mark)

theorem ofText_nil (faithful : Faithful written readings) (previous : Option Char) :
    ofText readings previous [] = {} := by
  rw [ofText]
  simp [faithful.nil previous]

theorem ofText_plain {previous : Option Char} {c : Char} {rest : Text}
    (none : readings previous (c :: rest) = []) :
    ofText readings previous (c :: rest) = (ofText readings (some c) rest).plain c := by
  rw [ofText]
  simp [none]

theorem ofText_marked (faithful : Faithful written readings) {previous : Option Char}
    {mark : Mark} {rest : Text}
    (preferred : (readings previous (written mark ++ rest)).head? = some (mark, rest)) :
    ofText readings previous (written mark ++ rest) =
      (ofText readings (lastOr previous (written mark)) rest).marked mark := by
  obtain ⟨others, found⟩ : ∃ others, readings previous (written mark ++ rest) =
      (mark, rest) :: others := List.head?_eq_some_iff.mp preferred
  have present := (faithful previous _ mark rest (List.mem_of_mem_head? preferred)).2
  have shorter : rest.length < (written mark ++ rest).length := by
    have := List.length_pos_iff.mpr present
    simp
    omega
  have taken : (written mark ++ rest).take ((written mark ++ rest).length - rest.length) =
      written mark := by simp
  rw [ofText.eq_def]
  simp only [found, List.find?_cons, Cutting.shorter, shorter, decide_true, dite_true, if_true,
    taken]

-- A cutting depends on what stands before the text only through the readings there.
theorem ofText_congr (faithful : Faithful written readings) {previous other : Option Char}
    {text : Text} (same : readings previous text = readings other text) :
    ofText readings previous text = ofText readings other text := by
  cases first : (readings previous text).head? with
  | some reading =>
    obtain ⟨mark, rest⟩ := reading
    obtain ⟨rfl, present⟩ := faithful previous text mark rest (List.mem_of_mem_head? first)
    rw [ofText_marked faithful first, ofText_marked faithful (same ▸ first),
      lastOr_of_ne_nil present previous other]
  | none =>
    have none := List.head?_eq_none_iff.mp first
    cases text with
    | nil => rw [ofText_nil faithful, ofText_nil faithful]
    | cons c rest => rw [ofText_plain none, ofText_plain (same ▸ none)]

theorem Reads.eq_ofText (faithful : Faithful written readings) {previous : Option Char}
    {text : Text} {cutting : Cutting Mark} (reads : Reads written readings previous text cutting) :
    cutting = ofText readings previous text := by
  induction reads with
  | done _ => exact (ofText_nil faithful _).symm
  | plain none _ ih => rw [ofText_plain none, ih]
  | marked preferred _ ih => rw [ofText_marked faithful preferred, ih]

theorem reads_ofText (faithful : Faithful written readings) (previous : Option Char)
    (text : Text) : Reads written readings previous text (ofText readings previous text) := by
  -- by the length of the text, since a mark may take any number of characters
  induction length : text.length using Nat.strongRecOn generalizing previous text with
  | _ size ih =>
    cases first : (readings previous text).head? with
    | some reading =>
      obtain ⟨mark, rest⟩ := reading
      obtain ⟨rfl, present⟩ := faithful previous text mark rest (List.mem_of_mem_head? first)
      rw [ofText_marked faithful first]
      refine .marked first (ih rest.length ?_ _ _ rfl)
      have := List.length_pos_iff.mpr present
      simp at length
      omega
    | none =>
      have none := List.head?_eq_none_iff.mp first
      cases text with
      | nil =>
        rw [ofText_nil faithful]
        exact .done none
      | cons c rest =>
        rw [ofText_plain none]
        exact .plain none (ih rest.length (by simp at length; omega) _ _ rfl)

theorem Reads.fill_written {previous : Option Char} {text : Text} {cutting : Cutting Mark}
    (reads : Reads written readings previous text cutting) : cutting.fill written = text := by
  induction reads with
  | done _ => rfl
  | plain _ _ ih => simp [ih]
  | marked _ _ ih => simp [ih]

-- Plain text where nothing is read is passed over.
theorem ofText_append {previous : Option Char} {text rest : Text}
    (none : ∀ offset < text.length, readAt readings previous (text ++ rest) offset = []) :
    ofText readings previous (text ++ rest) =
      (ofText readings (lastOr previous text) rest).plains text := by
  induction text generalizing previous with
  | nil => rfl
  | cons c text ih =>
    have here : readings previous (c :: (text ++ rest)) = [] := by
      simpa using none 0 (by simp)
    have later : ∀ offset < text.length, readAt readings (some c) (text ++ rest) offset = [] := by
      intro offset inside
      simpa using none (offset + 1) (by simpa using inside)
    rw [List.cons_append, ofText_plain here, ih later]
    simp

-- A text where nothing is read is all plain.
theorem ofText_eq_tail (faithful : Faithful written readings) {previous : Option Char} {text : Text}
    (none : ∀ offset < text.length, readAt readings previous text offset = []) :
    ofText readings previous text = { tail := text } := by
  have passed := @ofText_append Mark readings previous text [] (by simpa using none)
  rwa [List.append_nil, ofText_nil faithful, plains_empty] at passed

end Scanning

section Located

variable {written : Mark → Text} {readings : Recogniser Mark}

-- A located mark is the preferred reading where it begins. `offset` is where the text
-- begins that was cut.
theorem Reads.located {previous : Option Char} {text : Text} {cutting : Cutting Mark}
    (reads : Reads written readings previous text cutting) {offset start : Nat} {mark : Mark}
    (member : (start, mark) ∈ located written offset cutting.cuts) :
    offset ≤ start ∧
      ∃ rest, (readAt readings previous text (start - offset)).head? = some (mark, rest) := by
  induction reads generalizing offset with
  | done _ => simp [Cutting.located] at member
  | plain _ _ ih =>
    rw [located_plain] at member
    obtain ⟨after, rest, preferred⟩ := ih member
    have next : start - offset = start - (offset + 1) + 1 := by omega
    refine ⟨by omega, rest, ?_⟩
    rw [next, readAt_cons_succ, preferred]
  | @marked _ first rest _ preferred _ ih =>
    rw [located_marked] at member
    rcases List.mem_cons.mp member with same | later
    · cases same
      exact ⟨Nat.le_refl _, rest, by simpa using preferred⟩
    · obtain ⟨after, beyond, found⟩ := ih later
      have next : start - offset =
          (written first).length + (start - (offset + (written first).length)) := by omega
      refine ⟨by omega, beyond, ?_⟩
      rw [next, readAt_append, found]

/-- No mark of the cutting covers the place. -/
def Free (written : Mark → Text) (offset : Nat) (cutting : Cutting Mark) (place : Nat) : Prop :=
  ∀ start mark, (start, mark) ∈ Cutting.located written offset cutting.cuts →
    ¬ (start ≤ place ∧ place < start + (written mark).length)

theorem free_plain {offset place : Nat} {c : Char} {cutting : Cutting Mark} :
    Free written offset (cutting.plain c) place ↔ Free written (offset + 1) cutting place := by
  simp [Free]

theorem free_marked {offset place : Nat} {mark : Mark} {cutting : Cutting Mark} :
    Free written offset (cutting.marked mark) place ↔
      ¬ (offset ≤ place ∧ place < offset + (written mark).length) ∧
        Free written (offset + (written mark).length) cutting place := by
  constructor
  · intro free
    refine ⟨free offset mark (by simp), fun start other member => free start other ?_⟩
    rw [located_marked]
    exact List.mem_cons_of_mem _ member
  · rintro ⟨outside, free⟩ start other member
    rw [located_marked] at member
    rcases List.mem_cons.mp member with same | later
    · cases same
      exact outside
    · exact free start other later

-- Where no located mark stands, nothing is read.
theorem Reads.unlocated {previous : Option Char} {text : Text} {cutting : Cutting Mark}
    (reads : Reads written readings previous text cutting) {offset place : Nat}
    (after : offset ≤ place) (free : Free written offset cutting place) :
    readAt readings previous text (place - offset) = [] := by
  induction reads generalizing offset with
  | done none => simpa [readAt] using none
  | plain none _ ih =>
    rcases Nat.eq_or_lt_of_le after with rfl | later
    · simpa using none
    · have next : place - offset = place - (offset + 1) + 1 := by omega
      rw [next, readAt_cons_succ]
      exact ih later (free_plain.mp free)
  | @marked _ mark rest _ _ _ ih =>
    obtain ⟨outside, free⟩ := free_marked.mp free
    have beyond : offset + (written mark).length ≤ place := by omega
    have next : place - offset =
        (written mark).length + (place - (offset + (written mark).length)) := by omega
    rw [next, readAt_append]
    exact ih beyond free

theorem le_of_located {offset start : Nat} {mark : Mark} {cuts : List (Cut Mark)}
    (member : (start, mark) ∈ Cutting.located written offset cuts) : offset ≤ start := by
  induction cuts generalizing offset with
  | nil => simp [Cutting.located] at member
  | cons cut cuts ih =>
    rcases List.mem_cons.mp member with same | later
    · cases same
      exact Nat.le_add_right _ _
    · have further := ih later
      omega

/-- A cutting that has the preferred reading at each of its marks, and no reading at any
other place, is the one that is read off the text. -/
theorem reads_of_located (cutting : Cutting Mark) {previous : Option Char} {offset : Nat}
    (preferred : ∀ start mark, (start, mark) ∈ Cutting.located written offset cutting.cuts →
      ∃ rest, (readAt readings previous (cutting.fill written) (start - offset)).head? =
        some (mark, rest))
    (faithful : Faithful written readings)
    (unread : ∀ place, offset ≤ place → Free written offset cutting place →
      readAt readings previous (cutting.fill written) (place - offset) = []) :
    Reads written readings previous (cutting.fill written) cutting := by
  induction cutting using pieces generalizing previous offset with
  | empty =>
    have none := unread offset (Nat.le_refl _) (by simp [Free, Cutting.located])
    exact .done (by simpa [readAt] using none)
  | plain c cutting ih =>
    rw [fill_plain] at preferred unread ⊢
    have here : readings previous (c :: cutting.fill written) = [] := by
      have free : Free written offset (cutting.plain c) offset := by
        rw [free_plain]
        intro start mark member inside
        have after := le_of_located member
        omega
      simpa using unread offset (Nat.le_refl _) free
    refine .plain here (@ih (some c) (offset + 1) ?_ ?_)
    · intro start mark member
      have after := le_of_located member
      obtain ⟨rest, found⟩ := preferred start mark (by simpa using member)
      have next : start - offset = start - (offset + 1) + 1 := by omega
      rw [next, readAt_cons_succ] at found
      exact ⟨rest, found⟩
    · intro place after free
      have next : place - offset = place - (offset + 1) + 1 := by omega
      have none := unread place (by omega) (free_plain.mpr free)
      rwa [next, readAt_cons_succ] at none
  | marked mark cutting ih =>
    rw [fill_marked] at preferred unread ⊢
    have here : (readings previous (written mark ++ cutting.fill written)).head? =
        some (mark, cutting.fill written) := by
      obtain ⟨rest, found⟩ := preferred offset mark (by simp)
      rw [Nat.sub_self, readAt_zero] at found
      have parts := (faithful _ _ _ _ (List.mem_of_mem_head? found)).1
      rw [List.append_cancel_left parts]
      rwa [List.append_cancel_left parts] at found
    refine .marked here (@ih _ (offset + (written mark).length) ?_ ?_)
    · intro start other member
      have after := le_of_located member
      have inside : (start, other) ∈ Cutting.located written offset (cutting.marked mark).cuts := by
        rw [located_marked]
        exact List.mem_cons_of_mem _ member
      obtain ⟨rest, found⟩ := preferred start other inside
      have next : start - offset =
          (written mark).length + (start - (offset + (written mark).length)) := by omega
      rw [next, readAt_append] at found
      exact ⟨rest, found⟩
    · intro place after free
      have next : place - offset =
          (written mark).length + (place - (offset + (written mark).length)) := by omega
      have none := unread place (by omega) (free_marked.mpr ⟨by omega, free⟩)
      rwa [next, readAt_append] at none

end Located

end Transclusion.Cutting

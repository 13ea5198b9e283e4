import Transclusion.Proofs.Yaml.CleanPages
import Transclusion.Proofs.Yaml.LiteralWriting
import Transclusion.Proofs.Yaml.PlainWriting
import Transclusion.Proofs.Yaml.QuotedWriting
import Transclusion.Yaml.Writing

/-!
A scalar on a page in whatever style is chosen for it, and what is read of it there: as an item
that the line ends behind, or as a key before its colon.
-/

namespace Transclusion.Yaml

open TokenSource

/-- The forms of a scalar inside a block at a column: what is read of it, whether its text decides
what it stands for, how it is written, and whether its last line is ended with it. -/
inductive ScalarForm (column : Nat) : Text → Bool → Text → Bool → Prop where
  | plain {read written : Text} (form : PlainForm (column + 1) read written)
      (unmarked : Shape.hasMarks read = false) (clean : Clean read) :
      ScalarForm column read true written false
  | single {read written : Text} (form : SingleForm read written) (clean : Clean read) :
      ScalarForm column read false ('\'' :: (written ++ ['\''])) false
  | double {read written : Text} (form : DoubleForm read written) :
      ScalarForm column read false ('"' :: (written ++ ['"'])) false
  | literal {read written : Text} (form : LiteralForm (List.replicate (column + 2) ' ') read written)
      (clean : Clean read) : ScalarForm column read false written true

/-- What comes after an item inside a block at a column: the end of its line, unless that is there
already, and something that is indented no more than the block. -/
structure Follows (column : Nat) (closed : Bool) (stop next : Place) : Prop where
  atToken : next.AtToken
  shallow : next.column ≤ column
  gap : ∃ pad, (∀ c ∈ pad, c = ' ') ∧ pad.length ≤ column ∧
    stop.Passes ((if closed then [] else ['\n']) ++ pad) next

namespace ScalarForm

variable {column : Nat} {read written rest : Text} {plain closed : Bool} {target stop next : Place}
  {outer columns : List Nat}

theorem present (form : ScalarForm column read plain written closed) : written ≠ [] := by
  cases form with
  | plain form _ _ =>
    obtain ⟨c, rest, rfl, _⟩ := form.head
    simp
  | single _ _ => simp
  | double _ => simp
  | literal form _ => cases form <;> simp

theorem cleanWritten (form : ScalarForm column read plain written closed) : Clean written := by
  cases form with
  | plain form _ clean => exact form.clean clean
  | single form clean =>
    simp only [clean_cons, clean_append]
    exact ⟨cleanChar_of_printable (by decide) (by decide), form.clean clean,
      cleanChar_of_printable (by decide) (by decide), clean_nil⟩
  | double form =>
    simp only [clean_cons, clean_append]
    exact ⟨cleanChar_of_printable (by decide) (by decide), form.clean,
      cleanChar_of_printable (by decide) (by decide), clean_nil⟩
  | literal form clean => exact form.clean (fun c member => List.eq_of_mem_replicate member) clean

/-- A scalar as an item. -/
theorem hasScalar (form : ScalarForm column read plain written closed)
    (passes : target.Passes written stop) (inside : column < target.column)
    (follows : Follows column closed stop next) : ∃ after left mayBeKey broken,
      HasScalar (column :: outer) target (.scalar read plain) after mayBeKey broken ∧
        after.Passes left next ∧ Filler left ∧ (broken || left.contains '\n') = true ∧
        after.rest.length ≤ stop.rest.length := by
  obtain ⟨pad, blank, bound, gap⟩ := follows.gap
  have filler : Filler pad := fun c member => .inl (blank c member)
  cases form with
  | plain form unmarked _ =>
    simp only [Bool.false_eq_true, if_false, List.singleton_append] at gap
    obtain ⟨after, left, reads, passesLeft, blankLeft, notFurther⟩ := form.plain_line passes (by omega) blank gap
      follows.atToken (Nat.lt_succ_of_le follows.shallow)
    obtain ⟨c, rest, shape, starts, noHash⟩ := form.starts unmarked stop.rest
      (by rw [gap.there]; simp) (by rw [gap.there]; simp)
    exact ⟨after, left, true, true, hasScalar_plain starts noHash (by rw [passes.there, shape]) reads,
      passesLeft, fun c member => .inl (blankLeft c member), rfl, notFurther⟩
  | single form _ =>
    simp only [Bool.false_eq_true, if_false, List.singleton_append] at gap
    have reads := form.quoted passes (by rw [gap.there]; simp)
    exact ⟨stop, '\n' :: pad, true, false, hasScalar_quoted passes.there reads, gap,
      by simpa [Filler] using filler, by simp, Nat.le_refl _⟩
  | double form =>
    simp only [Bool.false_eq_true, if_false, List.singleton_append] at gap
    have reads := form.quoted passes
    exact ⟨stop, '\n' :: pad, true, false, hasScalar_quoted passes.there reads, gap,
      by simpa [Filler] using filler, by simp, Nat.le_refl _⟩
  | literal form _ =>
    have reads := form.block (fun c member => List.eq_of_mem_replicate member) (by simp) passes
      ⟨blank, bound, gap, follows.atToken, follows.shallow⟩
    have there : ∃ rest, target.rest = '|' :: rest := by
      rw [passes.there]
      cases form <;> exact ⟨_, rfl⟩
    obtain ⟨rest, there⟩ := there
    exact ⟨next, [], false, true, hasScalar_block there reads, .nil next, by simp [Filler], by simp,
      by rw [gap.length]; omega⟩

/-- A scalar as a key. -/
theorem hasKey (form : ScalarForm column read plain written false) (passes : target.Passes written stop)
    (same : target.column = column) (inside : ∀ c ∈ columns.head?, c ≤ column)
    (colon : stop.rest = ':' :: rest) (ends : isSpaceOrEnd rest.head? = true) :
    HasScalar columns target (.scalar read plain) stop true false := by
  cases form with
  | plain form unmarked _ =>
    obtain ⟨depth, depthEq, within⟩ : ∃ depth : Nat, indentOf columns + 1 = Int.ofNat depth ∧
        depth ≤ column + 1 := by
      cases columns with
      | nil => exact ⟨0, rfl, Nat.zero_le _⟩
      | cons c columns => exact ⟨c + 1, rfl, Nat.succ_le_succ (inside c rfl)⟩
    have reads := (form.mono within).plain_key passes (by omega) colon ends
    rw [← depthEq] at reads
    obtain ⟨c, rest, shape, starts, noHash⟩ := form.starts unmarked stop.rest
      (by rw [colon]; simp) (by rw [colon]; simp)
    exact hasScalar_plain starts noHash (by rw [passes.there, shape]) reads
  | single form _ =>
    exact hasScalar_quoted passes.there (form.quoted passes (by rw [colon]; simp))
  | double form => exact hasScalar_quoted passes.there (form.quoted passes)

end ScalarForm

section Shapes

variable {text : Text}

/-- A text whose characters can stand on a page as they are, with no space beside a line end. -/
structure Orderly (text : Text) : Prop where
  noBreakSpace : Shape.hasNeighbours isBreak Shape.isSpace text = false
  noSpaceBreak : Shape.hasNeighbours Shape.isSpace isBreak text = false
  ordinary : ∀ c ∈ text, Shape.isOrdinary c = true

theorem orderly_of_single (single : (Shape.ofText text).single = true) : Orderly text := by
  rw [Shape.ofText] at single
  split at single
  · next empty =>
    rw [List.isEmpty_iff] at empty
    subst empty
    exact ⟨rfl, rfl, by simp⟩
  · simp only [Bool.and_eq_true, Bool.not_eq_true', List.any_eq_false, Bool.not_eq_false] at single
    exact ⟨single.1.1, single.1.2, single.2⟩

/-- What is needed for a text to be written without quotes. -/
structure Bare (text : Text) : Prop extends Orderly text where
  first : text.head? ≠ some ' '
  last : text.getLast? ≠ some ' '
  noEnd : ∀ c ∈ text, isBreak c = false
  unmarked : Shape.hasMarks text = false

theorem bare_of_plain (present : text ≠ []) (plain : (Shape.ofText text).plain = true) : Bare text := by
  rw [Shape.ofText, if_neg (by simpa using present)] at plain
  simp only [Bool.and_eq_true, Bool.not_eq_true', Bool.or_eq_false_iff, List.any_eq_false,
    Bool.not_eq_false, Bool.not_eq_true] at plain
  obtain ⟨⟨⟨⟨first, last⟩, ⟨noBreakSpace, noSpaceBreak⟩, ordinary⟩, noEnd⟩, unmarked⟩ := plain
  refine ⟨⟨noBreakSpace, noSpaceBreak, ordinary⟩, fun space => ?_, fun space => ?_, noEnd, unmarked⟩
  · rw [space] at first
    exact nomatch first
  · rw [space] at last
    exact nomatch last

theorem Orderly.parts (orderly : Orderly text) : Parts (Sheet.runs text) :=
  parts_of_text orderly.noBreakSpace orderly.noSpaceBreak

theorem Orderly.noTab (orderly : Orderly text) : '\t' ∉ text :=
  fun tab => absurd (orderly.ordinary _ tab) (by decide)

end Shapes

/-- How an item leaves the page: with its last line ended, or with something on it. -/
def Sheet.Ended (closed : Bool) (sheet : Sheet) : Prop :=
  if closed then sheet.AtStart else sheet.onlyMarks = false

namespace Leaf

variable {leaf : Leaf} {isKey : Bool} {sheet : Sheet} {column : Nat}

/-- What is read of a scalar in the style that is chosen for it. -/
def settled (isKey : Bool) (leaf : Leaf) : Text :=
  match leaf.style isKey with
  | .plain => leaf.text
  | .single => (Sheet.runs leaf.text).flatMap settledRun
  | .literal => leaf.text.map settledBreak
  | .double => leaf.text

theorem shape_of_plain (plain : leaf.style isKey = .plain) : (Shape.ofText leaf.text).plain = true := by
  rw [style] at plain
  split at plain
  · next chosen => simp_all
  · split at plain
    · exact nomatch plain
    · split at plain <;> exact nomatch plain

theorem shape_of_single (single : leaf.style isKey = .single) :
    (Shape.ofText leaf.text).single = true := by
  rw [style] at single
  split at single
  · exact nomatch single
  · split at single
    · exact nomatch single
    · split at single
      · next chosen => simp_all
      · exact nomatch single

theorem shape_of_literal (literal : leaf.style isKey = .literal) :
    isKey = false ∧ (Shape.ofText leaf.text).block = true := by
  rw [style] at literal
  split at literal
  · exact nomatch literal
  · split at literal
    · next chosen => simp_all
    · split at literal <;> exact nomatch literal

theorem block_present {text : Text} (block : (Shape.ofText text).block = true) : text ≠ [] := by
  rintro rfl
  exact nomatch block

theorem ordinary_of_block {text : Text} (block : (Shape.ofText text).block = true) :
    ∀ c ∈ text, Shape.isOrdinary c = true := by
  rw [Shape.ofText, if_neg (by simpa using block_present block)] at block
  simp only [Bool.and_eq_true, Bool.not_eq_true', List.any_eq_false, Bool.not_eq_false] at block
  exact block.2

theorem clean_of_ordinary {text : Text} (ordinary : ∀ c ∈ text, Shape.isOrdinary c = true) : Clean text :=
  fun c member => cleanChar_of_ordinary (ordinary c member)

theorem clean_settledBreaks {text : Text} (clean : Clean text) : Clean (text.map settledBreak) := by
  intro c member
  obtain ⟨d, listed, rfl⟩ := List.mem_map.mp member
  rw [settledBreak]
  split
  · exact cleanChar_of_isBreak rfl
  · exact clean d listed

theorem clean_settledRun {run : Text} (clean : Clean run) : Clean (settledRun run) := by
  rw [settledRun]
  split
  · have folded : Clean (foldedEnds run) := by
      rw [foldedEnds]
      split
      · exact clean_cons.mpr ⟨cleanChar_of_isBreak rfl, clean⟩
      · exact clean
    generalize foldedEnds run = ends at folded
    cases ends with
    | nil => exact clean_nil
    | cons first more =>
      rw [settledBreaks]
      obtain ⟨cleanFirst, cleanMore⟩ := clean_cons.mp folded
      refine clean_append.mpr ⟨?_, clean_settledBreaks cleanMore⟩
      split
      · split
        · exact clean_cons.mpr ⟨cleanChar_of_printable (by decide) (by decide), clean_nil⟩
        · exact clean_nil
      · exact clean_settledBreaks (clean_cons.mpr ⟨cleanFirst, clean_nil⟩)
  · exact clean

theorem clean_settledRuns {text : Text} (clean : Clean text) :
    Clean ((Sheet.runs text).flatMap settledRun) := by
  have whole : (Sheet.runs text).flatten = text := List.flatten_splitBy _ _
  intro c member
  obtain ⟨run, inRuns, inRun⟩ := List.mem_flatMap.mp member
  refine clean_settledRun (fun d listed => clean d ?_) c inRun
  rw [← whole]
  exact List.mem_flatten.mpr ⟨run, inRuns, listed⟩

/-- An item on the page: its form, and whether its last line is ended with it. -/
theorem adds_write (filled : leaf.style isKey = .plain → leaf.text ≠ [])
    (inside : sheet.indent = some column) (narrow : column + 2 < Sheet.widest) :
    ∃ written closed, sheet.Adds ((if sheet.atBlank then [] else [' ']) ++ written)
        (leaf.write false isKey sheet) ∧
      ScalarForm column (leaf.settled isKey) (leaf.style isKey == .plain) written closed ∧
      (leaf.write false isKey sheet).Ended closed ∧ (closed = true → leaf.style isKey = .literal) := by
  let inner : Sheet := { sheet with indent := some (column + 2) }
  have within : inner.indent = some (column + 2) := rfl
  rw [Leaf.write, settled]
  simp only [Sheet.deeper_eq inside]
  cases chosen : leaf.style isKey with
  | plain =>
    have bare := bare_of_plain (filled chosen) (shape_of_plain chosen)
    have deep : column + 1 ≤ column + 2 := Nat.le_succ _
    obtain ⟨written, adds, form⟩ := Sheet.adds_plain (filled chosen) bare.toOrderly.parts
      (unmarked_of_hasMarks bare.unmarked) bare.toOrderly.noTab bare.noEnd bare.first bare.last within
      (by omega) deep (Nat.le_of_lt narrow)
    exact ⟨written, false, adds.restored, .plain form bare.unmarked (clean_of_ordinary bare.ordinary),
      Sheet.onlyMarks_plain (filled chosen), by simp⟩
  | single =>
    have orderly := orderly_of_single (shape_of_single chosen)
    obtain ⟨written, adds, form⟩ :=
      Sheet.adds_single orderly.parts orderly.noTab within (by omega) (Nat.le_of_lt narrow)
    exact ⟨_, false, adds.restored, .single form
      (clean_settledRuns (clean_of_ordinary orderly.ordinary)), by simp [Sheet.Ended, Sheet.single, Sheet.mark],
      by simp⟩
  | double =>
    obtain ⟨written, adds, form⟩ := Sheet.adds_double within (by omega) narrow
    exact ⟨_, false, adds.restored, .double form, by simp [Sheet.Ended, Sheet.double, Sheet.mark],
      by simp⟩
  | literal =>
    obtain ⟨written, adds, start, form⟩ :=
      Sheet.adds_literal (block_present (shape_of_literal chosen).2) within
    exact ⟨_, true, adds.restored, .literal form
      (clean_settledBreaks (clean_of_ordinary (ordinary_of_block (shape_of_literal chosen).2))),
      ⟨start.column, start.atBlank, start.onlyMarks⟩, fun _ => rfl⟩

end Leaf

section Keys

variable {text pending : Text} {runs : List Text} {sheet : Sheet} {column size position : Nat}
  {first : Bool}

/-- A character between double quotes. -/
def escaped (c : Char) : Text := if Sheet.isVerbatim c then [c] else Sheet.escape c

namespace Sheet

-- A key is not wrapped.
theorem adds_plainRuns_key (runs : List Text) (sheet : Sheet) :
    sheet.Adds runs.flatten (plainRuns false runs sheet) := by
  induction runs generalizing sheet with
  | nil => exact .refl sheet
  | cons run runs ih =>
    have step : plainRuns false (run :: runs) sheet = plainRuns false runs
        (if run = [] then sheet else sheet.write run) := by
      cases run with
      | nil => rfl
      | cons c more => simp [plainRuns]
    rw [step]
    split
    · next empty =>
      subst empty
      exact ih sheet
    · exact (adds_write run sheet).trans (ih _)

theorem adds_plain_key (blank : sheet.atBlank = true) (present : text ≠ []) :
    sheet.Adds text (plain false false text sheet) := by
  have whole : (Sheet.runs text).flatten = text := List.flatten_splitBy _ _
  have runs := adds_plainRuns_key (Sheet.runs text) { sheet with atBlank := false, onlyMarks := false }
  rw [whole] at runs
  simp only [plain, Bool.false_eq_true, if_false, List.isEmpty_iff, present, blank, if_true]
  exact ⟨runs.written, runs.indent⟩

theorem doubledQuotes_append (first second : Text) :
    doubledQuotes (first ++ second) = doubledQuotes first ++ doubledQuotes second := List.flatMap_append

theorem adds_singleRuns_key (first : Bool) (sheet : Sheet) (parts : Parts runs)
    (noEnd : ∀ run ∈ runs, ∀ c ∈ run, isBreak c = false) :
    sheet.Adds (doubledQuotes runs.flatten) (singleRuns false first runs sheet) := by
  induction parts generalizing sheet first with
  | nil => exact .refl sheet
  | @word word runs present solid _ _ ih =>
    obtain ⟨c, word, rfl⟩ := List.exists_cons_of_ne_nil present
    have noSpace : c ≠ ' ' := by
      rintro rfl
      cases solid ' ' (by simp)
    have later := ih false (sheet.write (doubledQuotes (c :: word)))
      fun run member => noEnd run (by simp [member])
    rw [singleRuns, List.flatten_cons, doubledQuotes_append]
    simp only [noSpace, noEnd (c :: word) (by simp) c (by simp), Bool.false_eq_true, if_false]
    exact (adds_write _ sheet).trans later
  | @gap gap runs present blank _ _ ih =>
    obtain ⟨c, gap, rfl⟩ := List.exists_cons_of_ne_nil present
    have spaces : ∀ d ∈ c :: gap, d = ' ' := by
      refine blank.resolve_right fun ends => ?_
      have here := ends c (by simp)
      rw [noEnd (c :: gap) (by simp) c (by simp)] at here
      cases here
    have same : doubledQuotes (c :: gap) = c :: gap := by
      rw [List.eq_replicate_of_mem spaces, doubledQuotes, List.flatMap_replicate]
      simp
    obtain rfl : c = ' ' := spaces c (by simp)
    have later := ih false (sheet.write (' ' :: gap))
      fun run member => noEnd run (by simp [member])
    rw [singleRuns, List.flatten_cons, doubledQuotes_append, same]
    simp only [if_true, Bool.and_false, Bool.false_and, Bool.false_eq_true, if_false]
    exact (adds_write _ sheet).trans later

theorem adds_single_key (blank : sheet.atBlank = true) (orderly : Orderly text)
    (noEnd : ∀ c ∈ text, isBreak c = false) :
    sheet.Adds ('\'' :: (doubledQuotes text ++ ['\''])) (single false text sheet) := by
  have whole : (Sheet.runs text).flatten = text := List.flatten_splitBy _ _
  have noEnds : ∀ run ∈ Sheet.runs text, ∀ c ∈ run, isBreak c = false := by
    intro run inRuns c inRun
    refine noEnd c ?_
    rw [← whole]
    exact List.mem_flatten.mpr ⟨run, inRuns, inRun⟩
  have opened := adds_mark ['\''] true false sheet
  have runs := adds_singleRuns_key true (sheet.mark ['\''] true) orderly.parts noEnds
  rw [whole] at runs
  rw [single]
  simpa [blank] using (opened.trans runs).trans (adds_mark ['\''] false false _)

theorem adds_doubleRest_key (pending : Text) (size position : Nat) (rest : Text) (sheet : Sheet) :
    sheet.Adds (pending.reverse ++ rest.flatMap escaped)
      (doubleRest false size position pending rest sheet) := by
  induction rest generalizing pending sheet position with
  | nil => simpa [doubleRest] using adds_write pending.reverse sheet
  | cons c rest ih =>
    rw [doubleRest]
    simp only [Bool.false_and, Bool.false_eq_true, if_false, List.flatMap_cons]
    split
    · next verbatim => simpa [escaped, verbatim] using ih (c :: pending) (position + 1) sheet
    · next special =>
      have flushed := (adds_write pending.reverse sheet).trans (adds_write (escape c) _)
      simpa [escaped, special] using flushed.trans (ih [] (position + 1) _)

theorem adds_double_key (blank : sheet.atBlank = true) (text : Text) :
    sheet.Adds ('"' :: (text.flatMap escaped ++ ['"'])) (double false text sheet) := by
  have opened := adds_mark ['"'] true false sheet
  have rest := adds_doubleRest_key [] text.length 0 text (sheet.mark ['"'] true)
  rw [double]
  simpa [blank] using (opened.trans rest).trans (adds_mark ['"'] false false _)

end Sheet

/-- A key as it is written before its colon. -/
def Leaf.keyText (leaf : Leaf) : Text :=
  match leaf.style true with
  | .plain => leaf.text
  | .double => '"' :: (leaf.text.flatMap escaped ++ ['"'])
  | _ => '\'' :: (Sheet.doubledQuotes leaf.text ++ ['\''])

theorem Sheet.Adds.unique {before after : Sheet} {one two : Text} (first : before.Adds one after)
    (second : before.Adds two after) : one = two :=
  List.append_cancel_left (first.written.symm.trans second.written)

theorem style_key_ne_literal (leaf : Leaf) : leaf.style true ≠ .literal :=
  fun literal => nomatch (Leaf.shape_of_literal literal).1

/-- A key on one line, before its colon. -/
theorem adds_key {leaf : Leaf} (present : leaf.text ≠ []) (noEnd : ∀ c ∈ leaf.text, isBreak c = false)
    (blank : sheet.atBlank = true) (inside : sheet.indent = some column)
    (narrow : column + 2 < Sheet.widest) :
    sheet.Adds leaf.keyText (leaf.write false true sheet) ∧
      ScalarForm column (leaf.settled true) (leaf.style true == .plain) leaf.keyText false ∧
      (leaf.write false true sheet).onlyMarks = false := by
  obtain ⟨written, closed, adds, form, ended, literal⟩ :=
    Leaf.adds_write (fun _ => present) inside narrow
  obtain rfl : closed = false := by
    cases closed with
    | false => rfl
    | true => exact (style_key_ne_literal leaf (literal rfl)).elim
  simp only [blank, if_true, List.nil_append] at adds
  have same : written = leaf.keyText := by
    refine adds.unique ?_
    let inner : Sheet := { sheet with indent := some (column + 2) }
    have blank' : inner.atBlank = true := blank
    rw [Leaf.write, Leaf.keyText]
    simp only [Sheet.deeper_eq inside, Bool.not_true]
    cases chosen : leaf.style true with
    | plain => exact (Sheet.adds_plain_key blank' present).restored
    | single =>
      have orderly := orderly_of_single (Leaf.shape_of_single chosen)
      exact (Sheet.adds_single_key blank' orderly noEnd).restored
    | double => exact (Sheet.adds_double_key blank' leaf.text).restored
    | literal => exact (style_key_ne_literal leaf chosen).elim
  subst same
  exact ⟨adds, form, ended⟩

end Keys

end Transclusion.Yaml

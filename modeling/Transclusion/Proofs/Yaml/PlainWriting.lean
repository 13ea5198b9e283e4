import Transclusion.Proofs.Yaml.NextTokens
import Transclusion.Proofs.Yaml.PlainScalars
import Transclusion.Proofs.Yaml.Sheets
import Transclusion.Proofs.Yaml.TextRuns

/-!
A text that has no marks of the language in it is written without quotes in a form that is read
as the text.
-/

namespace Transclusion.Yaml

open Shape

section Marks

variable {text before after : Text} {b c : Char}

/-- No character of a text has the look of a mark. -/
structure Unmarked (text : Text) : Prop where
  colon : ∀ before after, text = before ++ ':' :: after → isPlainBlank after.head? = false
  hash : ∀ before after, text = before ++ '#' :: after →
    ∃ b, before.getLast? = some b ∧ isPlainBlank (some b) = false

theorem isMarkInside_of_hasMarkInside (none : hasMarkInside (before ++ b :: c :: after) = false) :
    isMarkInside b c after.head? = false := by
  induction before with
  | nil =>
    rw [List.nil_append, hasMarkInside, Bool.or_eq_false_iff] at none
    exact none.1
  | cons d before ih =>
    cases joined : before ++ b :: c :: after with
    | nil => simp at joined
    | cons e rest =>
      rw [List.cons_append, joined, hasMarkInside, Bool.or_eq_false_iff] at none
      exact ih (by rw [joined, none.2])

theorem unmarked_of_hasMarks (none : hasMarks text = false) : Unmarked text := by
  simp only [hasMarks, Bool.or_eq_false_iff] at none
  obtain ⟨⟨_, start⟩, inside⟩ := none
  constructor
  · intro before after parts
    rcases List.eq_nil_or_concat before with rfl | ⟨before, b, rfl⟩
    · subst parts
      simpa [isMarkAtStart] using (Bool.or_eq_false_iff.mp start).2
    · rw [List.concat_eq_append, List.append_assoc] at parts
      rw [parts] at inside
      simpa [isMarkInside] using isMarkInside_of_hasMarkInside inside
  · intro before after parts
    rcases List.eq_nil_or_concat before with rfl | ⟨before, b, rfl⟩
    · subst parts
      cases (Bool.or_eq_false_iff.mp start).1
    · rw [List.concat_eq_append, List.append_assoc] at parts
      rw [parts] at inside
      exact ⟨b, by simp, by simpa [isMarkInside] using isMarkInside_of_hasMarkInside inside⟩

end Marks

section Words

variable {text before word : Text} {runs : List Text} {c : Char}

theorem solid_of_last (all : ∀ c ∈ word, c ≠ ' ' ∧ c ≠ '\t' ∧ isBreak c = false)
    (last : word.getLast? ≠ some ':') : Solid word := by
  induction word with
  | nil => trivial
  | cons c word ih =>
    obtain ⟨noSpace, noTab, noEnd⟩ := all c (by simp)
    refine ⟨noSpace, noTab, noEnd, ?_, ih (fun d member => all d (by simp [member])) ?_⟩
    · rintro rfl rfl
      exact last rfl
    · intro same
      refine last ?_
      cases word with
      | nil => exact nomatch same
      | cons d word => simpa [List.getLast?_cons_cons] using same

theorem isPlainBlank_of_not_wordChar (gap : isWordChar c = false) : isPlainBlank (some c) = true := by
  simp only [isWordChar, Bool.and_eq_false_iff, Bool.not_eq_false'] at gap
  rcases gap with space | isEnd
  · simp [isPlainBlank, show c = ' ' by simpa [isSpace] using space]
  · simp [isPlainBlank, isEnd]

theorem kind_of_parts (parts : Parts runs) : ∀ run ∈ runs,
    (∀ c ∈ run, isWordChar c = true) ∨ ∀ c ∈ run, isWordChar c = false := by
  induction parts with
  | nil => simp
  | word _ solid _ _ ih => simpa using ⟨.inl solid, ih⟩
  | gap _ blank _ _ ih => simpa using ⟨.inr (not_wordChar_of_blank blank), ih⟩

/-- A run of word characters is a word where no text around it makes a mark of it. -/
theorem word_of_unmarked {after : Text} (unmarked : Unmarked (before ++ word ++ after))
    (present : word ≠ []) (solid : ∀ c ∈ word, isWordChar c = true) (noTab : '\t' ∉ word)
    (behind : ∀ b ∈ before.getLast?, isPlainBlank (some b) = true)
    (ahead : isPlainBlank after.head? = true) : Word word := by
  have noHash : word.head? ≠ some '#' := by
    intro hash
    obtain ⟨more, rfl⟩ := List.head?_eq_some_iff.mp hash
    obtain ⟨b, last, other⟩ := unmarked.hash before (more ++ after) (by simp)
    rw [behind b last] at other
    cases other
  have noColon : word.getLast? ≠ some ':' := by
    intro colon
    obtain ⟨more, rfl⟩ := List.getLast?_eq_some_iff.mp colon
    have other := unmarked.colon (before ++ more) after (by simp)
    rw [ahead] at other
    cases other
  refine ⟨present, noHash, solid_of_last (fun c inWord => ?_) noColon⟩
  have wordChar := solid c inWord
  simp only [isWordChar, Bool.and_eq_true, Bool.not_eq_true'] at wordChar
  exact ⟨by simpa [isSpace] using wordChar.1, fun tab => noTab (tab ▸ inWord), wordChar.2⟩

/-- The words of a text without marks. -/
theorem word_of_parts (parts : Parts runs) (unmarked : Unmarked (before ++ runs.flatten))
    (noTab : ∀ run ∈ runs, '\t' ∉ run)
    (behind : runs ≠ [] → StartsWord runs → ∀ b ∈ before.getLast?, isPlainBlank (some b) = true) :
    ∀ word ∈ runs, (∀ c ∈ word, isWordChar c = true) → Word word := by
  induction parts generalizing before with
  | nil => simp
  | @word first runs present solid next others ih =>
    have whole : before ++ (first :: runs).flatten = before ++ first ++ runs.flatten := by simp
    rw [whole] at unmarked
    have ahead : isPlainBlank runs.flatten.head? = true := by
      cases others with
      | nil => rfl
      | word present _ _ _ | gap present _ _ _ =>
        obtain ⟨d, run, rfl⟩ := List.exists_cons_of_ne_nil present
        exact isPlainBlank_of_not_wordChar (next (d :: run) rfl d rfl)
    have later := ih unmarked (fun run member => noTab run (by simp [member]))
      fun goesOn starts => absurd starts (others.not_startsWord goesOn next)
    intro word member all
    rcases List.mem_cons.mp member with rfl | member
    · exact word_of_unmarked unmarked present solid (noTab word (by simp))
        (behind (by simp) (startsWord_cons solid)) ahead
    · exact later word member all
  | @gap gap runs present blank next others ih =>
    have whole : before ++ (gap :: runs).flatten = before ++ gap ++ runs.flatten := by simp
    have notWord := not_wordChar_of_blank blank
    have later := ih (whole ▸ unmarked) (fun run member => noTab run (by simp [member]))
      (fun _ _ b last => by
        rw [List.getLast?_append_of_ne_nil _ present] at last
        exact isPlainBlank_of_not_wordChar (notWord b (List.mem_of_mem_getLast? last)))
    intro word member all
    rcases List.mem_cons.mp member with rfl | member
    · obtain ⟨c, word, rfl⟩ := List.exists_cons_of_ne_nil present
      have here := notWord c (by simp)
      rw [all c (by simp)] at here
      cases here
    · exact later word member all

theorem startsWord_of_head (first : ∀ c, runs.flatten.head? = some c → isWordChar c = true) :
    StartsWord runs := by
  intro run head c inRun
  obtain ⟨more, rfl⟩ := List.head?_eq_some_iff.mp head
  obtain ⟨rest, rfl⟩ := List.head?_eq_some_iff.mp inRun
  exact first c rfl

/-- Runs that end with a word character end with a word. -/
theorem wordChars_of_getLast (parts : Parts runs)
    (last : ∀ c, runs.flatten.getLast? = some c → isWordChar c = true) :
    ∀ run ∈ runs.getLast?, ∀ c ∈ run, isWordChar c = true := by
  intro run final
  have member := List.mem_of_mem_getLast? final
  refine (kind_of_parts parts run member).resolve_right fun gap => ?_
  obtain ⟨front, shape⟩ := List.getLast?_eq_some_iff.mp final
  obtain ⟨before, c, rfl⟩ := (List.eq_nil_or_concat run).resolve_left (parts.present run member)
  have wordChar := last c (by simp [shape])
  rw [gap c (by simp)] at wordChar
  cases wordChar

end Words

section Writing

variable {text read written following : Text} {runs : List Text} {sheet : Sheet} {wrap : Bool}
  {indent depth : Nat}

namespace Sheet

/-- From wherever on the level runs are written without quotes, they are read as the runs: by
themselves where a word comes first, and behind a word elsewhere. -/
def WritesPlain (wrap : Bool) (indent depth : Nat) (runs : List Text) : Prop :=
  ∀ sheet : Sheet, sheet.indent = some indent →
    ∃ written, sheet.Adds written (plainRuns wrap runs sheet) ∧
      (runs ≠ [] → StartsWord runs → PlainForm depth runs.flatten written) ∧
      ((runs = [] ∨ ¬ StartsWord runs) → ∀ word, Word word →
        PlainForm depth (word ++ runs.flatten) (word ++ written))

theorem writesPlain_nil : WritesPlain wrap indent depth [] := fun sheet _ =>
  ⟨[], .refl sheet, by simp, fun _ word isWord => by simpa using PlainForm.word isWord⟩

theorem writesPlain_word {word : Text} (isWord : Word word) (solid : ∀ c ∈ word, isWordChar c = true)
    (ended : runs = [] ∨ ¬ StartsWord runs) (later : WritesPlain wrap indent depth runs) :
    WritesPlain wrap indent depth (word :: runs) := by
  intro sheet inside
  obtain ⟨c, word, rfl⟩ := List.exists_cons_of_ne_nil isWord.present
  have noSpace : c ≠ ' ' := by
    rintro rfl
    exact nomatch solid ' ' (by simp)
  obtain ⟨written, adds, _, behind⟩ := later (sheet.write (c :: word)) inside
  refine ⟨(c :: word) ++ written, ?_, fun _ _ => behind ended _ isWord, ?_⟩
  · rw [plainRuns]
    simp only [noSpace, if_false]
    exact (adds_write _ sheet).trans adds
  · rintro (none | notStarts)
    · cases none
    · exact absurd (startsWord_cons solid) notStarts

/-- Spaces are written as they are, or a single one as the end of a line. -/
theorem writesPlain_gap {gap : Text} (present : gap ≠ []) (spaces : ∀ c ∈ gap, c = ' ')
    (goesOn : runs ≠ []) (starts : StartsWord runs) (positive : 0 < indent) (deep : depth ≤ indent)
    (narrow : indent ≤ widest) (later : WritesPlain wrap indent depth runs) :
    WritesPlain wrap indent depth (gap :: runs) := by
  intro sheet inside
  have notStarts : ¬ StartsWord (gap :: runs) := not_startsWord_cons present fun c first => by
    rw [spaces c (List.mem_of_mem_head? first)]
    rfl
  obtain ⟨c, gap, rfl⟩ := List.exists_cons_of_ne_nil present
  obtain rfl : c = ' ' := spaces c (by simp)
  rw [plainRuns]
  simp only [if_true]
  split
  · next wraps =>
    simp only [Bool.and_eq_true, decide_eq_true_eq, List.isEmpty_iff] at wraps
    obtain rfl : gap = [] := wraps.1.1
    obtain ⟨broken, _⟩ := toIndent_line
      (.inr (by rw [inside]; exact Nat.lt_of_le_of_lt narrow wraps.1.2))
    rw [inside, Option.getD_some] at broken
    have turned : sheet.Adds ('\n' :: List.replicate indent ' ')
        { sheet.toIndent with atBlank := false, onlyMarks := false } :=
      ⟨broken.written, broken.indent⟩
    obtain ⟨written, adds, form, _⟩ := later _ (by rw [turned.indent, inside])
    refine ⟨_, turned.trans adds, fun _ starts => absurd starts notStarts, fun _ word isWord => ?_⟩
    exact .fold isWord (by simp [Nat.ne_of_gt positive]) (fun d member => List.eq_of_mem_replicate member)
      (by simpa using deep) (form goesOn starts)
  · obtain ⟨written, adds, form, _⟩ := later (sheet.write (' ' :: gap)) inside
    refine ⟨_, (adds_write _ sheet).trans adds, fun _ starts => absurd starts notStarts,
      fun _ word isWord => ?_⟩
    exact .space isWord (by simp) spaces (form goesOn starts)

theorem writesPlain_runs (parts : Parts runs) (noEnd : ∀ run ∈ runs, ∀ c ∈ run, isBreak c = false)
    (words : ∀ word ∈ runs, (∀ c ∈ word, isWordChar c = true) → Word word)
    (last : ∀ run ∈ runs.getLast?, ∀ c ∈ run, isWordChar c = true)
    (positive : 0 < indent) (deep : depth ≤ indent) (narrow : indent ≤ widest) :
    WritesPlain wrap indent depth runs := by
  induction parts with
  | nil => exact writesPlain_nil
  | @word word runs present solid next others ih =>
    have lastLater : ∀ run ∈ runs.getLast?, ∀ c ∈ run, isWordChar c = true := by
      intro run final
      cases runs with
      | nil => cases final
      | cons other runs => exact last run (by rwa [List.getLast?_cons_cons])
    refine writesPlain_word (words word (by simp) solid) solid ?_
      (ih (fun run member => noEnd run (by simp [member]))
        (fun run member => words run (by simp [member])) lastLater)
    by_cases ends : runs = []
    · exact .inl ends
    · exact .inr (others.not_startsWord ends next)
  | @gap gap runs present blank next others ih =>
    have spaces : ∀ d ∈ gap, d = ' ' := by
      refine blank.resolve_right fun ends => ?_
      obtain ⟨c, gap, rfl⟩ := List.exists_cons_of_ne_nil present
      have here := ends c (by simp)
      rw [noEnd (c :: gap) (by simp) c (by simp)] at here
      cases here
    obtain ⟨c, more, shape⟩ := List.exists_cons_of_ne_nil present
    have goesOn : runs ≠ [] := by
      rintro rfl
      have wordChar := last gap rfl c (by simp [shape])
      rw [spaces c (by simp [shape])] at wordChar
      cases wordChar
    have lastLater : ∀ run ∈ runs.getLast?, ∀ c ∈ run, isWordChar c = true := by
      intro run final
      obtain ⟨other, runs, rfl⟩ := List.exists_cons_of_ne_nil goesOn
      exact last run (by rwa [List.getLast?_cons_cons])
    exact writesPlain_gap present spaces goesOn next positive deep narrow
      (ih (fun run member => noEnd run (by simp [member]))
        (fun run member => words run (by simp [member])) lastLater)

theorem onlyMarks_plainRuns (marks : sheet.onlyMarks = false) :
    (plainRuns wrap runs sheet).onlyMarks = false := by
  induction runs generalizing sheet with
  | nil => exact marks
  | cons run runs ih =>
    refine ih ?_
    dsimp only
    split
    · exact marks
    · split
      · split
        · rfl
        · exact marks
      · exact marks

theorem onlyMarks_plain (present : text ≠ []) : (plain false wrap text sheet).onlyMarks = false := by
  simp only [plain, Bool.false_eq_true, if_false, List.isEmpty_iff, present]
  exact onlyMarks_plainRuns rfl

/-- What is written without quotes for a text without marks is read as the text. -/
theorem adds_plain (present : text ≠ []) (parts : Parts (Sheet.runs text)) (unmarked : Unmarked text)
    (noTab : '\t' ∉ text) (noEnd : ∀ c ∈ text, isBreak c = false)
    (first : text.head? ≠ some ' ') (last : text.getLast? ≠ some ' ')
    (inside : sheet.indent = some indent) (positive : 0 < indent) (deep : depth ≤ indent)
    (narrow : indent ≤ widest) :
    ∃ written, sheet.Adds ((if sheet.atBlank then [] else [' ']) ++ written)
        (plain false wrap text sheet) ∧ PlainForm depth text written := by
  have whole : (Sheet.runs text).flatten = text := List.flatten_splitBy _ _
  have member : ∀ run ∈ Sheet.runs text, ∀ c ∈ run, c ∈ text := by
    intro run inRuns c inRun
    rw [← whole]
    exact List.mem_flatten.mpr ⟨run, inRuns, inRun⟩
  have noTabs : ∀ run ∈ Sheet.runs text, '\t' ∉ run := fun run inRuns tab => noTab (member run inRuns _ tab)
  have wordChar : ∀ c ∈ text, c ≠ ' ' → isWordChar c = true := fun c inText noSpace => by
    simp [isWordChar, isSpace, noSpace, noEnd c inText]
  have starts : StartsWord (Sheet.runs text) := startsWord_of_head fun c head =>
    wordChar c (by rw [← whole]; exact List.mem_of_mem_head? head)
      fun space => first (by rw [← whole, head, space])
  have ends : ∀ run ∈ (Sheet.runs text).getLast?, ∀ c ∈ run, isWordChar c = true :=
    wordChars_of_getLast parts fun c final =>
      wordChar c (by rw [← whole]; exact List.mem_of_mem_getLast? final)
        fun space => last (by rw [← whole, final, space])
  have words := word_of_parts parts (by rwa [List.nil_append, whole]) noTabs (by simp)
  have nonempty : Sheet.runs text ≠ [] := List.splitBy_ne_nil.mpr present
  have opened : sheet.Adds (if sheet.atBlank then [] else [' '])
      (if sheet.atBlank then sheet else sheet.write [' ']) := by
    split
    · exact .refl sheet
    · exact adds_write _ sheet
  generalize same : (if sheet.atBlank then sheet else sheet.write [' ']) = begun at opened
  have begun' : sheet.Adds (if sheet.atBlank then [] else [' '])
      { begun with atBlank := false, onlyMarks := false } := ⟨opened.written, opened.indent⟩
  have writes : WritesPlain wrap indent depth (Sheet.runs text) := writesPlain_runs parts
    (fun run inRuns c inRun => noEnd c (member run inRuns c inRun)) words ends positive deep narrow
  obtain ⟨written, adds, form, _⟩ := writes { begun with atBlank := false, onlyMarks := false }
    (by rw [begun'.indent, inside])
  refine ⟨written, ?_, by simpa [whole] using form nonempty starts⟩
  rw [plain]
  simp only [Bool.false_eq_true, if_false, List.isEmpty_iff, present, same]
  exact begun'.trans adds

end Sheet

end Writing

section Starts

open TokenSource

variable {read written following : Text} {depth : Nat} {mark : Char}

theorem PlainForm.firstWord (form : PlainForm depth read written) : ∃ word moreRead moreWritten,
    Word word ∧ read = word ++ moreRead ∧ written = word ++ moreWritten ∧
      (moreRead = [] ∧ moreWritten = [] ∨
        moreRead.head? = some ' ' ∧ (moreWritten.head? = some ' ' ∨ moreWritten.head? = some '\n')) := by
  cases form with
  | word isWord => exact ⟨_, [], [], isWord, by simp, by simp, .inl ⟨rfl, rfl⟩⟩
  | space isWord present blank form =>
    obtain ⟨c, blanks, rfl⟩ := List.exists_cons_of_ne_nil present
    obtain rfl : c = ' ' := blank c (by simp)
    exact ⟨_, _, _, isWord, rfl, rfl, .inr ⟨rfl, .inl rfl⟩⟩
  | fold isWord _ _ _ form => exact ⟨_, _, _, isWord, rfl, rfl, .inr ⟨rfl, .inr rfl⟩⟩

theorem prefix_of_append {text more : Text} (other : more.head? ≠ some mark)
    (starts : [mark, mark, mark].isPrefixOf (text ++ more) = true) :
    [mark, mark, mark].isPrefixOf text = true := by
  have refuse : ∀ marks : Text, (mark :: marks).isPrefixOf more = false := by
    intro marks
    cases more with
    | nil => rfl
    | cons c more =>
      have differs : mark ≠ c := fun same => other (by rw [same]; rfl)
      simp [List.isPrefixOf, differs]
  rcases text with _ | ⟨a, _ | ⟨b, _ | ⟨c, text⟩⟩⟩
  · rw [List.nil_append, refuse] at starts
    exact nomatch starts
  · simp [List.isPrefixOf, refuse] at starts
  · simp [List.isPrefixOf, refuse] at starts
  · simpa [List.isPrefixOf] using starts

/-- What is written without quotes begins as a plain scalar does. -/
theorem PlainForm.starts (form : PlainForm depth read written) (unmarked : hasMarks read = false)
    (following : Text) (noLine : following.head? ≠ some '-') (noDots : following.head? ≠ some '.') :
    ∃ c rest, written ++ following = c :: rest ∧ StartsPlain c rest ∧ c ≠ '#' := by
  obtain ⟨word, moreRead, moreWritten, isWord, rfl, rfl, both⟩ := form.firstWord
  simp only [hasMarks, Bool.or_eq_false_iff] at unmarked
  obtain ⟨⟨⟨noLines, noDotted⟩, start⟩, _⟩ := unmarked
  obtain ⟨c, rest, rfl, noSpace, noHash, noEnd⟩ := isWord.head
  have noTab : c ≠ '\t' := isWord.solid.2.1
  have noMarker : ∀ m, m ≠ ' ' → m ≠ '\n' → following.head? ≠ some m →
      [m, m, m].isPrefixOf (c :: rest ++ moreRead) = false →
      [m, m, m].isPrefixOf (c :: rest ++ moreWritten ++ following) = false := by
    intro m noSpace noEnd notFollowing refused
    rw [Bool.eq_false_iff] at refused ⊢
    intro starts
    refine refused ?_
    have inWord : [m, m, m].isPrefixOf (c :: rest) = true := by
      rw [List.append_assoc] at starts
      refine prefix_of_append ?_ starts
      rcases both with ⟨rfl, rfl⟩ | ⟨_, space | ends⟩
      · exact notFollowing
      · rw [List.head?_append, space]
        simpa using Ne.symm noSpace
      · rw [List.head?_append, ends]
        simpa using Ne.symm noEnd
    rw [List.isPrefixOf_iff_prefix] at inWord ⊢
    exact inWord.trans (List.prefix_append _ _)
  refine ⟨c, rest ++ moreWritten ++ following, by simp, ⟨⟨noSpace, noTab, noEnd⟩, ?_, ?_, ?_⟩, noHash⟩
  · have start : isMarkAtStart c (rest ++ moreRead).head? = false := start
    simp only [isMarkAtStart, Bool.or_eq_false_iff] at start ⊢
    refine ⟨start.1, ?_⟩
    have later := start.2
    rcases both with ⟨rfl, rfl⟩ | ⟨space, _⟩
    · cases rest with
      | nil =>
        have blank : isPlainBlank (none : Option Char) = true := rfl
        simp_all
      | cons d rest => exact later
    · cases rest with
      | nil =>
        have blank : isPlainBlank (some ' ') = true := rfl
        simp_all
      | cons d rest => exact later
  · have lines := noMarker '-' (by decide) (by decide) noLine noLines
    simpa using lines
  · have dots := noMarker '.' (by decide) (by decide) noDots noDotted
    simpa using dots

end Starts

end Transclusion.Yaml

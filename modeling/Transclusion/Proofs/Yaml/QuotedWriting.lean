import Transclusion.Proofs.Yaml.QuotedForms
import Transclusion.Proofs.Yaml.Sheets
import Transclusion.Proofs.Yaml.TextRuns

/-!
What is written between quotes has a form that is read as the text, but for how line ends are
read in single quotes.
-/

namespace Transclusion.Yaml

open ScalarText

section Single

variable {read written blanks run text : Text} {runs : List Text} {sheet : Sheet}
  {wrap first : Bool} {indent : Nat}

/-- Line ends as they are written in single quotes: a line feed that comes first is doubled. -/
def foldedEnds (run : Text) : Text := if run.head? == some '\n' then '\n' :: run else run

/-- What is read of a run in single quotes. -/
def settledRun (run : Text) : Text :=
  if (run.head?.map isBreak).getD false then settledBreaks (foldedEnds run) else run

theorem SingleForm.word {word : Text} (solid : ∀ c ∈ word, isGap c = false ∧ isBreak c = false)
    (form : SingleForm read written) :
    SingleForm (word ++ read) (Sheet.doubledQuotes word ++ written) := by
  induction word with
  | nil => exact form
  | cons c word ih =>
    have others := ih fun d member => solid d (by simp [member])
    obtain ⟨noGap, noEnd⟩ := solid c (by simp)
    by_cases quote : c = '\''
    · subst quote
      exact others.quote
    · have same : Sheet.doubledQuotes (c :: word) = c :: Sheet.doubledQuotes word := by
        simp [Sheet.doubledQuotes, quote]
      rw [same]
      exact others.char quote noGap noEnd

theorem resumes_of_firm {c : Char} (firm : Firm (text ++ [c])) : Resumes (text ++ [c]) := by
  cases text with
  | nil => exact .firm (firm c rfl).1 (firm c rfl).2
  | cons d text => exact .firm (firm d rfl).1 (firm d rfl).2

theorem SingleForm.spaces (blank : ∀ c ∈ blanks, c = ' ') (firm : Firm (written ++ ['\'']))
    (form : SingleForm read written) : SingleForm (blanks ++ read) (blanks ++ written) := by
  have both : SingleForm (blanks ++ read) (blanks ++ written) ∧
      Resumes ((blanks ++ written) ++ ['\'']) := by
    induction blanks with
    | nil => exact ⟨form, resumes_of_firm firm⟩
    | cons c blanks ih =>
      obtain rfl : c = ' ' := blank c (by simp)
      obtain ⟨others, resumes⟩ := ih fun d member => blank d (by simp [member])
      exact ⟨others.space resumes, resumes.space⟩
  exact both.1

namespace Sheet

theorem adds_foldedBreaks (present : run ≠ []) (inside : sheet.indent = some indent) :
    sheet.Adds (foldedEnds run ++ List.replicate indent ' ') (foldedBreaks run sheet) := by
  have doubled : sheet.Adds (if run.head? == some '\n' then ['\n'] else [])
      (if run.head? == some '\n' then sheet.newLine '\n' else sheet) := by
    split
    · exact adds_newLine '\n' sheet
    · exact .refl sheet
  have lines := (doubled.trans (adds_newLines run _)).indented (atStart_newLines present _) inside
  have same : (if run.head? == some '\n' then ['\n'] else []) ++ run = foldedEnds run := by
    rw [foldedEnds]
    split <;> rfl
  rwa [same] at lines

/-- From wherever on the level runs are written in single quotes, they are read as the runs. -/
def WritesSingle (wrap first : Bool) (indent : Nat) (runs : List Text) : Prop :=
  ∀ sheet : Sheet, sheet.indent = some indent →
    ∃ written, sheet.Adds written (singleRuns wrap first runs sheet) ∧
      SingleForm (runs.flatMap settledRun) written ∧ (StartsWord runs → Firm (written ++ ['\'']))

theorem writesSingle_word {word : Text} (present : word ≠ []) (solid : ∀ c ∈ word, isWordChar c = true)
    (noTab : '\t' ∉ word) (later : WritesSingle wrap false indent runs) :
    WritesSingle wrap first indent (word :: runs) := by
  intro sheet inside
  obtain ⟨c, word, rfl⟩ := List.exists_cons_of_ne_nil present
  have gapFree : ∀ d ∈ c :: word, isGap d = false ∧ isBreak d = false := by
    intro d member
    have wordChar := solid d member
    have other : d ≠ '\t' := fun same => noTab (same ▸ member)
    simp only [isWordChar, Bool.and_eq_true, Bool.not_eq_true'] at wordChar
    simp [isGap, other, wordChar.2, show d ≠ ' ' by simpa [Shape.isSpace] using wordChar.1]
  obtain ⟨noGap, noEnd⟩ := gapFree c (by simp)
  have noSpace : c ≠ ' ' := by
    rintro rfl
    cases noGap
  obtain ⟨written, adds, form, _⟩ := later (sheet.write (doubledQuotes (c :: word))) inside
  have same : settledRun (c :: word) = c :: word := by simp [settledRun, noEnd]
  refine ⟨doubledQuotes (c :: word) ++ written, ?_, ?_, fun _ => ?_⟩
  · rw [singleRuns]
    simp only [noSpace, noEnd, Bool.false_eq_true, if_false]
    exact (adds_write _ sheet).trans adds
  · rw [List.flatMap_cons, same]
    exact form.word gapFree
  · by_cases quote : c = '\''
    · subst quote
      exact Firm.cons rfl rfl
    · simp only [doubledQuotes, List.flatMap_cons, if_neg quote, List.cons_append]
      exact Firm.cons noGap noEnd

/-- Spaces are written as they are, or a single one as the end of a line. -/
theorem writesSingle_spaces {gap : Text} (present : gap ≠ []) (spaces : ∀ c ∈ gap, c = ' ')
    (starts : StartsWord runs) (positive : 0 < indent) (narrow : indent ≤ widest)
    (later : WritesSingle wrap false indent runs) : WritesSingle wrap first indent (gap :: runs) := by
  intro sheet inside
  have notStarts : ¬ StartsWord (gap :: runs) := not_startsWord_cons present fun c first =>
    not_wordChar_of_blank (.inl spaces) c (List.mem_of_mem_head? first)
  obtain ⟨c, gap, rfl⟩ := List.exists_cons_of_ne_nil present
  obtain rfl : c = ' ' := spaces c (by simp)
  have same : settledRun (' ' :: gap) = ' ' :: gap := rfl
  have padded : List.replicate indent ' ' ≠ [] := by simp [Nat.ne_of_gt positive]
  rw [singleRuns]
  simp only [if_true]
  split
  · next wraps =>
    simp only [Bool.and_eq_true, decide_eq_true_eq, List.isEmpty_iff] at wraps
    obtain rfl : gap = [] := wraps.1.1.1.1
    obtain ⟨broken, _⟩ := toIndent_line
      (.inr (by rw [inside]; exact Nat.lt_of_le_of_lt narrow wraps.1.1.1.2))
    rw [inside, Option.getD_some] at broken
    obtain ⟨written, adds, form, firm⟩ := later sheet.toIndent (by rw [broken.indent, inside])
    refine ⟨_, broken.trans adds, ?_, fun starts => absurd starts notStarts⟩
    have folded := form.breaks (List.cons_ne_nil '\n' []) (by simp [isBreak])
      (fun d member => List.eq_of_mem_replicate member) padded (firm starts)
    simpa [settledBreaks, settledBreak, settledRun, isBreak] using folded
  · obtain ⟨written, adds, form, firm⟩ := later (sheet.write (' ' :: gap)) inside
    refine ⟨_, (adds_write _ sheet).trans adds, ?_, fun starts => absurd starts notStarts⟩
    rw [List.flatMap_cons, same]
    exact form.spaces spaces (firm starts)

theorem breaks_foldedEnds (ends : ∀ c ∈ run, isBreak c = true) :
    ∀ c ∈ foldedEnds run, isBreak c = true := by
  intro c member
  rw [foldedEnds] at member
  split at member
  · rcases List.mem_cons.mp member with rfl | member
    · rfl
    · exact ends c member
  · exact ends c member

theorem writesSingle_ends {ends : Text} (present : ends ≠ []) (areEnds : ∀ c ∈ ends, isBreak c = true)
    (starts : StartsWord runs) (positive : 0 < indent)
    (later : WritesSingle wrap false indent runs) : WritesSingle wrap first indent (ends :: runs) := by
  intro sheet inside
  have notStarts : ¬ StartsWord (ends :: runs) := not_startsWord_cons present fun c first =>
    not_wordChar_of_blank (.inr areEnds) c (List.mem_of_mem_head? first)
  obtain ⟨c, ends, rfl⟩ := List.exists_cons_of_ne_nil present
  have isEnd : isBreak c = true := areEnds c (by simp)
  have noSpace : c ≠ ' ' := by
    rintro rfl
    cases isEnd
  rw [singleRuns]
  simp only [noSpace, if_false, isEnd, if_true]
  have broken := adds_foldedBreaks (List.cons_ne_nil c ends) inside
  obtain ⟨written, adds, form, firm⟩ := later (foldedBreaks (c :: ends) sheet)
    (by rw [broken.indent, inside])
  refine ⟨_, broken.trans adds, ?_, fun starts => absurd starts notStarts⟩
  have padded : List.replicate indent ' ' ≠ [] := by simp [Nat.ne_of_gt positive]
  have folded := form.breaks (by rw [foldedEnds]; split <;> simp) (breaks_foldedEnds areEnds)
    (fun d member => List.eq_of_mem_replicate member) padded (firm starts)
  rw [List.flatMap_cons, settledRun, List.append_assoc]
  simpa [isEnd] using folded

/-- What is written for runs in single quotes is read as the runs. -/
theorem writesSingle_runs (parts : Parts runs) (noTab : ∀ run ∈ runs, '\t' ∉ run)
    (positive : 0 < indent) (narrow : indent ≤ widest) : WritesSingle wrap first indent runs := by
  induction parts generalizing first with
  | nil => exact fun sheet _ => ⟨[], .refl sheet, .nil, fun _ => Firm.cons rfl rfl⟩
  | word present solid _ _ ih =>
    exact writesSingle_word present solid (noTab _ (by simp))
      (ih fun run member => noTab run (by simp [member]))
  | gap present blank starts _ ih =>
    have later : WritesSingle wrap false indent _ := ih fun run member => noTab run (by simp [member])
    rcases blank with spaces | areEnds
    · exact writesSingle_spaces present spaces starts positive narrow later
    · exact writesSingle_ends present areEnds starts positive later

theorem adds_single (parts : Parts (Sheet.runs text)) (noTab : '\t' ∉ text)
    (inside : sheet.indent = some indent) (positive : 0 < indent) (narrow : indent ≤ widest) :
    ∃ written, sheet.Adds ((if sheet.atBlank then [] else [' ']) ++ '\'' :: (written ++ ['\'']))
        (single wrap text sheet) ∧ SingleForm ((Sheet.runs text).flatMap settledRun) written := by
  have opened := adds_mark ['\''] true false sheet
  have noTabs : ∀ run ∈ Sheet.runs text, '\t' ∉ run := by
    intro run member tab
    refine noTab ?_
    rw [← List.flatten_splitBy (fun a b => (Shape.isSpace a == Shape.isSpace b) &&
      (isBreak a == isBreak b)) text]
    exact List.mem_flatten.mpr ⟨run, member, tab⟩
  have writes : WritesSingle wrap true indent (Sheet.runs text) :=
    writesSingle_runs parts noTabs positive narrow
  obtain ⟨written, adds, form, _⟩ := writes (sheet.mark ['\''] true) (by rw [opened.indent, inside])
  have closed := (opened.trans adds).trans (adds_mark ['\''] false false _)
  refine ⟨written, ?_, form⟩
  rw [single]
  cases blank : sheet.atBlank <;> simpa [blank] using closed

end Sheet

end Single

section Double

variable {text rest : Text} {sheet : Sheet} {wrap : Bool} {indent size position : Nat}
  {next : Option Char}

namespace Sheet

theorem adds_breakLine (inside : sheet.indent = some indent) (wide : indent < sheet.column + 1) :
    sheet.Adds ('\\' :: '\n' :: (List.replicate indent ' ' ++ if next == some ' ' then ['\\'] else []))
        (sheet.breakLine next) ∧ (sheet.breakLine next).column ≤ indent + 1 := by
  have stroke := adds_write ['\\'] sheet
  obtain ⟨broken, atIndent⟩ := toIndent_line
    (.inr (by rw [stroke.indent, inside]; exact wide))
  rw [stroke.indent, inside, Option.getD_some] at broken
  have column : (sheet.write ['\\']).toIndent.column = indent := by
    rw [atIndent.column, broken.indent, stroke.indent, inside]
    rfl
  have adds := stroke.trans broken
  rw [breakLine]
  generalize (sheet.write ['\\']).toIndent = turned at adds column
  dsimp only
  split
  · exact ⟨⟨by simp [write, adds.written], adds.indent⟩, by simp [write, column]⟩
  · exact ⟨⟨by simp [adds.written], adds.indent⟩, by simp [column]⟩

/-- From wherever on the level a text is written in double quotes, behind what is pending, it is read as
the text. A space that comes first may be left out where the line does not end before it. -/
def WritesDouble (wrap : Bool) (size position indent : Nat) (rest : Text) : Prop :=
  ∀ (pending : Text) (sheet : Sheet), sheet.indent = some indent →
    ∃ written, sheet.Adds (pending.reverse ++ written)
        (doubleRest wrap size position pending rest sheet) ∧ DoubleForm rest written ∧
      (rest.head? ≠ some ' ' → Firm (written ++ ['"'])) ∧
      ∀ more, rest = ' ' :: more → sheet.column + pending.length ≤ widest →
        ∃ written', written = ' ' :: written' ∧ DoubleForm more written'

/-- A character that stands for itself may begin a line, a space behind a stroke. -/
theorem writesDouble_verbatim {c : Char} (verbatim : isVerbatim c = true) (positive : 0 < indent)
    (narrow : indent < widest) (later : WritesDouble wrap size (position + 1) indent rest) :
    WritesDouble wrap size position indent (c :: rest) := by
  intro pending sheet inside
  have blank : ∀ d ∈ List.replicate indent ' ', d = ' ' := fun d member => List.eq_of_mem_replicate member
  have padded : List.replicate indent ' ' ≠ [] := by simp [Nat.ne_of_gt positive]
  obtain ⟨_, _, noEnd, noTab⟩ := verbatim_ne verbatim
  rw [doubleRest]
  dsimp only
  rw [if_pos verbatim]
  split
  · next wraps =>
    simp only [Bool.and_eq_true, decide_eq_true_eq] at wraps
    have flushed := adds_write pending.reverse sheet
    have column : (sheet.write pending.reverse).column = sheet.column + pending.length := by
      simp [write]
    obtain ⟨broken, _⟩ := adds_breakLine (by rw [flushed.indent, inside]) (by omega)
    obtain ⟨written, adds, form, _, _⟩ := later [c] ((sheet.write pending.reverse).breakLine (some c))
      (by rw [broken.indent, flushed.indent, inside])
    refine ⟨'\\' :: '\n' :: (List.replicate indent ' ' ++
      ((if some c == some ' ' then ['\\'] else []) ++ c :: written)), ?_, ?_,
      fun _ => Firm.cons rfl rfl, fun _ _ short => by omega⟩
    · simpa using (flushed.trans broken).trans adds
    · by_cases space : c = ' '
      · subst space
        exact form.escapedSpace.fold blank padded (Firm.cons rfl rfl)
      · have firm : Firm (c :: (written ++ ['"'])) :=
          Firm.cons (by simp [isGap, space, noTab]) noEnd
        simpa [space] using (form.char verbatim space).fold blank padded firm
  · obtain ⟨written, adds, form, _, _⟩ := later (c :: pending) sheet inside
    refine ⟨c :: written, by simpa using adds, ?_, fun first => ?_, ?_⟩
    · by_cases space : c = ' '
      · subst space
        exact form.space
      · exact form.char verbatim space
    · have noSpace : c ≠ ' ' := by simpa using first
      exact Firm.cons (by simp [isGap, noSpace, noTab]) noEnd
    · rintro more ⟨⟩ _
      exact ⟨written, rfl, form⟩

/-- A character that is escaped may end a line. -/
theorem writesDouble_escaped {c : Char} (escaped : ¬ isVerbatim c = true) (positive : 0 < indent)
    (narrow : indent < widest) (later : WritesDouble wrap size (position + 1) indent rest) :
    WritesDouble wrap size position indent (c :: rest) := by
  intro pending sheet inside
  have blank : ∀ d ∈ List.replicate indent ' ', d = ' ' := fun d member => List.eq_of_mem_replicate member
  have padded : List.replicate indent ' ' ≠ [] := by simp [Nat.ne_of_gt positive]
  have noSpace : c ≠ ' ' := by
    rintro rfl
    exact escaped rfl
  have flushed := (adds_write pending.reverse sheet).trans
    (adds_write (escape c) (sheet.write pending.reverse))
  obtain ⟨behind, shape, _⟩ := escape_written c
  have starts : ∀ written : Text, Firm (escape c ++ written ++ ['"']) := by
    intro written
    rw [shape]
    exact Firm.cons rfl rfl
  rw [doubleRest]
  dsimp only
  rw [if_neg escaped]
  split
  · next wraps =>
    simp only [Bool.and_eq_true, decide_eq_true_eq] at wraps
    obtain ⟨broken, column⟩ := adds_breakLine (by rw [flushed.indent, inside]) (by omega)
    obtain ⟨written, adds, form, firm, resumes⟩ := later []
      (((sheet.write pending.reverse).write (escape c)).breakLine rest.head?)
      (by rw [broken.indent, flushed.indent, inside])
    refine ⟨escape c ++ '\\' :: '\n' :: (List.replicate indent ' ' ++
      ((if rest.head? == some ' ' then ['\\'] else []) ++ written)), ?_, ?_, fun _ => starts _, ?_⟩
    · simpa using (flushed.trans broken).trans adds
    · refine DoubleForm.escaped ?_
      by_cases space : rest.head? = some ' '
      · obtain ⟨more, rfl⟩ := List.head?_eq_some_iff.mp space
        obtain ⟨written', rfl, later⟩ := resumes more rfl (by simp only [List.length_nil]; omega)
        exact later.escapedSpace.fold blank padded (Firm.cons rfl rfl)
      · simpa [space] using form.fold blank padded (firm space)
    · rintro more ⟨⟩
      exact (noSpace rfl).elim
  · obtain ⟨written, adds, form, _, _⟩ := later []
      ((sheet.write pending.reverse).write (escape c)) (by rw [flushed.indent, inside])
    refine ⟨escape c ++ written, ?_, form.escaped, fun _ => starts _, ?_⟩
    · simpa using flushed.trans adds
    · rintro more ⟨⟩
      exact (noSpace rfl).elim

/-- What is written in double quotes for a text is read as the text. -/
theorem writesDouble_rest (positive : 0 < indent) (narrow : indent < widest) :
    WritesDouble wrap size position indent rest := by
  induction rest generalizing position with
  | nil =>
    intro pending sheet inside
    refine ⟨[], ?_, .nil, fun _ => Firm.cons rfl rfl, by simp⟩
    rw [doubleRest, List.append_nil]
    exact adds_write _ sheet
  | cons c rest ih =>
    by_cases verbatim : isVerbatim c = true
    · exact writesDouble_verbatim verbatim positive narrow ih
    · exact writesDouble_escaped verbatim positive narrow ih

theorem adds_double (inside : sheet.indent = some indent) (positive : 0 < indent)
    (narrow : indent < widest) :
    ∃ written, sheet.Adds ((if sheet.atBlank then [] else [' ']) ++ '"' :: (written ++ ['"']))
        (double wrap text sheet) ∧ DoubleForm text written := by
  have opened := adds_mark ['"'] true false sheet
  have writes : WritesDouble wrap text.length 0 indent text := writesDouble_rest positive narrow
  obtain ⟨written, adds, form, _, _⟩ := writes [] (sheet.mark ['"'] true)
    (by rw [opened.indent, inside])
  have closed := (opened.trans adds).trans (adds_mark ['"'] false false _)
  refine ⟨written, ?_, form⟩
  rw [double]
  cases blank : sheet.atBlank <;> simpa [blank] using closed

end Sheet

end Double

end Transclusion.Yaml

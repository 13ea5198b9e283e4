import Transclusion.Proofs.Yaml.NextTokens
import Transclusion.Proofs.Yaml.Records

/-!
A record on a page: what is written of it after its key, and the tokens that are read there.
-/

namespace Transclusion.Yaml

open TokenSource

section Scalars

variable {column : Nat} {read written text : Text} {plain closed allowed : Bool}
  {place target stop next : Place} {outer : List Nat} {tokens : List Token}

theorem Place.Passes.line_lt {c : Char} (passes : place.Passes text target) (member : c ∈ text)
    (isEnd : isBreak c = true) : place.line < target.line := by
  obtain ⟨before, after, rfl⟩ := List.append_of_mem member
  obtain ⟨middle, first, second⟩ := passes.split
  have broken := (Place.next_break isEnd second.there).1
  have notAbove := first.line_le
  have notAbove' := second.next.line_le
  omega

/-- A text whose last line is ended with it. -/
def EndsLine (text : Text) : Prop := ∃ before c, text = before ++ [c] ∧ isBreak c = true

theorem EndsLine.append (ends : EndsLine text) (before : Text) : EndsLine (before ++ text) := by
  obtain ⟨more, c, rfl, isEnd⟩ := ends
  exact ⟨before ++ more, c, by simp, isEnd⟩

theorem EndsLine.column_eq (ends : EndsLine text) (passes : place.Passes text target) : target.column = 0 := by
  obtain ⟨before, c, rfl, isEnd⟩ := ends
  exact (passes.lineEnd isEnd .nil).2

theorem EndsLine.line_lt (ends : EndsLine text) (passes : place.Passes text target) :
    place.line < target.line := by
  obtain ⟨before, c, rfl, isEnd⟩ := ends
  exact passes.line_lt (by simp) isEnd

theorem BlockForm.endsLine {pad last blanks : Text} (form : BlockForm pad read last blanks written) :
    EndsLine written := by
  induction form with
  | @last line ends c _ isEnd areEnds =>
    rcases List.eq_nil_or_concat ends with rfl | ⟨before, d, rfl⟩
    · exact ⟨line, c, rfl, isEnd⟩
    · exact ⟨line ++ c :: before, d, by simp, areEnds d (by simp)⟩
  | @more line ends _ _ _ written c _ _ _ _ ih =>
    have more := ih.append (line ++ c :: (ends ++ pad))
    simpa using more

theorem ScalarForm.endsLine (form : ScalarForm column read plain written true) : EndsLine written := by
  cases form with
  | literal form _ =>
    cases form with
    | @plain _ _ _ written chomping form _ =>
      have more := form.endsLine.append ('|' :: (header false chomping ++ '\n' :: List.replicate (column + 2) ' '))
      simpa using more
    | @indented breaks _ _ _ written chomping _ form =>
      have more := form.endsLine.append
        ('|' :: (header true chomping ++ '\n' :: (breaks ++ List.replicate (column + 2) ' ')))
      simpa using more
    | @breaks breaks areEnds present =>
      obtain ⟨before, c, rfl⟩ := (List.eq_nil_or_concat breaks).resolve_left present
      exact ⟨'|' :: (header true .keep ++ '\n' :: before), c, by simp, areEnds c (by simp)⟩

theorem Follows.below (follows : Follows column closed stop next) (passes : place.Passes written stop)
    (ends : closed = true → EndsLine written) : place.line < next.line := by
  obtain ⟨pad, _, _, gap⟩ := follows.gap
  have notAbove := gap.line_le
  have notAbove' := passes.line_le
  cases closed with
  | true => exact Nat.lt_of_lt_of_le ((ends rfl).line_lt passes) notAbove
  | false => exact Nat.lt_of_le_of_lt notAbove' (gap.line_lt (c := '\n') (by simp) rfl)

/-- A scalar as an item, and what comes after it. -/
theorem ScalarForm.resumes (form : ScalarForm column read plain written closed)
    (clear : target.obstacle = none) (passes : target.Passes written stop)
    (inside : column < target.column) (follows : Follows column closed stop next)
    (resumes : Resumes next (column :: outer) true tokens) :
    Resumes target (column :: outer) allowed (.scalar read plain :: tokens) := by
  have below : target.line < next.line := by
    refine follows.below passes fun isClosed => ?_
    subst isClosed
    exact form.endsLine
  obtain ⟨after, left, mayBeKey, broken, has, passesLeft, blank, keys, notFurther⟩ :=
    form.hasScalar passes inside follows
  have shorter : after.rest.length < target.rest.length := by
    have present := List.length_pos_iff.mpr form.present
    rw [passes.length]
    omega
  exact resumes_scalar has clear inside shorter blank passesLeft keys below resumes

end Scalars

section Items

/-- What is written of an item: something before it, and the item. In `marks` there are only marks of
blocks before it on its line. -/
structure ItemForm (column : Nat) (marks : Bool) (tokens : List Token) (lead body : Text)
    (closed : Bool) : Prop where
  blank : Filler lead
  present : lead ≠ []
  clean : Clean body
  short : tokens.length ≤ 4 * (lead ++ body).length
  ends : closed = true → EndsLine body
  resumes : ∀ {place stop next : Place} {outer : List Nat} {more : List Token}, place.obstacle = none →
    place.Passes (lead ++ body) stop → column < place.column →
    (marks = true → place.column = column + 1) → Follows column closed stop next →
    Resumes next (column :: outer) true more →
    ∃ target, place.Passes lead target ∧
      Resumes target (column :: outer) (marks || lead.contains '\n') (tokens ++ more)

variable {column : Nat} {read written : Text} {plain closed marks : Bool} {sheet : Sheet}

theorem ScalarForm.item (form : ScalarForm column read plain written closed) :
    ItemForm column marks [.scalar read plain] [' '] written closed where
  blank := by simp [Filler]
  present := by simp
  clean := form.cleanWritten
  short := by simp; omega
  ends := by
    rintro rfl
    exact form.endsLine
  resumes := by
    intro place stop next outer more clear passes inside _ follows resumes
    obtain ⟨target, first, second⟩ := passes.split
    obtain ⟨_, further⟩ := first.level (by simp [isBreak])
    exact ⟨target, first, form.resumes (first.obstacle.trans clear) second (by omega) follows resumes⟩

theorem braces_item : ItemForm column marks [.flowMappingStart, .flowMappingEnd] [' ']
    ['\x7b', '\x7d'] false where
  blank := by simp [Filler]
  present := by simp
  clean := by simp [cleanChar_of_printable]
  short := by simp
  ends := by simp
  resumes := by
    intro place stop next outer more clear passes inside _ follows resumes
    have below := follows.below passes (by simp)
    obtain ⟨target, first, second⟩ := passes.split
    obtain ⟨line, further⟩ := first.level (by simp [isBreak])
    obtain ⟨pad, blank, _, gap⟩ := follows.gap
    have filler : Filler ('\n' :: pad) := by
      intro c member
      rcases List.mem_cons.mp member with rfl | member
      · exact .inr rfl
      · exact .inl (blank c member)
    refine ⟨target, first, ?_⟩
    have stopEq := second.target
    exact resumes_braces (first.obstacle.trans clear) second.there (by omega) filler
      (by rw [stopEq] at gap; exact gap) (by simp) (by omega) resumes

end Items

section Gaps

variable {column : Nat} {closed : Bool} {place stop next : Place} {text : Text}

/-- What is written between an item and the next key: the end of the line, unless it is there
already, and the indentation. -/
def gap (column : Nat) (closed : Bool) : Text :=
  (if closed then [] else ['\n']) ++ List.replicate column ' '

theorem filler_gap (column : Nat) (closed : Bool) : Filler (gap column closed) := by
  intro c member
  rcases List.mem_append.mp member with ending | blank
  · cases closed with
    | true => exact nomatch ending
    | false => exact .inr (List.mem_singleton.mp ending)
  · exact .inl (List.eq_of_mem_replicate blank)

theorem clean_gap (column : Nat) (closed : Bool) : Clean (gap column closed) := by
  intro c member
  rcases filler_gap column closed c member with rfl | rfl
  · exact cleanChar_of_printable (by decide) (by decide)
  · exact cleanChar_of_isBreak rfl

theorem column_gap (passes : stop.Passes (gap column closed) next)
    (start : closed = true → stop.column = 0) : next.column = column := by
  cases closed with
  | true =>
    have further := (passes.straight (Place.straight_spaces column)).2
    rw [start rfl] at further
    simpa [gap] using further
  | false =>
    have below : stop.Passes ([] ++ '\n' :: List.replicate column ' ') next := passes
    simpa using (below.lineEnd rfl (Place.straight_spaces column)).2

/-- What follows an item after the gap. -/
theorem follows_gap (passes : stop.Passes (gap column closed) next)
    (start : closed = true → stop.column = 0) (atToken : next.AtToken) :
    Follows column closed stop next :=
  ⟨atToken, Nat.le_of_eq (column_gap passes start), List.replicate column ' ',
    fun _ member => List.eq_of_mem_replicate member, by simp, passes⟩

end Gaps

section Keys

/-- What is written of a key, its colon included. -/
structure KeyForm (column : Nat) (marks : Bool) (token : Token) (written : Text) : Prop where
  clean : Clean written
  long : 2 ≤ written.length
  stops : ∀ {target stop : Place}, target.Passes written stop → target.column = column →
    column < stop.column ∧ (marks = true → stop.column = column + 1)
  resumes : ∀ {target stop next : Place} {columns outer : List Nat} {opening tokens : List Token}
      {lead : Text}, target.obstacle = none → target.Passes written stop → target.column = column →
    Enters column columns (column :: outer) opening → Filler lead → lead ≠ [] →
    stop.Passes lead next → Resumes next (column :: outer) (marks || lead.contains '\n') tokens →
    Resumes target columns true (opening ++ (.key :: token :: .value :: tokens))

variable {column : Nat} {read written : Text} {plain closed : Bool}

theorem isSpaceOrEnd_filler {lead rest : Text} (blank : Filler lead) (present : lead ≠ []) :
    isSpaceOrEnd (lead ++ rest).head? = true := by
  obtain ⟨c, more, rfl⟩ := List.exists_cons_of_ne_nil present
  rcases blank c (by simp) with rfl | rfl <;> rfl

/-- A key before its colon on one line. -/
theorem ScalarForm.key (form : ScalarForm column read plain written false)
    (noEnd : ∀ c ∈ written, isBreak c = false) (short : written.length ≤ 1024) :
    KeyForm column false (.scalar read plain) (written ++ [':']) where
  clean := clean_append.mpr ⟨form.cleanWritten, by simp [cleanChar_of_printable]⟩
  long := by
    have present := List.length_pos_iff.mpr form.present
    rw [List.length_append, List.length_singleton]
    omega
  stops := by
    intro target stop passes same
    obtain ⟨middle, first, second⟩ := passes.split
    obtain ⟨_, further⟩ := first.level noEnd
    have colon := (second.straight (by simp [Place.Straight, isBreak])).2
    simp only [List.length_singleton] at colon
    refine ⟨by omega, ?_⟩
    rintro ⟨⟩
  resumes := by
    intro target stop next columns outer opening tokens lead clear passes same enters blank present
      leads resumes
    obtain ⟨middle, first, second⟩ := passes.split
    have ends : isSpaceOrEnd (stop.rest).head? = true := by
      rw [leads.there]
      exact isSpaceOrEnd_filler blank present
    obtain rfl : stop = middle.next := second.target
    have has := form.hasKey first same enters.inside second.there ends
    subst same
    have read := resumes_key has clear enters first form.present noEnd short second.there ends blank
      leads (by simpa using resumes)
    simpa using read

/-- Where the parts of a key behind a question mark are. -/
theorem ScalarForm.longKey_parts {target stop : Place}
    (form : ScalarForm column read plain written closed)
    (passes : target.Passes ('?' :: ' ' :: (written ++ (gap column closed ++ [':']))) stop) :
    ∃ start keyStop colon, target.next.Passes [' '] start ∧ start.Passes written keyStop ∧
      keyStop.Passes (gap column closed) colon ∧ colon.Passes [':'] stop ∧
      start.column = target.column + 2 ∧ colon.column = column := by
  have spaced : target.next.Passes ([' '] ++ (written ++ (gap column closed ++ [':']))) stop := passes.next
  obtain ⟨start, blank, later⟩ := spaced.split
  obtain ⟨keyStop, key, later⟩ := later.split
  obtain ⟨colon, between, last⟩ := later.split
  have mark : target.Passes ['?'] target.next := .one passes.there
  have begins := ((mark.trans blank).straight (by simp [Place.Straight, isBreak])).2
  refine ⟨start, keyStop, colon, blank, key, between, last, begins, column_gap between ?_⟩
  rintro rfl
  exact form.endsLine.column_eq key

/-- A key behind a question mark, before its colon on another line. -/
theorem ScalarForm.longKey (form : ScalarForm column read plain written closed) :
    KeyForm column true (.scalar read plain)
      ('?' :: ' ' :: (written ++ (gap column closed ++ [':']))) where
  clean := by
    simp only [clean_cons, clean_append]
    exact ⟨cleanChar_of_printable (by decide) (by decide), cleanChar_of_printable (by decide) (by decide),
      form.cleanWritten, clean_gap column closed, cleanChar_of_printable (by decide) (by decide), clean_nil⟩
  long := by simp
  stops := by
    intro target stop passes _
    obtain ⟨_, _, colon, _, _, _, last, _, there⟩ := form.longKey_parts passes
    have after := (last.straight (by simp [Place.Straight, isBreak])).2
    rw [there, List.length_singleton] at after
    exact ⟨by omega, fun _ => after⟩
  resumes := by
    intro target stop next columns outer opening tokens lead clear passes same enters blank present
      leads resumes
    obtain ⟨start, keyStop, colon, space, key, between, last, begins, there⟩ := form.longKey_parts passes
    have startClear : start.obstacle = none := by
      rw [space.obstacle, Place.obstacle_next, clear]
    have colonClear : colon.obstacle = none := by
      rw [between.obstacle, key.obstacle, startClear]
    have ends : isSpaceOrEnd (stop.rest).head? = true := by
      rw [leads.there]
      exact isSpaceOrEnd_filler blank present
    obtain rfl : stop = colon.next := last.target
    have inside : (column :: outer).head? = some colon.column := by rw [there]; rfl
    have valued := resumes_colon colonClear last.there ends inside blank leads resumes
    have follows : Follows column closed keyStop colon := by
      have seen : colon.rest.head? = some ':' := by
        rw [last.there]
        rfl
      refine follows_gap between ?_ (by simp [Place.AtToken, seen, isBreak])
      rintro rfl
      exact form.endsLine.column_eq key
    have keyed : Resumes start (column :: outer) true _ :=
      form.resumes startClear key (by omega) follows valued
    have oneSpace : Filler [' '] := by simp [Filler]
    subst same
    have read := resumes_questionMark clear passes.there enters oneSpace space keyed
    simpa using read

end Keys

section Entries

/-- What is written of the entries of a mapping whose keys begin at a column. -/
structure EntriesForm (column : Nat) (tokens : List Token) (written : Text) (closed : Bool) : Prop where
  clean : Clean written
  short : tokens.length + 2 ≤ 4 * written.length
  ends : closed = true → EndsLine written
  resumes : ∀ {target stop next : Place} {columns outer : List Nat} {opening more : List Token},
    target.obstacle = none → target.Passes written stop → target.column = column →
    Enters column columns (column :: outer) opening → Follows column closed stop next →
    Resumes next (column :: outer) true more →
    Resumes target columns true (opening ++ (tokens ++ more))

variable {column : Nat} {token : Token} {tokens more : List Token} {name lead body rest : Text}
  {closed marks ended : Bool}

theorem clean_of_filler (blank : Filler lead) : Clean lead := by
  intro c member
  rcases blank c member with rfl | rfl
  · exact cleanChar_of_printable (by decide) (by decide)
  · exact cleanChar_of_isBreak rfl

theorem KeyForm.alone (form : KeyForm column marks token name)
    (item : ItemForm column marks tokens lead body closed) :
    EntriesForm column (.key :: token :: .value :: tokens) (name ++ (lead ++ body)) closed where
  clean := clean_append.mpr ⟨form.clean, clean_append.mpr ⟨clean_of_filler item.blank, item.clean⟩⟩
  short := by
    have long := form.long
    have short := item.short
    simp only [List.length_cons, List.length_append] at short ⊢
    omega
  ends isClosed := ((item.ends isClosed).append lead).append name
  resumes := by
    intro target stop next columns outer opening more clear passes same enters follows resumes
    obtain ⟨middle, first, second⟩ := passes.split
    obtain ⟨inside, marked⟩ := form.stops first same
    obtain ⟨start, leads, starts⟩ :=
      item.resumes (first.obstacle.trans clear) second inside marked follows resumes
    exact form.resumes clear first same enters item.blank item.present leads starts

theorem KeyForm.before (form : KeyForm column marks token name)
    (item : ItemForm column marks tokens lead body closed)
    (others : EntriesForm column more rest ended) :
    EntriesForm column (.key :: token :: .value :: (tokens ++ more))
      (name ++ (lead ++ body) ++ (gap column closed ++ rest)) ended where
  clean := clean_append.mpr ⟨(form.alone item).clean,
    clean_append.mpr ⟨clean_gap column closed, others.clean⟩⟩
  short := by
    have one := (form.alone item).short
    have many := others.short
    simp only [List.length_cons, List.length_append] at one many ⊢
    omega
  ends isEnded := ((others.ends isEnded).append _).append _
  resumes := by
    intro target stop next columns outer opening more clear passes same enters follows resumes
    obtain ⟨middle, first, second⟩ := passes.split
    obtain ⟨second', between, last⟩ := second.split
    have start : closed = true → middle.column = 0 :=
      fun isClosed => ((form.alone item).ends isClosed).column_eq first
    have clear' : second'.obstacle = none := between.obstacle.trans (first.obstacle.trans clear)
    have later := others.resumes clear' last (column_gap between start) .stays follows resumes
    have here := (form.alone item).resumes clear first same enters
      (follows_gap between start later.atToken) later
    simpa using here

/-- What is written before the entries of a mapping that is an item itself. -/
def mapLead (column : Nat) (marks : Bool) : Text :=
  if marks then [' '] else '\n' :: List.replicate (column + 2) ' '

theorem filler_mapLead (column : Nat) (marks : Bool) : Filler (mapLead column marks) := by
  intro c member
  cases marks with
  | true => exact .inl (List.mem_singleton.mp member)
  | false =>
    rcases List.mem_cons.mp member with rfl | blank
    · exact .inr rfl
    · exact .inl (List.eq_of_mem_replicate blank)

theorem mapLead_ne_nil (column : Nat) (marks : Bool) : mapLead column marks ≠ [] := by
  cases marks <;> simp [mapLead]

theorem EntriesForm.item (form : EntriesForm (column + 2) tokens body closed) :
    ItemForm column marks (.blockMappingStart :: (tokens ++ [.blockEnd])) (mapLead column marks) body closed
    where
  blank := filler_mapLead column marks
  present := mapLead_ne_nil column marks
  clean := form.clean
  short := by
    have short := form.short
    simp only [List.length_cons, List.length_append, List.length_nil]
    omega
  ends := form.ends
  resumes := by
    intro place stop next outer more clear passes inside marked follows resumes
    obtain ⟨target, first, second⟩ := passes.split
    have same : target.column = column + 2 := by
      cases marks with
      | true =>
        have further := (first.straight (by simp [mapLead, Place.Straight, isBreak])).2
        rw [further, marked rfl]
        rfl
      | false =>
        have below : place.Passes ([] ++ '\n' :: List.replicate (column + 2) ' ') target := first
        simpa using (below.lineEnd rfl (Place.straight_spaces _)).2
    have allowed : (marks || (mapLead column marks).contains '\n') = true := by
      cases marks <;> simp [mapLead]
    obtain ⟨pad, blank, bound, gap⟩ := follows.gap
    have shallow := follows.shallow
    have deeper : Follows (column + 2) closed stop next :=
      ⟨follows.atToken, by omega, pad, blank, by omega, gap⟩
    have opens : Enters (column + 2) (column :: outer) ((column + 2) :: column :: outer)
        [.blockMappingStart] := .opens (by simp)
    have read := form.resumes (first.obstacle.trans clear) second same opens deeper
      (resumes.close (show next.column < column + 2 by omega))
    rw [allowed]
    exact ⟨target, first, by simpa using read⟩

end Entries

end Transclusion.Yaml

import Transclusion.Proofs.Yaml.TokenRuns
import Transclusion.Yaml.ScalarStyle

/-!
What each piece of a block mapping adds to the tokens: a scalar, an empty mapping, a key before
its colon on one line, a key behind a question mark, and the end of the text.
-/

namespace Transclusion.Yaml.TokenSource

/-- A source whose place is that of the next token, with no candidate for a key left. -/
structure Ready (source : TokenSource) (target : Place) (columns : List Nat) (allowed : Bool) :
    Prop where
  here : source.place = target
  keys : source.keyAllowed = allowed
  fresh : source.candidates = []
  live : source.done = false
  outside : source.level = 0
  indent : source.indent = indentOf columns
  outer : source.outer = outerOf columns

variable {source after : TokenSource} {target next : Place} {columns columns' : List Nat}
  {allowed allowed' : Bool} {tokens chunk : List Token} {rest filler : Text} {c : Char}

theorem ready_of_awaits (awaits : source.Awaits target columns allowed) :
    (source.ready target allowed).Ready target columns allowed :=
  ⟨rfl, rfl, rfl, awaits.live, awaits.outside, awaits.indent, awaits.outer⟩

theorem Ready.notFlow (ready : source.Ready target columns allowed) : source.inFlow = false := by
  simp [inFlow, ready.outside]

/-- The next piece of a text, read by itself. -/
theorem resumes_of_fetchHere (atToken : target.AtToken) (clear : target.obstacle = none)
    (inside : ∀ c ∈ columns.head?, c ≤ target.column)
    (step : ∀ source : TokenSource, source.Ready target columns allowed → ∃ after,
      source.fetchHere = .ok after ∧
        (after.done = true ∨ after.place.rest.length < target.rest.length) ∧
        after.Yields (source.queue ++ tokens)) : Resumes target columns allowed tokens := by
  refine ⟨atToken, clear, fun source awaits => ?_⟩
  have ready := ready_of_awaits awaits
  obtain ⟨after, fetched, ahead, yields⟩ := step _ ready
  have unwound : (source.ready target allowed).unwind (Int.ofNat target.column) =
      source.ready target allowed := by
    rw [unwind, ready.notFlow]
    exact closeBlocks_stay inside ready.indent ready.outer
  obtain ⟨filler, _, passes, _⟩ := awaits.reaches
  refine ⟨after, by rw [fetch_eq awaits atToken clear, unwound, fetched], ?_, yields⟩
  exact ahead.imp_right fun shorter => by rw [passes.length]; omega

theorem fetchHere_of_dispatch (there : source.place.rest = c :: rest)
    (dispatched : source.dispatch c = .ok after) (clear : after.place.obstacle = none) :
    source.fetchHere = .ok after := by
  have checked : after.place.check = .ok () := by
    rw [Place.check, clear]
    rcases after.place.rest with _ | ⟨c, rest⟩ <;> rfl
  simp [fetchHere, Place.peek_eq there, dispatched, checked, bind, Except.bind, pure, Except.pure]

/-- A piece of the text that is read at once. -/
theorem resumes_of_dispatch (atToken : target.AtToken) (clear : target.obstacle = none)
    (inside : ∀ c ∈ columns.head?, c ≤ target.column) (there : target.rest = c :: rest)
    (step : ∀ source : TokenSource, source.Ready target columns allowed → ∃ after,
      source.dispatch c = .ok after ∧ after.queue = source.queue ++ chunk ∧
        after.Awaits next columns' allowed' ∧ after.place.rest.length < target.rest.length)
    (resumes : Resumes next columns' allowed' tokens) :
    Resumes target columns allowed (chunk ++ tokens) := by
  refine resumes_of_fetchHere atToken clear inside fun source ready => ?_
  obtain ⟨after, dispatched, queue, awaits, shorter⟩ := step source ready
  obtain ⟨filler, _, passes, _⟩ := awaits.reaches
  refine ⟨after, ?_, .inr shorter, ?_⟩
  · exact fetchHere_of_dispatch (by rw [ready.here, there]) dispatched
      (passes.obstacle.symm.trans resumes.clear)
  · rw [← List.append_assoc, ← queue]
    exact resumes.yields awaits

section Marks

/-- The blocks that a key at a column is in, those that it opens included, and the tokens for it. -/
inductive Enters (column : Nat) : List Nat → List Nat → List Token → Prop where
  | opens {columns : List Nat} (deeper : ∀ c ∈ columns.head?, c < column) :
      Enters column columns (column :: columns) [.blockMappingStart]
  | stays {columns : List Nat} : Enters column (column :: columns) (column :: columns) []

variable {column : Nat} {opening : List Token}

theorem Enters.inside (enters : Enters column columns columns' opening) :
    ∀ c ∈ columns.head?, c ≤ column := by
  cases enters with
  | opens deeper => exact fun c first => Nat.le_of_lt (deeper c first)
  | stays => simp

theorem Enters.deepen (enters : Enters column columns columns' opening)
    (indent : source.indent = indentOf columns) (outer : source.outer = outerOf columns) :
    source.deepen column = (!opening.isEmpty,
      { source with indent := indentOf columns', outer := outerOf columns' }) := by
  cases enters with
  | opens deeper =>
    have within : source.indent < Int.ofNat column := by
      rw [indent]
      cases columns with
      | nil =>
        show (-1 : Int) < column
        omega
      | cons c columns => exact Int.ofNat_lt.mpr (deeper c rfl)
    rw [TokenSource.deepen, if_pos within, indent, outer]
    rfl
  | stays =>
    have notWithin : ¬ source.indent < Int.ofNat column := by
      rw [indent]
      exact Int.lt_irrefl _
    rw [TokenSource.deepen, if_neg notWithin, ← indent, ← outer]
    rfl

theorem Enters.openBlock (enters : Enters column columns columns' opening)
    (ready : source.Ready target columns true) (same : target.column = column) :
    source.openBlock .blockMappingStart = .ok
      { source with
        queue := source.queue ++ opening, indent := indentOf columns', outer := outerOf columns' } := by
  subst same
  have deepened := enters.deepen ready.indent ready.outer
  rw [← ready.here] at deepened
  cases enters with
  | opens _ => simp [TokenSource.openBlock, ready.notFlow, ready.keys, deepened, push]
  | stays => simp [TokenSource.openBlock, ready.notFlow, ready.keys, deepened]

/-- A mark of a block, before whatever stands behind it. -/
theorem resumes_mark (clear : target.obstacle = none)
    (there : target.rest = c :: rest) (ink : c ≠ ' ' ∧ c ≠ '#' ∧ isBreak c = false)
    (inside : ∀ c ∈ columns.head?, c ≤ target.column)
    (marked : ∀ source : TokenSource, source.Ready target columns true → source.dispatch c = .ok
      { source with
        place := source.place.next, keyAllowed := true, queue := source.queue ++ chunk
        indent := indentOf columns', outer := outerOf columns' })
    (blank : Filler filler) (passes : target.next.Passes filler next)
    (resumes : Resumes next columns' true tokens) :
    Resumes target columns true (chunk ++ tokens) := by
  refine resumes_of_dispatch (by simp [Place.AtToken, there, ink]) clear inside there
    (fun source ready => ⟨_, marked source ready, rfl, ?_, ?_⟩) resumes
  · exact ⟨⟨filler, blank, by simpa [ready.here] using passes, rfl⟩, ready.live, ready.outside, rfl,
      rfl, by simp [ready.fresh]⟩
  · simp [ready.here, there]

theorem dispatch_questionMark (there : source.place.rest = '?' :: ' ' :: rest) :
    source.dispatch '?' = source.explicitKey := by
  have noLine : source.place.atMarker '-' = false := Place.atMarker_eq_false (by simp [there])
  have noDots : source.place.atMarker '.' = false := Place.atMarker_eq_false (by simp [there])
  simp [dispatch, noLine, noDots, Place.peekAt, there, isSpaceOrEnd]

/-- A question mark before a key. -/
theorem resumes_questionMark (clear : target.obstacle = none) (there : target.rest = '?' :: ' ' :: rest)
    (enters : Enters target.column columns columns' opening) (blank : Filler filler)
    (passes : target.next.Passes filler next) (resumes : Resumes next columns' true tokens) :
    Resumes target columns true (opening ++ [.key] ++ tokens) := by
  refine resumes_mark clear there (by decide) enters.inside (fun source ready => ?_) blank passes resumes
  have opened := enters.openBlock ready rfl
  rw [dispatch_questionMark (by rw [ready.here, there]), explicitKey, opened]
  simp [dropCandidate, candidate?, ready.fresh, inFlow, ready.outside, push, advance,
    Place.forward_succ, bind, Except.bind, pure, Except.pure]

theorem dispatch_colon (there : source.place.rest = ':' :: rest) (ends : isSpaceOrEnd rest.head? = true) :
    source.dispatch ':' = source.value := by
  have noLine : source.place.atMarker '-' = false := Place.atMarker_eq_false (by simp [there])
  have noDots : source.place.atMarker '.' = false := Place.atMarker_eq_false (by simp [there])
  simp [dispatch, noLine, noDots, Place.peekAt, there, ← List.head?_eq_getElem?, ends]

/-- A colon on a line of its own, before the item of the key above. -/
theorem resumes_colon (clear : target.obstacle = none) (there : target.rest = ':' :: rest)
    (ends : isSpaceOrEnd rest.head? = true) (column : columns.head? = some target.column)
    (blank : Filler filler) (passes : target.next.Passes filler next)
    (resumes : Resumes next columns true tokens) :
    Resumes target columns true ([.value] ++ tokens) := by
  obtain ⟨columns, rfl⟩ : ∃ outer, columns = target.column :: outer := by
    cases columns with
    | nil => exact nomatch column
    | cons c columns => exact ⟨columns, by rw [Option.some.inj column]⟩
  have enters : Enters target.column (target.column :: columns) (target.column :: columns) [] := .stays
  refine resumes_mark clear there (by decide) enters.inside (fun source ready => ?_) blank passes resumes
  have opened := enters.openBlock ready rfl
  have none : source.candidate? = none := by simp [candidate?, ready.fresh]
  rw [dispatch_colon (by rw [ready.here, there]) ends, value, none]
  simp [opened, dropCandidate, candidate?, ready.fresh, inFlow, ready.outside, push, advance,
    Place.forward_succ, bind, Except.bind, pure, Except.pure]

end Marks

section Scalars

/-- The candidate for a key that the next token is. -/
def here (source : TokenSource) : KeyCandidate :=
  { level := source.level, number := source.taken + source.queue.length
    required := !source.inFlow && source.indent == Int.ofNat source.place.column
    index := source.place.index, line := source.place.line, column := source.place.column }

theorem saveCandidate_ready (ready : source.Ready target columns allowed) :
    source.saveCandidate =
      .ok { source with candidates := if allowed then [source.here] else [] } := by
  cases allowed with
  | false =>
    have same : { source with candidates := [] } = source := by rw [← ready.fresh]
    simp only [Bool.false_eq_true, if_false, same]
    exact if_neg (by simp [ready.keys])
  | true =>
    simp [saveCandidate, ready.keys, dropCandidate, candidate?, ready.fresh, here, bind, Except.bind,
      pure, Except.pure]

/-- A scalar stands at a place and goes up to another one. It may be a key if `mayBeKey`, and a
key may come behind it if `broken`. -/
def HasScalar (columns : List Nat) (target : Place) (token : Token) (after : Place)
    (mayBeKey broken : Bool) : Prop :=
  ∃ c rest, target.rest = c :: rest ∧ (c ≠ ' ' ∧ c ≠ '#' ∧ isBreak c = false) ∧
    ∀ (source : TokenSource) (allowed : Bool), source.Ready target columns allowed →
      source.dispatch c = .ok
        { source with
          queue := source.queue ++ [token], place := after, keyAllowed := broken
          candidates := if mayBeKey && allowed then [source.here] else [] }

variable {content : Text} {token : Token} {mayBeKey broken : Bool} {column : Nat}

theorem hasScalar_quoted {double : Bool} (there : target.rest = (if double then '"' else '\'') :: rest)
    {stop : Place} (read : ScalarText.quoted double target = .ok (content, stop)) :
    HasScalar columns target (.scalar content false) stop true false := by
  refine ⟨_, rest, there, by cases double <;> decide, fun source allowed ready => ?_⟩
  rw [← ready.here] at read there
  have noLine : source.place.atMarker '-' = false :=
    Place.atMarker_eq_false (by rw [there]; cases double <;> simp)
  have noDots : source.place.atMarker '.' = false :=
    Place.atMarker_eq_false (by rw [there]; cases double <;> simp)
  have dispatched : source.dispatch (if double then '"' else '\'') = source.quotedScalar double := by
    cases double <;> simp [dispatch, noLine, noDots]
  rw [dispatched, quotedScalar, saveCandidate_ready ready]
  simp [bind, Except.bind, read, push, pure, Except.pure]

theorem hasScalar_block {stop : Place} (there : target.rest = '|' :: rest)
    (read : ScalarText.block false (indentOf columns) target = .ok (content, stop)) :
    HasScalar columns target (.scalar content false) stop false true := by
  refine ⟨_, rest, there, by decide, fun source allowed ready => ?_⟩
  rw [← ready.here, ← ready.indent] at read
  rw [← ready.here] at there
  have noLine : source.place.atMarker '-' = false := Place.atMarker_eq_false (by simp [there])
  have noDots : source.place.atMarker '.' = false := Place.atMarker_eq_false (by simp [there])
  have dispatched : source.dispatch '|' = source.blockScalar false := by
    simp [dispatch, noLine, noDots, ready.notFlow]
  rw [dispatched, blockScalar]
  simp [dropCandidate, candidate?, ready.fresh, bind, Except.bind, read, push, pure, Except.pure]

/-- A plain scalar may begin here. -/
structure StartsPlain (c : Char) (rest : Text) : Prop where
  noGap : c ≠ ' ' ∧ c ≠ '\t' ∧ isBreak c = false
  noMark : Shape.isMarkAtStart c rest.head? = false
  noLine : ['-', '-', '-'].isPrefixOf (c :: rest) = false
  noDots : ['.', '.', '.'].isPrefixOf (c :: rest) = false

theorem isSpaceOrEnd_of_isPlainBlank {after : Option Char} (solid : Shape.isPlainBlank after = false) :
    isSpaceOrEnd after = false := by
  cases after with
  | none => exact solid
  | some c =>
    simp only [Shape.isPlainBlank, Bool.or_eq_false_iff] at solid
    simp [isSpaceOrEnd, solid]

theorem leadingMarks_eq : Shape.leadingMarks =
    ['#', ',', '[', ']', '\x7b', '\x7d', '&', '*', '!', '|', '>', '\'', '"', '%', '@', '`'] := rfl

theorem indicators_cases : ∀ c ∈ indicators,
    (c = '?' ∨ c = ':' ∨ c = '-') ∨ c ∈ Shape.leadingMarks := by
  have listed : indicators.all (fun c =>
      (c == '?' || c == ':' || c == '-') || Shape.leadingMarks.contains c) = true := by decide +kernel
  intro c member
  simpa [or_assoc] using List.all_eq_true.mp listed c member

theorem StartsPlain.dispatch (starts : StartsPlain c rest) (there : source.place.rest = c :: rest)
    (notFlow : source.inFlow = false) : source.dispatch c = source.plainScalar := by
  have noLine : source.place.atMarker '-' = false := by
    rw [Place.atMarker, there, starts.noLine, Bool.false_and]
  have noDots : source.place.atMarker '.' = false := by
    rw [Place.atMarker, there, starts.noDots, Bool.false_and]
  have after : source.place.peekAt 1 = rest.head? := by
    rw [Place.peekAt, there]
    simp [List.head?_eq_getElem?]
  obtain ⟨noLeading, noBlank⟩ := Bool.or_eq_false_iff.mp starts.noMark
  obtain ⟨noSpace, noTab, noEnd⟩ := starts.noGap
  have solid : c = '?' ∨ c = ':' ∨ c = '-' → isSpaceOrEnd rest.head? = false := by
    intro mark
    refine isSpaceOrEnd_of_isPlainBlank ?_
    rcases mark with rfl | rfl | rfl <;> simpa using noBlank
  have others : c ∉ Shape.leadingMarks := by simpa using noLeading
  have begins : startsPlain false c rest.head? = true := by
    by_cases mark : c = '?' ∨ c = ':' ∨ c = '-'
    · rcases mark with rfl | rfl | rfl <;> simp [startsPlain, solid]
    · have notListed : c ∉ indicators := fun member =>
        (indicators_cases c member).elim mark others
      simp [startsPlain, noSpace, noTab, noEnd, notListed]
  simp only [leadingMarks_eq, List.mem_cons, List.not_mem_nil, or_false, not_or] at others
  have noEntry : (decide (c = '-') && isSpaceOrEnd rest.head?) = false := by
    by_cases same : c = '-' <;> simp [same, solid]
  have noKey : (decide (c = '?') && isSpaceOrEnd rest.head?) = false := by
    by_cases same : c = '?' <;> simp [same, solid]
  have noValue : (decide (c = ':') && isSpaceOrEnd rest.head?) = false := by
    by_cases same : c = ':' <;> simp [same, solid]
  simp only [TokenSource.dispatch, noLine, noDots, after, notFlow, begins, others, noEntry, noKey, noValue,
    Bool.and_false, Bool.false_or, Bool.false_eq_true, if_false, if_true, decide_false, Bool.false_and]

theorem hasScalar_plain {stop : Place} (starts : StartsPlain c rest) (noHash : c ≠ '#')
    (there : target.rest = c :: rest)
    (read : ScalarText.plain false (indentOf columns + 1) target = (content, stop, broken)) :
    HasScalar columns target (.scalar content true) stop true broken := by
  refine ⟨c, rest, there, ⟨starts.noGap.1, noHash, starts.noGap.2.2⟩, fun source allowed ready => ?_⟩
  rw [← ready.here, ← ready.indent] at read
  rw [← ready.here] at there
  rw [starts.dispatch there ready.notFlow, plainScalar, saveCandidate_ready ready]
  have notFlow : ∀ candidates, { source with candidates }.inFlow = false := fun _ => ready.notFlow
  simp [bind, Except.bind, notFlow, read, push, pure, Except.pure]

variable {stop : Place}

theorem HasScalar.atToken (has : HasScalar columns target token stop mayBeKey broken) :
    target.AtToken := by
  obtain ⟨c, rest, there, first, _⟩ := has
  rw [Place.AtToken, there]
  rintro _ ⟨⟩
  exact first

theorem here_lapses {outer : List Nat} (ready : source.Ready target (column :: outer) allowed)
    (inside : column < target.column) (below : target.line < next.line) :
    source.here.required = false ∧ source.here.line ≠ next.line := by
  have notRequired : source.indent ≠ (source.place.column : Int) := by
    rw [ready.indent, ready.here, indentOf]
    simp only [Int.ofNat_eq_natCast, ne_eq, Int.natCast_inj]
    omega
  refine ⟨by simp [here, notRequired], ?_⟩
  rw [here, ready.here]
  exact Nat.ne_of_lt below

/-- A scalar that the line ends behind. -/
theorem resumes_scalar {outer : List Nat}
    (has : HasScalar (column :: outer) target token stop mayBeKey broken)
    (clear : target.obstacle = none) (inside : column < target.column)
    (shorter : stop.rest.length < target.rest.length) (blank : Filler filler)
    (passes : stop.Passes filler next) (keys : (broken || filler.contains '\n') = true)
    (below : target.line < next.line) (resumes : Resumes next (column :: outer) true tokens) :
    Resumes target (column :: outer) allowed ([token] ++ tokens) := by
  obtain ⟨c, rest, there, _, dispatched⟩ := id has
  refine resumes_of_dispatch has.atToken clear (by simpa using Nat.le_of_lt inside) there
    (fun source ready => ?_) resumes
  refine ⟨_, dispatched source allowed ready, rfl, ?_, shorter⟩
  refine ⟨⟨filler, blank, passes, keys⟩, ready.live, ready.outside, ready.indent, ready.outer, ?_⟩
  intro candidate member
  obtain rfl : candidate = source.here := by
    dsimp only at member
    split at member
    · simpa using member
    · exact nomatch member
  exact here_lapses ready inside below

end Scalars

section Keys

theorem dropStale_fresh (fresh : ∀ candidate ∈ source.candidates,
    candidate.line = source.place.line ∧ source.place.index ≤ candidate.index + 1024) :
    source.dropStale = .ok source := by
  have isFresh : ∀ candidate ∈ source.candidates,
      (candidate.line != source.place.line || decide (1024 < source.place.index - candidate.index)) =
        false := by
    intro candidate member
    obtain ⟨line, near⟩ := fresh candidate member
    have within : ¬ 1024 < source.place.index - candidate.index := by omega
    simp [line, within]
  rw [dropStale]
  dsimp only
  rw [if_neg]
  · have all : (source.candidates.filter fun candidate =>
        !(candidate.line != source.place.line ||
          decide (1024 < source.place.index - candidate.index))) = source.candidates :=
      List.filter_eq_self.mpr fun candidate member => by rw [isFresh candidate member]; rfl
    rw [all]
  · simp only [List.any_eq_true, not_exists, not_and]
    intro candidate member
    rw [isFresh candidate member]
    exact Bool.false_ne_true

/-- Tokens before a token that may be a key are given out. -/
theorem yields_before {queue held : List Token} (live : source.done = false)
    (fresh : ∀ candidate ∈ source.candidates,
      candidate.line = source.place.line ∧ source.place.index ≤ candidate.index + 1024)
    (later : ∀ candidate ∈ source.candidates, source.taken + queue.length ≤ candidate.number)
    (holds : source.queue = queue ++ held)
    (yields : { source with queue := held, taken := source.taken + queue.length }.Yields tokens) :
    source.Yields (queue ++ tokens) := by
  induction queue generalizing source with
  | nil =>
    obtain rfl : source.queue = held := holds
    exact yields
  | cons token queue ih =>
    have settled : source.isUnsettled = false := by
      rw [isUnsettled, holds]
      simp only [List.cons_append, List.any_eq_false, beq_iff_eq]
      intro candidate member
      have := later candidate member
      simp only [List.length_cons] at this
      omega
    refine yields_of_settled live holds (dropStale_fresh fresh) rfl settled (ih
      live fresh (fun candidate member => ?_) (by simp [drop, holds]) ?_)
    · have := later candidate member
      simp only [List.length_cons] at this
      simp only [drop]
      omega
    · have same : source.drop.taken + queue.length = source.taken + (token :: queue).length := by
        simp only [drop, List.length_cons]
        omega
      rw [same]
      exact yields

theorem fetch_here (atToken : source.place.AtToken) (clear : source.place.obstacle = none)
    (dropped : source.dropStale = .ok source)
    (unwound : source.unwind (Int.ofNat source.place.column) = source) :
    source.fetch = source.fetchHere := by
  have skipped : source.skipBlank (source.place.rest.length + 1) = source := by
    rw [skipBlank_eq (by simp [Filler]) (.nil _) atToken (by simp) (Nat.succ_pos _)]
    simp
  have checked : source.place.check = .ok () := by
    rw [Place.check, clear]
    rcases source.place.rest with _ | ⟨c, rest⟩ <;> rfl
  simp only [fetch, skipped, checked, dropped, unwound, bind, Except.bind]
  rfl

/-- A colon makes a key of the token before it. -/
theorem value_of_candidate {candidate : KeyCandidate} {opening : List Token}
    (enters : Enters column columns columns' opening) (outside : source.level = 0)
    (indent : source.indent = indentOf columns) (outer : source.outer = outerOf columns)
    (candidates : source.candidates = [candidate]) (level : candidate.level = 0)
    (number : candidate.number = source.taken) (same : candidate.column = column)
    (queue : source.queue = [token]) : source.value = .ok
      { source with
        place := source.place.next, queue := opening ++ [.key, token, .value], keyAllowed := false
        candidates := [], indent := indentOf columns', outer := outerOf columns' } := by
  have found : source.candidate? = some candidate := by simp [candidate?, candidates, level, outside]
  have without : source.withoutCandidate = { source with candidates := [] } := by
    simp [withoutCandidate, candidates, level, outside]
  have deepened : TokenSource.deepen column { source with candidates := [] } = _ :=
    enters.deepen indent outer
  have notFlow : { source with candidates := [] }.inFlow = false := by simp [inFlow, outside]
  rw [value, found]
  simp only [without, notFlow, Bool.false_eq_true, if_false, same, deepened]
  cases enters with
  | opens _ => simp [insertAt, number, queue, advance, push, Place.forward_succ]
  | stays => simp [insertAt, number, queue, advance, push, Place.forward_succ]

/-- A key before its colon. -/
theorem resumes_key {written : Text} {opening : List Token}
    (has : HasScalar columns target token stop true false) (clear : target.obstacle = none)
    (enters : Enters target.column columns columns' opening) (reaches : target.Passes written stop)
    (present : written ≠ []) (noEnd : ∀ c ∈ written, isBreak c = false) (short : written.length ≤ 1024)
    (colon : stop.rest = ':' :: rest) (ends : isSpaceOrEnd rest.head? = true) (blank : Filler filler)
    (passes : stop.next.Passes filler next)
    (resumes : Resumes next columns' (filler.contains '\n') tokens) :
    Resumes target columns true (opening ++ [.key, token, .value] ++ tokens) := by
  refine resumes_of_fetchHere has.atToken clear enters.inside fun source ready => ?_
  obtain ⟨c, rest', there, _, dispatched⟩ := has
  obtain ⟨line, column⟩ := reaches.level noEnd
  have index := reaches.index
  have stopClear : stop.obstacle = none := reaches.obstacle.trans clear
  have shorter : stop.rest.length < target.rest.length := by
    rw [reaches.length]
    have := List.length_pos_iff.mpr present
    omega
  have found := dispatched source true ready
  simp only [Bool.and_true, if_true] at found
  refine ⟨_, fetchHere_of_dispatch (by rw [ready.here, there]) found stopClear, .inr shorter, ?_⟩
  have fresh : ∀ candidate ∈ [source.here],
      candidate.line = stop.line ∧ stop.index ≤ candidate.index + 1024 := by
    intro candidate member
    obtain rfl : candidate = source.here := by simpa using member
    simp only [here, ready.here]
    omega
  refine yields_before ready.live fresh (by simp [here]) rfl ?_
  -- the scalar alone is held, and the colon makes a key of it
  let pending : TokenSource :=
    { source with
      place := stop, queue := [token], taken := source.taken + source.queue.length
      keyAllowed := false, candidates := [source.here] }
  have dropped : pending.dropStale = .ok pending := dropStale_fresh fresh
  have atColon : pending.place.AtToken := by simp [Place.AtToken, pending, colon, isBreak]
  have unwound : pending.unwind (Int.ofNat pending.place.column) = pending := by
    have notFlow : pending.inFlow = false := ready.notFlow
    rw [unwind, notFlow]
    exact closeBlocks_stay (fun c first => Nat.le_trans (enters.inside c first) column) ready.indent
      ready.outer
  have keyed : pending.value = _ := value_of_candidate enters ready.outside ready.indent ready.outer rfl
    ready.outside rfl (by rw [here, ready.here]) rfl
  have fetched := fetch_here atColon stopClear dropped unwound
  rw [fetchHere_of_dispatch colon ((dispatch_colon colon ends).trans keyed) (by simp [pending, stopClear])]
    at fetched
  refine yields_of_unsettled ready.live (by simp) dropped
    (by simp [isUnsettled, pending, here]) fetched (.inr (by simp [pending, colon])) ?_
  have awaits : TokenSource.Awaits
      { pending with
        place := pending.place.next, queue := opening ++ [.key, token, .value], keyAllowed := false
        candidates := [], indent := indentOf columns', outer := outerOf columns' }
      next columns' (filler.contains '\n') :=
    ⟨⟨filler, blank, passes, by simp⟩, ready.live, ready.outside, rfl, rfl, by simp⟩
  exact resumes.yields awaits

end Keys

section Braces

theorem dispatch_brace (brace : c = '\x7b' ∨ c = '\x7d') (there : source.place.rest = c :: rest) :
    source.dispatch c =
      if c = '\x7b' then source.flowStart .flowMappingStart else source.flowEnd .flowMappingEnd := by
  have noLine : source.place.atMarker '-' = false :=
    Place.atMarker_eq_false (by rcases brace with rfl | rfl <;> simp [there])
  have noDots : source.place.atMarker '.' = false :=
    Place.atMarker_eq_false (by rcases brace with rfl | rfl <;> simp [there])
  rcases brace with rfl | rfl <;> simp [dispatch, noLine, noDots]

/-- The brace that closes a mapping, when the one that opens it is left outside of all others. -/
theorem fetch_closingBrace (there : source.place.rest = '\x7d' :: rest)
    (clear : source.place.obstacle = none) (live : source.done = false) (within : source.level = 1)
    (indent : source.indent = indentOf columns) (outer : source.outer = outerOf columns)
    (fresh : ∀ candidate ∈ source.candidates,
      candidate.line = source.place.line ∧ source.place.index ≤ candidate.index + 1024)
    (outside : ∀ candidate ∈ source.candidates, candidate.level = 0)
    (lapsed : ∀ candidate ∈ source.candidates,
      candidate.required = false ∧ candidate.line ≠ next.line)
    (blank : Filler filler) (passes : source.place.next.Passes filler next)
    (lineFeed : filler.contains '\n' = true) :
    ∃ closed, source.fetch = .ok closed ∧ closed.place = source.place.next ∧
      closed.queue = source.queue ++ [.flowMappingEnd] ∧ closed.Awaits next columns true := by
  let closed : TokenSource :=
    { source with
      place := source.place.next, queue := source.queue ++ [.flowMappingEnd], level := 0
      keyAllowed := false }
  have atBrace : source.place.AtToken := by simp [Place.AtToken, there, isBreak]
  have unwound : source.unwind (Int.ofNat source.place.column) = source := by
    simp [unwind, inFlow, within]
  have fetched := fetch_here atBrace clear (dropStale_fresh fresh) unwound
  have none : source.candidate? = none := by
    simp only [candidate?, List.find?_eq_none]
    intro candidate member
    simp [outside candidate member, within]
  have ends : source.dispatch '\x7d' = .ok closed := by
    rw [dispatch_brace (.inr rfl) there, if_neg (by decide), flowEnd, dropCandidate, none]
    simp [closed, within, bind, Except.bind, pure, Except.pure, advance, push, Place.forward_succ]
  rw [fetchHere_of_dispatch there ends (by simp [closed, clear])] at fetched
  exact ⟨closed, fetched, rfl, rfl, ⟨filler, blank, passes, lineFeed⟩, live, rfl, indent, outer, lapsed⟩

/-- An empty mapping that the line ends behind. -/
theorem resumes_braces {outer : List Nat} (clear : target.obstacle = none)
    (there : target.rest = '\x7b' :: '\x7d' :: rest) (inside : column < target.column)
    (blank : Filler filler) (passes : target.next.next.Passes filler next)
    (lineFeed : filler.contains '\n' = true) (below : target.line < next.line)
    (resumes : Resumes next (column :: outer) true tokens) :
    Resumes target (column :: outer) allowed ([.flowMappingStart, .flowMappingEnd] ++ tokens) := by
  have atToken : target.AtToken := by simp [Place.AtToken, there, isBreak]
  have one : target.Passes ['\x7b'] target.next := .one there
  have thereNext : target.next.rest = '\x7d' :: rest := by
    rw [Place.rest_next, there]
    rfl
  obtain ⟨line, _⟩ := one.level (by simp [isBreak])
  refine resumes_of_fetchHere atToken clear (by simpa using Nat.le_of_lt inside) fun source ready => ?_
  let opened : TokenSource :=
    { source with
      place := target.next, queue := source.queue ++ [.flowMappingStart], level := 1, keyAllowed := true
      candidates := if allowed then [source.here] else [] }
  have found : source.dispatch '\x7b' = .ok opened := by
    rw [dispatch_brace (.inl rfl) (by rw [ready.here, there]), if_pos rfl, flowStart,
      saveCandidate_ready ready]
    simp [opened, bind, Except.bind, pure, Except.pure, advance, push, Place.forward_succ, ready.here,
      ready.outside]
  refine ⟨opened, fetchHere_of_dispatch (by rw [ready.here, there]) found (by simp [opened, clear]),
    .inr (by simp [opened, there]), ?_⟩
  have isHere : ∀ candidate ∈ opened.candidates, candidate = source.here := by
    intro candidate member
    dsimp only [opened] at member
    split at member
    · simpa using member
    · cases member
  have fresh : ∀ candidate ∈ opened.candidates,
      candidate.line = target.next.line ∧ target.next.index ≤ candidate.index + 1024 := by
    intro candidate member
    obtain rfl := isHere candidate member
    have index := one.index
    simp only [here, ready.here, List.length_singleton] at index ⊢
    omega
  refine yields_before ready.live fresh
    (fun candidate member => by rw [isHere candidate member]; simp [here, opened]) rfl ?_
  -- whatever is held, the brace that closes is read next
  have closes (queue : List Token) (taken : Nat) :=
    @fetch_closingBrace { opened with queue, taken } next (column :: outer) rest filler thereNext
      (by simp [opened, clear]) ready.live rfl ready.indent ready.outer fresh
      (fun candidate member => by rw [isHere candidate member]; simp [here, ready.outside])
      (fun candidate member => by rw [isHere candidate member]; exact here_lapses ready inside below)
      blank passes lineFeed
  cases allowed with
  | true =>
    obtain ⟨closed, fetched, place, queue, awaits⟩ :=
      closes [.flowMappingStart] (source.taken + source.queue.length)
    have yields := resumes.yields awaits
    rw [queue] at yields
    exact yields_of_unsettled ready.live (by simp) (dropStale_fresh fresh)
      (by simp [isUnsettled, opened, here]) fetched (.inr (by simp [place, opened, there])) yields
  | false =>
    obtain ⟨closed, fetched, place, queue, awaits⟩ :=
      closes [] (source.taken + source.queue.length + 1)
    have yields := resumes.yields awaits
    rw [queue] at yields
    exact yields_of_settled ready.live rfl (dropStale_fresh fresh) rfl (by simp [isUnsettled, opened])
      (yields_of_empty ready.live rfl fetched (.inr (by simp [place, opened, there, drop])) yields)

end Braces

section Ends

theorem closeBlocks_all (indent : source.indent = indentOf columns) :
    closeBlocks (-1) (outerOf columns) source =
      { source with
        queue := source.queue ++ List.replicate columns.length .blockEnd, indent := -1
        outer := if columns = [] then source.outer else [] } := by
  induction columns generalizing source with
  | nil =>
    have same : source.indent = -1 := indent
    simp [outerOf, closeBlocks, ← same]
  | cons column columns ih =>
    have deeper : source.indent > -1 := by
      rw [indent, indentOf, Int.ofNat_eq_natCast]
      omega
    rw [outerOf, closeBlocks, if_pos deeper, ih rfl]
    cases columns with
    | nil => simp [push, outerOf]
    | cons c columns => simp [push, List.replicate_succ]

/-- At an end all blocks are closed. -/
theorem unwind_all (ready : source.Ready target columns allowed) : source.unwind (-1) =
    { source with
      queue := source.queue ++ List.replicate columns.length .blockEnd, indent := -1, outer := [] } := by
  rw [unwind, ready.notFlow, ready.outer]
  simp only [Bool.false_eq_true, if_false]
  rw [closeBlocks_all ready.indent]
  cases columns with
  | nil => simp [ready.outer, outerOf]
  | cons c columns => simp

theorem yields_done (done : source.done = true) : source.Yields source.queue := by
  induction queue : source.queue generalizing source with
  | nil => exact .nil
  | cons token tokens ih =>
    have first : source.first = .ok (token, source) := by
      simp [first, settle, done, queue, bind, Except.bind, pure, Except.pure]
    exact .cons first (ih done (by simp [drop, queue]))

/-- The end of a text. -/
theorem resumes_end (there : target.rest = []) (clear : target.obstacle = none)
    (inside : ∀ c ∈ columns.head?, c ≤ target.column) :
    Resumes target columns allowed (List.replicate columns.length .blockEnd ++ [.streamEnd]) := by
  refine resumes_of_fetchHere (by simp [Place.AtToken, there]) clear inside fun source ready => ?_
  let ended : TokenSource :=
    { source with
      queue := source.queue ++ List.replicate columns.length .blockEnd ++ [.streamEnd], indent := -1
      outer := [], keyAllowed := false, candidates := [], done := true }
  have found : source.fetchHere = .ok ended := by
    have peeked : source.place.peek = none := by simp [ready.here, there]
    rw [fetchHere, peeked]
    simp [streamEnd, unwind_all ready, dropCandidate, candidate?, ready.fresh, ended, bind, Except.bind,
      pure, Except.pure, push]
  refine ⟨ended, found, .inl rfl, ?_⟩
  rw [← List.append_assoc]
  exact yields_done rfl

/-- Dots on a line of their own, which close what the text before them has left open. -/
theorem resumes_dots (there : target.rest = '.' :: '.' :: '.' :: '\n' :: rest)
    (clear : target.obstacle = none) (margin : target.column = 0)
    (inside : ∀ c ∈ columns.head?, c ≤ target.column) (passes : target.Passes ['.', '.', '.', '\n'] next)
    (resumes : Resumes next [] true tokens) : Resumes target columns allowed
      (List.replicate columns.length .blockEnd ++ [.documentEnd] ++ tokens) := by
  refine resumes_of_dispatch (by simp [Place.AtToken, there, isBreak]) clear inside there
    (fun source ready => ?_) resumes
  let marked : TokenSource :=
    { source with
      place := target.forward 3
      queue := source.queue ++ (List.replicate columns.length .blockEnd ++ [.documentEnd]), indent := -1
      outer := [], keyAllowed := false }
  have found : source.dispatch '.' = .ok marked := by
    have noLine : source.place.atMarker '-' = false :=
      Place.atMarker_eq_false (by simp [ready.here, there])
    have dots : source.place.atMarker '.' = true := by
      simp [Place.atMarker, ready.here, there, Place.peekAt, isSpaceOrEnd, isBreak]
    have atMargin : (source.place.column == 0) = true := by simp [ready.here, margin]
    simp only [dispatch, noLine, dots, atMargin]
    simp [documentMarker, unwind_all ready, dropCandidate, candidate?, ready.fresh, marked, bind,
      Except.bind, pure, Except.pure, push, advance, ready.here]
  refine ⟨marked, found, rfl, ?_, ?_⟩
  · have dots : target.Passes (['.', '.', '.'] ++ ['\n']) next := passes
    obtain ⟨middle, first, second⟩ := dots.split
    obtain rfl : middle = target.forward 3 := first.target
    exact ⟨⟨['\n'], by simp [Filler], second, by simp⟩, ready.live, ready.outside, rfl, rfl,
      by simp [marked, ready.fresh]⟩
  · simp [marked, there]

end Ends

end Transclusion.Yaml.TokenSource

import Transclusion.Proofs.Yaml.Places
import Transclusion.Yaml.Token

/-!
The tokens that a source gives one after the other, and what the next piece of the text adds to
them. A source that awaits the next token has nothing open that the token could settle, except
what ends with the line.
-/

namespace Transclusion.Yaml

namespace TokenSource

/-- The tokens that are given one after the other. -/
inductive Yields : TokenSource → List Token → Prop where
  | nil {source : TokenSource} : Yields source []
  | cons {source settled : TokenSource} {token : Token} {tokens : List Token}
      (first : source.first = .ok (token, settled)) (yields : Yields settled.drop tokens) :
      Yields source (token :: tokens)

section Settling

variable {source settled fetched : TokenSource} {token : Token} {tokens : List Token} {fuel : Nat}

theorem settle_more (done : settle fuel source = .ok settled) (more : Nat) :
    settle (fuel + more) source = .ok settled := by
  induction fuel generalizing source with
  | zero => exact nomatch done
  | succ fuel ih =>
    rw [Nat.succ_add]
    rw [settle] at done ⊢
    split
    · next isDone => rwa [if_pos isDone] at done
    · next live =>
      rw [if_neg live] at done
      split
      · next empty =>
        rw [if_pos empty] at done
        cases found : source.fetch with
        | error fault => simp [found, bind, Except.bind] at done
        | ok fetched =>
          simp only [found, bind, Except.bind] at done ⊢
          exact ih done
      · next held =>
        rw [if_neg held] at done
        cases dropped : source.dropStale with
        | error fault => simp [dropped, bind, Except.bind] at done
        | ok kept =>
          simp only [dropped, bind, Except.bind] at done ⊢
          split
          · next unsettled =>
            rw [if_pos unsettled] at done
            cases found : kept.fetch with
            | error fault => simp [found] at done
            | ok fetched =>
              simp only [found] at done ⊢
              exact ih done
          · next isSettled => rwa [if_neg isSettled] at done

theorem settle_mono {more : Nat} (done : settle fuel source = .ok settled) (enough : fuel ≤ more) :
    settle more source = .ok settled := by
  obtain ⟨further, rfl⟩ := Nat.exists_eq_add_of_le enough
  exact settle_more done further

theorem dropStale_twice {kept : TokenSource} (dropped : source.dropStale = .ok kept) :
    kept.dropStale = .ok kept := by
  rw [dropStale] at dropped
  dsimp only at dropped
  split at dropped
  · exact nomatch dropped
  · obtain rfl := Except.ok.inj dropped
    rw [dropStale]
    dsimp only
    rw [if_neg, List.filter_filter]
    · simp
    · simp only [List.any_filter, List.any_eq_true, not_exists, not_and]
      intro candidate _ both
      obtain ⟨fresh, stale⟩ := Bool.and_eq_true_iff.mp both
      rw [(Bool.and_eq_true_iff.mp stale).1] at fresh
      exact nomatch fresh

/-- What is settled stays as it is. -/
theorem settle_settled (done : settle fuel source = .ok settled) : settle 1 settled = .ok settled := by
  induction fuel generalizing source with
  | zero => exact nomatch done
  | succ fuel ih =>
    rw [settle] at done
    split at done
    · next isDone =>
      obtain rfl := Except.ok.inj done
      rw [settle, if_pos isDone]
    · next live =>
      split at done
      · cases found : source.fetch with
        | error fault => simp [found, bind, Except.bind] at done
        | ok fetched =>
          simp only [found, bind, Except.bind] at done
          exact ih done
      · next held =>
        cases dropped : source.dropStale with
        | error fault => simp [dropped, bind, Except.bind] at done
        | ok kept =>
          simp only [dropped, bind, Except.bind] at done
          split at done
          · cases found : kept.fetch with
            | error fault => simp [found] at done
            | ok fetched =>
              simp only [found] at done
              exact ih done
          · next isSettled =>
            obtain rfl := Except.ok.inj done
            rw [settle]
            split
            · rfl
            · have queued : kept.queue.isEmpty = false := by
                rw [isUnsettled] at isSettled
                cases same : kept.queue with
                | nil => simp [same] at isSettled
                | cons token queue => rfl
              simp [queued, dropStale_twice dropped, bind, Except.bind, isSettled, pure, Except.pure]

theorem first_again (first : source.first = .ok (token, settled)) :
    settled.first = .ok (token, settled) := by
  rw [TokenSource.first] at first ⊢
  cases done : settle (source.place.rest.length + 2) source with
  | error fault => simp [done, bind, Except.bind] at first
  | ok settled' =>
    simp only [done, bind, Except.bind, pure, Except.pure, Except.ok.injEq, Prod.mk.injEq] at first
    obtain ⟨head, rfl⟩ := first
    rw [settle_mono (settle_settled done) (by omega)]
    simp only [bind, Except.bind, head, pure, Except.pure]

/-- What a source gives once more of the text is read. -/
theorem yields_of_settle (more : ∀ fuel settled, settle fuel fetched = .ok settled →
      settle (fuel + 1) source = .ok settled)
    (ahead : fetched.done = true ∨ fetched.place.rest.length < source.place.rest.length)
    (yields : fetched.Yields tokens) : source.Yields tokens := by
  cases yields with
  | nil => exact .nil
  | @cons _ settled token tokens first yields =>
    refine .cons ?_ yields
    rw [TokenSource.first] at first ⊢
    cases done : settle (fetched.place.rest.length + 2) fetched with
    | error fault => simp [done, bind, Except.bind] at first
    | ok settled' =>
      simp only [done, bind, Except.bind] at first
      have here : settle (source.place.rest.length + 2) source = .ok settled' := by
        rcases ahead with isDone | shorter
        · rw [settle, if_pos isDone] at done
          obtain rfl := Except.ok.inj done
          exact settle_mono (more 1 _ (by rw [settle, if_pos isDone])) (by omega)
        · exact settle_mono (more _ _ done) (by omega)
      simpa only [here, bind, Except.bind] using first

end Settling

section Awaiting

/-- Spaces and line feeds: what stands between two tokens on a written page. -/
def Filler (text : Text) : Prop := ∀ c ∈ text, c = ' ' ∨ c = '\n'

/-- How deep the innermost of the blocks is that begin at some columns, the last one first. -/
def indentOf : List Nat → Int
  | [] => -1
  | column :: _ => Int.ofNat column

def outerOf : List Nat → List Int
  | [] => []
  | _ :: columns => indentOf columns :: outerOf columns

/-- A source inside blocks at some columns that has the next token before it. No token that it
holds can still become a key, and `allowed` tells whether the next one can. -/
structure Awaits (source : TokenSource) (target : Place) (columns : List Nat) (allowed : Bool) :
    Prop where
  reaches : ∃ filler, Filler filler ∧ source.place.Passes filler target ∧
    (source.keyAllowed || filler.contains '\n') = allowed
  live : source.done = false
  outside : source.level = 0
  indent : source.indent = indentOf columns
  outer : source.outer = outerOf columns
  lapsed : ∀ candidate ∈ source.candidates, candidate.required = false ∧ candidate.line ≠ target.line

/-- From a place on, these are the tokens. -/
structure Resumes (target : Place) (columns : List Nat) (allowed : Bool) (tokens : List Token) :
    Prop where
  atToken : target.AtToken
  clear : target.obstacle = none
  fetches : ∀ source : TokenSource, source.Awaits target columns allowed → ∃ fetched,
    source.fetch = .ok fetched ∧
      (fetched.done = true ∨ fetched.place.rest.length < source.place.rest.length) ∧
      fetched.Yields (source.queue ++ tokens)

variable {source fetched : TokenSource} {target : Place} {columns : List Nat} {allowed : Bool}
  {tokens : List Token} {filler : Text} {column : Nat} {c : Char}

theorem Filler.spaces (blank : Filler filler) : ∃ spaces rest, filler = spaces ++ rest ∧
    (∀ c ∈ spaces, c = ' ') ∧ (rest = [] ∨ ∃ more, rest = '\n' :: more ∧ Filler more) := by
  induction filler with
  | nil => exact ⟨[], [], rfl, by simp, .inl rfl⟩
  | cons c filler ih =>
    have others : Filler filler := fun d member => blank d (by simp [member])
    rcases blank c (by simp) with rfl | rfl
    · obtain ⟨spaces, rest, rfl, all, more⟩ := ih others
      exact ⟨' ' :: spaces, rest, rfl, by simpa using all, more⟩
    · exact ⟨[], '\n' :: filler, rfl, by simp, .inr ⟨filler, rfl, others⟩⟩

/-- Filler is skipped; a key may come after a line end in it. -/
theorem skipBlank_eq (blank : Filler filler) (passes : source.place.Passes filler target)
    (atToken : target.AtToken) (outside : '\n' ∈ filler → source.level = 0) {fuel : Nat}
    (enough : filler.length < fuel) : source.skipBlank fuel =
      { source with place := target, keyAllowed := source.keyAllowed || filler.contains '\n' } := by
  induction fuel generalizing source filler with
  | zero => exact absurd enough (Nat.not_lt_zero _)
  | succ fuel ih =>
    obtain ⟨spaces, rest, rfl, all, more⟩ := blank.spaces
    obtain ⟨here, first, second⟩ := passes.split
    have isSpace : ∀ c ∈ spaces, (c == ' ') = true := fun c member => by simp [all c member]
    have noLineFeed : '\n' ∉ spaces := fun member => absurd (all _ member) (by decide)
    rcases more with rfl | ⟨more, rfl, others⟩
    · obtain rfl : target = here := second.target
      have skipped : source.place.skipSpaces = target := by
        rw [first.target]
        exact Place.skip_eq isSpace (fun c first => by simpa using (atToken c first).1) first.there
      have noHash : target.sees '#' = false := by
        rw [Place.sees_eq]
        cases seen : target.rest.head? with
        | none => rfl
        | some c => simpa using (atToken c seen).2.1
      have noEnd : (target.peek.map isBreak).getD false = false := by
        rw [Place.peek]
        cases seen : target.rest.head? with
        | none => rfl
        | some c => exact (atToken c seen).2.2
      simp [skipBlank, skipped, noHash, noEnd, noLineFeed]
    · have skipped : source.place.skipSpaces = here := by
        rw [first.target]
        exact Place.skip_eq isSpace (by simp [second.there]) first.there
      have shorter : more.length < fuel := by
        simp only [List.length_append, List.length_cons] at enough
        omega
      have broken := Place.lineBreak_eq (show isBreak '\n' = true from rfl) second.there
      rw [skipBlank]
      simp only [skipped, Place.sees_eq, Place.peek_eq second.there, second.there, List.cons_append,
        List.head?_cons, Option.map_some, Option.getD_some, show isBreak '\n' = true from rfl,
        show (some '\n' == some '#') = false from rfl, Bool.false_eq_true, if_false, if_true, broken]
      have outside : source.level = 0 := outside (by simp)
      have later := @ih { source with place := here.next, keyAllowed := source.keyAllowed || !source.inFlow }
        more others second.next (fun _ => outside) shorter
      rw [later]
      simp [inFlow, outside]

theorem closeBlocks_stay (inside : ∀ c ∈ columns.head?, c ≤ column)
    (indent : source.indent = indentOf columns) (outer : source.outer = outerOf columns) :
    closeBlocks (Int.ofNat column) source.outer source = source := by
  cases columns with
  | nil => rw [outer]; rfl
  | cons c columns =>
    have within : ¬ source.indent > Int.ofNat column := by
      have := inside c rfl
      simp only [indent, indentOf, Int.ofNat_eq_natCast]
      omega
    rw [outer, outerOf, closeBlocks, if_neg within]

/-- The source at the next token. -/
def ready (source : TokenSource) (target : Place) (allowed : Bool) : TokenSource :=
  { source with place := target, keyAllowed := allowed, candidates := [] }

theorem dropStale_lapsed (source : TokenSource) (lapsed : ∀ candidate ∈ source.candidates,
    candidate.required = false ∧ candidate.line ≠ source.place.line) :
    source.dropStale = .ok { source with candidates := [] } := by
  rw [dropStale]
  dsimp only
  rw [if_neg]
  · congr 2
    rw [List.filter_eq_nil_iff]
    intro candidate member
    simp [(lapsed candidate member).2]
  · simp only [List.any_eq_true, not_exists, not_and]
    intro candidate member
    simp [(lapsed candidate member).1]

/-- What is done for the next token, once it is reached. -/
def fetchHere (source : TokenSource) : Except Fault TokenSource :=
  match source.place.peek with
  | none => source.streamEnd
  | some c => do
      let source ← source.dispatch c
      source.place.check
      return source

theorem fetch_eq (awaits : source.Awaits target columns allowed) (atToken : target.AtToken)
    (clear : target.obstacle = none) :
    source.fetch = ((source.ready target allowed).unwind (Int.ofNat target.column)).fetchHere := by
  obtain ⟨filler, blank, passes, same⟩ := awaits.reaches
  have skipped := skipBlank_eq blank passes atToken (fun _ => awaits.outside)
    (show _ < source.place.rest.length + 1 by rw [passes.length]; omega)
  have checked : target.check = .ok () := by
    rw [Place.check, clear]
    rcases target.rest with _ | ⟨c, rest⟩ <;> rfl
  have dropped := dropStale_lapsed { source with place := target, keyAllowed := allowed } awaits.lapsed
  rw [same] at skipped
  simp only [fetch, skipped, checked, dropped, bind, Except.bind]
  rfl

/-- A token that is indented less ends a block. -/
theorem Resumes.close (resumes : Resumes target columns allowed tokens)
    (shallow : target.column < column) :
    Resumes target (column :: columns) allowed (.blockEnd :: tokens) := by
  refine ⟨resumes.atToken, resumes.clear, fun source awaits => ?_⟩
  let closed : TokenSource :=
    { source with
      queue := source.queue ++ [.blockEnd], indent := indentOf columns, outer := outerOf columns }
  have awaits' : closed.Awaits target columns allowed :=
    ⟨awaits.reaches, awaits.live, awaits.outside, rfl, rfl, awaits.lapsed⟩
  have unwound : (source.ready target allowed).unwind (Int.ofNat target.column) =
      (closed.ready target allowed).unwind (Int.ofNat target.column) := by
    have notFlow : source.inFlow = false := by simp [inFlow, awaits.outside]
    have deeper : indentOf (column :: columns) > Int.ofNat target.column := Int.ofNat_lt.mpr shallow
    have outside : ((source.ready target allowed).inFlow = false) := notFlow
    have outside' : ((closed.ready target allowed).inFlow = false) := notFlow
    simp only [unwind, outside, outside', Bool.false_eq_true, if_false]
    simp only [ready, awaits.indent, awaits.outer, outerOf, closeBlocks, deeper, if_true]
    rfl
  obtain ⟨fetched, same, ahead, yields⟩ := resumes.fetches closed awaits'
  refine ⟨fetched, ?_, ahead, ?_⟩
  · rw [fetch_eq awaits resumes.atToken resumes.clear, unwound,
      ← fetch_eq awaits' resumes.atToken resumes.clear, same]
  · simpa [closed] using yields

theorem Awaits.dropStale (awaits : source.Awaits target columns allowed) :
    ∃ kept, source.dropStale = .ok kept ∧ kept.Awaits target columns allowed ∧
      kept.queue = source.queue ∧ kept.place = source.place := by
  have optional : ¬ (source.candidates.any fun candidate =>
      (candidate.line != source.place.line || 1024 < source.place.index - candidate.index) &&
        candidate.required) = true := by
    simp only [List.any_eq_true, not_exists, not_and]
    intro candidate member
    simp [(awaits.lapsed candidate member).1]
  refine ⟨_, (if_neg optional : source.dropStale = _), ?_, rfl, rfl⟩
  exact ⟨awaits.reaches, awaits.live, awaits.outside, awaits.indent, awaits.outer,
    fun candidate member => awaits.lapsed candidate (List.mem_filter.mp member).1⟩

theorem yields_of_empty (live : source.done = false) (empty : source.queue = [])
    (fetch : source.fetch = .ok fetched)
    (ahead : fetched.done = true ∨ fetched.place.rest.length < source.place.rest.length)
    (yields : fetched.Yields tokens) : source.Yields tokens := by
  refine yields_of_settle (fun fuel settled done => ?_) ahead yields
  simp [settle, live, empty, fetch, bind, Except.bind, done]

theorem yields_of_unsettled {kept : TokenSource} (live : source.done = false)
    (held : source.queue ≠ []) (dropped : source.dropStale = .ok kept)
    (unsettled : kept.isUnsettled = true) (fetch : kept.fetch = .ok fetched)
    (ahead : fetched.done = true ∨ fetched.place.rest.length < source.place.rest.length)
    (yields : fetched.Yields tokens) : source.Yields tokens := by
  refine yields_of_settle (fun fuel settled done => ?_) ahead yields
  simp [settle, live, held, dropped, unsettled, fetch, bind, Except.bind, done]

theorem yields_of_settled {kept : TokenSource} {token : Token} {queue : List Token}
    (live : source.done = false) (held : source.queue = token :: queue)
    (dropped : source.dropStale = .ok kept) (same : kept.queue = source.queue)
    (settled : kept.isUnsettled = false) (yields : kept.drop.Yields tokens) :
    source.Yields (token :: tokens) := by
  refine .cons ?_ yields
  simp [first, settle, live, held, dropped, settled, same, bind, Except.bind, pure, Except.pure]

theorem Awaits.drop (awaits : source.Awaits target columns allowed) :
    source.drop.Awaits target columns allowed :=
  ⟨awaits.reaches, awaits.live, awaits.outside, awaits.indent, awaits.outer, awaits.lapsed⟩

/-- What a source holds comes before the tokens of the text that it has before it. -/
theorem Resumes.yields (resumes : Resumes target columns allowed tokens)
    (awaits : source.Awaits target columns allowed) : source.Yields (source.queue ++ tokens) := by
  induction held : source.queue generalizing source with
  | nil =>
    obtain ⟨fetched, fetch, ahead, yields⟩ := resumes.fetches source awaits
    rw [held] at yields
    exact yields_of_empty awaits.live held fetch ahead yields
  | cons token queue ih =>
    obtain ⟨kept, dropped, awaits', same, here⟩ := awaits.dropStale
    by_cases unsettled : kept.isUnsettled = true
    · obtain ⟨fetched, fetch, ahead, yields⟩ := resumes.fetches kept awaits'
      rw [same, held] at yields
      rw [here] at ahead
      exact yields_of_unsettled awaits.live (by simp [held]) dropped unsettled fetch ahead yields
    · have remaining : kept.drop.queue = queue := by simp [TokenSource.drop, same, held]
      exact yields_of_settled awaits.live held dropped same (Bool.eq_false_iff.mpr unsettled)
        (ih awaits'.drop remaining)

end Awaiting

end TokenSource

end Transclusion.Yaml

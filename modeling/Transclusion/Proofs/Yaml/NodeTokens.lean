import Transclusion.Proofs.Yaml.NodeFaults
import Transclusion.Proofs.Yaml.Records

/-!
What is parsed of the tokens of a record. A parser that has looked at a token finds the source
settled, so that the token can be dropped.
-/

namespace Transclusion.Yaml

namespace TokenSource

/-- A source whose first token is settled. -/
structure Holds (token : Token) (tokens : List Token) (source : TokenSource) : Prop where
  first : source.first = .ok (token, source)
  yields : source.drop.Yields tokens

variable {source : TokenSource} {token : Token} {tokens : List Token}

theorem Holds.all (holds : source.Holds token tokens) : source.Yields (token :: tokens) :=
  .cons holds.first holds.yields

theorem exists_holds (yields : source.Yields (token :: tokens)) :
    ∃ settled, source.first = .ok (token, settled) ∧ settled.Holds token tokens := by
  cases yields with
  | cons first yields => exact ⟨_, first, first_again first, yields⟩

end TokenSource

open TokenSource

namespace Node

section Triples

variable {First Result : Type} {before between after : TokenSource → Prop} {token : Token}
  {tokens : List Token}

/-- From where `before` holds, a parser has a result, and it stops where `after` holds. -/
def Gives (before : TokenSource → Prop) (parser : Parse Result) (result : Result)
    (after : TokenSource → Prop) : Prop :=
  ∀ state, before state.source → ∃ next, parser.run state = .ok (result, next) ∧ after next.source

theorem Gives.bind {first : Parse First} {found : First} {next : First → Parse Result} {result : Result}
    (gives : Gives before first found between) (later : Gives between (next found) result after) :
    Gives before (first >>= next) result after := by
  intro state here
  obtain ⟨middle, run, there⟩ := gives state here
  obtain ⟨last, run', there'⟩ := later middle there
  refine ⟨last, ?_, there'⟩
  rw [StateT.run_bind, run]
  exact run'

theorem Gives.pure (result : Result) : Gives before (pure result) result before :=
  fun state here => ⟨state, rfl, here⟩

theorem Gives.weaken {parser : Parse Result} {result : Result} {stronger : TokenSource → Prop}
    (gives : Gives before parser result after) (implies : ∀ source, stronger source → before source) :
    Gives stronger parser result after := fun state here => gives state (implies _ here)

theorem Gives.modify {change : State → State} (keeps : ∀ state, (change state).source = state.source) :
    Gives before (modify change : Parse Unit) () before :=
  fun state here => ⟨change state, rfl, by rwa [keeps]⟩

theorem gives_peek : Gives (·.Yields (token :: tokens)) peek token (Holds token tokens) := by
  intro state yields
  obtain ⟨settled, first, holds⟩ := exists_holds yields
  exact ⟨_, by rw [run_peek, first]; rfl, holds⟩

theorem gives_drop : Gives (Holds token tokens) drop () (·.Yields tokens) :=
  fun _ holds => ⟨_, rfl, holds.yields⟩

/-- What follows a look at the next token, which is taken. -/
theorem gives_past {next : Parse Result} {result : Result}
    (gives : Gives (·.Yields tokens) next result after) :
    Gives (Holds token tokens) (drop >>= fun _ => next) result after := gives_drop.bind gives

theorem gives_again : Gives (Holds token tokens) peek token (Holds token tokens) :=
  gives_peek.weaken fun _ holds => holds.all

end Triples

end Node

namespace Token

/-- The first token of a node that has no tag and no anchor, and is no sequence. -/
def opensNode : Token → Bool
  | .scalar _ _ => true
  | .flowMappingStart => true
  | .blockMappingStart => true
  | _ => false

end Token

namespace Node

section Parts

variable {Result : Type} {token : Token} {tokens : List Token} {after : TokenSource → Prop}
  {inner : Parse Node} {node : Node} {fuel : Nat} {position : Position}

theorem gives_properties (opens : token.opensNode = true) :
    Gives (Holds token tokens) properties {} (Holds token tokens) := by
  refine gives_again.bind ?_
  cases token <;> first | exact .pure _ | exact nomatch opens

theorem gives_scalar (content : Text) (plain : Bool) :
    Gives (·.Yields (.scalar content plain :: tokens)) (Node.node position (fuel + 1))
      (.scalar none plain content) (·.Yields tokens) := by
  rw [Node.node]
  refine gives_peek.bind ?_
  refine (gives_properties rfl).bind ?_
  refine Gives.bind (.pure none) ?_
  refine gives_again.bind ?_
  cases position <;> exact gives_past (by simpa [remember, checkAnchor] using Gives.pure _)

theorem gives_braces :
    Gives (·.Yields (.flowMappingStart :: .flowMappingEnd :: tokens)) (Node.node position (fuel + 2))
      (.mapping none []) (·.Yields tokens) := by
  rw [Node.node]
  refine gives_peek.bind ((gives_properties rfl).bind (Gives.bind (.pure none) (gives_again.bind ?_)))
  have ends : Gives (·.Yields (.flowMappingEnd :: tokens)) (flowEntries true (fuel + 1)) [] (·.Yields tokens) := by
    rw [flowEntries.eq_def]
    exact gives_peek.bind (gives_past (.pure _))
  cases position <;> exact gives_past (Gives.bind (.pure ()) (ends.bind (.pure _)))

theorem gives_mapping {entries : List (Node × Node)} (block : position ≠ .flow)
    (gives : Gives (·.Yields tokens) (blockEntries fuel) entries after) :
    Gives (·.Yields (.blockMappingStart :: tokens)) (Node.node position (fuel + 1))
      (.mapping none entries) after := by
  rw [Node.node]
  refine gives_peek.bind ((gives_properties rfl).bind (Gives.bind (.pure none) (gives_again.bind ?_)))
  cases position with
  | flow => exact absurd rfl block
  | block => exact gives_past (Gives.bind (.pure ()) (gives.bind (.pure _)))
  | blockOrEntries => exact gives_past (Gives.bind (.pure ()) (gives.bind (.pure _)))

theorem gives_blockPart (opens : token.opensNode = true)
    (gives : Gives (·.Yields (token :: tokens)) inner node after) :
    Gives (·.Yields (token :: tokens)) (blockPart inner) node after := by
  have given := gives.weaken fun _ (holds : Holds token tokens _) => holds.all
  refine gives_peek.bind ?_
  cases token <;> first | exact given | exact nomatch opens

theorem gives_blockValue (opens : token.opensNode = true)
    (gives : Gives (·.Yields (token :: tokens)) inner node after) :
    Gives (·.Yields (.value :: token :: tokens)) (blockValue inner) node after :=
  gives_peek.bind (gives_past (gives_blockPart opens gives))

theorem gives_noEntries :
    Gives (·.Yields (.blockEnd :: tokens)) (blockEntries (fuel + 1)) [] (·.Yields tokens) := by
  rw [blockEntries.eq_def]
  exact gives_peek.bind (gives_past (.pure _))

end Parts

section Records

open Yaml.Record

theorem opensNode_tokens (record : Record) :
    ∃ token tokens, record.tokens = token :: tokens ∧ token.opensNode = true := by
  cases record with
  | text content => exact ⟨_, _, rfl, rfl⟩
  | flag isSet => exact ⟨_, _, rfl, rfl⟩
  | map entries =>
    rw [Record.tokens]
    split <;> exact ⟨_, _, rfl, rfl⟩

mutual

/-- The tokens of a record are parsed as its node. -/
theorem gives_record : ∀ (record : Record) (position : Position) (fuel : Nat) (tokens : List Token),
    position ≠ .flow → record.tokens.length ≤ fuel →
    Gives (·.Yields (record.tokens ++ tokens)) (Node.node position fuel) record.node (·.Yields tokens)
  | .text content, position, fuel, tokens, _, enough => by
    obtain ⟨fuel, rfl⟩ := Nat.exists_eq_add_one_of_ne_zero (Nat.ne_zero_of_lt enough)
    exact gives_scalar _ _
  | .flag isSet, position, fuel, tokens, _, enough => by
    obtain ⟨fuel, rfl⟩ := Nat.exists_eq_add_one_of_ne_zero (Nat.ne_zero_of_lt enough)
    exact gives_scalar _ _
  | .map entries, position, fuel, tokens, block, enough => by
    rw [Record.tokens] at enough ⊢
    rw [Record.node]
    split
    · next empty =>
      obtain rfl := List.isEmpty_iff.mp empty
      obtain ⟨fuel, rfl⟩ := Nat.exists_eq_add_of_le enough
      rw [Nat.add_comm]
      exact gives_braces
    · next present =>
      rw [if_neg present] at enough
      obtain ⟨fuel, rfl⟩ := Nat.exists_eq_add_one_of_ne_zero (Nat.ne_zero_of_lt enough)
      simp only [List.length_cons, List.length_append] at enough
      have entriesGive := gives_entries entries fuel tokens (Nat.lt_of_succ_le (Nat.le_of_succ_le_succ enough))
      simpa using gives_mapping block entriesGive

theorem gives_entries : ∀ (entries : List (String × Record)) (fuel : Nat) (tokens : List Token),
    (entryTokens entries).length < fuel →
    Gives (·.Yields (entryTokens entries ++ .blockEnd :: tokens)) (blockEntries fuel)
      (entryNodes entries) (·.Yields tokens)
  | [], fuel, tokens, enough => by
    obtain ⟨fuel, rfl⟩ := Nat.exists_eq_add_one_of_ne_zero (Nat.ne_zero_of_lt enough)
    exact gives_noEntries
  | (name, item) :: rest, fuel, tokens, enough => by
    rw [entryTokens] at enough ⊢
    simp only [List.length_cons, List.length_append] at enough
    obtain ⟨fuel, rfl⟩ := Nat.exists_eq_add_of_le (show 3 ≤ fuel by omega)
    rw [Nat.add_comm] at enough ⊢
    have rests := gives_entries rest (fuel + 2) tokens (by omega)
    have items := gives_record item .blockOrEntries (fuel + 1)
      (entryTokens rest ++ .blockEnd :: tokens) (by decide) (by omega)
    obtain ⟨token, more, same, opens⟩ := opensNode_tokens item
    rw [same] at items
    rw [blockEntries, entryNodes, same]
    refine gives_peek.bind (gives_past ?_)
    refine (gives_blockPart rfl (gives_scalar _ _)).bind ?_
    refine ((gives_blockValue opens items).weaken ?_).bind (rests.bind (.pure _))
    intro source yields
    simpa using yields

end

/-- The tokens behind the only document of a text: it may be closed by dots. -/
def documentEnds (dots : Bool) : List Token := if dots then [.documentEnd, .streamEnd] else [.streamEnd]

theorem gives_noDocument {fuel : Nat} (positive : 0 < fuel) :
    Gives (·.Yields [.streamEnd]) (openDocument fuel) false (·.Yields [.streamEnd]) := by
  obtain ⟨fuel, rfl⟩ := Nat.exists_eq_add_one_of_ne_zero (Nat.ne_of_gt positive)
  have noEnds : Gives (·.Yields [.streamEnd]) (skipEnds (fuel + 1)) () (Holds .streamEnd []) := by
    rw [skipEnds]
    exact gives_peek.bind (.pure _)
  rw [openDocument]
  refine noEnds.bind (gives_again.bind ?_)
  exact (Gives.pure false).weaken fun _ holds => holds.all

theorem gives_onlyDocument (record : Record) (dots : Bool) {fuel : Nat}
    (enough : record.tokens.length ≤ fuel) :
    Gives (·.Yields (record.tokens ++ documentEnds dots)) (onlyDocument fuel) (some record.node)
      (·.Yields [.streamEnd]) := by
  have parsed := gives_record record .block fuel (documentEnds dots) (by decide) enough
  obtain ⟨token, more, same, opens⟩ := opensNode_tokens record
  rw [same] at enough parsed ⊢
  have first : Gives (·.Yields (token :: more ++ documentEnds dots)) (firstDocument fuel)
      (some record.node) (·.Yields (documentEnds dots)) := by
    have implicit : Gives (·.Yields (token :: more ++ documentEnds dots))
        (do modify fun state => { state with handles := standardHandles }
            return some (← Node.node .block fuel)) (some record.node) (·.Yields (documentEnds dots)) :=
      Gives.bind (Gives.modify fun _ => rfl) (parsed.bind (.pure _))
    have given := implicit.weaken fun _ (holds : Holds token (more ++ documentEnds dots) _) => holds.all
    rw [firstDocument]
    refine gives_peek.bind ?_
    cases token <;> first | exact given | exact nomatch opens
  have noMore := gives_noDocument (Nat.zero_lt_of_lt enough)
  rw [onlyDocument]
  refine first.bind ?_
  cases dots with
  | true => exact gives_peek.bind (gives_past (noMore.bind (.pure _)))
  | false =>
    have given := noMore.weaken fun _ (holds : Holds .streamEnd [] _) => holds.all
    exact gives_peek.bind (given.bind (.pure _))

end Records

end Node

end Transclusion.Yaml

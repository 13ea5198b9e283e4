import Transclusion.Proofs.Yaml.TokenFaults
import Transclusion.Yaml.Reading

/-!
Why a text has no value. Beside the faults of its form and of its octets there are those of
its scalars: one that has the form of a date or a number and is none.
-/

namespace Transclusion.Yaml

namespace Node

variable {text : Text} {obstacle : Option Fault}

/-- A parser goes on in the text. -/
def Sane (text : Text) (obstacle : Option Fault) {Result : Type} (parser : Parse Result) : Prop :=
  ∀ state, Within text obstacle state.source.place →
    Meets (Cause text obstacle) (fun found => Within text obstacle found.2.source.place)
      (parser.run state)

section Parsers

variable {First Result : Type}

theorem Sane.bind {first : Parse First} {next : First → Parse Result}
    (sane : Sane text obstacle first) (later : ∀ found, Sane text obstacle (next found)) :
    Sane text obstacle (first >>= next) := fun state within =>
  (sane state within).bind fun found within => later found.1 found.2 within

theorem Sane.pure (result : Result) : Sane text obstacle (pure result : Parse Result) :=
  fun _ within => within

theorem Sane.fail {fault : Fault} (isOfForm : fault.isOfForm = true) :
    Sane text obstacle (fail fault : Parse Result) := fun _ _ => Cause.form isOfForm

theorem Sane.get : Sane text obstacle (get : Parse State) := fun _ within => within

theorem Sane.modify {change : State → State}
    (keeps : ∀ state, (change state).source.place = state.source.place) :
    Sane text obstacle (modify change : Parse Unit) := fun state within => by
  show Within text obstacle (change state).source.place
  rw [keeps]
  exact within

theorem run_peek (state : State) : peek.run state =
    state.source.first.map fun found => (found.1, { state with source := found.2 }) := by
  have step : peek.run state =
      (fun found => (found.1, { state with source := found.2 })) <$> state.source.first := by
    simp [peek]
  rw [step]
  cases state.source.first <;> rfl

theorem sane_peek : Sane text obstacle peek := by
  intro state within
  have meets := TokenSource.first_meets within
  rw [run_peek]
  cases first : state.source.first with
  | error fault => exact meets.fault first
  | ok found =>
    rw [first] at meets
    exact meets

theorem sane_drop : Sane text obstacle drop := .modify fun _ => rfl

end Parsers

section Properties

theorem sane_properties : Sane text obstacle properties := by
  refine sane_peek.bind fun token => ?_
  split
  · refine sane_drop.bind fun _ => sane_peek.bind fun token => ?_
    split
    · exact sane_drop.bind fun _ => .pure _
    · exact .pure _
  · refine sane_drop.bind fun _ => sane_peek.bind fun token => ?_
    split
    · exact sane_drop.bind fun _ => .pure _
    · exact .pure _
  · exact .pure _

theorem sane_resolveTag (found : Properties) : Sane text obstacle (resolveTag found) := by
  rw [resolveTag]
  split
  · exact .pure _
  · exact .pure _
  · refine Sane.get.bind fun state => ?_
    split
    · exact .pure _
    · exact .fail rfl

theorem sane_checkAnchor (found : Properties) : Sane text obstacle (checkAnchor found) := by
  rw [checkAnchor]
  split
  · refine Sane.get.bind fun state => ?_
    split
    · exact .fail rfl
    · exact .pure _
  · exact .pure _

theorem sane_remember (found : Properties) (node : Node) :
    Sane text obstacle (remember found node) := by
  rw [remember]
  split
  · refine Sane.bind (.modify fun _ => rfl) fun _ => .pure _
  · exact .pure _

theorem sane_emptyNode (found : Properties) (tag : Option Text) (implicit : Bool) :
    Sane text obstacle (emptyNode found tag implicit) := by
  rw [emptyNode]
  split
  · exact .fail rfl
  · exact (sane_checkAnchor found).bind fun _ => sane_remember found _

end Properties

section Parts

variable {node : Parse Node} (sane : Sane text obstacle node)

include sane

theorem Sane.blockPart : Sane text obstacle (blockPart node) := by
  refine sane_peek.bind fun token => ?_
  split
  · exact .pure _
  · exact .pure _
  · exact .pure _
  · exact sane

theorem Sane.blockValue : Sane text obstacle (blockValue node) := by
  refine sane_peek.bind fun token => ?_
  split
  · exact sane_drop.bind fun _ => sane.blockPart
  · exact .pure _

theorem Sane.flowPart : Sane text obstacle (flowPart node) := by
  refine sane_peek.bind fun token => ?_
  split
  · exact .pure _
  · exact .pure _
  · exact .pure _
  · exact sane

theorem Sane.flowValue : Sane text obstacle (flowValue node) := by
  refine sane_peek.bind fun token => ?_
  split
  · refine sane_drop.bind fun _ => sane_peek.bind fun token => ?_
    split
    · exact .pure _
    · exact .pure _
    · exact sane
  · exact .pure _

theorem Sane.mapPart : Sane text obstacle (mapPart node) := by
  refine sane_peek.bind fun token => ?_
  split
  · exact .pure _
  · exact .pure _
  · exact .pure _
  · exact sane

end Parts

/-- All the parsers of nodes and their parts, with the same fuel. -/
structure AllSane (text : Text) (obstacle : Option Fault) (fuel : Nat) : Prop where
  node : ∀ position, Sane text obstacle (node position fuel)
  blockItems : Sane text obstacle (blockItems fuel)
  indentlessEntries : Sane text obstacle (indentlessEntries fuel)
  blockEntries : Sane text obstacle (blockEntries fuel)
  flowItems : ∀ first, Sane text obstacle (flowItems first fuel)
  flowEntries : ∀ first, Sane text obstacle (flowEntries first fuel)

section Nodes

variable {fuel : Nat}

theorem AllSane.zero : AllSane text obstacle 0 where
  node _ := .fail rfl
  blockItems := .fail rfl
  indentlessEntries := .fail rfl
  blockEntries := .fail rfl
  flowItems _ := .fail rfl
  flowEntries _ := .fail rfl

theorem AllSane.node_succ (all : AllSane text obstacle fuel) (position : Position) :
    Sane text obstacle (Node.node position (fuel + 1)) := by
  have finished : ∀ (found : Properties) {parser : Parse Node}, Sane text obstacle parser →
      Sane text obstacle (do
        checkAnchor found
        remember found (← parser)) := fun found _ sane =>
    (sane_checkAnchor found).bind fun _ => sane.bind fun _ => sane_remember found _
  rw [Node.node]
  refine sane_peek.bind fun token => ?_
  split
  · refine sane_drop.bind fun _ => Sane.get.bind fun state => ?_
    split
    · exact .pure _
    · exact .fail rfl
  · refine sane_properties.bind fun found => (sane_resolveTag found).bind fun tag => ?_
    dsimp only
    refine sane_peek.bind fun token => ?_
    split
    · exact (sane_checkAnchor found).bind fun _ => all.indentlessEntries.bind fun _ =>
        sane_remember found _
    · exact sane_drop.bind fun _ => (sane_checkAnchor found).bind fun _ => sane_remember found _
    · exact sane_drop.bind fun _ => (sane_checkAnchor found).bind fun _ =>
        (all.flowItems true).bind fun _ => sane_remember found _
    · exact sane_drop.bind fun _ => (sane_checkAnchor found).bind fun _ =>
        (all.flowEntries true).bind fun _ => sane_remember found _
    · exact sane_emptyNode found _ _
    · exact sane_drop.bind fun _ => (sane_checkAnchor found).bind fun _ =>
        all.blockItems.bind fun _ => sane_remember found _
    · exact sane_drop.bind fun _ => (sane_checkAnchor found).bind fun _ =>
        all.blockEntries.bind fun _ => sane_remember found _
    · exact sane_emptyNode found _ _

theorem sane_inner {position : Position} (inner : ∀ fuel', fuel = fuel' + 1 → ∀ position,
    Sane text obstacle (Node.node position fuel')) : Sane text obstacle (match fuel with
      | 0 => fail .nesting
      | fuel + 1 => Node.node position fuel) := by
  cases fuel with
  | zero => exact .fail rfl
  | succ fuel => exact inner fuel rfl position

section Flow

theorem Sane.pastComma {Result : Type} {parser : Parse Result} (sane : Sane text obstacle parser)
    (token : Token) : Sane text obstacle (do
      match token with
      | .flowEntry => drop
      | _ => Node.fail .nesting
      parser) := by
  split
  · exact sane_drop.bind fun _ => sane
  · exact Sane.bind (.fail rfl) fun _ => sane

variable {node inner : Parse Node} (sane : Sane text obstacle node)
  (saneInner : Sane text obstacle inner)

include sane saneInner

theorem sane_flowItem {rest : Parse (List Node)} (saneRest : Sane text obstacle rest) :
    Sane text obstacle (do
      match ← peek with
      | .flowSequenceEnd => drop; return []
      | .key =>
          drop
          let key ← flowPart inner
          let item ← flowValue inner
          return .mapping none [(key, item)] :: (← rest)
      | _ =>
          let item ← node
          return item :: (← rest)) := by
  refine sane_peek.bind fun token => ?_
  split
  · exact sane_drop.bind fun _ => .pure _
  · exact sane_drop.bind fun _ => saneInner.flowPart.bind fun _ => saneInner.flowValue.bind
      fun _ => saneRest.bind fun _ => .pure _
  · exact sane.bind fun _ => saneRest.bind fun _ => .pure _

theorem sane_flowEntry {rest : Parse (List (Node × Node))} (saneRest : Sane text obstacle rest) :
    Sane text obstacle (do
      match ← peek with
      | .flowMappingEnd => drop; return []
      | .key =>
          drop
          let key ← mapPart inner
          let item ←
            match ← peek with
            | .value => drop; mapPart inner
            | _ => pure empty
          return (key, item) :: (← rest)
      | _ =>
          let key ← node
          return (key, empty) :: (← rest)) := by
  refine sane_peek.bind fun token => ?_
  split
  · exact sane_drop.bind fun _ => .pure _
  · refine sane_drop.bind fun _ => saneInner.mapPart.bind fun _ => sane_peek.bind fun token => ?_
    split
    · exact sane_drop.bind fun _ => saneInner.mapPart.bind fun _ => saneRest.bind fun _ => .pure _
    · exact (Sane.pure empty).bind fun _ => saneRest.bind fun _ => .pure _
  · exact sane.bind fun _ => saneRest.bind fun _ => .pure _

end Flow

theorem AllSane.succ (all : AllSane text obstacle fuel)
    (inner : ∀ fuel', fuel = fuel' + 1 → ∀ position, Sane text obstacle (Node.node position fuel')) :
    AllSane text obstacle (fuel + 1) where
  node := all.node_succ
  blockItems := by
    rw [Node.blockItems]
    refine sane_peek.bind fun token => ?_
    split
    · refine sane_drop.bind fun _ => sane_peek.bind fun token => ?_
      split
      · exact (Sane.pure empty).bind fun _ => all.blockItems.bind fun _ => .pure _
      · exact (Sane.pure empty).bind fun _ => all.blockItems.bind fun _ => .pure _
      · exact (all.node .block).bind fun _ => all.blockItems.bind fun _ => .pure _
    · exact sane_drop.bind fun _ => .pure _
    · exact .fail rfl
  indentlessEntries := by
    rw [Node.indentlessEntries]
    refine sane_peek.bind fun token => ?_
    split
    · refine sane_drop.bind fun _ => sane_peek.bind fun token => ?_
      split
      · exact (Sane.pure empty).bind fun _ => all.indentlessEntries.bind fun _ => .pure _
      · exact (Sane.pure empty).bind fun _ => all.indentlessEntries.bind fun _ => .pure _
      · exact (Sane.pure empty).bind fun _ => all.indentlessEntries.bind fun _ => .pure _
      · exact (Sane.pure empty).bind fun _ => all.indentlessEntries.bind fun _ => .pure _
      · exact (all.node .block).bind fun _ => all.indentlessEntries.bind fun _ => .pure _
    · exact .pure _
  blockEntries := by
    rw [Node.blockEntries.eq_def]
    refine sane_peek.bind fun token => ?_
    split
    · have sane := @sane_inner _ _ _ .blockOrEntries inner
      exact sane_drop.bind fun _ => sane.blockPart.bind fun _ => sane.blockValue.bind fun _ =>
        all.blockEntries.bind fun _ => .pure _
    · exact sane_drop.bind fun _ => .pure _
    · exact .fail rfl
  flowItems first := by
    have ended := sane_flowItem (all.node .flow) (@sane_inner _ _ _ .flow inner) (all.flowItems false)
    rw [Node.flowItems.eq_def]
    refine sane_peek.bind fun token => ?_
    cases first with
    | true =>
      split
      · exact sane_drop.bind fun _ => .pure _
      · exact ended
    | false =>
      split
      · exact sane_drop.bind fun _ => .pure _
      · exact ended.pastComma _
  flowEntries first := by
    have ended := sane_flowEntry (all.node .flow) (@sane_inner _ _ _ .flow inner)
      (all.flowEntries false)
    rw [Node.flowEntries.eq_def]
    refine sane_peek.bind fun token => ?_
    cases first with
    | true =>
      split
      · exact sane_drop.bind fun _ => .pure _
      · exact ended
    | false =>
      split
      · exact sane_drop.bind fun _ => .pure _
      · exact ended.pastComma _

end Nodes

section Documents

end Documents

section Readings

/-- A scalar that is somewhere in a node. -/
inductive HasScalar (tag : Option Text) (open_ : Bool) (content : Text) : Node → Prop where
  | here : HasScalar tag open_ content (.scalar tag open_ content)
  | item {outer : Option Text} {items : List Node} {item : Node} (member : item ∈ items)
      (inside : HasScalar tag open_ content item) : HasScalar tag open_ content (.sequence outer items)
  | key {outer : Option Text} {entries : List (Node × Node)} {entry : Node × Node}
      (member : entry ∈ entries) (inside : HasScalar tag open_ content entry.1) :
      HasScalar tag open_ content (.mapping outer entries)
  | value {outer : Option Text} {entries : List (Node × Node)} {entry : Node × Node}
      (member : entry ∈ entries) (inside : HasScalar tag open_ content entry.2) :
      HasScalar tag open_ content (.mapping outer entries)

/-- A scalar of the node has the form of what its kind stands for, and no value. -/
def Refuses (node : Node) (fault : Fault) : Prop :=
  ∃ tag open_ content kind, HasScalar tag open_ content node ∧
    kind? tag open_ content = some kind ∧ Scalar.value kind content = .error fault

/-- Why a node has no value. -/
def NoValue (node : Node) (fault : Fault) : Prop := fault.isOfForm = true ∨ Refuses node fault

/-- Every fault of a result is expected. -/
def Expects {Result : Type} (expected : Fault → Prop) (result : Levels Result) : Prop :=
  ∀ depth fault, result = .error (depth, fault) → expected fault

section Expects

variable {First Result : Type} {expected : Fault → Prop}

theorem Expects.mono {weaker : Fault → Prop} {result : Levels Result}
    (expects : Expects expected result) (imp : ∀ fault, expected fault → weaker fault) :
    Expects weaker result := fun depth fault failed => imp fault (expects depth fault failed)

theorem expects_here {result : Except Fault Result}
    (all : ∀ fault, result = .error fault → expected fault) : Expects expected (Levels.here result) := by
  intro depth fault failed
  cases result with
  | ok result => cases failed
  | error fault' =>
    cases failed
    exact all fault rfl

theorem Expects.below {result : Levels Result} (expects : Expects expected result) :
    Expects expected result.below := by
  intro depth fault failed
  cases result with
  | ok result => cases failed
  | error found =>
    cases failed
    exact expects found.1 found.2 rfl

theorem Expects.both {first : Levels First} {second : Levels Result} (one : Expects expected first)
    (other : Expects expected second) : Expects expected (first.both second) := by
  intro depth fault failed
  cases first with
  | ok first =>
    cases second with
    | ok second => cases failed
    | error found =>
      cases failed
      exact other depth fault rfl
  | error found =>
    cases second with
    | ok second =>
      cases failed
      exact one depth fault rfl
    | error found' =>
      simp only [Levels.both] at failed
      split at failed
      · cases failed
        exact other _ _ rfl
      · cases failed
        exact one _ _ rfl

theorem Expects.map {result : Levels First} {change : First → Result}
    (expects : Expects expected result) : Expects expected (result.map change) := by
  intro depth fault failed
  cases result with
  | ok result => cases failed
  | error found =>
    cases failed
    exact expects depth fault rfl

theorem expects_all {results : List (Levels Result)}
    (all : ∀ result ∈ results, Expects expected result) : Expects expected (Levels.all results) := by
  induction results with
  | nil =>
    intro depth fault failed
    cases failed
  | cons result results ih =>
    exact ((all result (by simp)).both (ih fun later member => all later (by simp [member]))).map

end Expects

/-- All that is read of a node fails for what the node is. -/
structure Reading.Explains (reading : Reading) (expected : Fault → Prop) : Prop where
  value : Expects expected reading.value
  own : ∀ entries, reading.own = some entries → ∀ entry ∈ entries, Expects expected entry
  offered : ∀ entries, reading.offered = some entries → ∀ entry ∈ entries, Expects expected entry

theorem expects_collectionValue {expected : Fault → Prop} (construction : expected .construction)
    (name : String) (tag : Option Text) {content : Levels Value} (expects : Expects expected content) :
    Expects expected (collectionValue name tag content) := by
  cases tag with
  | none => exact expects.below
  | some tag =>
    rw [collectionValue]
    split
    · exact expects.below
    · intro depth fault failed
      cases failed
      exact construction

theorem expects_offeredBy {expected : Fault → Prop} {items : List Reading}
    (all : ∀ item ∈ items, item.Explains expected) {entries : List (Levels Entry)}
    (offered : offeredBy items = some entries) : ∀ entry ∈ entries, Expects expected entry := by
  intro entry member
  obtain ⟨item, listed, own, isOwn, inside⟩ := exists_of_mem_offeredBy offered member
  exact (all item listed).own own isOwn entry inside

/-- Why the entries of a mapping have no value. -/
def NoEntries (entries : List (Node × Node)) (fault : Fault) : Prop :=
  fault.isOfForm = true ∨ ∃ entry ∈ entries, Refuses entry.1 fault ∨ Refuses entry.2 fault

theorem NoValue.item {outer : Option Text} {items : List Node} {item : Node} {fault : Fault}
    (member : item ∈ items) (noValue : NoValue item fault) : NoValue (.sequence outer items) fault := by
  obtain form | ⟨tag, open_, content, kind, inside, known, refused⟩ := noValue
  · exact .inl form
  · exact .inr ⟨tag, open_, content, kind, .item member inside, known, refused⟩

theorem NoEntries.noValue {entries : List (Node × Node)} {fault : Fault}
    (noEntries : NoEntries entries fault) (outer : Option Text) :
    NoValue (.mapping outer entries) fault := by
  obtain form | ⟨entry, member, refuses⟩ := noEntries
  · exact .inl form
  · obtain ⟨tag, open_, content, kind, inside, found⟩ | ⟨tag, open_, content, kind, inside, found⟩ :=
      refuses
    · exact .inr ⟨tag, open_, content, kind, .key member inside, found⟩
    · exact .inr ⟨tag, open_, content, kind, .value member inside, found⟩

theorem NoEntries.later {entry : Node × Node} {entries : List (Node × Node)} {fault : Fault}
    (noEntries : NoEntries entries fault) : NoEntries (entry :: entries) fault := by
  obtain form | ⟨other, member, refuses⟩ := noEntries
  · exact .inl form
  · exact .inr ⟨other, by simp [member], refuses⟩

theorem noEntries_item {key item : Node} {entries : List (Node × Node)} {fault : Fault}
    (noValue : NoValue item fault) : NoEntries ((key, item) :: entries) fault := by
  obtain form | refuses := noValue
  · exact .inl form
  · exact .inr ⟨(key, item), by simp, .inr refuses⟩

theorem expects_keyValue (key item : Node) (entries : List (Node × Node)) :
    Expects (NoEntries ((key, item) :: entries)) (Levels.here (keyValue key)) := by
  refine expects_here fun fault failed => ?_
  cases key with
  | scalar tag open_ content =>
    rw [keyValue] at failed
    split at failed
    · cases failed
    · next kind _ known =>
      exact .inr ⟨(.scalar tag open_ content, item), by simp,
        .inl ⟨tag, open_, content, kind, .here, known, failed⟩⟩
    · cases failed
      exact .inl rfl
  | sequence tag items =>
    cases failed
    exact .inl rfl
  | mapping tag entries =>
    cases failed
    exact .inl rfl

theorem expects_scalarValue (tag : Option Text) (open_ : Bool) (content : Text) :
    Expects (NoValue (.scalar tag open_ content)) (scalarValue tag open_ content) := by
  rw [scalarValue]
  split
  · next kind known =>
    exact expects_here fun fault failed => .inr ⟨tag, open_, content, kind, .here, known, failed⟩
  · intro depth fault failed
    cases failed
    exact .inl rfl

mutual

theorem explains_reading : ∀ node : Node, (reading node).Explains (NoValue node)
  | .scalar tag open_ content => by
    refine ⟨?_, by simp [reading], by simp [reading]⟩
    rw [reading]
    exact expects_scalarValue tag open_ content
  | .sequence tag items => by
    have inside : ∀ found ∈ itemReadings items, found.Explains (NoValue (.sequence tag items)) := by
      intro found member
      obtain ⟨item, member, explains⟩ := explains_itemReadings items found member
      have imp : ∀ fault, NoValue item fault → NoValue (.sequence tag items) fault :=
        fun fault noValue => noValue.item member
      exact ⟨explains.value.mono imp,
        fun entries own entry member => (explains.own entries own entry member).mono imp,
        fun entries offered entry member => (explains.offered entries offered entry member).mono imp⟩
    refine ⟨?_, by simp [reading], ?_⟩
    · rw [reading]
      refine expects_collectionValue (.inl rfl) _ _ (expects_all fun result member => ?_).map
      obtain ⟨found, among, rfl⟩ := List.mem_map.mp member
      exact (inside found among).value
    · intro entries offered
      rw [reading] at offered
      exact expects_offeredBy inside offered
  | .mapping tag entries => by
    have own : ∀ found, (entryReadings entries).map (fun (taken, own) => taken ++ own) = some found →
        ∀ entry ∈ found, Expects (NoValue (.mapping tag entries)) entry := by
      intro found read entry member
      obtain ⟨parts, inside, rfl⟩ := Option.map_eq_some_iff.mp read
      exact (explains_entryReadings entries parts inside entry member).mono
        fun fault noEntries => noEntries.noValue tag
    refine ⟨?_, ?_, ?_⟩
    · rw [reading]
      refine expects_collectionValue (.inl rfl) _ _ ?_
      cases read : (entryReadings entries).map fun (taken, own) => taken ++ own with
      | none =>
        intro depth fault failed
        cases failed
        exact .inl rfl
      | some found => exact (expects_all (own found read)).map
    · rw [reading]
      exact own
    · rw [reading]
      exact own

theorem explains_itemReadings : ∀ items : List Node,
    ∀ found ∈ itemReadings items, ∃ item ∈ items, found.Explains (NoValue item)
  | [] => by simp [itemReadings]
  | item :: rest => by
    intro found member
    rw [itemReadings] at member
    rcases List.mem_cons.mp member with rfl | member
    · exact ⟨item, by simp, explains_reading item⟩
    · obtain ⟨item, inside, explains⟩ := explains_itemReadings rest found member
      exact ⟨item, by simp [inside], explains⟩

theorem explains_entryReadings : ∀ (entries : List (Node × Node)) (found),
    entryReadings entries = some found →
      ∀ entry ∈ found.1 ++ found.2, Expects (NoEntries entries) entry
  | [] => by
    rintro found ⟨⟩
    simp
  | (key, item) :: rest => by
    intro found read entry member
    have explains := explains_reading item
    rw [entryReadings] at read
    obtain ⟨parts, later, read⟩ := Option.bind_eq_some_iff.mp read
    have old : ∀ entry ∈ parts.1 ++ parts.2, Expects (NoEntries ((key, item) :: rest)) entry :=
      fun entry member => (explains_entryReadings rest parts later entry member).mono
        fun fault noEntries => noEntries.later
    have here : ∀ fault, NoValue item fault → NoEntries ((key, item) :: rest) fault :=
      fun fault => noEntries_item
    dsimp only at read
    split at read
    · obtain ⟨taken, offered, read⟩ := Option.bind_eq_some_iff.mp read
      cases read
      rw [List.append_assoc] at member
      rcases List.mem_append.mp member with mine | member
      · exact (explains.offered taken offered entry mine).mono here
      · exact old entry member
    · cases read
      rcases List.mem_append.mp member with before | member
      · exact old entry (List.mem_append_left _ before)
      · rcases List.mem_cons.mp member with rfl | member
        · exact (expects_keyValue key item rest).both (explains.value.mono here)
        · exact old entry (List.mem_append_right _ member)

end

end Readings

end Node

variable {text : Text} {broken : Option Text.OctetFault}

end Transclusion.Yaml

import Transclusion.Text.Blank
import Transclusion.Yaml.Levels
import Transclusion.Yaml.Node
import Transclusion.Yaml.Scalar

/-!
The value of a YAML text that holds at most one document. Entries that a mapping
takes over by a merge key come before its own and give way to them. Repeated keys
keep their first place and their last item; lists and maps are no keys. The fault
reported is the one nearest to the root, and of those on one level the first.
-/

namespace Transclusion.Yaml

namespace Node

def standardTag (name : String) : Text := ("tag:yaml.org,2002:" ++ name).toList

/-- What a scalar stands for, by its tag or by its text. -/
def kind? (tag : Option Text) (open_ : Bool) (content : Text) : Option Kind :=
  match tag with
  | none => some (if open_ then Scalar.kindOf content else .text)
  | some tag =>
      if tag = standardTag "null" then some .null
      else if tag = standardTag "bool" then some .bool
      else if tag = standardTag "int" then some .int
      else if tag = standardTag "float" then some .float
      else if tag = standardTag "timestamp" then some .timestamp
      else if tag = standardTag "str" then some .text
      else none

def isMergeKey : Node → Bool
  | .scalar tag open_ content => kind? tag open_ content == some .merge
  | _ => false

/-- The value of a key: a scalar, in which the equals sign is plain text. -/
def keyValue : Node → Except Fault Value
  | .scalar tag open_ content =>
      match kind? tag open_ content with
      | some .value => .ok (.text (String.ofList content))
      | some kind => Scalar.value kind content
      | none => .error .construction
  | _ => .error .construction

/-- What a tag that a node cannot have amounts to. That of a collection is noticed
with the content, one level down. -/
def tagFault (tag : Text) : Nat × Fault :=
  (if tag = standardTag "seq" || tag = standardTag "map" then 1 else 0, .construction)

def scalarValue (tag : Option Text) (open_ : Bool) (content : Text) : Levels Value :=
  match kind? tag open_ content with
  | some kind => Levels.here (Scalar.value kind content)
  | none => .error (tagFault (tag.getD []))

def collectionValue (name : String) (tag : Option Text) (content : Levels Value) :
    Levels Value :=
  match tag with
  | none => content.below
  | some tag => if tag = standardTag name then content.below else .error (tagFault tag)

abbrev Entry := Value × Value

/-- What is read of a node: its value, the entries it has when it is a mapping, and
those that a merge key takes over from it. -/
structure Reading where
  value : Levels Value
  own : Option (List (Levels Entry)) := none
  offered : Option (List (Levels Entry)) := none

/-- Entries taken over from a list of mappings, those of the last one first. -/
def offeredBy (items : List Reading) : Option (List (Levels Entry)) :=
  items.foldlM (fun later item => item.own.map fun entries => entries ++ later) []

/-- What is taken over is an entry of one of the mappings. -/
theorem exists_of_mem_offeredBy {items : List Reading} {entries : List (Levels Entry)}
    (offered : offeredBy items = some entries) {entry : Levels Entry} (member : entry ∈ entries) :
    ∃ item ∈ items, ∃ own, item.own = some own ∧ entry ∈ own := by
  have origin : ∀ later, items.foldlM (fun later item => item.own.map fun own => own ++ later) later =
      some entries → entry ∈ later ∨ ∃ item ∈ items, ∃ own, item.own = some own ∧ entry ∈ own := by
    clear offered
    induction items with
    | nil =>
      rintro later ⟨⟩
      exact .inl member
    | cons item items ih =>
      intro later found
      rw [List.foldlM_cons] at found
      obtain ⟨joined, own, found⟩ := Option.bind_eq_some_iff.mp found
      obtain ⟨taken, isOwn, rfl⟩ := Option.map_eq_some_iff.mp own
      rcases ih _ found with here | ⟨other, later, own, isOther, inside⟩
      · rcases List.mem_append.mp here with mine | old
        · exact .inr ⟨item, List.mem_cons_self, taken, isOwn, mine⟩
        · exact .inl old
      · exact .inr ⟨other, List.mem_cons_of_mem _ later, own, isOther, inside⟩
  exact (origin [] offered).resolve_left List.not_mem_nil

/-- A mapping whose merges cannot be resolved is a fault of its content. -/
def mappingValue : Option (List (Levels Entry)) → Levels Value
  | some entries => (Levels.all entries).map Value.ofEntries
  | none => .error (0, .construction)

mutual

def reading : Node → Reading
  | .scalar tag open_ content => { value := scalarValue tag open_ content }
  | .sequence tag items =>
      let found := itemReadings items
      { value := collectionValue "seq" tag ((Levels.all (found.map (·.value))).map .list)
        offered := offeredBy found }
  | .mapping tag entries =>
      let own := (entryReadings entries).map fun (taken, own) => taken ++ own
      { value := collectionValue "map" tag (mappingValue own), own, offered := own }

def itemReadings : List Node → List Reading
  | [] => []
  | item :: rest => reading item :: itemReadings rest

/-- Entries taken over, and a mapping's own. -/
def entryReadings :
    List (Node × Node) → Option (List (Levels Entry) × List (Levels Entry))
  | [] => some ([], [])
  | (key, item) :: rest => do
      let found := reading item
      let (taken, own) ← entryReadings rest
      if key.isMergeKey then return ((← found.offered) ++ taken, own)
      else return (taken, (Levels.here (keyValue key)).both found.value :: own)

end

/-- Directives before a document: at most one version, and tag handles. -/
def directives : Nat → Bool → Parse Unit
  | 0, _ => fail .nesting
  | fuel + 1, versioned => do
      match ← peek with
      | .version major =>
          drop
          if versioned || major ≠ 1 then fail .nesting else directives fuel true
      | .tagPrefix handle uri =>
          drop
          if ((← get).handles.lookup handle).isSome then fail .nesting
          else
            modify fun state => { state with handles := state.handles ++ [(handle, uri)] }
            directives fuel versioned
      | .reserved => drop; directives fuel versioned
      | _ => modify fun state => { state with handles := state.handles ++ standardHandles }

def skipEnds : Nat → Parse Unit
  | 0 => fail .nesting
  | fuel + 1 => do
      match ← peek with
      | .documentEnd => drop; skipEnds fuel
      | _ => return

/-- The mark that opens an explicit document; `false` at the end of the stream. -/
def openDocument (fuel : Nat) : Parse Bool := do
  skipEnds fuel
  match ← peek with
  | .streamEnd => return false
  | _ =>
      modify fun state => { state with handles := [] }
      directives fuel false
      match ← peek with
      | .documentStart => drop; return true
      | _ => fail .nesting

def content (fuel : Nat) : Parse Node := do
  match ← peek with
  | .version _ => return empty
  | .tagPrefix _ _ => return empty
  | .reserved => return empty
  | .documentStart => return empty
  | .documentEnd => return empty
  | .streamEnd => return empty
  | _ => node .block fuel

/-- The first document, if there is one. -/
def firstDocument (fuel : Nat) : Parse (Option Node) := do
  let explicit ←
    match ← peek with
    | .version _ => pure true
    | .tagPrefix _ _ => pure true
    | .reserved => pure true
    | .documentStart => pure true
    | .streamEnd => pure true
    | _ => pure false
  if explicit then
    if ← openDocument fuel then return some (← content fuel) else return none
  else
    modify fun state => { state with handles := standardHandles }
    return some (← node .block fuel)

/-- The only document; a second one is a fault. -/
def onlyDocument (fuel : Nat) : Parse (Option Node) := do
  match ← firstDocument fuel with
  | none => return none
  | some root =>
      match ← peek with
      | .documentEnd => drop
      | _ => pure ()
      if ← openDocument fuel then fail .document else return some root

end Node

/-- Characters that a YAML text may hold. -/
def isAllowed (c : Char) : Bool :=
  c == '\t' || c == '\n' || c == '\r' || (' ' ≤ c && c ≤ '~') || c == '\u0085' ||
    ('\u00A0' ≤ c && c.toNat ≤ 0xD7FF) || (0xE000 ≤ c.toNat && c.toNat ≤ 0xFFFD) ||
    0x10000 ≤ c.toNat

/-- Characters that are read at once. -/
def stretch : Nat := 4096

/-- How many characters are read before those from some stretch on. The first two
stretches are read together. -/
def readBefore (count : Nat) : Nat := if count ≤ 1 then 0 else count * stretch

/-- The first stretch with a character that is not allowed. -/
def badStretch? (text : Text) : Option Nat :=
  (text.findIdx? (!isAllowed ·)).map (· / stretch)

/-- How much of a text can be read, and what keeps the rest from being read: octets
after it that are no characters, or a character that is not allowed. -/
def readable (text : Text) (broken : Option Text.OctetFault) : Text × Option Fault :=
  let last := text.length / stretch
  match badStretch? text, broken with
  | none, none => (text, none)
  | none, some fault => (text.take (readBefore last), some (.octets fault))
  | some bad, none => (text.take (readBefore bad), some .character)
  | some bad, some fault =>
      if readBefore last ≤ readBefore bad then (text.take (readBefore last), some (.octets fault))
      else (text.take (readBefore bad), some .character)

/-- The value of a text, null when it holds no document. The text may be followed by
octets that are no characters. -/
def read (text : Text) (broken : Option Text.OctetFault) : Except Fault Value :=
  match readable (Text.unixLines text) broken with
  | ([], some fault) => .error fault
  | (lines, obstacle) =>
      match (Node.onlyDocument (4 * lines.length + 8)).run
          { source := TokenSource.ofText lines obstacle } with
      | .error fault => .error fault
      | .ok (none, _) => .ok .null
      | .ok (some root, _) => root.reading.value.settled

end Transclusion.Yaml

import Transclusion.Proofs.Yaml.ScalarForms
import Transclusion.Yaml.Reading

/-!
The values that documents are written as: texts, flags, and maps of them under names. The tokens
and the node that one is written as are those of its scalars in the styles that are chosen for them.
-/

namespace Transclusion.Yaml

namespace Leaf

def ofText (content : String) : Leaf := ⟨content.toList, .text, content.toList.contains '\n'⟩

def ofFlag (isSet : Bool) : Leaf := ⟨(if isSet then "true" else "false").toList, .bool, false⟩

def token (isKey : Bool) (leaf : Leaf) : Token :=
  .scalar (leaf.settled isKey) (leaf.style isKey == .plain)

def node (isKey : Bool) (leaf : Leaf) : Node :=
  .scalar none (leaf.style isKey == .plain) (leaf.settled isKey)

end Leaf

inductive Record where
  | text (content : String)
  | flag (isSet : Bool)
  | map (entries : List (String × Record))

namespace Record

mutual

def value : Record → Value
  | .text content => .text content
  | .flag isSet => .bool isSet
  | .map entries => .map (entryValues entries)

def entryValues : List (String × Record) → List (Value × Value)
  | [] => []
  | (name, item) :: rest => (.text name, item.value) :: entryValues rest

end

mutual

def tokens : Record → List Token
  | .text content => [(Leaf.ofText content).token false]
  | .flag isSet => [(Leaf.ofFlag isSet).token false]
  | .map entries =>
      if entries.isEmpty then [.flowMappingStart, .flowMappingEnd]
      else .blockMappingStart :: (entryTokens entries ++ [.blockEnd])

def entryTokens : List (String × Record) → List Token
  | [] => []
  | (name, item) :: rest =>
      .key :: (Leaf.ofText name).token (Leaf.ofText name).isShortKey :: .value ::
        (item.tokens ++ entryTokens rest)

end

mutual

def node : Record → Node
  | .text content => (Leaf.ofText content).node false
  | .flag isSet => (Leaf.ofFlag isSet).node false
  | .map entries => .mapping none (entryNodes entries)

def entryNodes : List (String × Record) → List (Node × Node)
  | [] => []
  | (name, item) :: rest =>
      ((Leaf.ofText name).node (Leaf.ofText name).isShortKey, item.node) :: entryNodes rest

end

mutual

/-- What is read of a record where it is written. -/
def readBack : Record → Value
  | .text content => .text (String.ofList ((Leaf.ofText content).settled false))
  | .flag isSet => .bool isSet
  | .map entries => Value.ofEntries (entriesBack entries)

def entriesBack : List (String × Record) → List (Value × Value)
  | [] => []
  | (name, item) :: rest =>
      (.text (String.ofList ((Leaf.ofText name).settled (Leaf.ofText name).isShortKey)), item.readBack) ::
        entriesBack rest

end

section Reading

open Node

theorem kind?_text (content : String) (isKey : Bool) :
    kind? none ((Leaf.ofText content).style isKey == .plain) ((Leaf.ofText content).settled isKey) =
      some .text := by
  cases chosen : (Leaf.ofText content).style isKey == .plain with
  | false => rfl
  | true =>
    rw [beq_iff_eq] at chosen
    have isText : Scalar.kindOf (Leaf.ofText content).text = .text := by
      rw [Leaf.style] at chosen
      split at chosen
      · next plain =>
        simp only [Bool.and_eq_true, beq_iff_eq] at plain
        exact plain.1.1.2
      · split at chosen
        · cases chosen
        · split at chosen <;> cases chosen
    rw [Leaf.settled, chosen]
    simp [kind?, isText]

theorem reading_text (content : String) : ((Leaf.ofText content).node false).reading.value =
    .ok (.text (String.ofList ((Leaf.ofText content).settled false))) := by
  rw [Leaf.node, reading, scalarValue, kind?_text]
  rfl

theorem style_flag (isSet : Bool) : (Leaf.ofFlag isSet).style false = .plain := by
  cases isSet <;> decide +kernel

theorem reading_flag (isSet : Bool) :
    ((Leaf.ofFlag isSet).node false).reading.value = .ok (.bool isSet) := by
  rw [Leaf.node, Leaf.settled, style_flag]
  cases isSet <;> rfl

theorem keyValue_text (name : String) (isKey : Bool) : ((Leaf.ofText name).node isKey).keyValue =
    .ok (.text (String.ofList ((Leaf.ofText name).settled isKey))) := by
  rw [Leaf.node, keyValue, kind?_text]
  rfl

theorem isMergeKey_text (name : String) (isKey : Bool) :
    ((Leaf.ofText name).node isKey).isMergeKey = false := by
  rw [Leaf.node, isMergeKey, kind?_text]
  rfl

theorem all_ok {Result : Type} (results : List Result) :
    Levels.all (results.map fun result => (.ok result : Levels Result)) = .ok results := by
  induction results with
  | nil => rfl
  | cons result results ih =>
    rw [Levels.all] at ih ⊢
    rw [List.map_cons, List.foldr_cons, ih]
    rfl

mutual

theorem reading_record : ∀ record : Record, record.node.reading.value = .ok record.readBack
  | .text content => reading_text content
  | .flag isSet => reading_flag isSet
  | .map entries => by
    simp only [node, reading, entryReadings_record entries, Option.map_some, List.nil_append,
      collectionValue, mappingValue, all_ok, readBack]
    rfl

theorem entryReadings_record : ∀ entries : List (String × Record),
    entryReadings (entryNodes entries) =
      some ([], (entriesBack entries).map fun entry => (.ok entry : Levels Entry))
  | [] => rfl
  | (name, item) :: rest => by
    simp [entryNodes, entryReadings, entryReadings_record rest, isMergeKey_text, keyValue_text,
      reading_record item, entriesBack, Levels.here, Levels.both]

end

end Reading

end Record

end Transclusion.Yaml

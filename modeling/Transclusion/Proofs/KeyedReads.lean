import Transclusion.Proofs.Layering
import Transclusion.Proofs.Yaml.FaultCauses
import Transclusion.Yaml.Reading
import Transclusion.YamlFile

/-!
Maps that are read of a text. Whatever the entries that are read, and whatever a merge key takes
over, no text is twice a key of the map that they give.
-/

namespace Transclusion

namespace Value

variable {key item : Value} {name : String} {entries found : List (Value × Value)}

theorem mem_assign {entry : Value × Value} (member : entry ∈ assign key item entries) :
    entry.2 = item ∨ entry ∈ entries := by
  induction entries with
  | nil =>
    rw [assign, List.mem_singleton] at member
    exact .inl (by rw [member])
  | cons first entries ih =>
    rw [assign] at member
    split at member
    · rcases List.mem_cons.mp member with rfl | later
      · exact .inl rfl
      · exact .inr (List.mem_cons_of_mem _ later)
    · rcases List.mem_cons.mp member with rfl | later
      · exact .inr List.mem_cons_self
      · exact (ih later).imp_right (List.mem_cons_of_mem _)

theorem names_cons_cases (entry : Value × Value) (entries : List (Value × Value)) :
    names (entry :: entries) = names entries ∨
      ∃ name, entry.1 = .text name ∧ names (entry :: entries) = name :: names entries := by
  obtain ⟨key, item⟩ := entry
  cases key with
  | text name => exact .inr ⟨name, rfl, rfl⟩
  | _ => exact .inl rfl

theorem nodup_names_assign (distinct : (names entries).Nodup) :
    (names (assign key item entries)).Nodup := by
  induction entries with
  | nil =>
    rcases names_cons_cases (key, item) [] with same | ⟨name, _, same⟩
    · rw [assign, same]
      exact distinct
    · rw [assign, same]
      exact List.nodup_cons.mpr ⟨List.not_mem_nil, List.nodup_nil⟩
  | cons entry entries ih =>
    have rest : (names entries).Nodup := distinct.sublist ((List.sublist_cons_self _ _).filterMap _)
    rw [assign]
    split
    · exact distinct
    · next differs =>
      rcases names_cons_cases entry (assign key item entries) with same | ⟨name, isText, same⟩
      · rw [same]
        exact ih rest
      · -- the key that is assigned is no name of the entry before it
        have other : key ≠ .text name := by
          rintro rfl
          exact differs (sameKey_text_iff.mpr isText)
        have absent : name ∉ names entries := by
          obtain ⟨text, item⟩ := entry
          obtain rfl : text = .text name := isText
          exact (List.nodup_cons.mp distinct).1
        rw [same, List.nodup_cons, ← at?_eq_none_iff, at?_assign_of_ne other, at?_eq_none_iff]
        exact ⟨absent, ih rest⟩

theorem Keyed.assign (keyed : Keyed (.map found)) (sound : item.Keyed) :
    Keyed (.map (assign key item found)) := by
  refine .map (nodup_names_assign keyed.distinct) fun entry member => ?_
  rcases mem_assign member with rfl | old
  · exact sound
  · cases keyed with
    | single noMap => cases noMap
    | map _ items => exact items entry old

theorem keyed_ofEntries (items : ∀ entry ∈ entries, entry.2.Keyed) : (ofEntries entries).Keyed := by
  have grown : ∀ found, Keyed (.map found) →
      Keyed (.map (entries.foldl (fun found entry => Value.assign entry.1 entry.2 found) found)) := by
    induction entries with
    | nil => exact fun found keyed => keyed
    | cons entry entries ih =>
      intro found keyed
      exact ih (fun later member => items later (List.mem_cons_of_mem _ member)) _
        (keyed.assign (items entry List.mem_cons_self))
  exact grown [] (.map List.nodup_nil (List.forall_mem_nil _))

end Value

namespace Yaml

section Scalars

/-- The result, when there is one, is no map. -/
def Single (result : Except Fault Value) : Prop :=
  Meets (fun _ => True) (fun value => value.isMap = false) result

theorem Single.bind {First : Type} (first : Except Fault First) {next : First → Except Fault Value}
    (later : ∀ found, Single (next found)) : Single (first >>= next) := by
  cases first with
  | error fault => trivial
  | ok found => exact later found

theorem Single.unless {condition : Prop} [Decidable condition] {fault : Fault} {rest : Except Fault Value}
    (later : Single rest) :
    Single (if condition then (throw fault : Except Fault PUnit) >>= fun _ => rest else rest) := by
  split
  · trivial
  · exact later

theorem single_integer (content : Text) : Single (Scalar.integer content) := by
  rw [Scalar.integer]
  dsimp only
  split <;> exact .bind _ fun _ => rfl

theorem single_fraction (content : Text) : Single (Scalar.fraction content) := by
  rw [Scalar.fraction]
  split
  · rfl
  · split
    · rfl
    · split
      · exact .bind _ fun _ => rfl
      · split
        · rfl
        · trivial

theorem single_timestamp (content : Text) : Single (Scalar.timestamp content) := by
  rw [Scalar.timestamp]
  split
  · rw [Scalar.stampValue]
    split
    · exact .bind _ fun _ => rfl
    · exact .unless (.bind _ fun _ => .unless (.unless (.unless rfl)))
  · trivial

/-- What a scalar stands for is no map. -/
theorem single_value (kind : Kind) (content : Text) : Single (Scalar.value kind content) := by
  cases kind with
  | null => rfl
  | text => rfl
  | merge => trivial
  | value => trivial
  | bool =>
    rw [Scalar.value]
    split
    · rfl
    · split
      · rfl
      · trivial
  | int => exact single_integer content
  | float => exact single_fraction content
  | timestamp => exact single_timestamp content

end Scalars

section Levels

variable {First Second Result : Type}

theorem both_eq_ok {first : Levels First} {second : Levels Second} {found : First × Second} :
    first.both second = .ok found ↔ first = .ok found.1 ∧ second = .ok found.2 := by
  obtain ⟨one, other⟩ := found
  cases first with
  | ok result => cases second <;> simp [Levels.both]
  | error fault =>
    cases second with
    | ok result => simp [Levels.both]
    | error other =>
      rw [Levels.both]
      split <;> simp

theorem here_eq_ok {result : Except Fault Result} {found : Result} :
    Levels.here result = .ok found ↔ result = .ok found := by
  cases result <;> simp [Levels.here]

theorem below_eq_ok {result : Levels Result} {found : Result} :
    result.below = .ok found ↔ result = .ok found := by
  cases result <;> simp [Levels.below]

theorem mem_of_all {results : List (Levels Result)} {found : List Result} {value : Result}
    (all : Levels.all results = .ok found) (member : value ∈ found) : .ok value ∈ results := by
  induction results generalizing found with
  | nil =>
    cases all
    cases member
  | cons result results ih =>
    cases rest : result.both (Levels.all results) with
    | error fault =>
      rw [Levels.all, List.foldr_cons, ← Levels.all, rest] at all
      cases all
    | ok pair =>
      rw [Levels.all, List.foldr_cons, ← Levels.all, rest] at all
      cases all
      obtain ⟨first, later⟩ := both_eq_ok.mp rest
      rcases List.mem_cons.mp member with rfl | member
      · exact first ▸ List.mem_cons_self
      · exact List.mem_cons_of_mem _ (ih later member)

end Levels

namespace Node

/-- The items of all entries that are read have no text twice as a key of a map. -/
def ItemsKeyed (entries : List (Levels Entry)) : Prop := ∀ entry, .ok entry ∈ entries → entry.2.Keyed

theorem ItemsKeyed.append {first second : List (Levels Entry)} (one : ItemsKeyed first)
    (other : ItemsKeyed second) : ItemsKeyed (first ++ second) := by
  intro entry member
  rcases List.mem_append.mp member with inFirst | inSecond
  · exact one entry inFirst
  · exact other entry inSecond

structure Reading.Keyed (reading : Reading) : Prop where
  value : ∀ value, reading.value = .ok value → value.Keyed
  own : ∀ entries, reading.own = some entries → ItemsKeyed entries
  offered : ∀ entries, reading.offered = some entries → ItemsKeyed entries

theorem keyed_scalarValue {tag : Option Text} {open_ : Bool} {content : Text} {value : Value}
    (found : scalarValue tag open_ content = .ok value) : value.Keyed := by
  rw [scalarValue] at found
  split at found
  · next kind _ =>
    have single := single_value kind content
    rw [here_eq_ok.mp found] at single
    exact .single single
  · cases found

theorem keyed_collectionValue {name : String} {tag : Option Text} {content : Levels Value} {value : Value}
    (sound : ∀ value, content = .ok value → value.Keyed)
    (found : collectionValue name tag content = .ok value) : value.Keyed := by
  cases tag with
  | none => exact sound value (below_eq_ok.mp found)
  | some tag =>
    rw [collectionValue] at found
    split at found
    · exact sound value (below_eq_ok.mp found)
    · cases found

theorem itemsKeyed_offeredBy {items : List Reading} (all : ∀ item ∈ items, item.Keyed)
    {entries : List (Levels Entry)} (offered : offeredBy items = some entries) : ItemsKeyed entries := by
  intro entry member
  obtain ⟨item, listed, own, isOwn, inside⟩ := exists_of_mem_offeredBy offered member
  exact (all item listed).own own isOwn entry inside

mutual

theorem keyed_reading : ∀ node : Node, (reading node).Keyed
  | .scalar tag open_ content => by
    rw [reading]
    exact ⟨fun _ => keyed_scalarValue, by simp, by simp⟩
  | .sequence tag items => by
    rw [reading]
    refine ⟨fun value found => ?_, by simp, fun entries offered => ?_⟩
    · refine keyed_collectionValue (fun value found => ?_) found
      cases read : Levels.all ((itemReadings items).map (·.value)) with
      | error fault =>
        rw [read] at found
        cases found
      | ok values =>
        rw [read] at found
        cases found
        exact .single rfl
    · exact itemsKeyed_offeredBy (keyed_itemReadings items) offered
  | .mapping tag entries => by
    have own : ∀ found, (entryReadings entries).map (fun (taken, own) => taken ++ own) = some found →
        ItemsKeyed found := by
      intro found read
      obtain ⟨parts, inside, rfl⟩ := Option.map_eq_some_iff.mp read
      obtain ⟨taken, mine⟩ := keyed_entryReadings entries parts inside
      exact taken.append mine
    rw [reading]
    refine ⟨fun value found => ?_, own, own⟩
    refine keyed_collectionValue (fun value found => ?_) found
    cases read : (entryReadings entries).map fun (taken, own) => taken ++ own with
    | none =>
      rw [read] at found
      cases found
    | some readings =>
      rw [read, mappingValue] at found
      cases values : Levels.all readings with
      | error fault =>
        rw [values] at found
        cases found
      | ok values' =>
        rw [values] at found
        cases found
        exact Value.keyed_ofEntries fun entry member => own readings read entry (mem_of_all values member)

theorem keyed_itemReadings : ∀ items : List Node, ∀ found ∈ itemReadings items, found.Keyed
  | [] => by simp [itemReadings]
  | item :: rest => by
    intro found member
    rw [itemReadings] at member
    rcases List.mem_cons.mp member with rfl | member
    · exact keyed_reading item
    · exact keyed_itemReadings rest found member

theorem keyed_entryReadings : ∀ (entries : List (Node × Node)) (found),
    entryReadings entries = some found → ItemsKeyed found.1 ∧ ItemsKeyed found.2
  | [] => by
    rintro found ⟨⟩
    constructor <;> exact fun _ member => (List.not_mem_nil member).elim
  | (key, item) :: rest => by
    intro found read
    have keyed := keyed_reading item
    rw [entryReadings] at read
    obtain ⟨parts, later, read⟩ := Option.bind_eq_some_iff.mp read
    obtain ⟨taken, own⟩ := keyed_entryReadings rest parts later
    dsimp only at read
    split at read
    · obtain ⟨more, offered, read⟩ := Option.bind_eq_some_iff.mp read
      cases read
      exact ⟨(keyed.offered more offered).append taken, own⟩
    · cases read
      refine ⟨taken, fun entry member => ?_⟩
      rcases List.mem_cons.mp member with mine | old
      · exact keyed.value entry.2 (both_eq_ok.mp mine.symm).2
      · exact own entry old

end

end Node

variable {text : Text} {broken : Option Text.OctetFault} {value : Value}

end Yaml

variable {files : FileTree} {path : Path} {absent value : Value}

end Transclusion

import Transclusion.Proofs.Outcomes
import Transclusion.Template.Evaluation

/-!
Items that can be written. An item is plain when no number in it is too long to be written; the
rounds and the spans of loops are left out, since numbers of any size come of them. What is taken
from plain items is plain, or it has no value, and taking it fails only for want of a value.
-/

namespace Transclusion.Template

/-- Faults that are the template's own. -/
abbrev Own (fault : Fault) : Prop := fault.isOfTemplate = true

namespace Item

mutual

/-- Whether an item can be written, with all that can be taken from it. -/
def isPlain : Item → Bool
  | .scalar value => value.hasText
  | .list items => arePlain items
  | .tuple items => arePlain items
  | .map entries => entriesArePlain entries
  | .span _ _ _ => false
  | .round _ _ => false
  | _ => true

def arePlain : List Item → Bool
  | [] => true
  | item :: rest => isPlain item && arePlain rest

def entriesArePlain : List (Item × Item) → Bool
  | [] => true
  | (key, item) :: rest => isPlain key && isPlain item && entriesArePlain rest

end

variable {item owner index : Item} {items : List Item} {entries : List (Item × Item)} {name : String}

theorem arePlain_iff : arePlain items = true ↔ ∀ item ∈ items, item.isPlain = true := by
  induction items with
  | nil => simp [arePlain]
  | cons item items ih => simp [arePlain, ih]

theorem entriesArePlain_iff : entriesArePlain entries = true ↔
    ∀ entry ∈ entries, entry.1.isPlain = true ∧ entry.2.isPlain = true := by
  induction entries with
  | nil => simp [entriesArePlain]
  | cons entry entries ih =>
    obtain ⟨key, item⟩ := entry
    simp [entriesArePlain, ih]

@[simp] theorem isPlain_ofText (text : Text) : (ofText text).isPlain = true := rfl

@[simp] theorem isPlain_ofBool (truth : Bool) : (ofBool truth).isPlain = true := rfl

@[simp] theorem isPlain_missing (what : Missing) : (missing what).isPlain = true := rfl

mutual

/-- Data is plain when it can be written. -/
theorem isPlain_ofValue : ∀ value : Value, (ofValue value).isPlain = value.hasText
  | .list items => by rw [ofValue, isPlain, Value.hasText, arePlain_ofValues items]
  | .map entries => by rw [ofValue, isPlain, Value.hasText, entriesArePlain_ofEntries entries]
  | .null => rfl
  | .bool _ => rfl
  | .int _ => rfl
  | .float _ => rfl
  | .text _ => rfl
  | .date _ => rfl
  | .moment _ => rfl

theorem arePlain_ofValues : ∀ values : List Value,
    arePlain (ofValues values) = Value.itemsHaveText values
  | [] => rfl
  | value :: rest => by
    rw [ofValues, arePlain, Value.itemsHaveText, isPlain_ofValue value, arePlain_ofValues rest]

theorem entriesArePlain_ofEntries : ∀ entries : List (Value × Value),
    entriesArePlain (ofEntries entries) = Value.entriesHaveText entries
  | [] => rfl
  | (key, value) :: rest => by
    rw [ofEntries, entriesArePlain, Value.entriesHaveText, isPlain_ofValue key,
      isPlain_ofValue value, entriesArePlain_ofEntries rest]

end

mutual

theorem hasText_of_isPlain : ∀ item : Item, item.isPlain = true → item.hasText = true
  | .scalar _, plain => plain
  | .list items, plain => itemsHaveText_of_arePlain items plain
  | .tuple items, plain => itemsHaveText_of_arePlain items plain
  | .map entries, plain => entriesHaveText_of_arePlain entries plain
  | .span _ _ _, _ => rfl
  | .missing _, _ => rfl
  | .operation _ _, _ => rfl
  | .formatter, _ => rfl
  | .counter, _ => rfl
  | .round _ _, _ => rfl

theorem itemsHaveText_of_arePlain : ∀ items : List Item, arePlain items = true →
    itemsHaveText items = true
  | [], _ => rfl
  | item :: rest, plain => by
    rw [arePlain, Bool.and_eq_true] at plain
    rw [itemsHaveText, hasText_of_isPlain item plain.1, itemsHaveText_of_arePlain rest plain.2]
    rfl

theorem entriesHaveText_of_arePlain : ∀ entries : List (Item × Item), entriesArePlain entries = true →
    entriesHaveText entries = true
  | [], _ => rfl
  | (key, item) :: rest, plain => by
    rw [entriesArePlain, Bool.and_eq_true, Bool.and_eq_true] at plain
    rw [entriesHaveText, hasText_of_isPlain key plain.1.1, hasText_of_isPlain item plain.1.2,
      entriesHaveText_of_arePlain rest plain.2]
    rfl

end

/-- A plain item is printed, unless it has no value. -/
theorem meets_printed (plain : item.isPlain = true) : Meets Own (fun _ => True) item.printed := by
  have writable := hasText_of_isPlain item plain
  cases item with
  | missing what => exact rfl
  | scalar value =>
    cases value with
    | text content => trivial
    | _ =>
      rw [printed]
      · rw [hasText] at writable
        rw [if_pos writable]
        trivial
      · simp
  | _ =>
    rw [printed]
    · rw [if_pos writable]
      trivial
    all_goals simp

theorem meets_isTrue (item : Item) : Meets Own (fun _ => True) item.isTrue := by
  cases item <;> first | rfl | trivial

theorem meets_settled (item : Item) : Meets Own (fun settled => settled = item ∧
    ∀ what, item ≠ .missing what) item.settled := by
  cases item with
  | missing what => exact rfl
  | _ => exact ⟨rfl, by simp⟩

mutual

/-- Comparing fails only for want of a value. -/
theorem meets_same : ∀ first second : Item, Meets Own (fun _ => True) (same first second)
  | .list first, second => by
    cases second with
    | list second =>
      rw [same]
      split
      · exact meets_sameItems first second
      · trivial
    | missing what => exact rfl
    | _ => trivial
  | .tuple first, second => by
    cases second with
    | tuple second =>
      rw [same]
      split
      · exact meets_sameItems first second
      · trivial
    | missing what => exact rfl
    | _ => trivial
  | .map first, second => by
    cases second with
    | map second =>
      rw [same]
      split
      · exact meets_sameEntries first second
      · trivial
    | missing what => exact rfl
    | _ => trivial
  | .missing what, second => by cases second <;> exact rfl
  | .scalar _, second => by cases second <;> first | exact rfl | trivial
  | .span _ _ _, second => by cases second <;> first | exact rfl | trivial
  | .operation _ _, second => by cases second <;> first | exact rfl | trivial
  | .formatter, second => by cases second <;> first | exact rfl | trivial
  | .counter, second => by cases second <;> first | exact rfl | trivial
  | .round _ _, second => by cases second <;> first | exact rfl | trivial

theorem meets_sameItems : ∀ first second : List Item, Meets Own (fun _ => True) (sameItems first second)
  | [], second => by cases second <;> trivial
  | _ :: _, [] => trivial
  | first :: rest, second :: others => by
    rw [sameItems]
    refine (meets_same first second).bind fun equal _ => ?_
    split
    · exact meets_sameItems rest others
    · trivial

theorem meets_sameEntries : ∀ first second : List (Item × Item),
    Meets Own (fun _ => True) (sameEntries first second)
  | [], _ => trivial
  | (key, item) :: rest, others => by
    rw [sameEntries]
    split
    · trivial
    · next other found =>
      refine (meets_same item other).bind fun equal _ => ?_
      split
      · exact meets_sameEntries rest others
      · trivial

end

theorem plain_of_elements? {found : List Item} (plain : item.isPlain = true)
    (elements : item.elements? = some found) : ∀ element ∈ found, element.isPlain = true := by
  cases item with
  | scalar value =>
    cases value with
    | text content =>
      cases elements
      simp
    | _ => cases elements
  | list items =>
    cases elements
    exact arePlain_iff.mp plain
  | tuple items =>
    cases elements
    exact arePlain_iff.mp plain
  | map entries =>
    cases elements
    intro key member
    obtain ⟨entry, among, rfl⟩ := List.mem_map.mp member
    exact (entriesArePlain_iff.mp plain entry among).1
  | span _ _ _ => cases plain
  | round _ _ => cases elements
  | _ => cases elements

/-- What is iterated over, or has no value, has plain elements. -/
theorem meets_elements (plain : item.isPlain = true)
    (iterable : (∃ what, item = .missing what) ∨ item.elements?.isSome = true) :
    Meets Own (fun found => ∀ element ∈ found, element.isPlain = true) item.elements := by
  refine (meets_settled item).bind ?_
  rintro _ ⟨rfl, valued⟩
  rcases iterable with ⟨what, missing⟩ | iterable
  · exact absurd missing (valued what)
  · split
    · next found elements => exact plain_of_elements? plain elements
    · next none => simp [none] at iterable

theorem plain_of_at? {key : Item} (plain : entriesArePlain entries = true)
    (found : at? entries key = some item) : item.isPlain = true := by
  rw [at?, Option.map_eq_some_iff] at found
  obtain ⟨entry, there, rfl⟩ := found
  exact (entriesArePlain_iff.mp plain entry (List.mem_of_find?_eq_some there)).2

theorem plain_of_member? (plain : owner.isPlain = true) (found : member? owner name = some item) :
    item.isPlain = true := by
  unfold member? at found
  split at found
  · split at found
    · cases found
      rfl
    · cases found
  · split at found
    · cases found
      rfl
    · cases found
  · cases plain
  · cases found

theorem plain_getD {found : Option Item} (plain : ∀ item, found = some item → item.isPlain = true)
    (what : Missing) : (found.getD (.missing what)).isPlain = true := by
  cases found with
  | none => rfl
  | some item => exact plain item rfl

/-- A part of a plain item is plain, or it has no value. -/
theorem meets_partOf (plain : owner.isPlain = true) :
    Meets Own (fun part => part.isPlain = true) (partOf owner name) := by
  refine (meets_settled owner).bind ?_
  rintro _ ⟨rfl, _⟩
  split
  · next part found => exact plain_of_member? plain found
  · exact plain_getD (fun _ found => plain_of_at? plain found) _
  · rfl

theorem meets_entryOf (key : Item) (plain : owner.isPlain = true)
    (entriesPlain : entriesArePlain entries = true) :
    Meets Own (fun part => part.isPlain = true) (entryOf owner entries key) := by
  unfold entryOf
  split
  · rfl
  · rfl
  · next found => exact plain_of_at? entriesPlain found
  · exact plain_getD (fun _ found => plain_of_member? plain found) _
  · rfl

/-- An item of a plain item is plain, or it has no value. -/
theorem meets_itemOf (index : Item) (plain : owner.isPlain = true) :
    Meets Own (fun part => part.isPlain = true) (itemOf owner index) := by
  refine (meets_settled owner).bind ?_
  rintro _ ⟨rfl, _⟩
  split
  · exact meets_entryOf index plain plain
  · exact plain_getD (fun _ found => plain_of_member? plain found) _
  · split
    · next items number elements whole =>
      refine plain_getD (fun item found => ?_) _
      obtain ⟨place, _, there⟩ := Option.bind_eq_some_iff.mp found
      split at elements
      · exact plain_of_elements? plain elements item (List.mem_of_getElem? there)
      · cases elements
    · rfl

end Item

end Transclusion.Template

import Transclusion.Merge
import Transclusion.Settings.Layers

/-!
What stands at a path of keys after one map was laid over another, or after a value was written at
some path. A text names one entry of a map at most, in the maps that are laid over others.
-/

namespace Transclusion

namespace Value

variable {key item : Value} {name : String} {base upper entries : List (Value × Value)}

theorem sameKey_text_iff : sameKey key (.text name) = true ↔ key = .text name := by
  cases key with
  | float bits =>
    simp only [sameKey, keyNumber?]
    cases Binary64.form bits <;> simp
  | _ => simp [sameKey, keyNumber?]

theorem sameKey_of_text_iff : sameKey (.text name) key = true ↔ key = .text name := by
  cases key with
  | text content => rw [sameKey_text_iff, eq_comm]
  | float bits =>
    simp only [sameKey, keyNumber?]
    cases Binary64.form bits <;> simp
  | _ => simp [sameKey, keyNumber?]

theorem at?_cons (entry : Value × Value) (entries : List (Value × Value)) (name : String) :
    at? (entry :: entries) name =
      if sameKey entry.1 (.text name) then some entry.2 else at? entries name := by
  rw [at?, at?, List.find?_cons]
  split <;> simp [*]

theorem at?_assign_of_ne (other : key ≠ .text name) :
    at? (assign key item entries) name = at? entries name := by
  induction entries with
  | nil => rw [assign, at?_cons, if_neg (mt sameKey_text_iff.mp other)]
  | cons entry entries ih =>
    rw [assign]
    split
    · next same =>
      -- an entry whose key is the name is not under another key
      have elsewhere : ¬ sameKey entry.1 (.text name) = true := by
        intro named
        rw [sameKey_text_iff.mp named, sameKey_of_text_iff] at same
        exact other same
      rw [at?_cons, at?_cons, if_neg elsewhere, if_neg elsewhere]
    · rw [at?_cons, at?_cons, ih]

/-- The texts that are keys. -/
def names (entries : List (Value × Value)) : List String := entries.filterMap (·.1.text?)

theorem names_cons_text (item : Value) (entries : List (Value × Value)) (name : String) :
    names ((.text name, item) :: entries) = name :: names entries := rfl

theorem at?_eq_none_iff : at? entries name = none ↔ name ∉ names entries := by
  induction entries with
  | nil => simp [at?, names]
  | cons entry entries ih =>
    obtain ⟨key, item⟩ := entry
    rw [at?_cons]
    cases key with
    | text content =>
      by_cases same : content = name
      · simp [same, names_cons_text, sameKey_text_iff]
      · simp [same, names_cons_text, sameKey_text_iff, ih, Ne.symm same]
    | _ => simpa [names, sameKey_text_iff, text?] using ih

/-- No map in a value has a text twice as a key. -/
inductive Keyed : Value → Prop where
  | single {value : Value} (noMap : value.isMap = false) : Keyed value
  | map {entries : List (Value × Value)} (distinct : (names entries).Nodup)
      (items : ∀ entry ∈ entries, Keyed entry.2) : Keyed (.map entries)

theorem Keyed.distinct (keyed : Keyed (.map entries)) : (names entries).Nodup := by
  cases keyed with
  | single noMap => cases noMap
  | map distinct => exact distinct

theorem Keyed.at? (keyed : Keyed (.map entries)) (found : at? entries name = some item) : item.Keyed := by
  obtain ⟨entry, first, rfl⟩ := Option.map_eq_some_iff.mp found
  cases keyed with
  | single noMap => cases noMap
  | map _ items => exact items entry (List.mem_of_find?_eq_some first)

end Value

namespace Settings

variable {value item base upper : Value} {present : Option Value} {path other : List String}
  {entries : List (Value × Value)} {key : String}

/-- A value that is no map stands in the way of a path. -/
def Cut (value : Value) (path : List String) : Prop :=
  ∃ front item, front <+: path ∧ front ≠ path ∧ follow value front = some item ∧ item.isMap = false

/-- Neither path goes on from the other. -/
def Apart (first second : List String) : Prop := ¬ first <+: second ∧ ¬ second <+: first

theorem Apart.tail (apart : Apart (key :: path) (key :: other)) : Apart path other :=
  ⟨fun within => apart.1 (List.cons_prefix_cons.mpr ⟨rfl, within⟩),
    fun within => apart.2 (List.cons_prefix_cons.mpr ⟨rfl, within⟩)⟩

end Settings

end Transclusion

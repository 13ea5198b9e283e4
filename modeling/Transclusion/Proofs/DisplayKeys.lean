import Transclusion.Proofs.Entries
import Transclusion.Proofs.InsertionPolicy

/-!
The views of a block map. Its keys, its dictionary and reading by a key all go by display keys,
and a display key tells less than the key a block is kept under: a single-value name that ends with
the separator spells the display key of a multi-value block. Reading takes the single-value block
then, with names folded, and the dictionary the block that came last, with names as they are. So the
views agree only where such a pair of blocks differs in spelling and has one content.
-/

namespace Transclusion.BlockMap

variable {map : BlockMap} {block other : Block} {name : Text} {multi : Bool}

/-- Keys, dictionary and reading by a key say the same of a map. -/
structure ViewsAgree (map : BlockMap) : Prop where
  once : map.keys.Nodup
  size : map.toDictionary.length = map.size
  reads : ∀ key ∈ map.keys, map.contains key = true ∧ map.get? key = map.toDictionary.lookup key

instance : DecidablePred ViewsAgree := fun map =>
  decidable_of_iff (map.keys.Nodup ∧ map.toDictionary.length = map.size ∧
      ∀ key ∈ map.keys, map.contains key = true ∧ map.get? key = map.toDictionary.lookup key)
    ⟨fun ⟨once, size, reads⟩ => ⟨once, size, reads⟩, fun agree => ⟨agree.once, agree.size, agree.reads⟩⟩

/-- The display key of the multi-value block names the single-value one. -/
def Hides (split : Text) (single multiple : Block) : Prop :=
  single.multi = false ∧ multiple.multi = true ∧
    Text.fold single.name = Text.fold (multiple.name ++ split)

section Dictionary

theorem assign_eq_put (key content : Text) (entries : List (Text × Text)) :
    assign key content entries = Entries.put key content entries := by
  induction entries with
  | nil => rfl
  | cons entry entries ih =>
    by_cases same : entry.1 = key
    · simp [assign, Entries.put, same]
    · simp [assign, Entries.put, same, ih]

theorem toDictionary_eq_collect (map : BlockMap) :
    map.toDictionary = Entries.collect map.displayKey (·.content) map.blocks [] := by
  simp only [toDictionary, items, List.foldl_map, assign_eq_put]
  rfl

theorem toDictionary_of_nodup (once : map.keys.Nodup) : map.toDictionary = map.items := by
  rw [toDictionary_eq_collect]
  exact Entries.foldl_put_nil map.displayKey (·.content) once

theorem length_toDictionary (once : map.keys.Nodup) : map.toDictionary.length = map.size := by
  rw [toDictionary_of_nodup once, items, List.length_map, size]

theorem lookup_toDictionary (once : map.keys.Nodup) (member : block ∈ map.blocks) :
    map.toDictionary.lookup (map.displayKey block) = some block.content := by
  have keys : (map.items.map (·.1)).Nodup := by
    rw [items, List.map_map]
    exact once
  rw [toDictionary_of_nodup once]
  exact Entries.lookup_of_mem keys (List.mem_map_of_mem member)

end Dictionary

section Reads

variable (distinct : (map.blocks.map fun block => (Text.fold block.name, block.multi)).Nodup)

include distinct

theorem eq_of_answers (member : block ∈ map.blocks) (inside : other ∈ map.blocks)
    (answers : block.answers other.name other.multi = true) : block = other := by
  have same := Block.answers_iff.mp answers
  exact List.inj_on_of_nodup_map distinct member inside (Prod.ext same.1 same.2)

theorem find?_eq_some_iff :
    map.find? name multi = some block ↔ block ∈ map.blocks ∧ block.answers name multi = true := by
  constructor
  · intro found
    rw [find?] at found
    exact ⟨List.mem_of_find?_eq_some found, by simpa using List.find?_some found⟩
  · rintro ⟨member, answers⟩
    rw [find?]
    cases found : map.blocks.find? fun other => other.answers name multi with
    | none => exact absurd answers (List.find?_eq_none.mp found block member)
    | some first =>
      have stored := List.mem_of_find?_eq_some found
      have named : first.answers name multi = true := by simpa using List.find?_some found
      have same : block.answers first.name first.multi = true := by
        have equal := Block.answers_iff.mp named
        rw [Block.answers_iff] at answers ⊢
        exact ⟨answers.1.trans equal.1.symm, answers.2.trans equal.2.symm⟩
      rw [eq_of_answers distinct member stored same]

theorem findKey?_single (member : block ∈ map.blocks) (single : block.multi = false) :
    map.findKey? (map.displayKey block) = some block := by
  have found : map.find? block.name false = some block :=
    (find?_eq_some_iff distinct).mpr ⟨member, single ▸ Block.answers_self block⟩
  simp [findKey?, displayKey, single, found]

-- The single-value block goes first where there is one.
theorem findKey?_multi (present : map.split ≠ []) (member : block ∈ map.blocks)
    (multiple : block.multi = true) :
    map.findKey? (map.displayKey block) =
      (map.find? (block.name ++ map.split) false).or (some block) := by
  have found : map.find? block.name true = some block :=
    (find?_eq_some_iff distinct).mpr ⟨member, multiple ▸ Block.answers_self block⟩
  have ends : map.split.isSuffixOf (block.name ++ map.split) = true :=
    List.isSuffixOf_iff_suffix.mpr (List.suffix_append _ _)
  simp [findKey?, displayKey, multiple, present, ends, found]

-- A hidden block is read as the one that hides it.
theorem get?_of_hides (present : map.split ≠ []) (stored : block ∈ map.blocks)
    (inside : other ∈ map.blocks) (hides : Hides map.split block other) :
    map.get? (map.displayKey other) = some block.content := by
  have found : map.find? (other.name ++ map.split) false = some block :=
    (find?_eq_some_iff distinct).mpr ⟨stored, Block.answers_iff.mpr ⟨hides.2.2, hides.1⟩⟩
  rw [get?, findKey?_multi distinct present inside hides.2.1, found]
  rfl

theorem get?_displayKey (present : map.split ≠ []) (member : block ∈ map.blocks)
    (alike : ∀ single ∈ map.blocks, Hides map.split single block → single.content = block.content) :
    map.get? (map.displayKey block) = some block.content := by
  cases kind : block.multi with
  | false => rw [get?, findKey?_single distinct member kind, Option.map_some]
  | true =>
    cases found : map.find? (block.name ++ map.split) false with
    | none =>
      rw [get?, findKey?_multi distinct present member kind, found]
      rfl
    | some single =>
      obtain ⟨stored, answers⟩ := (find?_eq_some_iff distinct).mp found
      obtain ⟨named, alone⟩ := Block.answers_iff.mp answers
      have hides : Hides map.split single block := ⟨alone, kind, named⟩
      rw [get?_of_hides distinct present stored member hides, alike single stored hides]

-- Two blocks have one display key where one is hidden in the very spelling of the other.
theorem nodup_keys (apart : ∀ single ∈ map.blocks, ∀ multiple ∈ map.blocks,
    Hides map.split single multiple → single.name ≠ multiple.name ++ map.split) :
    map.keys.Nodup := by
  apply (List.nodup_map_iff_inj_on (List.Nodup.of_map _ distinct)).mpr
  intro first stored second inside same
  have alike : first.multi = second.multi → first.name = second.name → first = second := by
    intro kind name
    exact eq_of_answers distinct stored inside (Block.answers_iff.mpr ⟨by rw [name], kind⟩)
  cases one : first.multi with
  | false =>
    cases two : second.multi with
    | false =>
      simp only [displayKey, one, two] at same
      exact alike (one.trans two.symm) same
    | true =>
      simp only [displayKey, one, two] at same
      exact absurd same (apart first stored second inside ⟨one, two, congrArg Text.fold same⟩)
  | true =>
    cases two : second.multi with
    | false =>
      simp only [displayKey, one, two] at same
      exact absurd same.symm
        (apart second inside first stored ⟨two, one, congrArg Text.fold same.symm⟩)
    | true =>
      simp only [displayKey, one, two] at same
      exact alike (one.trans two.symm) (List.append_cancel_right same)

theorem viewsAgree_of_distinct (present : map.split ≠ []) :
    map.ViewsAgree ↔ ∀ single ∈ map.blocks, ∀ multiple ∈ map.blocks,
      Hides map.split single multiple →
        single.name ≠ multiple.name ++ map.split ∧ single.content = multiple.content := by
  constructor
  · intro agree single stored multiple inside hides
    constructor
    · intro same
      -- the two blocks have one display key, which comes once
      have keys : map.displayKey single = map.displayKey multiple := by
        simp [displayKey, hides.1, hides.2.1, same]
      have equal : single = multiple := List.inj_on_of_nodup_map agree.once stored inside keys
      have kinds := hides.1.symm.trans ((congrArg Block.multi equal).trans hides.2.1)
      cases kinds
    · have reads := (agree.reads _ (List.mem_map_of_mem inside)).2
      rw [lookup_toDictionary agree.once inside,
        get?_of_hides distinct present stored inside hides] at reads
      exact Option.some.inj reads
  · intro calm
    have once : map.keys.Nodup := by
      apply nodup_keys distinct
      intro single stored multiple inside hides
      exact (calm single stored multiple inside hides).1
    constructor
    · exact once
    · exact length_toDictionary once
    · intro key member
      obtain ⟨block, stored, rfl⟩ := List.mem_map.mp member
      have read : map.get? (map.displayKey block) = some block.content := by
        apply get?_displayKey distinct present stored
        intro single first hides
        exact (calm single first block stored hides).2
      constructor
      · have held := congrArg Option.isSome read
        rw [get?, Option.isSome_map] at held
        exact held
      · rw [read, lookup_toDictionary once stored]

end Reads

/-- The views of a map agree after any calls that add to it exactly where no display key of a
multi-value block is a single-value name, unless the two are spelled apart and hold the same. -/
theorem viewsAgree_iff (history : List Block) :
    let map := addAll {} history
    map.ViewsAgree ↔ ∀ single ∈ map.blocks, ∀ multiple ∈ map.blocks,
      Hides ['_'] single multiple →
        single.name ≠ multiple.name ++ ['_'] ∧ single.content = multiple.content := by
  intro map
  have split : map.split = ['_'] := split_addAll {} history
  have distinct := @nodup_addAll {} history List.nodup_nil
  have present : map.split ≠ [] := by simp [split]
  rw [viewsAgree_of_distinct distinct present, split]

-- Spelled alike, the two blocks have one key between them; spelled apart, reading takes the one
-- and the dictionary the other.
theorem views_part :
    let multiple : Block := ⟨"a".toList, true, "multi".toList⟩
    let alike := addAll {} [⟨"a_".toList, false, "single".toList⟩, multiple]
    let folded := addAll {} [⟨"A_".toList, false, "single".toList⟩, multiple]
    ¬ alike.keys.Nodup ∧ alike.toDictionary.length < alike.size ∧
      alike.get? "a_".toList ≠ alike.toDictionary.lookup "a_".toList ∧ ¬ alike.ViewsAgree ∧
      folded.get? "a_".toList ≠ folded.toDictionary.lookup "a_".toList ∧ ¬ folded.ViewsAgree := by
  decide +kernel

end Transclusion.BlockMap

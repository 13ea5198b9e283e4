import Mathlib.Data.List.Nodup
import Transclusion.Entries

/-!
What writing entries under their keys keeps: the keys stay apart, the other entries stay as they
are, and entries of distinct keys come one behind the other.
-/

namespace Transclusion.Entries

variable {Key Item Other Source : Type} [BEq Key]

section Put

theorem mem_put {key : Key} {item : Item} {entries : List (Key × Item)} {entry : Key × Item}
    (member : entry ∈ put key item entries) : entry.2 = item ∨ entry ∈ entries := by
  induction entries with
  | nil => simp_all [put]
  | cons first entries ih =>
    simp only [put] at member
    split at member
    · rcases List.mem_cons.mp member with rfl | later
      · exact Or.inl rfl
      · exact Or.inr (by simp [later])
    · rcases List.mem_cons.mp member with rfl | later
      · exact Or.inr (by simp)
      · exact (ih later).imp id fun inside => by simp [inside]

theorem exists_mem_put (key : Key) (item : Item) (entries : List (Key × Item)) :
    ∃ entry ∈ put key item entries, entry.2 = item := by
  induction entries with
  | nil => exact ⟨(key, item), by simp [put], rfl⟩
  | cons first entries ih =>
    simp only [put]
    split
    · exact ⟨(first.1, item), by simp, rfl⟩
    · obtain ⟨entry, member, same⟩ := ih
      exact ⟨entry, by simp [member], same⟩

theorem length_put_le (key : Key) (item : Item) (entries : List (Key × Item)) :
    (put key item entries).length ≤ entries.length + 1 := by
  induction entries with
  | nil => exact Nat.le_refl _
  | cons entry entries ih =>
    rw [put]
    split
    · exact Nat.le_succ _
    · exact Nat.succ_le_succ ih

theorem put_of_length {key : Key} {item : Item} {entries : List (Key × Item)}
    (grown : (put key item entries).length = entries.length + 1) :
    put key item entries = entries ++ [(key, item)] := by
  induction entries with
  | nil => rfl
  | cons entry entries ih =>
    rw [put] at grown ⊢
    split at grown
    · simp at grown
    · next differs => rw [if_neg differs, ih (Nat.succ.inj grown), List.cons_append]

theorem map_put (change : Item → Other) (key : Key) (item : Item) (entries : List (Key × Item)) :
    (put key item entries).map (fun entry => (entry.1, change entry.2)) =
      put key (change item) (entries.map fun entry => (entry.1, change entry.2)) := by
  induction entries with
  | nil => rfl
  | cons entry entries ih =>
    simp only [put, List.map_cons]
    split <;> simp [ih]

section Lawful

variable [LawfulBEq Key]

theorem lookup_put (key : Key) (item : Item) (entries : List (Key × Item))
    (wanted : Key) :
    (put key item entries).lookup wanted =
      if wanted == key then some item else entries.lookup wanted := by
  induction entries with
  | nil =>
    cases here : wanted == key with
    | true => simp [put, List.lookup_cons, here]
    | false => simp [put, List.lookup_cons, here]
  | cons entry entries ih =>
    obtain ⟨first, old⟩ := entry
    by_cases same : first == key
    · have equal := beq_iff_eq.mp same
      subst equal
      cases here : wanted == first with
      | true => simp [put, List.lookup_cons, here]
      | false => simp [put, List.lookup_cons, here]
    · cases here : wanted == first with
      | true =>
        have equal := beq_iff_eq.mp here
        subst equal
        simp [put, same]
      | false => simp [put, List.lookup_cons, same, here, ih]

theorem mem_keys_put {key wanted : Key} {item : Item} {entries : List (Key × Item)} :
    wanted ∈ (put key item entries).map (·.1) ↔ wanted = key ∨ wanted ∈ entries.map (·.1) := by
  induction entries with
  | nil => simp [put]
  | cons entry entries ih =>
    simp only [put]
    split
    · next same =>
      simp only [List.map_cons, List.mem_cons, eq_of_beq same, or_self_left]
    · simp only [List.map_cons, List.mem_cons, ih]
      exact or_left_comm

theorem nodup_put {key : Key} {item : Item} {entries : List (Key × Item)}
    (distinct : (entries.map (·.1)).Nodup) : ((put key item entries).map (·.1)).Nodup := by
  induction entries with
  | nil => simp [put]
  | cons entry entries ih =>
    obtain ⟨fresh, rest⟩ := List.nodup_cons.mp distinct
    simp only [put]
    split
    · exact List.nodup_cons.mpr ⟨fresh, rest⟩
    · next differs =>
      refine List.nodup_cons.mpr ⟨fun member => ?_, ih rest⟩
      rcases mem_keys_put.mp member with same | old
      · exact differs (beq_iff_eq.mpr same)
      · exact fresh old

theorem put_of_not_mem {key : Key} {item : Item} {entries : List (Key × Item)}
    (fresh : key ∉ entries.map (·.1)) : put key item entries = entries ++ [(key, item)] := by
  induction entries with
  | nil => rfl
  | cons entry entries ih =>
    simp only [List.map_cons, List.mem_cons, not_or] at fresh
    rw [put, if_neg fun same => fresh.1 (eq_of_beq same).symm, ih fresh.2, List.cons_append]

/-- Entries of distinct keys are found under them. -/
theorem lookup_of_mem {key : Key} {item : Item} {entries : List (Key × Item)}
    (distinct : (entries.map (·.1)).Nodup) (member : (key, item) ∈ entries) :
    entries.lookup key = some item := by
  induction entries with
  | nil => cases member
  | cons entry entries ih =>
    obtain ⟨fresh, rest⟩ := List.nodup_cons.mp distinct
    rcases List.mem_cons.mp member with rfl | later
    · exact List.lookup_cons_self
    · have differs : (key == entry.1) = false := by
        apply beq_eq_false_iff_ne.mpr
        rintro rfl
        exact fresh (List.mem_map.mpr ⟨_, later, rfl⟩)
      rw [List.lookup_cons, differs]
      exact ih rest later

end Lawful

end Put

section Collect

variable {key : Source → Key} {item : Source → Item} {sources : List Source}
  {before : List (Key × Item)}

/-- Entries that sources give, put behind others. -/
def collect (key : Source → Key) (item : Source → Item) (sources : List Source)
    (before : List (Key × Item)) : List (Key × Item) :=
  sources.foldl (fun entries source => put (key source) (item source) entries) before

theorem collect_cons (source : Source) : collect key item (source :: sources) before =
    collect key item sources (put (key source) (item source) before) := rfl

theorem length_collect_le (key : Source → Key) (item : Source → Item) (sources : List Source)
    (before : List (Key × Item)) :
    (collect key item sources before).length ≤ before.length + sources.length := by
  induction sources generalizing before with
  | nil => exact Nat.le_refl _
  | cons source sources ih =>
    have one := length_put_le (key source) (item source) before
    have more := ih (put (key source) (item source) before)
    rw [collect_cons, List.length_cons]
    omega

/-- Where there is an entry for every source, none has taken the place of another. -/
theorem collect_of_length
    (full : (collect key item sources before).length = before.length + sources.length) :
    collect key item sources before = before ++ sources.map fun source => (key source, item source) := by
  induction sources generalizing before with
  | nil => exact (List.append_nil before).symm
  | cons source sources ih =>
    rw [collect_cons, List.length_cons] at full
    have one := length_put_le (key source) (item source) before
    have more := length_collect_le key item sources (put (key source) (item source) before)
    rw [collect_cons, ih (by omega), put_of_length (by omega), List.append_assoc]
    rfl

theorem map_collect (change : Item → Other) :
    (collect key item sources before).map (fun entry => (entry.1, change entry.2)) =
      collect key (fun source => change (item source)) sources
        (before.map fun entry => (entry.1, change entry.2)) := by
  induction sources generalizing before with
  | nil => rfl
  | cons source sources ih => rw [collect_cons, ih, map_put, collect_cons]

theorem forall_mem_collect {holds : Item → Prop} (each : ∀ source ∈ sources, holds (item source))
    (all : ∀ entry ∈ before, holds entry.2) : ∀ entry ∈ collect key item sources before, holds entry.2 := by
  induction sources generalizing before with
  | nil => exact all
  | cons source sources ih =>
    obtain ⟨here, rest⟩ := List.forall_mem_cons.mp each
    refine ih rest fun entry member => ?_
    rcases mem_put member with same | old
    · exact same ▸ here
    · exact all entry old

section Lawful

variable [LawfulBEq Key]

/-- Entries of distinct keys are put one behind the other. -/
theorem foldl_put (key : Source → Key) (item : Source → Item) {sources : List Source}
    {before : List (Key × Item)} (distinct : (before.map (·.1) ++ sources.map key).Nodup) :
    sources.foldl (fun entries source => put (key source) (item source) entries) before =
      before ++ sources.map fun source => (key source, item source) := by
  induction sources generalizing before with
  | nil => simp
  | cons source sources ih =>
    have fresh : key source ∉ before.map (·.1) := by
      intro member
      exact (List.nodup_append.mp distinct).2.2 _ member _ (by simp) rfl
    rw [List.foldl_cons, put_of_not_mem fresh, ih (by simpa using distinct), List.append_assoc,
      List.map_cons, List.singleton_append]

theorem foldl_put_nil (key : Source → Key) (item : Source → Item) {sources : List Source}
    (distinct : (sources.map key).Nodup) :
    sources.foldl (fun entries source => put (key source) (item source) entries) [] =
      sources.map fun source => (key source, item source) :=
  foldl_put key item distinct

theorem nodup_collect (distinct : (before.map (·.1)).Nodup) :
    ((collect key item sources before).map (·.1)).Nodup := by
  induction sources generalizing before with
  | nil => exact distinct
  | cons source sources ih => exact ih (nodup_put distinct)

/-- Entries are put back as they are only where each of them is. -/
theorem collect_eq_self_iff {key : Key × Item → Key} {item : Key × Item → Item}
    {entries : List (Key × Item)} (distinct : (entries.map (·.1)).Nodup) :
    collect key item entries [] = entries ↔ ∀ entry ∈ entries, key entry = entry.1 ∧ item entry = entry.2 := by
  constructor
  · intro same entry member
    have full : (collect key item entries []).length = ([] : List (Key × Item)).length + entries.length := by
      rw [same, List.length_nil, Nat.zero_add]
    have one := collect_of_length full
    rw [same, List.nil_append] at one
    have here : entry = (key entry, item entry) :=
      List.map_inj_left.mp ((List.map_id entries).trans one) entry member
    exact ⟨congrArg Prod.fst here.symm, congrArg Prod.snd here.symm⟩
  · intro each
    have keys : entries.map key = entries.map (·.1) := List.map_congr_left fun entry member => (each entry member).1
    have pairs : (entries.map fun entry => (key entry, item entry)) = entries.map id :=
      List.map_congr_left fun entry member => Prod.ext (each entry member).1 (each entry member).2
    exact ((foldl_put_nil key item (keys ▸ distinct)).trans pairs).trans (List.map_id entries)

end Lawful

end Collect

end Transclusion.Entries

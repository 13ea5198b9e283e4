import Transclusion.FileTree

/-!
Files in a tree. A file that is written in the place of another one changes what stands
there and nothing else: every other path leads where it led and every folder has the same
names. What stands in a folder is found by its name, as long as the system takes the name.
-/

namespace Transclusion

/-- Whether there is a given result can be seen whatever the failures are. -/
instance decidableEqOk {Failure Result : Type} [DecidableEq Result] (outcome : Except Failure Result)
    (result : Result) : Decidable (outcome = .ok result) :=
  match outcome with
  | .ok found => decidable_of_iff (found = result) (by simp)
  | .error _ => isFalse (by simp)

namespace Path

/-- A name that can stand in a folder. -/
structure Plain (name : String) : Prop where
  present : isName name = true
  noSlash : '/' ∉ name.toList
  noNull : '\x00' ∉ name.toList
  inside : name ≠ ".."

variable {path : Path} {name : String}

theorem Plain.child_eq (plain : Plain name) :
    path.child name = { path with names := path.names ++ [name] } := by
  have noRoot : rootOf name.toList = "" := by
    rw [rootOf]
    cases chars : name.toList with
    | nil => rfl
    | cons c rest =>
      have differs : c ≠ '/' := by
        rintro rfl
        exact plain.noSlash (by simp [chars])
      simp [differs]
  have single : ofString name = { names := [name] } := by
    rw [ofString, noRoot, List.splitOn_eq_singleton plain.noSlash]
    simp [plain.present]
  rw [child, single, join]
  rfl

theorem Plain.name_child (plain : Plain name) : (path.child name).name = name := by
  simp [plain.child_eq, Path.name]

theorem Plain.parent_child (plain : Plain name) : (path.child name).parent = path := by
  simp [plain.child_eq, parent]

theorem Plain.isNameable_child (plain : Plain name) :
    (path.child name).isNameable = path.isNameable := by
  have nameable : hasNull name = false := by simpa [hasNull] using plain.noNull
  simp [plain.child_eq, isNameable, nameable]

end Path

namespace FileTree

variable {tree : FileTree} {location here : Location} {octets before : List UInt8}

section Ways

variable {grown : FileTree} {name : String} {names : List String} {there : Location} {path : Path}

/-- A step goes up, or into a folder by a name that the system takes. -/
theorem follow_cons_eq_ok_iff : tree.follow here (name :: names) = .ok there ↔
    tree.node? here = some .folder ∧
      (name = ".." ∧ tree.follow here.dropLast names = .ok there ∨
        name ≠ ".." ∧ name.utf8ByteSize ≤ longestName ∧
          tree.follow (here ++ [name]) names = .ok there) := by
  rw [follow]
  split
  · next absent => simp [absent]
  · next file => simp [file]
  · next folder =>
    split
    · next up => simp [folder, up]
    · next down =>
      split
      · next long => simp [down, Nat.not_le.mpr long]
      · next short => simp [folder, down, Nat.not_lt.mp short]

theorem locate_eq_ok_iff : tree.locate path = .ok there ↔
    path.toString.utf8ByteSize ≤ longestPath ∧ tree.follow [] path.names = .ok there := by
  rw [locate]
  split
  · next long => simp [Nat.not_le.mpr long]
  · next near => simp [Nat.not_lt.mp near]

/-- Names lead on where they led as long as the folders are still there. -/
theorem follow_of_folders
    (kept : ∀ place, tree.node? place = some .folder → grown.node? place = some .folder)
    (led : tree.follow here names = .ok there) : grown.follow here names = .ok there := by
  induction names generalizing here with
  | nil => exact led
  | cons name names ih =>
    rw [follow_cons_eq_ok_iff] at led ⊢
    obtain ⟨folder, ⟨up, led⟩ | ⟨down, short, led⟩⟩ := led
    · exact ⟨kept here folder, .inl ⟨up, ih led⟩⟩
    · exact ⟨kept here folder, .inr ⟨down, short, ih led⟩⟩

theorem locate_of_folders
    (kept : ∀ place, tree.node? place = some .folder → grown.node? place = some .folder)
    (located : tree.locate path = .ok there) : grown.locate path = .ok there := by
  obtain ⟨near, led⟩ := locate_eq_ok_iff.mp located
  exact locate_eq_ok_iff.mpr ⟨near, follow_of_folders kept led⟩

theorem eq_of_follow (down : ".." ∉ names) (led : tree.follow here names = .ok there) :
    there = here ++ names := by
  induction names generalizing here with
  | nil =>
    cases led
    simp
  | cons name names ih =>
    obtain ⟨first, rest⟩ := not_or.mp (mt List.mem_cons.mpr down)
    obtain ⟨_, ⟨up, _⟩ | ⟨_, _, led⟩⟩ := follow_cons_eq_ok_iff.mp led
    · exact absurd up.symm first
    · rw [ih rest led, List.append_assoc, List.singleton_append]

theorem follow_append (names more : List String) :
    tree.follow here (names ++ more) =
      (tree.follow here names).bind fun place => tree.follow place more := by
  induction names generalizing here with
  | nil => rfl
  | cons name names ih =>
    rw [List.cons_append, follow, follow]
    cases tree.node? here with
    | none => rfl
    | some node =>
      cases node with
      | file octets => rfl
      | folder =>
        dsimp only
        split
        · exact ih
        · split
          · rfl
          · exact ih

end Ways

section Put

theorem lookup_overwrite (entries : List (Location × FileNode)) (node : FileNode)
    (other : Location) :
    (entries.map fun entry => if entry.1 = location then (location, node) else entry).lookup other =
      if other = location then (entries.lookup other).map fun _ => node
      else entries.lookup other := by
  induction entries with
  | nil => simp
  | cons entry entries ih =>
    obtain ⟨place, old⟩ := entry
    rw [List.map_cons, List.lookup_cons]
    by_cases asked : other = place
    · subst asked
      by_cases same : other = location
      · simp [same]
      · simp [same]
    · have passed : (other == place) = false := beq_eq_false_iff_ne.mpr asked
      by_cases same : place = location
      · subst same
        simpa [asked, passed, List.lookup_cons] using ih
      · simpa [same, passed, List.lookup_cons] using ih

variable {node : FileNode} (free : tree.node? location ≠ some .folder)

include free

theorem ne_nil_of_free : location ≠ [] := by
  rintro rfl
  exact free rfl

theorem node?_put (other : Location) : (tree.put location node).node? other =
    if other = location then some node else tree.node? other := by
  have below := ne_nil_of_free free
  by_cases top : other = []
  · rw [node?, node?, if_pos top, if_pos top, if_neg fun same : other = location => below (same.symm.trans top)]
  · rw [node?, node?, if_neg top, if_neg top, put]
    by_cases same : other = location
    · subst same
      rw [if_pos rfl]
      split
      · next present =>
        obtain ⟨old, found⟩ := Option.isSome_iff_exists.mp present
        show List.lookup other (tree.entries.map _) = _
        rw [lookup_overwrite, if_pos rfl, found, Option.map_some]
      · next absent =>
        rw [List.lookup_append, Option.not_isSome_iff_eq_none.mp absent]
        simp
    · rw [if_neg same]
      split
      · show List.lookup other (tree.entries.map _) = _
        rw [lookup_overwrite, if_neg same]
      · simp [List.lookup_append, List.lookup_cons, beq_eq_false_iff_ne.mpr same]

-- Paths that lead somewhere lead through folders, and none of these is written over.
theorem locate_put {path : Path} {there : Location} (located : tree.locate path = .ok there) :
    (tree.put location node).locate path = .ok there := by
  refine locate_of_folders (fun place folder => ?_) located
  rw [node?_put free, if_neg, folder]
  rintro rfl
  exact free folder

end Put

section Overwritten

variable (there : tree.node? location = some (.file before))

include there

theorem free_of_file : tree.node? location ≠ some .folder := by
  rw [there]
  rintro ⟨⟩

theorem lookup_of_file : tree.entries.lookup location = some (.file before) := by
  rwa [node?, if_neg (ne_nil_of_free (free_of_file there))] at there

theorem node?_overwrite (other : Location) :
    (tree.put location (.file octets)).node? other =
      if other = location then some (.file octets) else tree.node? other :=
  node?_put (free_of_file there) other

theorem childNames_overwrite :
    (tree.put location (.file octets)).childNames here = tree.childNames here := by
  rw [childNames, childNames, put, if_pos (by simp [lookup_of_file there]), List.filterMap_map]
  congr 1
  funext entry
  by_cases same : entry.1 = location
  · rw [Function.comp_apply, if_pos same, ← same]
  · rw [Function.comp_apply, if_neg same]

theorem follow_overwrite (names : List String) :
    (tree.put location (.file octets)).follow here names = tree.follow here names := by
  induction names generalizing here with
  | nil => rfl
  | cons name names ih =>
    rw [follow, follow, node?_overwrite there]
    by_cases same : here = location
    · rw [if_pos same, same, there]
    · simp only [if_neg same, ih]

theorem locate_overwrite (path : Path) :
    (tree.put location (.file octets)).locate path = tree.locate path := by
  rw [locate, locate, follow_overwrite there]

variable {path : Path}

theorem find?_overwrite_of_ne (elsewhere : tree.locate path ≠ .ok location) :
    (tree.put location (.file octets)).find? path = tree.find? path := by
  rw [find?, find?, locate_overwrite there]
  split
  · rfl
  · cases led : tree.locate path with
    | error refusal => cases refusal <;> rfl
    | ok place =>
      rw [led] at elsewhere
      simp only [node?_overwrite there, if_neg fun same : place = location => elsewhere (same ▸ rfl)]

theorem octetsAt_overwrite_of_ne (elsewhere : tree.locate path ≠ .ok location) :
    (tree.put location (.file octets)).octetsAt path = tree.octetsAt path := by
  rw [octetsAt, octetsAt, locate_overwrite there]
  split
  · rfl
  · cases led : tree.locate path with
    | error refusal => rfl
    | ok place =>
      rw [led] at elsewhere
      simp only [node?_overwrite there, if_neg fun same : place = location => elsewhere (same ▸ rfl)]

end Overwritten

section Inside

theorem mem_childNames {name : String} :
    name ∈ tree.childNames here ↔ (tree.node? (here ++ [name])).isSome = true := by
  rw [node?, if_neg (by simp), List.lookup_isSome_iff, childNames, List.mem_filterMap]
  constructor
  · rintro ⟨⟨place, node⟩, member, found⟩
    cases last : place.getLast? with
    | none => simp [last] at found
    | some name' =>
      simp only [last] at found
      split at found
      · next parent =>
        cases found
        obtain ⟨front, rfl⟩ := List.getLast?_eq_some_iff.mp last
        rw [List.dropLast_concat] at parent
        exact ⟨_, member, by simp [parent]⟩
      · cases found
  · rintro ⟨⟨place, node⟩, member, same⟩
    obtain rfl := eq_of_beq same
    exact ⟨_, member, by simp⟩

/-- A name that the system takes in a folder. -/
structure Takes (root : Path) (name : String) : Prop extends Path.Plain name where
  short : name.utf8ByteSize ≤ longestName
  near : (root.child name).toString.utf8ByteSize ≤ longestPath

/-- The path of a folder, and where the folder stands. -/
structure Stands (tree : FileTree) (root : Path) (location : Location) : Prop where
  nameable : root.isNameable = true
  located : tree.locate root = .ok location
  folder : tree.node? location = some .folder

instance (tree : FileTree) (root : Path) (location : Location) :
    Decidable (tree.Stands root location) :=
  decidable_of_iff (root.isNameable = true ∧ tree.locate root = .ok location ∧
      tree.node? location = some .folder)
    ⟨fun ⟨nameable, located, folder⟩ => ⟨nameable, located, folder⟩,
      fun stands => ⟨stands.nameable, stands.located, stands.folder⟩⟩

variable {root : Path} {name : String}

theorem Stands.put {node : FileNode} {place : Location} (free : tree.node? location ≠ some .folder)
    (stands : tree.Stands root place) : (tree.put location node).Stands root place where
  nameable := stands.nameable
  located := locate_put free stands.located
  folder := by
    rw [node?_put free, if_neg, stands.folder]
    intro same
    exact free (same ▸ stands.folder)

theorem locate_of_find? {path : Path} {node : Option FileNode} (found : tree.find? path = .ok node)
    (nameable : path.isNameable = true) :
    (∃ location, tree.locate path = .ok location ∧ tree.node? location = node) ∨
      ∃ refusal, tree.locate path = .error refusal ∧ refusal ≠ .nameTooLong ∧ node = none := by
  rw [find?, nameable] at found
  cases led : tree.locate path with
  | ok location =>
    simp only [led, Bool.not_true, Bool.false_eq_true, if_false, Except.ok.injEq] at found
    exact .inl ⟨location, rfl, found⟩
  | error refusal =>
    refine .inr ⟨refusal, rfl, ?_⟩
    cases refusal <;> simp_all

theorem follow_of_locate (located : tree.locate root = .ok location) :
    tree.follow [] root.names = .ok location :=
  (locate_eq_ok_iff.mp located).2

theorem follow_of_locate_error {refusal : Refusal} (refused : tree.locate root = .error refusal)
    (other : refusal ≠ .nameTooLong) : tree.follow [] root.names = .error refusal := by
  rw [locate] at refused
  split at refused
  · cases refused
    exact absurd rfl other
  · exact refused

theorem Stands.find?_root (stands : tree.Stands root location) :
    tree.find? root = .ok (some .folder) := by
  rw [find?, stands.nameable, stands.located]
  simp [stands.folder]

theorem Stands.locate_child (stands : tree.Stands root location) (takes : Takes root name) :
    tree.locate (root.child name) = .ok (location ++ [name]) := by
  rw [locate, if_neg (Nat.not_lt.mpr takes.near), takes.child_eq, follow_append,
    follow_of_locate stands.located]
  simp [Except.bind, follow, stands.folder, takes.inside, Nat.not_lt.mpr takes.short]

theorem Stands.find?_child (stands : tree.Stands root location) (takes : Takes root name) :
    tree.find? (root.child name) = .ok (tree.node? (location ++ [name])) := by
  rw [find?, takes.isNameable_child, stands.nameable, stands.locate_child takes]
  rfl

theorem Stands.octetsAt_child (stands : tree.Stands root location) (takes : Takes root name)
    (there : tree.node? (location ++ [name]) = some (.file octets)) :
    tree.octetsAt (root.child name) = .ok octets := by
  rw [octetsAt, takes.isNameable_child, stands.nameable, stands.locate_child takes]
  simp [there]

-- Where there is no folder nothing stands in it.
theorem find?_child_of_no_folder {node : Option FileNode} (found : tree.find? root = .ok node)
    (noFolder : node ≠ some .folder) (takes : Takes root name) :
    tree.find? (root.child name) = .ok none := by
  by_cases nameable : root.isNameable = true
  · have refused : ∃ refusal, tree.locate (root.child name) = .error refusal ∧
        refusal ≠ .nameTooLong := by
      rw [locate, if_neg (Nat.not_lt.mpr takes.near), takes.child_eq, follow_append]
      obtain ⟨location, located, there⟩ | ⟨refusal, refused, other, _⟩ :=
        locate_of_find? found nameable
      · rw [follow_of_locate located, Except.bind, follow, there]
        cases node with
        | none => exact ⟨.missing, rfl, by decide⟩
        | some node =>
          cases node with
          | folder => exact absurd rfl noFolder
          | file octets => exact ⟨.notFolder, rfl, by decide⟩
      · exact ⟨refusal, by rw [follow_of_locate_error refused other]; rfl, other⟩
    obtain ⟨refusal, refused, other⟩ := refused
    rw [find?, takes.isNameable_child, nameable, refused]
    cases refusal <;> first | rfl | exact absurd rfl other
  · rw [find?, takes.isNameable_child, if_pos (by simpa using nameable)]

end Inside

end FileTree

end Transclusion

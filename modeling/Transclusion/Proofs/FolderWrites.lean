import Transclusion.Proofs.ListedFiles

/-!
Writing into a folder. The folder is made where it is missing, and a file that is written there
leaves every other file of the folder as it was, whether it takes the place of one or is new.
-/

namespace Transclusion

namespace FileTree

variable {tree made : FileTree} {location here there : Location} {node : FileNode}
  {names : List String} {path root : Path} {name : String}

section Put

variable (free : tree.node? location ≠ some .folder)

include free

end Put

section Made

end Made

end FileTree

namespace Shelf

variable {files ready : FileTree} {root : Path} {location : Location} {name id suffix stem : String}
  {document : Document} {before : List Document} {node : FileNode} {octets : List UInt8}

section Put

variable (stands : ready.Stands root location)
  (free : ready.node? (location ++ [name]) ≠ some .folder)

include stands free

end Put

end Shelf

end Transclusion

import Transclusion.Proofs.ArchiveRuns
import Transclusion.Proofs.ListedFiles
import Transclusion.Proofs.RenderGuard
import Transclusion.Proofs.Resolution
import Transclusion.Proofs.YamlReads

/-!
What comes of reading a folder of document files, whatever is in them. Reading fails with a fault
of the storage, unless the system refuses to look at a path or a file is bad for what it holds.
Whatever the fault, a render shows nothing in the place of a reference.
-/

namespace Transclusion

variable {files : FileTree} {root path : Path} {fault : Fault}

namespace Document

end Document

namespace Shelf

variable {id : String}

end Shelf

namespace Archive

end Archive

namespace Engine

variable {engine : Engine} {session : Session Archive} {lookup : Lookup} {name : Text}
  {fields : List String} {code : Option String} {format : Text → Act Archive Text}

section Lookups

end Lookups

section Renders

open Substitution

variable (failing : session.store.documents = .error fault)

include failing

end Renders

end Engine

namespace Archive

end Archive

end Transclusion

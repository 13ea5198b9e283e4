import Transclusion.Proofs.KeyedReads
import Transclusion.Proofs.SettingsReads

/-!
Which of the layers a setting comes from. A variable is stronger than every file, and of two
variables the later one; of the files, of which there is one for each stem, the later one too.
-/

namespace Transclusion

namespace Shelf

variable {files : FileTree} {root : Path} {location : Location} {paths : List Path}

end Shelf

namespace Settings

variable {Store : Type} {files : FileTree} {environment : List (String × String)} {root : Path}
  {entries : List (Value × Value)} {path : List String} {value : Value} {given : Override}

/-- The variables with their values, each written at its path. -/
def laid (entries : List (Value × Value)) (sets : List (Override × Value)) : List (Value × Value) :=
  sets.foldl (fun entries set => assignAt set.2 set.1.path entries) entries

section Precedence

variable {paths : List Path} {others : List (List (Value × Value))}

def deeper : Override := ⟨"TEXTBLOCKS_A__C", "A__C".toList, "d"⟩

end Precedence

end Settings

end Transclusion

import Transclusion.FileTree
import Transclusion.Yaml.Reading
import Transclusion.Yaml.Writing

/-!
YAML files in a file tree: reading one, writing one, and the files of a folder in
order of their stems. Of two files with one stem the longer suffix counts.
-/

namespace Transclusion

inductive YamlFault where
  | file (fault : FileFault)
  | yaml (fault : Yaml.Fault)
  deriving DecidableEq, Repr

namespace YamlFile

/-- The value in a file; a file that holds no value gives `absent`. -/
def read (tree : FileTree) (path : Path) (absent : Value) : Except YamlFault Value :=
  match tree.isPresent path with
  | .error fault => .error (.file fault)
  | .ok false => .error (.file (.absent path.toString))
  | .ok true =>
      match tree.octetsAt path with
      | .error fault => .error (.file fault)
      | .ok octets =>
          let (text, broken) := Text.decodeFile octets
          match Yaml.read text broken with
          | .error fault => .error (.yaml fault)
          | .ok .null => .ok absent
          | .ok value => .ok value

/-- The value in a file, or `absent` when the file is not there or is no YAML. Octets
that are no text, and scalars that are no number or too large, are faults all the
same. -/
def readOr (tree : FileTree) (path : Path) (absent : Value) : Except YamlFault Value :=
  match read tree path absent with
  | .error (.yaml (.octets fault)) => .error (.yaml (.octets fault))
  | .error (.yaml (.number text)) => .error (.yaml (.number text))
  | .error (.yaml (.tooLarge text)) => .error (.yaml (.tooLarge text))
  | .error _ => .ok absent
  | .ok value => .ok value

def write (tree : FileTree) (path : Path) (value : Value) : FileTree × Option FileFault :=
  tree.writeFile path (Yaml.write value).toUTF8.toList

def hasSuffix (suffix name : String) : Bool := suffix.toList.isSuffixOf name.toList

/-- The files of a folder that stand for their stems, in order of the stems. -/
def list (tree : FileTree) (path : Path) : Except FileFault (List Path) := do
  if ← tree.isFolder path then
    match tree.locate path with
    | .error _ => return []
    | .ok location =>
        let names := tree.childNames location
        let long := names.filter (hasSuffix ".yaml")
        let short := names.filter (hasSuffix ".yml")
        let stems := ((long ++ short).map Path.stemOf).eraseDups
        let ordered := stems.mergeSort fun first second => decide (first ≤ second)
        return ordered.filterMap fun stem =>
          ((long.find? fun name => Path.stemOf name == stem).or
            (short.find? fun name => Path.stemOf name == stem)).map path.child
  else return []

end YamlFile

end Transclusion

import Transclusion.Proofs.Octets
import Transclusion.Proofs.Yaml.NodeFaults
import Transclusion.Fault

/-!
Reading a YAML file, whatever is in it. A file that is not read for the form of its text is
reported by its reader. What a file holds can be worse: octets that are no text, or a number or
a date that is none.
-/

namespace Transclusion

namespace Yaml

variable {octets : List UInt8} {fault : Fault}

end Yaml

namespace FileTree

variable {files : FileTree} {path : Path}

end FileTree

namespace YamlFile

variable {files : FileTree} {path : Path} {absent : Value}

end YamlFile

end Transclusion

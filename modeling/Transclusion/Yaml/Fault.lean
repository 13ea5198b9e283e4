import Transclusion.Text.Utf8

/-!
Why a text is not read as YAML: because its octets are no characters, by the layer at
which reading stops, or because a scalar has the form of a date or a number and is
none, or is one too large to keep.
-/

namespace Transclusion.Yaml

inductive Fault where
  | octets (fault : Text.OctetFault)
  | character
  | token
  | nesting
  | document
  | construction
  | number (message : String)
  | tooLarge (message : String)
  deriving DecidableEq, Repr

end Transclusion.Yaml

import Transclusion.Yaml.Fault

/-!
Results of reading a tree level by level. Of several faults the one nearest to the
root counts, and of those on one level the first in order.
-/

namespace Transclusion.Yaml

/-- A result, or a fault and how many levels down it is. -/
abbrev Levels (Result : Type) := Except (Nat × Fault) Result

namespace Levels

def here {Result : Type} : Except Fault Result → Levels Result
  | .ok result => .ok result
  | .error fault => .error (0, fault)

/-- The same result, seen from one level above. -/
def below {Result : Type} : Levels Result → Levels Result
  | .ok result => .ok result
  | .error (depth, fault) => .error (depth + 1, fault)

def both {First Second : Type} : Levels First → Levels Second → Levels (First × Second)
  | .ok first, .ok second => .ok (first, second)
  | .ok _, .error fault => .error fault
  | .error fault, .ok _ => .error fault
  | .error (depth, fault), .error (other, later) =>
      if other < depth then .error (other, later) else .error (depth, fault)

def all {Result : Type} (results : List (Levels Result)) : Levels (List Result) :=
  results.foldr (fun result rest => (both result rest).map fun pair => pair.1 :: pair.2) (.ok [])

/-- The result alone. -/
def settled {Result : Type} (result : Levels Result) : Except Fault Result :=
  result.mapError (·.2)

end Levels

end Transclusion.Yaml

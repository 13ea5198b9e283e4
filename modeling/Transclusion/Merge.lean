import Transclusion.Fault

/-!
Laying one map over another: maps under the same key are merged in turn, and any
other value takes the place of what was there. Keys of the base keep their places
and new keys follow.
-/

namespace Transclusion.Value

mutual

def mergeInto (base : List (Value × Value)) : List (Value × Value) → List (Value × Value)
  | [] => base
  | (key, item) :: rest =>
      let present := (base.find? fun entry => sameKey entry.1 key).map (·.2)
      mergeInto (assign key (mergeItem present item) base) rest

def mergeItem (present : Option Value) : Value → Value
  | .map entries =>
      match present with
      | some (.map base) => .map (mergeInto base entries)
      | _ => .map entries
  | item => item

end

/-- The base with `upper` laid over it. What counts as absent changes nothing; any
other value that is no map cannot be laid over. -/
def merge (base : List (Value × Value)) (upper : Value) : Except Fault (List (Value × Value)) :=
  match upper with
  | .map entries => .ok (mergeInto base entries)
  | other => if other.isTruthy then .error (.noPairs other) else .ok base

end Transclusion.Value

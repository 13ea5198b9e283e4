/-!
Entries under keys, in the order in which the keys came. Writing to a key that is
there keeps its place.
-/

namespace Transclusion.Entries

variable {Key Item : Type} [BEq Key]

def put (key : Key) (item : Item) : List (Key × Item) → List (Key × Item)
  | [] => [(key, item)]
  | entry :: rest =>
      if entry.1 == key then (entry.1, item) :: rest else entry :: put key item rest

end Transclusion.Entries

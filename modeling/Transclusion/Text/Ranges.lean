/-!
Tables of code points. Rows are sorted and disjoint, and a code point is looked
up by halving; a row that is found is a row of the table that covers the code
point.
-/

namespace Transclusion

/-- A text is the list of its characters; offsets count characters. -/
abbrev Text := List Char

namespace Text.Ranges

def search (first last : Row → Nat) (rows : Array Row) (code : Nat) :
    Nat → Nat → Nat → Option Row
  | 0, _, _ => none
  | fuel + 1, low, high =>
      if low < high then
        match rows[(low + high) / 2]? with
        | none => none
        | some row =>
            if code < first row then search first last rows code fuel low ((low + high) / 2)
            else if last row < code then
              search first last rows code fuel ((low + high) / 2 + 1) high
            else some row
      else none

/-- The row whose range holds `code`. -/
def find? (first last : Row → Nat) (rows : Array Row) (code : Nat) : Option Row :=
  search first last rows code (Nat.log2 rows.size + 1) 0 rows.size

def contains (rows : Array (Nat × Nat)) (code : Nat) : Bool :=
  (find? Prod.fst Prod.snd rows code).isSome

theorem search_covers {first last : Row → Nat} {rows : Array Row} {code : Nat} {row : Row}
    (fuel low high : Nat) (found : search first last rows code fuel low high = some row) :
    row ∈ rows ∧ first row ≤ code ∧ code ≤ last row := by
  induction fuel generalizing low high with
  | zero => simp [search] at found
  | succ fuel ih =>
      unfold search at found
      split at found
      · split at found
        · simp at found
        · next _ middle present =>
            split at found
            · exact ih _ _ found
            · split at found
              · exact ih _ _ found
              · cases found
                exact ⟨Array.mem_of_getElem? present, by omega, by omega⟩
      · simp at found

theorem find?_covers {first last : Row → Nat} {rows : Array Row} {code : Nat} {row : Row}
    (found : find? first last rows code = some row) :
    row ∈ rows ∧ first row ≤ code ∧ code ≤ last row :=
  search_covers _ _ _ found

end Text.Ranges

namespace Text

/-- Every `stride`-th code point from `first` to `last` moves by `offset`. -/
structure Shift where
  first : Nat
  last : Nat
  stride : Nat
  offset : Int

namespace Shift

def image (row : Shift) (code : Nat) : Nat :=
  if (code - row.first) % row.stride = 0 then (Int.ofNat code + row.offset).toNat else code

def apply (rows : Array Shift) (c : Char) : Char :=
  match Ranges.find? first last rows c.toNat with
  | some row => Char.ofNat (row.image c.toNat)
  | none => c

end Shift

end Text

end Transclusion

import Transclusion.Number.Binary64

/-!
The fewest decimal digits that read back as the same binary number, and among
those the nearest to it. Digits are tried on ever finer decimal grids; on each
only the two neighbours of the number can lie among the fractions that round
to it.
-/

namespace Transclusion.Binary64

/-- Positive fractions that round to `mantissa · 2 ^ exponent`, over one common
denominator: the number itself, the lower and the upper bound. -/
structure Neighbourhood where
  value : Nat
  low : Nat
  high : Nat
  denominator : Nat
  closed : Bool

def neighbourhood (mantissa : Nat) (exponent : Int) : Neighbourhood :=
  let power := Nat.pow 2 exponent.toNat
  let denominator := 4 * Nat.pow 2 (-exponent).toNat
  let narrow := mantissa = Nat.pow 2 52 && -1074 < exponent
  { value := 4 * mantissa * power
    low := (4 * mantissa - (if narrow then 1 else 2)) * power
    high := (4 * mantissa + 2) * power
    denominator
    closed := mantissa % 2 = 0 }

namespace Neighbourhood

/-- Whether `digits` times ten to the power `scale` rounds to the number. -/
def holds (near : Neighbourhood) (digits : Nat) (scale : Int) : Bool :=
  let point := digits * Nat.pow 10 scale.toNat * near.denominator
  let unit := Nat.pow 10 (-scale).toNat
  if near.closed then near.low * unit ≤ point && point ≤ near.high * unit
  else near.low * unit < point && point < near.high * unit

/-- The neighbour below on the grid of step ten to the power `scale`. -/
def below (near : Neighbourhood) (scale : Int) : Nat :=
  near.value * Nat.pow 10 (-scale).toNat / (near.denominator * Nat.pow 10 scale.toNat)

/-- Whether the number is at least as near to the neighbour above. -/
def nearerAbove (near : Neighbourhood) (digits : Nat) (scale : Int) : Bool :=
  let point := digits * Nat.pow 10 scale.toNat * near.denominator
  let step := Nat.pow 10 scale.toNat * near.denominator
  let value := near.value * Nat.pow 10 (-scale).toNat
  let twice := 2 * (value - point)
  step < twice || (step = twice && digits % 2 = 1)

def onGrid? (near : Neighbourhood) (scale : Int) : Option (Nat × Int) :=
  let digits := near.below scale
  match near.holds digits scale, near.holds (digits + 1) scale with
  | true, true => some (if near.nearerAbove digits scale then digits + 1 else digits, scale)
  | true, false => some (digits, scale)
  | false, true => some (digits + 1, scale)
  | false, false => none

/-- The first of the finer and finer grids that has a hit. -/
def onGrids (near : Neighbourhood) : Nat → Int → Nat × Int
  | 0, scale => (near.below scale, scale)
  | fuel + 1, scale =>
      match near.onGrid? scale with
      | some hit => hit
      | none => onGrids near fuel (scale - 1)

end Neighbourhood

/-- An exponent above the number's decimal size. -/
def decimalSize (mantissa : Nat) (exponent : Int) : Int :=
  (Int.ofNat (Nat.log2 mantissa) + 1 + exponent) * 30103 / 100000 + 1

/-- Digits without trailing zeros, and the power of ten they are multiplied by. -/
def trimZeros : Nat → Nat → Int → Nat × Int
  | 0, digits, scale => (digits, scale)
  | fuel + 1, digits, scale =>
      if digits ≠ 0 ∧ digits % 10 = 0 then trimZeros fuel (digits / 10) (scale + 1)
      else (digits, scale)

def shortest (mantissa : Nat) (exponent : Int) : Nat × Int :=
  let hit := (neighbourhood mantissa exponent).onGrids 20 (decimalSize mantissa exponent)
  trimZeros 400 hit.1 hit.2

/-- How a number is written: positionally when its decimal point falls at or above
`lowest` and at or below `highest`, with an exponent of two digits or more
otherwise, and never without a point or an exponent. -/
structure Layout where
  lowest : Int := -3
  highest : Int := 16
  nan : String := "nan"
  infinity : String := "inf"

def digitsText (digits : Nat) : List Char := Nat.toDigits 10 digits

def zeros (count : Nat) : List Char := List.replicate count '0'

/-- `point` is where the decimal point falls, counted from the first digit. -/
def positional (digits : List Char) (point : Int) : List Char :=
  if point ≤ 0 then '0' :: '.' :: zeros (-point).toNat ++ digits
  else
    let whole := digits.take point.toNat
    let part := digits.drop point.toNat
    whole ++ zeros (point.toNat - digits.length) ++ '.' :: (if part.isEmpty then ['0'] else part)

def withExponent (digits : List Char) (point : Int) : List Char :=
  let power := point - 1
  let size := digitsText power.natAbs
  let part := match digits with
    | first :: second :: rest => first :: '.' :: second :: rest
    | few => few
  part ++ 'e' :: (if power < 0 then '-' else '+') :: zeros (2 - size.length) ++ size

def layOut (layout : Layout) (bits : UInt64) : String :=
  match form bits with
  | .nan => layout.nan
  | .infinite negative => (if negative then "-" else "") ++ layout.infinity
  | .finite negative mantissa exponent =>
      let body :=
        if mantissa = 0 then ['0', '.', '0']
        else
          let hit := shortest mantissa exponent
          let digits := digitsText hit.1
          let point := Int.ofNat digits.length + hit.2
          if layout.lowest ≤ point && point ≤ layout.highest then positional digits point
          else withExponent digits point
      String.ofList (if negative then '-' :: body else body)

end Transclusion.Binary64

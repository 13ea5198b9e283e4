import Transclusion.Number.Binary64

/-!
Calculating with binary floating-point numbers. A finite number is a fraction, so a
finite result is the fraction that the operation gives, rounded once. Zeros keep a
sign, and whatever has no number for a result gives the one that is no number.
-/

namespace Transclusion.Binary64

def isNegative (bits : UInt64) : Bool := decide (Nat.pow 2 63 ≤ bits.toNat)

def opposite (bits : UInt64) : UInt64 :=
  signed (!isNegative bits) (bits.toNat % Nat.pow 2 63)

def isZero (bits : UInt64) : Bool := bits.toNat % Nat.pow 2 63 == 0

def ofFraction (numerator : Int) (denominator : Nat) : UInt64 :=
  ofRatio (decide (numerator < 0)) numerator.natAbs denominator

/-- The number nearest to an integer; `none` when it is out of range. -/
def ofInt? (number : Int) : Option UInt64 :=
  let bits := ofFraction number 1
  if bits.toNat % Nat.pow 2 63 = infinityCode then none else some bits

/-- A number as a fraction over a positive denominator, or what it is instead. -/
inductive Extent where
  | nan
  | infinite (negative : Bool)
  | fraction (numerator : Int) (denominator : Nat)
  deriving DecidableEq, Repr

def extent (bits : UInt64) : Extent :=
  match form bits with
  | .nan => .nan
  | .infinite negative => .infinite negative
  | .finite negative mantissa exponent =>
      let size := Int.ofNat (mantissa * Nat.pow 2 exponent.toNat)
      .fraction (if negative then -size else size) (Nat.pow 2 (-exponent).toNat)

namespace Extent

def ofInt (number : Int) : Extent := .fraction number 1

/-- Whether the first is less; nothing is less or more than what is no number. -/
def precedes : Extent → Extent → Bool
  | .nan, _ => false
  | _, .nan => false
  | .infinite first, .infinite second => first && !second
  | .infinite negative, .fraction _ _ => negative
  | .fraction _ _, .infinite negative => !negative
  | .fraction top bottom, .fraction top' bottom' => decide (top * bottom' < top' * bottom)

def same : Extent → Extent → Bool
  | .infinite first, .infinite second => first == second
  | .fraction top bottom, .fraction top' bottom' => decide (top * bottom' = top' * bottom)
  | _, _ => false

end Extent

def add (first second : UInt64) : UInt64 :=
  match extent first, extent second with
  | .nan, _ => nan
  | _, .nan => nan
  | .infinite negative, .infinite negative' => if negative = negative' then first else nan
  | .infinite _, _ => first
  | _, .infinite _ => second
  | .fraction top bottom, .fraction top' bottom' =>
      let sum := top * bottom' + top' * bottom
      if sum = 0 then signed (isNegative first && isNegative second) 0
      else ofFraction sum (bottom * bottom')

def subtract (first second : UInt64) : UInt64 := add first (opposite second)

def multiply (first second : UInt64) : UInt64 :=
  let negative := isNegative first != isNegative second
  match extent first, extent second with
  | .nan, _ => nan
  | _, .nan => nan
  | .fraction top bottom, .fraction top' bottom' =>
      ofRatio negative (top * top').natAbs (bottom * bottom')
  | _, _ => if isZero first || isZero second then nan else infinity negative

/-- The quotient; the divisor is not zero. -/
def divide (first second : UInt64) : UInt64 :=
  let negative := isNegative first != isNegative second
  match extent first, extent second with
  | .nan, _ => nan
  | _, .nan => nan
  | .infinite _, .infinite _ => nan
  | .infinite _, _ => infinity negative
  | _, .infinite _ => signed negative 0
  | .fraction top bottom, .fraction top' bottom' =>
      ofRatio negative (top.natAbs * bottom') (bottom * top'.natAbs)

/-- The quotient rounded down; the divisor is not zero. -/
def divideFloor (first second : UInt64) : UInt64 :=
  let negative := isNegative first != isNegative second
  match extent first, extent second with
  | .nan, _ => nan
  | _, .nan => nan
  | .infinite _, _ => nan
  | .fraction top _, .infinite _ =>
      if negative && top != 0 then ofFraction (-1) 1 else signed negative 0
  | .fraction top bottom, .fraction top' bottom' =>
      let quotient := (top * bottom').fdiv (top' * bottom)
      if quotient = 0 then signed negative 0 else ofFraction quotient 1

/-- What remains of a division rounded down, with the sign of the divisor, which is
not zero. -/
def remainder (first second : UInt64) : UInt64 :=
  match extent first, extent second with
  | .nan, _ => nan
  | _, .nan => nan
  | .infinite _, _ => nan
  | .fraction top _, .infinite _ =>
      if top = 0 then signed (isNegative second) 0
      else if isNegative first = isNegative second then first else second
  | .fraction top bottom, .fraction top' bottom' =>
      let rest := (top * bottom').fmod (top' * bottom)
      if rest = 0 then signed (isNegative second) 0 else ofFraction rest (bottom * bottom')

end Transclusion.Binary64

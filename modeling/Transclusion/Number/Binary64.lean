/-!
Binary floating-point numbers of 64 bits. A finite one is a sign and `mantissa`
times two to the power `exponent`; rounding a fraction takes the nearest one and
goes to the even mantissa from the middle.
-/

namespace Transclusion.Binary64

inductive Form where
  | nan
  | infinite (negative : Bool)
  | finite (negative : Bool) (mantissa : Nat) (exponent : Int)
  deriving DecidableEq, Repr

def form (bits : UInt64) : Form :=
  let code := bits.toNat
  let negative := decide (Nat.pow 2 63 ≤ code)
  let field := code / Nat.pow 2 52 % Nat.pow 2 11
  let fraction := code % Nat.pow 2 52
  if field = 2047 then (if fraction = 0 then .infinite negative else .nan)
  else if field = 0 then .finite negative fraction (-1074)
  else .finite negative (fraction + Nat.pow 2 52) (Int.ofNat field - 1075)

def infinityCode : Nat := 2047 * Nat.pow 2 52

def signed (negative : Bool) (code : Nat) : UInt64 :=
  UInt64.ofNat (if negative then Nat.pow 2 63 + code else code)

def infinity (negative : Bool) : UInt64 := signed negative infinityCode

def nan : UInt64 := UInt64.ofNat (infinityCode + Nat.pow 2 51)

def roundHalfEven (numerator denominator : Nat) : Nat :=
  let floor := numerator / denominator
  let twice := 2 * (numerator % denominator)
  if twice < denominator then floor
  else if denominator < twice then floor + 1
  else if floor % 2 = 0 then floor else floor + 1

/-- The fraction divided by two to the power `exponent`, rounded. -/
def scaled (numerator denominator : Nat) (exponent : Int) : Nat :=
  if 0 ≤ exponent then roundHalfEven numerator (denominator * Nat.pow 2 exponent.toNat)
  else roundHalfEven (numerator * Nat.pow 2 (-exponent).toNat) denominator

def codeAt (numerator denominator : Nat) (exponent : Int) : Nat :=
  (exponent + 1074).toNat * Nat.pow 2 52 + scaled numerator denominator exponent

/-- The exponent at which the mantissa of a fraction has 53 bits, or the least one. -/
def fittingExponent (numerator denominator : Nat) : Int :=
  let guess : Int := Int.ofNat (Nat.log2 numerator) - Int.ofNat (Nat.log2 denominator) - 52
  let tooLow : Bool :=
    if 0 ≤ guess then decide (denominator * Nat.pow 2 guess.toNat * Nat.pow 2 52 ≤ numerator)
    else decide (denominator * Nat.pow 2 52 ≤ numerator * Nat.pow 2 (-guess).toNat)
  max (if tooLow then guess else guess - 1) (-1074)

def ofRatio (negative : Bool) (numerator denominator : Nat) : UInt64 :=
  if numerator = 0 then signed negative 0
  else
    let code := codeAt numerator denominator (fittingExponent numerator denominator)
    signed negative (min code infinityCode)

/-- The number written by decimal `digits` and a power of ten. Numbers far out of
range are decided by their size alone. -/
def ofDecimal (negative : Bool) (digits : Nat) (exponent : Int) : UInt64 :=
  let size : Int := Int.ofNat (Nat.log2 digits) * 30103 / 100000 + exponent
  if digits = 0 || size < -400 then signed negative 0
  else if 400 < size then infinity negative
  else if 0 ≤ exponent then ofRatio negative (digits * Nat.pow 10 exponent.toNat) 1
  else ofRatio negative digits (Nat.pow 10 (-exponent).toNat)

end Transclusion.Binary64

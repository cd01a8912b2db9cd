/-! # Double-precision numbers

A number of the binary64 format as its 64 bits, with what it stands for in exact arithmetic: a
finite one is `± mantissa · 2 ^ exponent`. `Binary64.ofRatio` is the nearest number to a
quotient, a tie going to the even neighbour, and `Binary64.ofDecimal` the nearest number to a
decimal.
-/

namespace PipelineDepot

/-- A double-precision number. -/
structure Binary64 where
  bits : UInt64
  deriving DecidableEq, Repr

namespace Binary64

/-- The sign bit is set. -/
def isNegative (x : Binary64) : Bool := Nat.pow 2 63 ≤ x.bits.toNat

/-- The exponent field. -/
def exponentField (x : Binary64) : Nat := x.bits.toNat / Nat.pow 2 52 % 2048

/-- The fraction field. -/
def fraction (x : Binary64) : Nat := x.bits.toNat % Nat.pow 2 52

/-- The number is neither infinite nor a NaN. -/
def isFinite (x : Binary64) : Bool := x.exponentField != 2047

/-- The number is a NaN. -/
def isNaN (x : Binary64) : Bool := x.exponentField == 2047 && x.fraction != 0

/-- The number is a zero, of either sign. -/
def isZero (x : Binary64) : Bool := x.bits.toNat % Nat.pow 2 63 == 0

/-- The integer factor of a finite number. -/
def mantissa (x : Binary64) : Nat :=
  if x.exponentField = 0 then x.fraction else Nat.pow 2 52 + x.fraction

/-- The exponent of the power of two in a finite number. -/
def exponent (x : Binary64) : Int :=
  (max x.exponentField 1 : Nat) - 1075

/-- The number with a magnitude given by its bits. -/
def ofMagnitude (negative : Bool) (magnitude : Nat) : Binary64 :=
  ⟨UInt64.ofNat (if negative then Nat.pow 2 63 + magnitude else magnitude)⟩

/-- The infinite number of a sign. -/
def infinity (negative : Bool) : Binary64 := ofMagnitude negative (2047 * Nat.pow 2 52)

/-- The NaN that texts stand for. -/
def nan : Binary64 := ofMagnitude false (2047 * Nat.pow 2 52 + Nat.pow 2 51)

/-- Equality as the numbers compare: the zeros are equal, and so are all NaNs. -/
def same (x y : Binary64) : Bool :=
  (x.isNaN && y.isNaN) || (x.isZero && y.isZero) || x.bits == y.bits

/-- The integer nearest to a quotient, a tie going to the even one. -/
def roundDiv (numerator denominator : Nat) : Nat :=
  let floor := numerator / denominator
  let twice := 2 * (numerator % denominator)
  if twice < denominator then floor
  else if denominator < twice then floor + 1
  else if floor % 2 = 0 then floor else floor + 1

/-- A quotient times a power of two, as numerator and denominator. -/
def scale (numerator denominator : Nat) : Int → Nat × Nat
  | .ofNat n => (numerator * Nat.pow 2 n, denominator)
  | .negSucc n => (numerator, denominator * Nat.pow 2 (n + 1))

/-- The exponent of the greatest power of two that is at most a positive quotient. -/
def floorLog2 (numerator denominator : Nat) : Int :=
  let guess : Int := (numerator.log2 : Int) - (denominator.log2 : Int)
  let (scaled, unit) := scale numerator denominator (-guess)
  if unit ≤ scaled then guess else guess - 1

/-- The number nearest to a quotient. -/
def ofRatio (negative : Bool) (numerator denominator : Nat) : Binary64 :=
  if numerator = 0 then ofMagnitude negative 0
  else
    let exponent := max (floorLog2 numerator denominator - 52) (-1074)
    let (scaled, unit) := scale numerator denominator (-exponent)
    let magnitude := (exponent + 1074).toNat * Nat.pow 2 52 + roundDiv scaled unit
    if 2047 * Nat.pow 2 52 ≤ magnitude then infinity negative else ofMagnitude negative magnitude

/-- The number nearest to `significand · 10 ^ exponent`. Outside the range of the format the
power of ten is not computed. -/
def ofDecimal (negative : Bool) (significand : Nat) (exponent : Int) : Binary64 :=
  let digits : Int := ((Nat.toDigits 10 significand).length : Nat)
  if significand = 0 ∨ digits + exponent < -400 then ofMagnitude negative 0
  else if 400 < digits + exponent then infinity negative
  else match exponent with
    | .ofNat n => ofRatio negative (significand * Nat.pow 10 n) 1
    | .negSucc n => ofRatio negative significand (Nat.pow 10 (n + 1))

end Binary64

end PipelineDepot

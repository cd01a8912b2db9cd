import PipelineDepot.Decimal.Binary64

/-! # Shortest decimals

The decimal with the fewest digits among those that are nearer to a number than to any other
double-precision number. For each count of digits, from one on, the two neighbours of the number
on the decimal grid with that many digits are tried; the first grid with a hit wins, and of two
hits the nearer one, a tie going to the even one.
-/

namespace PipelineDepot

/-- The decimal `significand · 10 ^ exponent`. -/
structure Decimal where
  significand : Nat
  exponent : Int
  deriving DecidableEq, Repr

namespace Decimal

/-- The numerator and denominator of `2 ^ binary / 10 ^ decimal`. -/
def unitRatio (binary decimal : Int) : Nat × Nat :=
  (Nat.pow 2 binary.toNat * Nat.pow 10 (-decimal).toNat,
    Nat.pow 2 (-binary).toNat * Nat.pow 10 decimal.toNat)

/-- The exponent of the least power of ten above the number `mantissa · 2 ^ exponent`, out of
the given ones. -/
def ceilLog10 (mantissa : Nat) (exponent : Int) : List Int → Int
  | [] => 0
  | [last] => last
  | power :: rest =>
    let (numerator, denominator) := unitRatio exponent power
    if mantissa * numerator < denominator then power else ceilLog10 mantissa exponent rest

/-- Divides out the factors ten, at most `limit` of them. -/
def trimZeros : Nat → Decimal → Decimal
  | 0, decimal => decimal
  | limit + 1, decimal =>
    if decimal.significand ≠ 0 ∧ decimal.significand % 10 = 0 then
      trimZeros limit ⟨decimal.significand / 10, decimal.exponent + 1⟩
    else decimal

/-- A number with the interval of the reals that round to it, all in quarters of its unit in
the last place. -/
structure Rounding where
  value : Nat
  low : Nat
  high : Nat
  /-- The ends of the interval round to the number too. -/
  closed : Bool
  /-- The exponent of the power of two that a quarter is. -/
  exponent : Int

/-- The interval of a finite number. Below a power of two the numbers stand twice as close. -/
def Rounding.of (x : Binary64) : Rounding where
  value := 4 * x.mantissa
  low := if x.fraction = 0 ∧ 1 < x.exponentField then 4 * x.mantissa - 1 else 4 * x.mantissa - 2
  high := 4 * x.mantissa + 2
  closed := x.mantissa % 2 = 0
  exponent := x.exponent - 2

namespace Rounding

/-- The candidate `count · 10 ^ power` rounds to the number. -/
def holds (r : Rounding) (count : Nat) (power : Int) : Bool :=
  let (numerator, denominator) := unitRatio r.exponent power
  let candidate := count * denominator
  if r.closed then r.low * numerator ≤ candidate && candidate ≤ r.high * numerator
  else r.low * numerator < candidate && candidate < r.high * numerator

/-- The better of the two neighbours of the number on the grid of `10 ^ power`, if one of them
rounds to it. -/
def onGrid? (r : Rounding) (power : Int) : Option Decimal :=
  let (numerator, denominator) := unitRatio r.exponent power
  let below := r.value * numerator / denominator
  let twice := 2 * (r.value * numerator % denominator)
  let nearer :=
    if twice < denominator then below
    else if denominator < twice then below + 1
    else if below % 2 = 0 then below else below + 1
  let farther := if nearer = below then below + 1 else below
  if r.holds nearer power then some ⟨nearer, power⟩
  else if r.holds farther power then some ⟨farther, power⟩
  else none

end Rounding

/-- The shortest decimal of the magnitude of a finite number. -/
def shortest (x : Binary64) : Decimal :=
  if x.isZero then ⟨0, 0⟩
  else
    let r := Rounding.of x
    let log2 : Int := (x.mantissa.log2 : Int) + x.exponent
    let guess : Int := log2 * 30103 / 100000
    let top := ceilLog10 x.mantissa x.exponent [guess - 1, guess, guess + 1, guess + 2]
    let found := (List.range 17).findSome? fun digits => r.onGrid? (top - (digits + 1 : Nat))
    trimZeros 20 (found.getD ⟨0, 0⟩)

end Decimal

end PipelineDepot

/-
# Shortest decimals

The decimal that stands for a binary value: of all powers of ten the largest one that has a
multiple in the interval of reals rounding to the value, and of its multiples in the interval
the one nearest to the value. All comparisons are between natural numbers, in quarters of the
value's last bit.
-/

import Offload.Double

namespace Offload

/-- A decimal number `digits · 10 ^ exponent`. -/
structure Decimal where
  digits : Nat
  exponent : Int
  deriving DecidableEq, Repr

namespace Decimal

/-- The reals that round to a positive value, in units of `2 ^ exponent`: the value lies at
`middle`, and the ends count as inside when `closed`. -/
structure RoundingInterval where
  low : Nat
  middle : Nat
  high : Nat
  exponent : Int
  closed : Bool

namespace RoundingInterval

/-- The interval of `mantissa · 2 ^ exponent`. Half a unit lies above; below it is half a unit
too, unless the value starts a binade and its lower neighbour is nearer. A tie rounds to even,
so the ends belong to an even mantissa. -/
def ofDouble (mantissa : Nat) (exponent : Int) : RoundingInterval :=
  let startsBinade := mantissa = BinaryFormat.double.binade ∧
    BinaryFormat.double.leastExponent < exponent
  { low := 4 * mantissa - (if startsBinade then 1 else 2)
    middle := 4 * mantissa
    high := 4 * mantissa + 2
    exponent := exponent - 2
    closed := mantissa % 2 = 0 }

/-- A point of the interval's own grid, in a unit common with the grid of `10 ^ power`. -/
def scaledPoint (interval : RoundingInterval) (power : Int) (point : Nat) : Nat :=
  point * Nat.pow 2 interval.exponent.toNat * Nat.pow 10 (-power).toNat

/-- A multiple of `10 ^ power` in the unit of `scaledPoint`. -/
def scaledMultiple (interval : RoundingInterval) (power : Int) (factor : Nat) : Nat :=
  factor * Nat.pow 10 power.toNat * Nat.pow 2 (-interval.exponent).toNat

/-- Whether a multiple of `10 ^ power` lies in the interval. -/
def holds (interval : RoundingInterval) (power : Int) (factor : Nat) : Bool :=
  let point := interval.scaledMultiple power factor
  let low := interval.scaledPoint power interval.low
  let high := interval.scaledPoint power interval.high
  if interval.closed then low ≤ point && point ≤ high else low < point && point < high

/-- The multiple of `10 ^ power` in the interval that is nearest to its middle, if any: one of
the two neighbours of the middle, the even one at equal distance. -/
def nearestMultiple? (interval : RoundingInterval) (power : Int) : Option Nat :=
  let middle := interval.scaledPoint power interval.middle
  let step := interval.scaledMultiple power 1
  let below := middle / step
  let nearer := roundedQuotient middle step
  let farther := if nearer = below then below + 1 else below
  if interval.holds power nearer then some nearer
  else if interval.holds power farther then some farther
  else none

/-- The first power of ten with a multiple in the interval, from `high` down over `count`
powers. -/
def coarsest? (interval : RoundingInterval) : Nat → Int → Option Decimal
  | 0, _ => none
  | count + 1, high =>
      match interval.nearestMultiple? high with
      | some digits => some ⟨digits, high⟩
      | none => interval.coarsest? count (high - 1)

end RoundingInterval

/-- The shortest decimal of a positive finite double. No double exceeds `10 ^ 309`, and every
rounding interval is wider than `10 ^ (-324)`. -/
def shortest (mantissa : Nat) (exponent : Int) : Decimal :=
  ((RoundingInterval.ofDouble mantissa exponent).coarsest? 634 309).getD ⟨0, 0⟩

end Decimal

end Offload

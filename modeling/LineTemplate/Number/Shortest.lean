/-!
The shortest decimal that reads back as a given binary number. The number is
`mantissa * 2 ^ exponent`; the reals that round to it form an interval, whose ends belong to it
exactly when the mantissa is even. Of the decimals with the fewest digits in that interval the
nearest is taken, and of two equally near ones the larger.
-/

namespace LineTemplate.Number

/-- The reals that round to a number, in quarters of the unit of its last place. `unitUp` and
`unitDown` give that quarter as the fraction `unitUp / unitDown`. -/
structure Interval where
  low : Nat
  middle : Nat
  high : Nat
  closed : Bool
  unitUp : Nat
  unitDown : Nat
  deriving Repr

/-- Below a power of two the neighbours lie twice as close, unless they are as fine as can be. -/
def Interval.around (mantissa : Nat) (exponent : Int) (finest : Bool) : Interval :=
  { low := if mantissa == Nat.pow 2 52 && !finest then 4 * mantissa - 1 else 4 * mantissa - 2
    middle := 4 * mantissa
    high := 4 * mantissa + 2
    closed := mantissa % 2 == 0
    unitUp := Nat.pow 2 (exponent - 2).toNat
    unitDown := Nat.pow 2 (2 - exponent).toNat }

/-- Numerator and denominator that put `coefficient * 10 ^ power` and the interval on one scale:
`coefficient * decimalScale` against `bound * binaryScale`. -/
def Interval.scales (interval : Interval) (power : Int) : Nat × Nat :=
  (Nat.pow 10 power.toNat * interval.unitDown, Nat.pow 10 (-power).toNat * interval.unitUp)

def Interval.contains (interval : Interval) (coefficient : Nat) (power : Int) : Bool :=
  let (decimalScale, binaryScale) := interval.scales power
  let point := coefficient * decimalScale
  let low := interval.low * binaryScale
  let high := interval.high * binaryScale
  if interval.closed then low ≤ point && point ≤ high else low < point && point < high

/-- The multiple of a power of ten that lies in the interval and nearest to its middle. Only the
two multiples around the middle can be it. -/
def Interval.nearest? (interval : Interval) (power : Int) : Option Nat :=
  let (decimalScale, binaryScale) := interval.scales power
  let middle := interval.middle * binaryScale
  let below := middle / decimalScale
  let above := below + 1
  match interval.contains below power, interval.contains above power with
  | true, true =>
      if middle - below * decimalScale < above * decimalScale - middle then some below
      else some above
  | true, false => some below
  | false, true => some above
  | false, false => none

/-- The power of ten of the first digit of a fraction. -/
def leadingPower (numerator denominator : Nat) : Int :=
  if denominator ≤ numerator then (Nat.toDigits 10 (numerator / denominator)).length - 1
  else
    let reciprocal := (denominator + numerator - 1) / numerator
    Int.negOfNat (Nat.toDigits 10 (reciprocal - 1)).length

/-- Coefficient and power of ten of the shortest decimal. Seventeen digits tell any two binary
numbers apart, so the last alternative is never needed. -/
def shortest (mantissa : Nat) (exponent : Int) (finest : Bool) : Nat × Int :=
  let interval := Interval.around mantissa exponent finest
  let first := leadingPower (interval.middle * interval.unitUp) interval.unitDown
  let found := (List.range 18).findSome? fun (place : Nat) =>
    let power := first - place
    (interval.nearest? power).map fun coefficient => (coefficient, power)
  found.getD (interval.middle, 0)

end LineTemplate.Number

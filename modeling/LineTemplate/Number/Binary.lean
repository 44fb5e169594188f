/-!
Real numbers as their bits say them: a mantissa times a power of two. Rounding to integers and the
truncated remainder are computed on that form with integers, so each result is exact.
-/

namespace LineTemplate.Number

inductive Binary where
  | notANumber
  | infinite (negative : Bool)
  | finite (negative : Bool) (mantissa : Nat) (exponent : Int)
  deriving DecidableEq, Repr

/-- The exponent of the smallest positive real number. -/
def leastExponent : Int := -1074

/-- The mantissa from which on a real number is normal. -/
def normalMantissa : Nat := Nat.pow 2 52

def Binary.ofFloat (value : Float) : Binary :=
  let bits := value.toBits.toNat
  let negative := bits / Nat.pow 2 63 == 1
  let exponentField : Nat := bits / Nat.pow 2 52 % Nat.pow 2 11
  let fraction := bits % Nat.pow 2 52
  if exponentField = 2047 then
    if fraction = 0 then .infinite negative else .notANumber
  else if exponentField = 0 then .finite negative fraction leastExponent
  else .finite negative (normalMantissa + fraction) (exponentField + leastExponent - 1)

/-- The real number `mantissa * 2 ^ exponent`, for a mantissa of at most 53 bits and an exponent in
range. -/
def Binary.toFloat : Binary → Float
  | .notANumber => 0.0 / 0.0
  | .infinite negative => if negative then -(1.0 / 0.0) else 1.0 / 0.0
  | .finite negative mantissa exponent =>
      let room : Int := 52 - mantissa.log2
      let shift := (min room (exponent - leastExponent)).toNat
      let full := mantissa <<< shift
      let exponentField :=
        if full < normalMantissa then 0 else (exponent - shift - leastExponent + 1).toNat
      let magnitude := exponentField * Nat.pow 2 52 + full % Nat.pow 2 52
      Float.ofBits (UInt64.ofNat (if negative then Nat.pow 2 63 + magnitude else magnitude))

def signed (negative : Bool) (magnitude : Nat) : Int :=
  if negative then -(magnitude : Int) else magnitude

/-- The largest integer that is not above the number; none when it is not finite. -/
def floor? (value : Float) : Option Int :=
  match Binary.ofFloat value with
  | .finite negative mantissa exponent =>
      if 0 ≤ exponent then some (signed negative (mantissa * Nat.pow 2 exponent.toNat))
      else some (Int.fdiv (signed negative mantissa) (Nat.pow 2 (-exponent).toNat))
  | _ => none

/-- The nearest integer, a half going away from zero; none when the number is not finite. -/
def round? (value : Float) : Option Int :=
  match Binary.ofFloat value with
  | .finite negative mantissa exponent =>
      if 0 ≤ exponent then some (signed negative (mantissa * Nat.pow 2 exponent.toNat))
      else
        let unit := Nat.pow 2 (-exponent).toNat
        some (signed negative ((2 * mantissa + unit) / (2 * unit)))
  | _ => none

/-- What is left of the dividend after taking the divisor from it as often as it fits, towards
zero. The sign is the dividend's. -/
def remainder (dividend divisor : Float) : Float :=
  match Binary.ofFloat dividend, Binary.ofFloat divisor with
  | .finite negative mantissa exponent, .finite _ divisorMantissa divisorExponent =>
      if divisorMantissa = 0 then Binary.toFloat .notANumber
      else
        let common := min exponent divisorExponent
        let left := mantissa * Nat.pow 2 (exponent - common).toNat
        let right := divisorMantissa * Nat.pow 2 (divisorExponent - common).toNat
        Binary.toFloat (.finite negative (left % right) common)
  | .finite .., .infinite _ => dividend
  | _, _ => Binary.toFloat .notANumber

end LineTemplate.Number

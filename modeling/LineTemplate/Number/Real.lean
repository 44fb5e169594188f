import LineTemplate.Number.Binary
import LineTemplate.Number.Decimal
import LineTemplate.Number.Shortest

/-!
The text of a real number, and reading it. A finite number is written in positional notation,
however large or small, with the fewest digits that read back to it; a whole number has no point.
-/

namespace LineTemplate.Number

/-- `coefficient * 10 ^ power` in positional notation. -/
def positional (coefficient : Nat) (power : Int) : List Char :=
  let digits := Nat.toDigits 10 coefficient
  if 0 ≤ power then digits ++ List.replicate power.toNat '0'
  else
    let places := (-power).toNat
    let padded := List.replicate (places + 1 - digits.length) '0' ++ digits
    let whole := padded.take (padded.length - places)
    let fraction := padded.drop (padded.length - places)
    let kept := (fraction.reverse.dropWhile (· == '0')).reverse
    if kept.isEmpty then whole else whole ++ '.' :: kept

def realText (value : Float) : String :=
  match Binary.ofFloat value with
  | .notANumber => "NaN"
  | .infinite negative => if negative then "-inf" else "inf"
  | .finite negative mantissa exponent =>
      let magnitude :=
        if mantissa = 0 then ['0']
        else
          let (coefficient, power) := shortest mantissa exponent (exponent == leastExponent)
          positional coefficient power
      String.ofList (if negative then '-' :: magnitude else magnitude)

/-- A decimal numeral, or one of the words for an infinite number or none at all, in any case. -/
def real? (text : String) : Option Float :=
  let (negative, word) := splitSign text.toList
  let word := String.ofList (word.map Char.toLower)
  if word == "inf" || word == "infinity" then some (Binary.infinite negative).toFloat
  else if word == "nan" then some Binary.notANumber.toFloat
  else (decimal? text.toList).map Decimal.toFloat

end LineTemplate.Number

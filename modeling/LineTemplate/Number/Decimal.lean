/-!
Decimal numerals: reading an integer of 64 bits, reading a decimal fraction exactly, and writing an
integer. A fraction is kept as a coefficient and a power of ten, so that rounding to a real number
is one last step.
-/

namespace LineTemplate.Number

def digitValue (digit : Char) : Nat :=
  digit.toNat - '0'.toNat

/-- Value of a string of digits in the given base, most significant first. -/
def ofDigits (base : Nat) (value : Char → Nat) (digits : List Char) : Nat :=
  digits.foldl (fun total digit => total * base + value digit) 0

theorem of_digits_concat (base : Nat) (value : Char → Nat) (digits : List Char) (digit : Char) :
    ofDigits base value (digits ++ [digit]) = ofDigits base value digits * base + value digit := by
  simp [ofDigits]

def ofDecimalDigits (digits : List Char) : Nat :=
  ofDigits 10 digitValue digits

/-- A sign at the start of a numeral; `true` is minus. -/
def splitSign : List Char → Bool × List Char
  | '-' :: rest => (true, rest)
  | '+' :: rest => (false, rest)
  | characters => (false, characters)

def isDigits (characters : List Char) : Bool :=
  !characters.isEmpty && characters.all Char.isDigit

/-- The integer, if 64 bits with a sign can hold it. -/
def fit? (value : Int) : Option Int64 :=
  if -0x8000000000000000 ≤ value ∧ value < 0x8000000000000000 then some (Int64.ofInt value) else none

theorem fit_of_to_int (value : Int64) : fit? value.toInt = some value := by
  have lower := value.le_toInt
  have upper := value.toInt_lt
  simp only [fit?]
  rw [if_pos ⟨by omega, by omega⟩, Int64.ofInt_toInt]

theorem to_int_of_fit {value : Int} {result : Int64} (fits : fit? value = some result) :
    result.toInt = value := by
  simp only [fit?] at fits
  split at fits
  · next bounds =>
      cases fits
      exact Int64.toInt_ofInt_of_le (by omega) (by omega)
  · cases fits

/-- Optional sign, then one or more digits, in the range of 64 bits. -/
def integer? (characters : List Char) : Option Int64 :=
  let (negative, digits) := splitSign characters
  if isDigits digits then
    let magnitude : Int := ofDecimalDigits digits
    fit? (if negative then -magnitude else magnitude)
  else none

def integerText (value : Int64) : String :=
  toString value.toInt

/-- The number `coefficient * 10 ^ exponent`, negated if marked so. -/
structure Decimal where
  negative : Bool
  coefficient : Nat
  exponent : Int
  deriving DecidableEq, Repr

/-- `e` or `E`, an optional sign and digits, and nothing after them; or nothing at all. -/
def exponentPart? : List Char → Option Int
  | [] => some 0
  | mark :: rest =>
      let (negative, digits) := splitSign rest
      if (mark == 'e' || mark == 'E') && isDigits digits then
        let magnitude : Int := ofDecimalDigits digits
        some (if negative then -magnitude else magnitude)
      else none

/-- Optional sign, digits with at most one point among or beside them, optional exponent. -/
def decimal? (characters : List Char) : Option Decimal :=
  let (negative, unsigned) := splitSign characters
  let whole := unsigned.takeWhile Char.isDigit
  let afterWhole := unsigned.dropWhile Char.isDigit
  let (fraction, afterFraction) :=
    match afterWhole with
    | '.' :: rest => (rest.takeWhile Char.isDigit, rest.dropWhile Char.isDigit)
    | _ => ([], afterWhole)
  if whole.isEmpty && fraction.isEmpty then none
  else
    (exponentPart? afterFraction).map fun exponent =>
      { negative
        coefficient := ofDecimalDigits (whole ++ fraction)
        exponent := exponent - fraction.length }

/-- The nearest real number, infinite when the magnitude is beyond the largest finite one. -/
def Decimal.toFloat (decimal : Decimal) : Float :=
  let magnitude :=
    if 0 ≤ decimal.exponent then
      Float.ofScientific decimal.coefficient false decimal.exponent.toNat
    else Float.ofScientific decimal.coefficient true (-decimal.exponent).toNat
  if decimal.negative then -magnitude else magnitude

end LineTemplate.Number

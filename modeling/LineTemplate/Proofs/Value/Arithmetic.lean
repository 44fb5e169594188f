import LineTemplate.Proofs.Number.Decimal
import LineTemplate.Proofs.Number.Integers
import LineTemplate.Proofs.Success
import LineTemplate.Value.Arithmetic

/-!
Arithmetic on values that read as integers. The answer is the exact result, or an error where 64
bits cannot hold it. A division asks whether its divisor is zero as a real number, which is zero for
no other integer; and it asks for the remainder of the operands, which there is for all of them but
the least integer by minus one.
-/

namespace LineTemplate.Value

/-- An operator answers with its exact result if 64 bits can hold it, else with an error. -/
structure Exact (operator : Operator) (result : ℤ) (answer : Except ArithmeticError Value) :
    Prop where
  fits : ∀ value : Int64, value.toInt = result → answer = .ok (.integer value)
  overflows : (∀ value : Int64, value.toInt ≠ result) → answer = .error (.overflow operator)

theorem exact_of_fitted (operator : Operator) (result : ℤ) :
    Exact operator result (fitted operator result) := by
  constructor
  · rintro value rfl
    rw [fitted, Number.fit_of_to_int]
  · intro none
    cases fit : Number.fit? result with
    | none => rw [fitted, fit]
    | some value => exact absurd (Number.to_int_of_fit fit) (none value)

/-- An exact answer is an integer or an error. -/
theorem not_real_of_exact {operator : Operator} {result : ℤ} {answer : Except ArithmeticError Value}
    (exact : Exact operator result answer) (magnitude : Float) : answer ≠ .ok (.real magnitude) := by
  by_cases fits : ∃ value : Int64, value.toInt = result
  · obtain ⟨value, equal⟩ := fits
    rw [exact.fits value equal]
    nofun
  · rw [exact.overflows (not_exists.mp fits)]
    nofun

section Reading

variable {left right : Value} {dividend divisor : Int64}

theorem not_plain_of_reads {numeral : Numeral} (reads : left.numeral? = some numeral) :
    left.isPlainText = false := by
  cases left with
  | text => rw [isPlainText, show Numeral.ofText? _ = some numeral from reads, Option.isNone_some]
  | _ => rfl

theorem operands_of_reads (operator : Operator)
    (leftReads : left.numeral? = some (.integer dividend))
    (rightReads : right.numeral? = some (.integer divisor)) :
    operands operator left right = .ok (.integer dividend, .integer divisor) := by
  rw [operands, leftReads, rightReads]

theorem add_of_reads (leftReads : left.numeral? = some (.integer dividend))
    (rightReads : right.numeral? = some (.integer divisor)) :
    left.add right = fitted .add (dividend.toInt + divisor.toInt) := by
  rw [add, not_plain_of_reads leftReads, not_plain_of_reads rightReads, Bool.or_self,
    if_neg Bool.false_ne_true, operands_of_reads .add leftReads rightReads]
  rfl

theorem subtract_of_reads (leftReads : left.numeral? = some (.integer dividend))
    (rightReads : right.numeral? = some (.integer divisor)) :
    left.subtract right = fitted .subtract (dividend.toInt - divisor.toInt) := by
  rw [subtract, operands_of_reads .subtract leftReads rightReads]
  rfl

theorem multiply_of_reads (leftReads : left.numeral? = some (.integer dividend))
    (rightReads : right.numeral? = some (.integer divisor)) :
    left.multiply right = fitted .multiply (dividend.toInt * divisor.toInt) := by
  rw [multiply, operands_of_reads .multiply leftReads rightReads]
  rfl

theorem negate_of_reads (reads : left.numeral? = some (.integer dividend)) :
    left.negate = fitted .subtract (-dividend.toInt) := by
  rw [negate, reads]

theorem divide_by_zero_of_reads (leftReads : left.numeral? = some (.integer dividend))
    (rightReads : right.numeral? = some (.integer 0)) :
    left.divide right = .error .divisionByZero ∧ left.remainder right = .error .divisionByZero := by
  have zero : ((Numeral.integer 0).toFloat == 0.0) = true :=
    (Number.real_of_integer_eq_zero_iff 0).mpr rfl
  constructor
  · rw [divide, operands_of_reads .divide leftReads rightReads]
    simp only [bind, Except.bind]
    rw [if_pos zero]
  · rw [remainder, operands_of_reads .remainder leftReads rightReads]
    simp only [bind, Except.bind]
    rw [if_pos zero]

theorem divide_of_reads (leftReads : left.numeral? = some (.integer dividend))
    (rightReads : right.numeral? = some (.integer divisor)) (nonzero : divisor ≠ 0) :
    left.divide right =
      match exactQuotient? (.integer dividend) (.integer divisor) with
      | some quotient => .ok (.integer quotient)
      | none => .ok (.real (Float.ofInt dividend.toInt / Float.ofInt divisor.toInt)) := by
  have some : ¬ ((Numeral.integer divisor).toFloat == 0.0) = true :=
    fun zero => nonzero ((Number.real_of_integer_eq_zero_iff divisor).mp zero)
  rw [divide, operands_of_reads .divide leftReads rightReads]
  exact if_neg some

theorem remainder_of_reads (leftReads : left.numeral? = some (.integer dividend))
    (rightReads : right.numeral? = some (.integer divisor)) (nonzero : divisor ≠ 0) :
    left.remainder right = integerRemainder dividend divisor := by
  have some : ¬ ((Numeral.integer divisor).toFloat == 0.0) = true :=
    fun zero => nonzero ((Number.real_of_integer_eq_zero_iff divisor).mp zero)
  rw [remainder, operands_of_reads .remainder leftReads rightReads]
  exact if_neg some

end Reading

section Quotients

variable {dividend divisor : Int64}

/-- All quotients of integers but one are held by 64 bits. -/
def QuotientFits (dividend divisor : Int64) : Prop :=
  ¬ (dividend = Int64.minValue ∧ divisor = -1)

theorem quotient_bounds (nonzero : divisor ≠ 0) (fits : QuotientFits dividend divisor) :
    -0x8000000000000000 ≤ Int.tdiv dividend.toInt divisor.toInt ∧
      Int.tdiv dividend.toInt divisor.toInt < 0x8000000000000000 := by
  have lower := dividend.le_toInt
  have upper := dividend.toInt_lt
  have magnitude := Int.natAbs_tdiv dividend.toInt divisor.toInt
  rw [Ne, ← Int64.toInt_inj, Int64.toInt_zero] at nonzero
  by_cases least : dividend.toInt = -0x8000000000000000
  · by_cases one : divisor.toInt = 1
    · rw [one, Int.tdiv_one]
      omega
    · have notMinusOne : divisor.toInt ≠ -1 := by
        intro minusOne
        exact fits ⟨Int64.toInt_inj.mp least, Int64.toInt_inj.mp minusOne⟩
      have atLeastTwo : 2 ≤ divisor.toInt.natAbs := by omega
      have half : (Int.tdiv dividend.toInt divisor.toInt).natAbs ≤ dividend.toInt.natAbs / 2 :=
        magnitude ▸ Nat.div_le_div_left atLeastTwo (by decide)
      rw [least] at half ⊢
      omega
  · have notLarger : (Int.tdiv dividend.toInt divisor.toInt).natAbs ≤ dividend.toInt.natAbs :=
      magnitude ▸ Nat.div_le_self _ _
    omega

theorem integer_remainder_eq (nonzero : divisor ≠ 0) (fits : QuotientFits dividend divisor) :
    integerRemainder dividend divisor =
      fitted .remainder (Int.tmod dividend.toInt divisor.toInt) := by
  obtain ⟨lower, upper⟩ := quotient_bounds nonzero fits
  rw [integerRemainder, Number.fit_of_bounds lower upper]

theorem exact_quotient_of_divides (nonzero : divisor ≠ 0) (fits : QuotientFits dividend divisor)
    (divides : divisor.toInt ∣ dividend.toInt) :
    exactQuotient? (.integer dividend) (.integer divisor) =
      some (Int64.ofInt (Int.tdiv dividend.toInt divisor.toInt)) := by
  obtain ⟨lower, upper⟩ := quotient_bounds nonzero fits
  rw [exactQuotient?, if_pos (Int.tmod_eq_zero_of_dvd divides), Number.fit_of_bounds lower upper]

theorem exact_quotient_of_not_divides (rest : ¬ divisor.toInt ∣ dividend.toInt) :
    exactQuotient? (.integer dividend) (.integer divisor) = none := by
  rw [exactQuotient?, if_neg fun none => rest (Int.dvd_of_tmod_eq_zero none)]

end Quotients

section Divisions

variable {left right : Value} {dividend divisor : Int64}

theorem divide_by_zero_iff (leftReads : left.numeral? = some (.integer dividend))
    (rightReads : right.numeral? = some (.integer divisor)) :
    left.divide right = .error .divisionByZero ↔ divisor = 0 := by
  constructor
  · intro refused
    by_contra nonzero
    rw [divide_of_reads leftReads rightReads nonzero] at refused
    split at refused <;> cases refused
  · rintro rfl
    exact (divide_by_zero_of_reads leftReads rightReads).1

theorem remainder_by_zero_iff (leftReads : left.numeral? = some (.integer dividend))
    (rightReads : right.numeral? = some (.integer divisor)) :
    left.remainder right = .error .divisionByZero ↔ divisor = 0 := by
  constructor
  · intro refused
    by_contra nonzero
    rw [remainder_of_reads leftReads rightReads nonzero, integerRemainder, fitted] at refused
    split at refused
    · split at refused <;> cases refused
    · cases refused
  · rintro rfl
    exact (divide_by_zero_of_reads leftReads rightReads).2

theorem divide_exact (leftReads : left.numeral? = some (.integer dividend))
    (rightReads : right.numeral? = some (.integer divisor)) (nonzero : divisor ≠ 0)
    (fits : QuotientFits dividend divisor) {quotient : ℤ}
    (product : quotient * divisor.toInt = dividend.toInt) :
    Exact .divide quotient (left.divide right) := by
  have divides : divisor.toInt ∣ dividend.toInt := ⟨quotient, by rw [← product, mul_comm]⟩
  have some : divisor.toInt ≠ 0 := by rwa [Ne, ← Int64.toInt_zero, Int64.toInt_inj]
  have truncated : Int.tdiv dividend.toInt divisor.toInt = quotient := by
    rw [← product, Int.mul_tdiv_cancel _ some]
  have answer : left.divide right = fitted .divide quotient := by
    obtain ⟨lower, upper⟩ := quotient_bounds nonzero fits
    rw [divide_of_reads leftReads rightReads nonzero, exact_quotient_of_divides nonzero fits divides,
      fitted, ← truncated, Number.fit_of_bounds lower upper]
  rw [answer]
  exact exact_of_fitted .divide quotient

theorem divide_real_iff (leftReads : left.numeral? = some (.integer dividend))
    (rightReads : right.numeral? = some (.integer divisor)) (nonzero : divisor ≠ 0)
    (fits : QuotientFits dividend divisor) :
    (∃ magnitude, left.divide right = .ok (.real magnitude)) ↔
      ¬ divisor.toInt ∣ dividend.toInt := by
  constructor
  · rintro ⟨magnitude, isReal⟩ ⟨quotient, product⟩
    have exact := divide_exact leftReads rightReads nonzero fits (by rw [product, mul_comm])
    exact not_real_of_exact exact magnitude isReal
  · intro rest
    rw [divide_of_reads leftReads rightReads nonzero, exact_quotient_of_not_divides rest]
    exact ⟨_, rfl⟩

theorem remainder_exact (leftReads : left.numeral? = some (.integer dividend))
    (rightReads : right.numeral? = some (.integer divisor)) (nonzero : divisor ≠ 0)
    (fits : QuotientFits dividend divisor) :
    Exact .remainder (Int.tmod dividend.toInt divisor.toInt) (left.remainder right) := by
  rw [remainder_of_reads leftReads rightReads nonzero, integer_remainder_eq nonzero fits]
  exact exact_of_fitted .remainder _

end Divisions

/-- Sums, differences, products and negations of integers are exact or overflow. Quotients and
remainders are refused for a zero divisor alone; a quotient is exact or overflows where the divisor
divides, and is real elsewhere. Text that spells an integer counts as that integer. -/
theorem integers_are_exact {left right : Value} {x y : Int64}
    (leftReads : left.numeral? = some (.integer x))
    (rightReads : right.numeral? = some (.integer y)) :
    Exact .add (x.toInt + y.toInt) (left.apply .add right) ∧
      Exact .subtract (x.toInt - y.toInt) (left.apply .subtract right) ∧
      Exact .multiply (x.toInt * y.toInt) (left.apply .multiply right) ∧
      Exact .subtract (-x.toInt) left.negate ∧
      (left.apply .divide right = .error .divisionByZero ↔ y = 0) ∧
      (left.apply .remainder right = .error .divisionByZero ↔ y = 0) ∧
      (y ≠ 0 → QuotientFits x y →
        (∀ quotient : ℤ, quotient * y.toInt = x.toInt →
          Exact .divide quotient (left.apply .divide right)) ∧
        ((∃ magnitude, left.apply .divide right = .ok (.real magnitude)) ↔
          ¬ y.toInt ∣ x.toInt) ∧
        Exact .remainder (Int.tmod x.toInt y.toInt) (left.apply .remainder right)) := by
  simp only [apply]
  refine ⟨?_, ?_, ?_, ?_, divide_by_zero_iff leftReads rightReads,
    remainder_by_zero_iff leftReads rightReads, fun nonzero fits => ⟨fun quotient product =>
      divide_exact leftReads rightReads nonzero fits product,
      divide_real_iff leftReads rightReads nonzero fits,
      remainder_exact leftReads rightReads nonzero fits⟩⟩
  · rw [add_of_reads leftReads rightReads]
    exact exact_of_fitted .add _
  · rw [subtract_of_reads leftReads rightReads]
    exact exact_of_fitted .subtract _
  · rw [multiply_of_reads leftReads rightReads]
    exact exact_of_fitted .multiply _
  · rw [negate_of_reads leftReads]
    exact exact_of_fitted .subtract _

theorem integers_are_exact_spelled :
    (text " -7").numeral? = some (.integer (-7)) ∧ (integer 2).numeral? = some (.integer 2) ∧
      (text " -7").apply .remainder (integer 2) = .ok (integer (-1)) ∧
      (integer Int64.maxValue).apply .add (integer 2) = .error (.overflow .add) := by
  have spelled : (text " -7").numeral? = some (.integer (-7)) := by decide
  have written : (integer 2).numeral? = some (.integer 2) := rfl
  have largest : (integer Int64.maxValue).numeral? = some (.integer Int64.maxValue) := rfl
  obtain ⟨-, -, -, -, -, -, quotients⟩ := integers_are_exact spelled written
  obtain ⟨-, -, remainder⟩ := quotients (by decide) (by rintro ⟨equal, -⟩; revert equal; decide)
  refine ⟨spelled, written, remainder.fits (-1) (by decide), ?_⟩
  apply (integers_are_exact largest written).1.overflows
  intro value
  have upper := value.toInt_lt
  exact Int.ne_of_lt (Int.lt_of_lt_of_le upper (by decide))

/-- Two to the power 63 is the exact quotient of the least integer by minus one and does not fit,
but the quotient is no error; the remainder zero fits, but is one. -/
theorem least_by_minus_one :
    ¬ Exact .divide 0x8000000000000000 ((integer Int64.minValue).apply .divide (integer (-1))) ∧
      ¬ Exact .remainder 0 ((integer Int64.minValue).apply .remainder (integer (-1))) := by
  have least : (integer Int64.minValue).numeral? = some (.integer Int64.minValue) := rfl
  have minusOne : (integer (-1)).numeral? = some (.integer (-1)) := rfl
  constructor
  · intro exact
    have overflows := exact.overflows fun value => Int.ne_of_lt value.toInt_lt
    rw [apply, divide_of_reads least minusOne (by decide)] at overflows
    cases overflows
  · intro exact
    have zero := exact.fits 0 rfl
    rw [apply, remainder_of_reads least minusOne (by decide)] at zero
    revert zero
    decide

end LineTemplate.Value

import LineTemplate.Proofs.Number.Nearest
import LineTemplate.Proofs.Number.Rounding

/-!
The real operations round their exact results. What is cut off a mantissa is kept as two bits, which
say on which side of a half it lies, so the rounded mantissa is the nearest one.
-/

namespace LineTemplate.Number

open Float.Model (Format UnpackedFloat totalExponent)
open Float.Model.UnpackedFloat

section Places

/-- Where a number lies between a mantissa and the next one, as the two residual bits have it. -/
def Places : ExtendedMantissa → ℚ → Prop
  | ⟨mantissa, false, false⟩, position => position = mantissa
  | ⟨mantissa, false, true⟩, position => mantissa < position ∧ position < mantissa + 1 / 2
  | ⟨mantissa, true, false⟩, position => position = mantissa + 1 / 2
  | ⟨mantissa, true, true⟩, position => mantissa + 1 / 2 < position ∧ position < mantissa + 1

variable {extended : ExtendedMantissa} {position : ℚ}

theorem places_shift_one (places : Places extended position) :
    Places extended.shiftRightOne (position / 2) := by
  obtain ⟨mantissa, round, sticky⟩ := extended
  have halves : (mantissa : ℚ) = 2 * (mantissa / 2 : ℕ) + (mantissa % 2 : ℕ) := by
    exact_mod_cast (Nat.div_add_mod mantissa 2).symm
  rcases Nat.mod_two_eq_zero_or_one mantissa with even | odd
  · rw [even] at halves
    cases round <;> cases sticky <;>
      simp [Places, ExtendedMantissa.shiftRightOne, even] at places halves ⊢
    · linarith
    · constructor <;> linarith
    · constructor <;> linarith
    · constructor <;> linarith
  · rw [odd] at halves
    cases round <;> cases sticky <;>
      simp [Places, ExtendedMantissa.shiftRightOne, odd] at places halves ⊢
    · linarith
    · constructor <;> linarith
    · constructor <;> linarith
    · constructor <;> linarith

theorem places_shift (places : Places extended position) (count : ℕ) :
    Places (extended >>> count) (position / 2 ^ count) := by
  change Places (count.repeat ExtendedMantissa.shiftRightOne extended) _
  induction count with
  | zero =>
      rw [pow_zero, div_one]
      exact places
  | succ count ih =>
      rw [pow_succ, ← div_div]
      exact places_shift_one ih

theorem floor_of_places (places : Places extended position) : ⌊position⌋ = extended.mantissa := by
  obtain ⟨mantissa, round, sticky⟩ := extended
  rw [Int.floor_eq_iff]
  cases round <;> cases sticky <;> simp only [Places] at places <;>
    constructor <;> push_cast <;> linarith

theorem rounded_of_places (places : Places extended position) :
    (extended.roundedMantissa : ℤ) = halfEven position := by
  have floor := floor_of_places places
  have fraction : Int.fract position = position - extended.mantissa := by
    rw [← Int.self_sub_floor, floor, Int.cast_natCast]
  obtain ⟨mantissa, round, sticky⟩ := extended
  cases round <;> cases sticky
  case false.false =>
    rw [half_even_of_lt (by simp only [Places] at places; linarith), floor]
    rfl
  case false.true =>
    rw [half_even_of_lt (by simp only [Places] at places; linarith), floor]
    rfl
  case true.false =>
    rw [half_even_of_half (by simp only [Places] at places; linarith), floor]
    rfl
  case true.true =>
    rw [half_even_of_gt (by simp only [Places] at places; linarith), floor]
    rfl

end Places

section Rounding

/-- A rounded mantissa may have gained a digit, and gives it up without loss. -/
theorem settle {rounded : ℕ} {place : ℤ} (bound : rounded ≤ 2 ^ 53) (least : leastExponent ≤ place)
    (full : place = leastExponent ∨ 2 ^ 52 ≤ rounded) :
    let settled := shiftToTargetExponent Format.binary64 rounded place .exact
    settled.1.mantissa < 2 ^ 53 ∧ leastExponent ≤ settled.2 ∧
      (settled.2 = leastExponent ∨ 2 ^ 52 ≤ settled.1.mantissa) ∧
      (settled.1.mantissa : ℚ) * 2 ^ settled.2 = rounded * 2 ^ place := by
  simp only [shiftToTargetExponent, shiftToExponent, target_eq, extended_shift,
    extended_of_accuracy]
  rcases bound.eq_or_lt with rfl | less
  · have amount : (max ((Nat.log2 (2 ^ 53) : ℤ) + place - 52) leastExponent - place).toNat = 1 := by
      rw [Nat.log2_two_pow]
      omega
    rw [amount]
    refine ⟨by decide, by omega, Or.inr (by decide), ?_⟩
    rw [Nat.cast_one, zpow_add_one₀ two_ne_zero]
    norm_num
    ring
  · have amount : (max ((rounded.log2 : ℤ) + place - 52) leastExponent - place).toNat = 0 := by
      have log : rounded.log2 ≤ 52 := by
        by_contra above
        have large := Nat.log2_self_le (n := rounded) (by rintro rfl; exact above (by decide))
        have power : 2 ^ 53 ≤ 2 ^ rounded.log2 := Nat.pow_le_pow_right (by decide) (by omega)
        omega
      omega
    rw [amount, Nat.cast_zero, add_zero, pow_zero, Nat.div_one]
    exact ⟨less, least, full, rfl⟩

theorem stands_for_settled {rounded : ℕ} {place : ℤ} (bound : rounded ≤ 2 ^ 53)
    (least : leastExponent ≤ place) (full : place = leastExponent ∨ 2 ^ 52 ≤ rounded) (sign : Sign) :
    StandsFor
      (let settled := shiftToTargetExponent Format.binary64 rounded place .exact
      if zero : settled.1.mantissa = 0 then .zero sign
      else .finite sign settled.1.mantissa settled.2 (Nat.pos_of_ne_zero zero))
      (withSign sign (rounded * 2 ^ place)) := by
  obtain ⟨fits, leastSettled, fullSettled, same⟩ := settle bound least full
  generalize shiftToTargetExponent Format.binary64 rounded place .exact = settled at *
  rw [← same]
  simp only
  split
  · next zero =>
      rw [zero, Nat.cast_zero, zero_mul]
      cases sign with
      | negative => exact neg_zero (G := ℚ) ▸ stands_for_zero _
      | positive => exact stands_for_zero _
  · exact ⟨⟨fits, leastSettled, fullSettled⟩, rfl, rfl⟩

variable {mantissa : ℕ} {exponent : ℤ} {accuracy : Accuracy} {position : ℚ}

/-- The place that a mantissa is cut at is the last one of the number that it starts. -/
theorem target_fits
    (places : Places (ExtendedMantissa.ofMantissaAndAccuracy mantissa accuracy) position)
    {place : ℤ} (target : max ((mantissa.log2 : ℤ) + exponent - 52) leastExponent = place)
    (room : exponent ≤ place) :
    0 ≤ position * 2 ^ exponent ∧ position * 2 ^ exponent < 2 ^ (place + 53) ∧
      (place = leastExponent ∨ 2 ^ (place + 52) ≤ position * 2 ^ exponent) := by
  have floor := floor_of_places places
  rw [extended_of_accuracy, Int.floor_eq_iff, Int.cast_natCast] at floor
  obtain ⟨atLeast, below⟩ := floor
  have unit : (0 : ℚ) < 2 ^ exponent := zpow_pos two_pos exponent
  refine ⟨mul_nonneg ((Nat.cast_nonneg mantissa).trans atLeast) unit.le, ?_, ?_⟩
  · have digits : (mantissa : ℚ) + 1 ≤ 2 ^ (mantissa.log2 + 1) := by
      exact_mod_cast mantissa.lt_log2_self
    calc position * 2 ^ exponent < (mantissa + 1) * 2 ^ exponent := by gcongr
      _ ≤ 2 ^ (mantissa.log2 + 1) * 2 ^ exponent := by gcongr
      _ = 2 ^ ((mantissa.log2 + 1 : ℕ) + exponent) := by
          rw [zpow_add₀ two_ne_zero, zpow_natCast]
      _ ≤ 2 ^ (place + 53) := by
          apply zpow_le_zpow_right₀ one_le_two
          omega
  · rcases eq_or_ne place leastExponent with least | above
    · exact Or.inl least
    · right
      have log : (mantissa.log2 : ℤ) + exponent = place + 52 := by omega
      have nonzero : mantissa ≠ 0 := by
        rintro rfl
        rw [Nat.log2_zero] at log
        omega
      rw [← log, zpow_add₀ two_ne_zero, zpow_natCast]
      gcongr
      exact le_trans (by exact_mod_cast Nat.log2_self_le nonzero) atLeast

theorem places_exact (mantissa : ℕ) :
    Places (ExtendedMantissa.ofMantissaAndAccuracy mantissa .exact) mantissa :=
  rfl

/-- Rounding gives the nearest number, from digits enough to know where the exact one lies. -/
theorem stands_for_round_with_accuracy
    (places : Places (ExtendedMantissa.ofMantissaAndAccuracy mantissa accuracy) position)
    (room : exponent ≤ max (mantissa.log2 + exponent - 52) leastExponent) (sign : Sign) :
    StandsFor (roundWithAccuracy Format.binary64 sign mantissa exponent accuracy)
      (withSign sign (nearest (position * 2 ^ exponent))) := by
  generalize target : max ((mantissa.log2 : ℤ) + exponent - 52) leastExponent = place at room
  have least : leastExponent ≤ place := target ▸ le_max_right _ _
  obtain ⟨nonnegative, upper, lower⟩ := target_fits places target room
  obtain ⟨count, rfl⟩ := Int.le.dest room
  -- the first shift brings the digits to their place, where they are rounded
  have first : shiftToTargetExponent Format.binary64 mantissa exponent accuracy =
      (ExtendedMantissa.ofMantissaAndAccuracy mantissa accuracy >>> count, exponent + count) := by
    rw [shiftToTargetExponent, target_eq, target, shiftToExponent, add_sub_cancel_left,
      Int.toNat_natCast]
  have rounded := rounded_of_places (places_shift places count)
  have cut : position / 2 ^ count = position * 2 ^ exponent / 2 ^ (exponent + count) := by
    rw [zpow_add₀ two_ne_zero, zpow_natCast]
    field_simp
  rw [← abs_of_nonneg nonnegative] at upper lower
  have exact := nearest_eq least upper lower
  rw [← cut, ← rounded] at exact
  rw [abs_of_nonneg nonnegative] at upper lower
  have bound := digits_le upper
  have full := lower.imp_right le_digits
  rw [← cut, ← rounded] at bound full
  rw [exact, Int.cast_natCast]
  simp only [roundWithAccuracy, first]
  -- the second shift only takes a digit back that rounding may have added
  exact stands_for_settled (by exact_mod_cast bound) least
    (full.imp_right fun above => by exact_mod_cast above) sign

theorem with_sign_nearest (sign : Sign) (value : ℚ) :
    withSign sign (nearest value) = nearest (withSign sign value) := by
  cases sign with
  | negative => exact (nearest_neg value).symm
  | positive => rfl

theorem stands_for_round (sign : Sign) {mantissa : ℕ} (nonzero : mantissa ≠ 0) (exponent : ℤ) :
    StandsFor (UnpackedFloat.round Format.binary64 sign mantissa exponent)
      (withSign sign (nearest (mantissa * 2 ^ exponent))) := by
  simp only [UnpackedFloat.round, decreaseExponent, target_eq]
  generalize amount : (exponent - max ((mantissa.log2 : ℤ) + exponent - 52) leastExponent).toNat =
    count
  have shifted := log2_shift_left nonzero count
  have same : (mantissa : ℚ) * 2 ^ exponent = (mantissa <<< count : ℕ) * 2 ^ (exponent - count) := by
    rw [Nat.shiftLeft_eq, zpow_sub₀ two_ne_zero, zpow_natCast]
    push_cast
    field_simp
  rw [same]
  exact stands_for_round_with_accuracy (places_exact _) (by omega) _

theorem stands_for_normalize (mantissa : ℤ) (exponent : ℤ) (zeroSign : Sign) :
    StandsFor (UnpackedFloat.normalize Format.binary64 mantissa exponent zeroSign)
      (nearest (mantissa * 2 ^ exponent)) := by
  simp only [UnpackedFloat.normalize]
  split
  · next less =>
      rw [Int.compare_eq_lt] at less
      have nonzero : (-mantissa).toNat ≠ 0 := by omega
      have rounded := stands_for_round .negative nonzero exponent
      have cast : (((-mantissa).toNat : ℕ) : ℚ) = -mantissa := by
        exact_mod_cast Int.toNat_of_nonneg (by omega)
      rwa [with_sign_nearest, cast, withSign, neg_mul, neg_neg] at rounded
  · next equal =>
      rw [Int.compare_eq_eq] at equal
      rw [equal, Int.cast_zero, zero_mul, nearest_zero]
      exact stands_for_zero zeroSign
  · next greater =>
      rw [Int.compare_eq_gt] at greater
      have nonzero : mantissa.toNat ≠ 0 := by omega
      have rounded := stands_for_round .positive nonzero exponent
      have cast : ((mantissa.toNat : ℕ) : ℚ) = mantissa := by
        exact_mod_cast Int.toNat_of_nonneg (by omega)
      rwa [with_sign_nearest, cast, withSign] at rounded

end Rounding

section Products

variable {first second : ℕ} {firstExponent secondExponent : ℤ} {firstPositive : 0 < first}
  {secondPositive : 0 < second} (sign other : Sign)

theorem stands_for_mul
    (room : firstExponent + secondExponent ≤ leastExponent ∨ 52 ≤ (first * second).log2) :
    StandsFor
      (mul Format.binary64 (.finite sign first firstExponent firstPositive)
        (.finite other second secondExponent secondPositive))
      (withSign (sign * other)
        (nearest (first * 2 ^ firstExponent * (second * 2 ^ secondExponent)))) := by
  have same : (first : ℚ) * 2 ^ firstExponent * (second * 2 ^ secondExponent) =
      (first * second : ℕ) * 2 ^ (firstExponent + secondExponent) := by
    rw [zpow_add₀ two_ne_zero]
    push_cast
    ring
  rw [same]
  exact stands_for_round_with_accuracy (places_exact _) (by omega) _

/-- What is left of a division says where behind the digits the exact quotient lies. -/
theorem places_of_rest (quotient : ℕ) {rest divisor : ℕ} (less : rest < divisor) :
    Places (ExtendedMantissa.ofMantissaAndAccuracy quotient (accuracyOfFraction rest divisor))
      (quotient + rest / divisor) := by
  have unit : (0 : ℚ) < divisor := by exact_mod_cast Nat.zero_lt_of_lt less
  rw [accuracyOfFraction]
  by_cases none : rest = 0
  · rw [if_pos none, none, Nat.cast_zero, zero_div, add_zero]
    exact places_exact quotient
  · have some : (0 : ℚ) < rest := by exact_mod_cast Nat.pos_of_ne_zero none
    have below : (rest : ℚ) / divisor < 1 := by
      rw [div_lt_one unit]
      exact_mod_cast less
    have above : (0 : ℚ) < rest / divisor := div_pos some unit
    rw [if_neg none]
    rcases Nat.lt_trichotomy (2 * rest) divisor with shorter | equal | longer
    · have short : (rest : ℚ) / divisor < 1 / 2 := by
        rw [div_lt_div_iff₀ unit two_pos, one_mul, mul_comm]
        exact_mod_cast shorter
      rw [Nat.compare_eq_lt.mpr shorter]
      simp only [ExtendedMantissa.ofMantissaAndAccuracy, Places]
      constructor <;> linarith
    · have half : (rest : ℚ) / divisor = 1 / 2 := by
        rw [div_eq_div_iff unit.ne' two_ne_zero, one_mul, mul_comm]
        exact_mod_cast equal
      rw [Nat.compare_eq_eq.mpr equal]
      simp only [ExtendedMantissa.ofMantissaAndAccuracy, Places]
      linarith
    · have long : 1 / 2 < (rest : ℚ) / divisor := by
        rw [div_lt_div_iff₀ two_pos unit, one_mul, mul_comm]
        exact_mod_cast longer
      rw [Nat.compare_eq_gt.mpr longer]
      simp only [ExtendedMantissa.ofMantissaAndAccuracy, Places]
      constructor <;> linarith

theorem places_of_fraction (dividend : ℕ) {divisor : ℕ} (positive : 0 < divisor) :
    Places
      (ExtendedMantissa.ofMantissaAndAccuracy (dividend / divisor)
        (accuracyOfFraction (dividend % divisor) divisor))
      (dividend / divisor) := by
  have unit : (divisor : ℚ) ≠ 0 := by exact_mod_cast positive.ne'
  have parts : (dividend : ℚ) / divisor =
      (dividend / divisor : ℕ) + (dividend % divisor : ℕ) / divisor := by
    rw [eq_comm, eq_div_iff unit, add_mul, div_mul_cancel₀ _ unit, mul_comm]
    exact_mod_cast Nat.div_add_mod dividend divisor
  rw [parts]
  exact places_of_rest _ (Nat.mod_lt dividend positive)

/-- A dividend is given so many digits that the quotient has enough of them. -/
theorem quotient_reaches {count : ℕ} {place : ℤ} (firstNonzero : first ≠ 0)
    (secondNonzero : second ≠ 0)
    (target : place ≤ max ((first.log2 : ℤ) + firstExponent - (second.log2 + secondExponent) - 53)
      leastExponent)
    (amount : firstExponent - secondExponent = place + count) :
    place ≤ max (((first <<< count) / second).log2 + place - 52) leastExponent := by
  by_cases fine : place ≤ leastExponent
  · exact fine.trans (le_max_right _ _)
  · have digits : second.log2 + 53 ≤ (first <<< count).log2 :=
      le_trans (by omega) (log2_shift_left firstNonzero count)
    have above : 2 ^ (second.log2 + 53) ≤ first <<< count :=
      (Nat.le_log2 (by rintro zero; simp [zero] at digits)).mp digits
    have quotient : 2 ^ 52 ≤ (first <<< count) / second := by
      rw [Nat.le_div_iff_mul_le (Nat.pos_of_ne_zero secondNonzero)]
      calc 2 ^ 52 * second ≤ 2 ^ 52 * 2 ^ (second.log2 + 1) :=
            Nat.mul_le_mul_left _ second.lt_log2_self.le
        _ = 2 ^ (second.log2 + 53) := by rw [← pow_add, add_comm 52, add_assoc]
        _ ≤ first <<< count := above
    have log : 52 ≤ ((first <<< count) / second).log2 :=
      (Nat.le_log2 (by omega)).mpr quotient
    omega

theorem stands_for_div :
    StandsFor
      (div Format.binary64 (.finite sign first firstExponent firstPositive)
        (.finite other second secondExponent secondPositive))
      (withSign (sign / other)
        (nearest (first * 2 ^ firstExponent / (second * 2 ^ secondExponent)))) := by
  have target : Format.binary64.targetExponent
      (totalExponent first firstExponent - totalExponent second secondExponent) =
        max ((first.log2 : ℤ) + firstExponent - (second.log2 + secondExponent) - 53)
          leastExponent := by
    change max ((first.log2 : ℤ) + 1 + firstExponent - (second.log2 + 1 + secondExponent) - 53)
      (-1074) = max _ (-1074)
    omega
  simp only [div, divCore, target]
  generalize chosen : min (firstExponent - secondExponent)
    (max ((first.log2 : ℤ) + firstExponent - (second.log2 + secondExponent) - 53)
      leastExponent) = place
  obtain ⟨count, amount⟩ := Int.le.dest (show place ≤ firstExponent - secondExponent by omega)
  have shift : (firstExponent - secondExponent - place).toNat = count := by omega
  have same : (first : ℚ) * 2 ^ firstExponent / (second * 2 ^ secondExponent) =
      (first <<< count : ℕ) / second * 2 ^ place := by
    have exponents : firstExponent = place + count + secondExponent := by omega
    have divisor : (second : ℚ) ≠ 0 := by exact_mod_cast secondPositive.ne'
    rw [exponents, zpow_add₀ two_ne_zero, zpow_add₀ two_ne_zero, zpow_natCast, Nat.shiftLeft_eq]
    push_cast
    field_simp
  rw [shift, same]
  exact stands_for_round_with_accuracy (places_of_fraction _ secondPositive)
    (quotient_reaches firstPositive.ne' secondPositive.ne' (by omega) amount.symm) _

theorem with_sign_mul (first second : ℚ) :
    withSign sign first * withSign other second = withSign (sign * other) (first * second) := by
  cases sign <;> cases other
  · exact neg_mul_neg first second
  · exact neg_mul first second
  · exact mul_neg first second
  · rfl

theorem with_sign_div (first second : ℚ) :
    withSign sign first / withSign other second = withSign (sign / other) (first / second) := by
  cases sign <;> cases other
  · exact neg_div_neg_eq first second
  · exact neg_div second first
  · exact div_neg first
  · rfl

/-- The factors have so many digits that the product has enough of them. -/
theorem product_reaches (firstPositive : 0 < first) (secondPositive : 0 < second)
    (fullFirst : firstExponent = leastExponent ∨ 2 ^ 52 ≤ first)
    (fullSecond : secondExponent = leastExponent ∨ 2 ^ 52 ≤ second) :
    firstExponent + secondExponent ≤ leastExponent ∨ 52 ≤ (first * second).log2 := by
  have product : first * second ≠ 0 := by positivity
  rcases fullFirst with leastFirst | digitsFirst
  · rcases fullSecond with leastSecond | digitsSecond
    · left
      rw [leastFirst, leastSecond]
      decide
    · exact Or.inr ((Nat.le_log2 product).mpr
        (digitsSecond.trans (Nat.le_mul_of_pos_left second firstPositive)))
  · exact Or.inr ((Nat.le_log2 product).mpr
      (digitsFirst.trans (Nat.le_mul_of_pos_right first secondPositive)))

variable {left right : UnpackedFloat} {leftValue rightValue : ℚ}

/-- The product of finite numbers is the number nearest to their product as rationals. -/
theorem stands_for_product (leftStands : StandsFor left leftValue)
    (rightStands : StandsFor right rightValue) :
    StandsFor (mul Format.binary64 left right) (nearest (leftValue * rightValue)) := by
  obtain ⟨leftFull, leftFinite, rfl⟩ := leftStands
  obtain ⟨rightFull, rightFinite, rfl⟩ := rightStands
  cases left with
  | notANumber => cases leftFinite
  | infinity => cases leftFinite
  | zero =>
      cases right with
      | notANumber => cases rightFinite
      | infinity => cases rightFinite
      | zero =>
          rw [rational_zero, zero_mul, nearest_zero]
          exact stands_for_zero _
      | finite =>
          rw [rational_zero, zero_mul, nearest_zero]
          exact stands_for_zero _
  | finite sign first firstExponent firstPositive =>
      cases right with
      | notANumber => cases rightFinite
      | infinity => cases rightFinite
      | zero =>
          rw [rational_zero, mul_zero, nearest_zero]
          exact stands_for_zero _
      | finite other second secondExponent secondPositive =>
          rw [rational, rational, with_sign_mul, ← with_sign_nearest]
          exact stands_for_mul _ _
            (product_reaches firstPositive secondPositive leftFull.2.2 rightFull.2.2)

/-- The quotient of finite numbers is the number nearest to their quotient as rationals. -/
theorem stands_for_quotient (leftStands : StandsFor left leftValue)
    (rightStands : StandsFor right rightValue) (nonzero : rightValue ≠ 0) :
    StandsFor (div Format.binary64 left right) (nearest (leftValue / rightValue)) := by
  obtain ⟨leftFull, leftFinite, rfl⟩ := leftStands
  obtain ⟨rightFull, rightFinite, rfl⟩ := rightStands
  cases right with
  | notANumber => cases rightFinite
  | infinity => cases rightFinite
  | zero => exact absurd rfl nonzero
  | finite other second secondExponent secondPositive =>
      cases left with
      | notANumber => cases leftFinite
      | infinity => cases leftFinite
      | zero =>
          rw [rational_zero, zero_div, nearest_zero]
          exact stands_for_zero _
      | finite sign first firstExponent firstPositive =>
          rw [rational, rational, with_sign_div, ← with_sign_nearest]
          exact stands_for_div _ _

end Products

end LineTemplate.Number

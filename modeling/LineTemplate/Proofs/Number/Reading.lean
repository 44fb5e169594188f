import LineTemplate.Number.Decimal
import LineTemplate.Proofs.Number.Integers

/-!
Reading a decimal that is not zero. If it is above half of the smallest positive number it is not
read as zero, whether the coefficient and the power of ten are real numbers themselves or the
quotient is taken from integers.
-/

namespace LineTemplate.Number

open Float.Model (Format UnpackedFloat)
open Float.Model.UnpackedFloat

section NotZero

/-- Packing a number may make it infinite, but never zero. -/
theorem not_zero_pack {number : UnpackedFloat} (full : Full number) (notZero : NotZero number) :
    NotZero (unpack Format.binary64 (pack Format.binary64 number)) := by
  cases number with
  | notANumber => trivial
  | infinity sign => cases sign <;> trivial
  | zero => exact notZero.elim
  | finite sign mantissa exponent positive =>
      by_cases bound : exponent ≤ largestExponent
      · rw [unpack_pack_finite full bound]
        trivial
      · have large : 2 ^ Format.binary64.exponentBits ≤ (exponent + Format.binary64.exponentBias +
            Format.binary64.mantissaBitsWithoutImplicit).toNat + 1 := by
          rw [largestExponent] at bound
          change 2 ^ 11 ≤ (exponent + 1023 + 52).toNat + 1
          omega
        simp only [pack, if_pos large]
        cases sign <;> trivial

theorem not_zero_of_stands_for {number : UnpackedFloat} {value : ℚ}
    (stands : StandsFor number value) (nonzero : value ≠ 0) :
    NotZero (unpack Format.binary64 (pack Format.binary64 number)) := by
  obtain ⟨full, -, rfl⟩ := stands
  apply not_zero_pack full
  cases number with
  | zero sign => exact nonzero rfl
  | _ => trivial

theorem full_neg {number : UnpackedFloat} (full : Full number) : Full number.neg := by
  cases number <;> exact full

theorem not_zero_neg {value : Float} (notZero : NotZero (unpacked value)) :
    NotZero (unpacked (-value)) := by
  change NotZero (unpack Format.binary64 (pack Format.binary64 (unpacked value).neg))
  apply not_zero_pack (full_neg (full_unpacked value))
  cases is : unpacked value with
  | zero =>
      rw [is] at notZero
      exact notZero.elim
  | _ => trivial

end NotZero

section Decimals

/-- A positive number that is small against the range of real numbers. -/
def isModest : UnpackedFloat → Bool
  | .finite .positive _ exponent _ => exponent ≤ 27
  | _ => false

theorem stands_for_of_modest {value : Float} (modest : isModest (unpacked value) = true) :
    ∃ number : ℚ, StandsFor (unpacked value) number ∧ 0 < number ∧ number < 2 ^ (80 : ℤ) := by
  have full := full_unpacked value
  cases is : unpacked value with
  | finite sign mantissa exponent positive =>
      rw [is] at modest full
      cases sign with
      | negative => cases modest
      | positive =>
          refine ⟨mantissa * 2 ^ exponent, ⟨full, rfl, rfl⟩, magnitude_positive positive exponent, ?_⟩
          have bound : (mantissa : ℚ) < 2 ^ 53 := by exact_mod_cast full.1
          calc (mantissa : ℚ) * 2 ^ exponent < 2 ^ 53 * 2 ^ exponent :=
                mul_lt_mul_of_pos_right bound (zpow_pos two_pos _)
            _ ≤ 2 ^ 53 * 2 ^ (27 : ℤ) := by
                gcongr
                · exact one_le_two
                · exact of_decide_eq_true modest
            _ = 2 ^ (80 : ℤ) := by rw [← zpow_add_digits]; rfl
  | _ =>
      rw [is] at modest
      cases modest

theorem powers_are_modest :
    Float.exactlyRepresentablePowersOfTen.all (fun power => isModest (unpacked power)) = true := by
  decide +kernel

variable {coefficient : ℕ}

theorem not_zero_of_quotient {power : Float} (member : power ∈ Float.exactlyRepresentablePowersOfTen)
    (positive : 0 < coefficient) (short : coefficient < 2 ^ 53) :
    NotZero (unpacked (coefficient.toUInt64.toFloat / power)) := by
  have modest := Array.all_eq_true'.mp powers_are_modest power member
  obtain ⟨number, stands, above, below⟩ := stands_for_of_modest modest
  have atLeastOne : (1 : ℚ) ≤ coefficient := by exact_mod_cast positive
  apply not_zero_of_stands_for (stands_for_quotient (stands_for_of_unsigned short) stands above.ne')
  apply ne_of_gt
  apply nearest_positive
  calc (2 : ℚ) ^ (leastExponent - 1) < 2 ^ (-80 : ℤ) :=
        zpow_lt_zpow_right₀ one_lt_two (by decide)
    _ = 1 / 2 ^ (80 : ℤ) := by rw [zpow_neg, one_div]
    _ ≤ coefficient / number := by gcongr

/-- A decimal that is not rounded to zero is not too deep to be computed. -/
theorem exponent_of_above {exponent : ℤ} (upper : exponent ≤ 0)
    (above : (2 : ℚ) ^ (leastExponent - 1) < coefficient * 10 ^ exponent) :
    -(2048 + (coefficient.log2 : ℤ)) ≤ exponent := by
  have digits : (coefficient : ℚ) ≤ 2 ^ (coefficient.log2 + 1) := by
    exact_mod_cast coefficient.lt_log2_self.le
  have powers : (10 : ℚ) ^ exponent ≤ 2 ^ exponent := by
    obtain ⟨places, rfl⟩ : ∃ places : ℕ, exponent = -places := ⟨(-exponent).toNat, by omega⟩
    rw [zpow_neg, zpow_neg, zpow_natCast, zpow_natCast]
    gcongr
    norm_num
  have below : (2 : ℚ) ^ (leastExponent - 1) < 2 ^ ((coefficient.log2 + 1 : ℕ) + exponent) := by
    calc (2 : ℚ) ^ (leastExponent - 1) < coefficient * 10 ^ exponent := above
      _ ≤ 2 ^ (coefficient.log2 + 1) * 2 ^ exponent := by gcongr
      _ = 2 ^ ((coefficient.log2 + 1 : ℕ) + exponent) := by
          rw [zpow_add₀ two_ne_zero, zpow_natCast]
  have exponents := (zpow_lt_zpow_iff_right₀ one_lt_two).mp below
  rw [leastExponent] at exponents
  omega

theorem coefficient_positive {exponent : ℤ}
    (above : (2 : ℚ) ^ (leastExponent - 1) < coefficient * 10 ^ exponent) : 0 < coefficient := by
  rw [Nat.pos_iff_ne_zero]
  rintro rfl
  rw [Nat.cast_zero, zero_mul] at above
  exact absurd above (not_lt.mpr (zpow_pos two_pos _).le)

theorem not_zero_of_scientific {exponent : ℤ} (upper : exponent ≤ 0)
    (above : (2 : ℚ) ^ (leastExponent - 1) < coefficient * 10 ^ exponent) :
    NotZero (unpacked (Float.ofModel (Float.Model.ofScientific coefficient exponent))) :=
  not_zero_of_stands_for
    (stands_for_of_scientific (coefficient_positive above).ne' (by omega)
      (exponent_of_above upper above))
    (nearest_positive above).ne'

/-- A decimal above half of the smallest positive number is not read as zero. -/
theorem not_zero_of_decimal {places : ℕ}
    (above : (2 : ℚ) ^ (leastExponent - 1) < coefficient * 10 ^ (-(places : ℤ))) :
    NotZero (unpacked (Decimal.toFloat ⟨false, coefficient, -places⟩)) := by
  have positive := coefficient_positive above
  simp only [Decimal.toFloat]
  rw [if_neg Bool.false_ne_true]
  cases places with
  | zero =>
      rw [if_pos (by decide)]
      change NotZero (unpacked (Float.ofScientific coefficient false 0))
      rw [Float.ofScientific]
      split
      · next short =>
          apply not_zero_of_stands_for
            (stands_for_product (stands_for_of_unsigned short.1) stands_for_one)
          rw [mul_one, nearest_of_short short.1]
          exact_mod_cast positive.ne'
      · exact not_zero_of_scientific le_rfl above
  | succ places =>
      have power : (-(-((places + 1 : ℕ) : ℤ))).toNat = places + 1 := by omega
      rw [if_neg (by omega), power, Float.ofScientific]
      split
      · next short => exact not_zero_of_quotient (Array.getElem_mem _) positive short.1
      · exact @not_zero_of_scientific coefficient (-((places + 1 : ℕ) : ℤ)) (by omega) above

end Decimals

end LineTemplate.Number

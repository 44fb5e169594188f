import LineTemplate.Proofs.Number.Operations

/-!
An integer as a real number is the real number nearest to it.
-/

namespace LineTemplate.Number

open Float.Model (Format UnpackedFloat)
open Float.Model.UnpackedFloat

theorem stands_for_neg {number : UnpackedFloat} {value : ℚ} (stands : StandsFor number value) :
    StandsFor number.neg (-value) := by
  obtain ⟨full, finite, rfl⟩ := stands
  cases number with
  | notANumber => cases finite
  | infinity => cases finite
  | zero => exact ⟨trivial, rfl, neg_zero.symm⟩
  | finite sign =>
      refine ⟨full, rfl, ?_⟩
      cases sign with
      | negative => exact (neg_neg _).symm
      | positive => rfl

/-- Packed numbers are unpacked again unless they are too large. -/
theorem stands_for_pack {number : UnpackedFloat} {value : ℚ} (stands : StandsFor number value)
    (bound : |value| < 2 ^ 1024) :
    StandsFor (unpack Format.binary64 (pack Format.binary64 number)) value := by
  rwa [unpack_pack_of_stands_for stands bound]

/-- A decimal whose exponent is not far out of range is rounded once. -/
theorem stands_for_of_scientific {coefficient : ℕ} {exponent : ℤ} (nonzero : coefficient ≠ 0)
    (upper : exponent ≤ 2048) (lower : -(2048 + (coefficient.log2 : ℤ)) ≤ exponent) :
    StandsFor (ofScientific Format.binary64 coefficient exponent)
      (nearest (coefficient * 10 ^ exponent)) := by
  have far : ¬ exponent > 2 ^ Format.binary64.exponentBits := not_lt.mpr upper
  have deep : ¬ exponent < -(2 ^ Format.binary64.exponentBits + (coefficient.log2 : ℤ)) :=
    not_lt.mpr lower
  rw [ofScientific, dif_neg nonzero, if_neg far, if_neg deep]
  by_cases whole : 0 ≤ exponent
  · obtain ⟨power, rfl⟩ := Int.eq_ofNat_of_zero_le whole
    rw [if_pos whole]
    have product : (coefficient : ℚ) * (10 : ℚ) ^ (power : ℤ) =
        (coefficient <<< 53 : ℕ) * 2 ^ (-53 : ℤ) * ((10 ^ power : ℕ) * 2 ^ (0 : ℤ)) := by
      rw [Nat.shiftLeft_eq, zpow_neg, zpow_natCast]
      push_cast
      field_simp
    have digits : 52 ≤ (coefficient <<< 53 * 10 ^ power).log2 := by
      have positive : 0 < coefficient := Nat.pos_of_ne_zero nonzero
      rw [Nat.shiftLeft_eq, Nat.le_log2 (by positivity)]
      calc 2 ^ 52 ≤ coefficient * 2 ^ 53 * 1 := by omega
        _ ≤ coefficient * 2 ^ 53 * 10 ^ power :=
            Nat.mul_le_mul_left _ (Nat.one_le_pow _ _ (by decide))
    rw [product]
    exact stands_for_mul .positive .positive (Or.inr digits)
  · have power : exponent = -((-exponent).toNat : ℤ) := by omega
    have quotient : (coefficient : ℚ) * (10 : ℚ) ^ exponent =
        coefficient * 2 ^ (0 : ℤ) / ((10 ^ (-exponent).toNat : ℕ) * 2 ^ (0 : ℤ)) := by
      conv_lhs => rw [power, zpow_neg, zpow_natCast]
      push_cast
      field_simp
    rw [if_neg whole, quotient]
    exact stands_for_div .positive .positive

section Naturals

variable {value : ℕ}

theorem abs_nearest_lt (bound : value < 2 ^ 64) : |nearest value| < 2 ^ 1024 := by
  have bound : |(value : ℚ)| ≤ 2 ^ (64 : ℤ) := by
    rw [Nat.abs_cast, zpow_ofNat]
    exact_mod_cast bound.le
  calc |nearest value| ≤ 2 ^ (64 : ℤ) := abs_nearest_le (by decide) bound
    _ < 2 ^ (1024 : ℤ) := zpow_lt_zpow_right₀ one_lt_two (by decide)
    _ = 2 ^ 1024 := zpow_ofNat 2 1024

theorem nearest_of_short (short : value < 2 ^ 53) : nearest value = value := by
  have kept := @nearest_of_small value (by rw [Nat.abs_cast]; exact_mod_cast short.le)
  exact_mod_cast kept

theorem stands_for_of_unsigned (short : value < 2 ^ 53) :
    StandsFor (unpacked value.toUInt64.toFloat) value := by
  have small : value < 2 ^ 64 := by omega
  have read : value.toUInt64.toNat = value := by
    rw [Nat.toUInt64, UInt64.toNat_ofNat']
    omega
  have exact : nearest ((value.toUInt64.toNat : ℤ) * 2 ^ (0 : ℤ)) = value := by
    rw [read, zpow_zero, mul_one, Int.cast_natCast, nearest_of_short short]
  have rounded := stands_for_normalize (value.toUInt64.toNat : ℤ) 0 .positive
  rw [exact] at rounded
  have bound := abs_nearest_lt small
  rw [nearest_of_short short] at bound
  exact stands_for_pack rounded bound

theorem stands_for_one : StandsFor (unpacked 1.0) 1 := by
  refine ⟨full_unpacked 1.0, rfl, ?_⟩
  rw [unpacked_one, rational_positive, zpow_neg, zpow_ofNat]
  norm_num

theorem stands_for_of_natural (bound : value < 2 ^ 64) :
    StandsFor (unpacked (Float.ofNat value)) (nearest value) := by
  change StandsFor (unpacked (Float.ofScientific value false 0)) _
  rw [Float.ofScientific]
  split
  · next short =>
      have product := stands_for_product (stands_for_of_unsigned short.1) stands_for_one
      rw [mul_one] at product
      exact stands_for_pack product (abs_nearest_lt bound)
  · next long =>
      have nonzero : value ≠ 0 := by omega
      have product := @stands_for_of_scientific value 0 nonzero (by decide) (by omega)
      rw [zpow_zero, mul_one] at product
      exact stands_for_pack product (abs_nearest_lt bound)

end Naturals

section Integers

theorem stands_for_of_integer {value : ℤ} (bound : |value| < 2 ^ 64) :
    StandsFor (unpacked (Float.ofInt value)) (nearest value) := by
  rw [abs_lt] at bound
  cases value with
  | ofNat magnitude =>
      have small : (magnitude : ℤ) < 2 ^ 64 := bound.2
      exact stands_for_of_natural (by exact_mod_cast small)
  | negSucc before =>
      have magnitude : before.succ < 2 ^ 64 := by omega
      have negative := stands_for_neg (stands_for_of_natural magnitude)
      have packed := stands_for_pack negative (by rw [abs_neg]; exact abs_nearest_lt magnitude)
      rw [← nearest_neg, ← Int.cast_natCast, ← Int.cast_neg] at packed
      exact packed

variable (left right : Int64)

theorem stands_for_of_int64 : StandsFor (unpacked (Float.ofInt left.toInt)) (nearest left.toInt) := by
  have lower := left.le_toInt
  have upper := left.toInt_lt
  exact stands_for_of_integer (abs_lt.mpr ⟨by omega, by omega⟩)

/-- As real numbers, integers compare as the real numbers nearest to them do. -/
theorem compare_of_integers :
    (unpacked (Float.ofInt left.toInt)).compare (unpacked (Float.ofInt right.toInt)) =
      some (compare (nearest left.toInt) (nearest right.toInt)) :=
  compare_of_stands_for (stands_for_of_int64 left) (stands_for_of_int64 right)

theorem real_of_integer_eq_zero_iff :
    (Float.ofInt left.toInt == 0.0) = true ↔ left = 0 := by
  rw [equal_iff, unpacked_zero, compare_of_stands_for (stands_for_of_int64 left) (stands_for_zero _),
    Option.some_inj, compare_eq_iff_eq, nearest_eq_zero_iff, ← Int64.toInt_zero, Int64.toInt_inj]

end Integers

end LineTemplate.Number

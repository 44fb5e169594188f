import LineTemplate.Proofs.Number.Sign

/-!
Rounding a number that is at least one. What is cut off are the binary digits after the last of the
53 that are kept, so the result is at least one as well, unless it is too large to be finite.
-/

namespace LineTemplate.Number

open Float.Model (Format UnpackedFloat totalExponent)
open Float.Model.UnpackedFloat

/-- A number that is at least one if it is finite, with all 53 digits in use. -/
def ReachesOne : UnpackedFloat → Prop
  | .finite sign mantissa exponent _ =>
      sign = .positive ∧ 2 ^ 52 ≤ mantissa ∧ mantissa < 2 ^ 53 ∧ -52 ≤ exponent
  | .zero _ => False
  | _ => True

theorem extended_shift (extended : ExtendedMantissa) (count : Nat) :
    (extended >>> count).mantissa = extended.mantissa / 2 ^ count := by
  change (count.repeat ExtendedMantissa.shiftRightOne extended).mantissa = _
  induction count with
  | zero => exact (Nat.div_one _).symm
  | succ count ih =>
      rw [Nat.repeat, ExtendedMantissa.shiftRightOne, ih, Nat.div_div_eq_div_mul, ← Nat.pow_succ]

theorem extended_of_accuracy (mantissa : Nat) (accuracy : Accuracy) :
    (ExtendedMantissa.ofMantissaAndAccuracy mantissa accuracy).mantissa = mantissa := by
  unfold ExtendedMantissa.ofMantissaAndAccuracy
  split <;> rfl

theorem round_to_nearest_bounds (mantissa : Nat) (accuracy : Accuracy) :
    mantissa ≤ accuracy.roundToNearestEven mantissa ∧
      accuracy.roundToNearestEven mantissa ≤ mantissa + 1 := by
  unfold Accuracy.roundToNearestEven
  split <;> omega

/-- Rounding keeps 53 digits, or fewer where the least exponent leaves no more. -/
theorem target_eq (mantissa : ℕ) (exponent : ℤ) :
    Format.binary64.targetExponent (totalExponent mantissa exponent) =
      max (mantissa.log2 + exponent - 52) leastExponent := by
  change max ((mantissa.log2 : ℤ) + 1 + exponent - 53) (-1074) = max _ (-1074)
  omega

theorem target_exponent {mantissa : Nat} {exponent : Int} (reaches : 0 ≤ mantissa.log2 + exponent) :
    Format.binary64.targetExponent (totalExponent mantissa exponent) =
      mantissa.log2 + exponent - 52 := by
  rw [target_eq, leastExponent]
  omega

/-- The first 53 digits of a number with at least as many. -/
theorem leading_digits {mantissa : Nat} (wide : 52 ≤ mantissa.log2) :
    2 ^ 52 ≤ mantissa / 2 ^ (mantissa.log2 - 52) ∧
      mantissa / 2 ^ (mantissa.log2 - 52) < 2 ^ 53 := by
  have nonzero : mantissa ≠ 0 := by
    rintro rfl
    exact absurd wide (by decide)
  have above := Nat.log2_self_le nonzero
  have below := mantissa.lt_log2_self
  constructor
  · rw [Nat.le_div_iff_mul_le (Nat.two_pow_pos _), ← Nat.pow_add, Nat.add_sub_cancel' wide]
    exact above
  · rw [Nat.div_lt_iff_lt_mul (Nat.two_pow_pos _), ← Nat.pow_add]
    rwa [show 53 + (mantissa.log2 - 52) = mantissa.log2 + 1 by omega]

theorem shift_to_target {mantissa : Nat} {exponent : Int} (accuracy : Accuracy)
    (wide : 52 ≤ mantissa.log2) (reaches : 0 ≤ mantissa.log2 + exponent) :
    (shiftToTargetExponent Format.binary64 mantissa exponent accuracy).1.mantissa =
        mantissa / 2 ^ (mantissa.log2 - 52) ∧
      (shiftToTargetExponent Format.binary64 mantissa exponent accuracy).2 =
        mantissa.log2 + exponent - 52 := by
  have amount : (mantissa.log2 + exponent - 52 - exponent).toNat = mantissa.log2 - 52 := by omega
  simp only [shiftToTargetExponent, shiftToExponent, target_exponent reaches, amount]
  refine ⟨?_, by omega⟩
  rw [extended_shift, extended_of_accuracy]

theorem reaches_one_round_with_accuracy {mantissa : Nat} {exponent : Int} (accuracy : Accuracy)
    (wide : 52 ≤ mantissa.log2) (reaches : 0 ≤ mantissa.log2 + exponent) :
    ReachesOne (roundWithAccuracy Format.binary64 .positive mantissa exponent accuracy) := by
  simp only [roundWithAccuracy]
  obtain ⟨cut, cutExponent⟩ := shift_to_target accuracy wide reaches
  generalize shiftToTargetExponent Format.binary64 mantissa exponent accuracy = shifted at *
  have rounded : shifted.1.mantissa ≤ shifted.1.roundedMantissa :=
    (round_to_nearest_bounds _ _).1
  have full : 2 ^ 52 ≤ shifted.1.roundedMantissa :=
    Nat.le_trans (cut ▸ (leading_digits wide).1) rounded
  have wideRounded : 52 ≤ shifted.1.roundedMantissa.log2 :=
    (Nat.le_log2 (Nat.ne_of_gt (Nat.lt_of_lt_of_le (by decide) full))).mpr full
  have reachesRounded : 0 ≤ (shifted.1.roundedMantissa.log2 : Int) + shifted.2 := by omega
  obtain ⟨digits, exponents⟩ := shift_to_target .exact wideRounded reachesRounded
  have bounds := leading_digits wideRounded
  rw [← digits] at bounds
  split
  · next zero =>
      rw [zero] at bounds
      exact absurd bounds.1 (by decide)
  · exact ⟨rfl, bounds.1, bounds.2, by omega⟩

theorem log2_shift_left {mantissa : Nat} (nonzero : mantissa ≠ 0) (count : Nat) :
    mantissa.log2 + count ≤ (mantissa <<< count).log2 := by
  rw [Nat.shiftLeft_eq, Nat.le_log2 (Nat.mul_ne_zero nonzero (Nat.ne_of_gt (Nat.two_pow_pos _))),
    Nat.pow_add]
  exact Nat.mul_le_mul_right _ (Nat.log2_self_le nonzero)

theorem reaches_one_round {mantissa : Nat} {exponent : Int} (nonzero : mantissa ≠ 0)
    (reaches : 0 ≤ mantissa.log2 + exponent) :
    ReachesOne (UnpackedFloat.round Format.binary64 .positive mantissa exponent) := by
  simp only [UnpackedFloat.round, decreaseExponent, target_exponent reaches]
  have shifted := log2_shift_left nonzero (exponent - (mantissa.log2 + exponent - 52)).toNat
  apply reaches_one_round_with_accuracy <;> omega

theorem reaches_one_normalize {mantissa places : Nat} {exponent : Int} (zeroSign : Sign)
    (digits : 2 ^ places ≤ mantissa) (reaches : 0 ≤ places + exponent) :
    ReachesOne (UnpackedFloat.normalize Format.binary64 mantissa exponent zeroSign) := by
  have positive : 0 < mantissa := Nat.lt_of_lt_of_le (Nat.two_pow_pos places) digits
  have nonzero : mantissa ≠ 0 := Nat.ne_of_gt positive
  have wide : places ≤ mantissa.log2 := (Nat.le_log2 nonzero).mpr digits
  rw [UnpackedFloat.normalize, Int.compare_eq_gt.mpr (Int.natCast_pos.mpr positive)]
  change ReachesOne (UnpackedFloat.round Format.binary64 .positive mantissa exponent)
  exact reaches_one_round nonzero (by omega)

theorem reaches_one_unpack_components {exponent : BitVec 11} (fraction : BitVec 52)
    (notBelow : 1023 ≤ exponent.toNat) :
    ReachesOne
      (unpack Format.binary64 (packComponents Format.binary64 .positive exponent fraction)) := by
  have notBottom : exponent ≠ 0#11 := by
    rintro rfl
    exact absurd notBelow (by decide)
  simp only [unpack, unpackSign_packComponents, Sign.ofBitVec_toBitVec,
    unpackExponent_packComponents, unpackMantissa_packComponents, if_neg notBottom]
  split
  · split <;> trivial
  · have whole : (1#1 ++ fraction).toNat = 2 ^ 52 + fraction.toNat := append_implicit_bit fraction
    have bound : fraction.toNat < 2 ^ 52 := fraction.isLt
    have exponents : -52 ≤ (exponent.toNat : Int) - (1023 + 52) := by omega
    exact ⟨rfl, by omega, by omega, exponents⟩

theorem reaches_one_unpack_pack {number : UnpackedFloat} (reaches : ReachesOne number) :
    ReachesOne (unpack Format.binary64 (pack Format.binary64 number)) := by
  cases number with
  | notANumber => trivial
  | infinity sign => cases sign <;> trivial
  | zero => exact reaches.elim
  | finite sign mantissa exponent =>
      obtain ⟨rfl, full, bound, notBelow⟩ := reaches
      have digits : mantissa.log2 = 52 :=
        (Nat.log2_eq_iff (Nat.ne_of_gt (Nat.lt_of_lt_of_le (by decide) full))).mpr ⟨full, bound⟩
      simp only [pack, digits]
      split
      · trivial
      · next inRange =>
          change ¬ 2 ^ 11 ≤ (exponent + 1023 + 52).toNat + 1 at inRange
          apply reaches_one_unpack_components
          change 1023 ≤ (exponent + 1023 + 52).toNat % 2 ^ 11
          omega

theorem unpacked_one : unpacked 1.0 = .finite .positive (2 ^ 52) (-52) (by decide) :=
  rfl

/-- One more than a number that is not negative is at least one. -/
theorem reaches_one_add_one {number : UnpackedFloat} (leans : Leans .positive number) :
    ReachesOne (add Format.binary64 number (unpacked 1.0)) := by
  rw [unpacked_one]
  cases number with
  | notANumber => trivial
  | infinity => trivial
  | zero => exact ⟨rfl, by decide, by decide, by decide⟩
  | finite sign mantissa exponent =>
      obtain rfl : sign = .positive := leans
      have digits : 2 ^ (52 + (-52 - min exponent (-52)).toNat) ≤
          mantissa <<< (exponent - min exponent (-52)).toNat +
            2 ^ 52 <<< (-52 - min exponent (-52)).toNat := by
        rw [Nat.pow_add, ← Nat.shiftLeft_eq]
        exact Nat.le_add_left _ _
      exact reaches_one_normalize .positive digits (by omega)

section Whole

variable {value : Float}

/-- Towards the lower integer, nothing that is not negative becomes negative. -/
theorem floor_of_leans (leans : Leans .positive (unpacked value)) {whole : Int}
    (floored : floor? value = some whole) : 0 ≤ whole := by
  rw [floor?, of_float_eq] at floored
  cases is : unpacked value with
  | notANumber => simp [is, Binary.ofUnpacked] at floored
  | infinity => simp [is, Binary.ofUnpacked] at floored
  | zero sign =>
      have nothing : signed (sign == .negative) 0 = 0 := by cases sign <;> rfl
      simp only [is, Binary.ofUnpacked, nothing, Int.zero_fdiv,
        if_neg (show ¬ 0 ≤ leastExponent by decide)] at floored
      exact Int.le_of_eq (Option.some.inj floored)
  | finite sign mantissa exponent =>
      rw [is] at leans floored
      obtain rfl : sign = .positive := leans
      simp only [Binary.ofUnpacked] at floored
      split at floored
      · obtain rfl := Option.some.inj floored
        exact Int.natCast_nonneg _
      · obtain rfl := Option.some.inj floored
        exact Int.fdiv_nonneg (Int.natCast_nonneg _) (Int.natCast_nonneg _)

theorem floor_of_reaches_one (reaches : ReachesOne (unpacked value)) (finite : value.isFinite) :
    ∃ whole, floor? value = some whole ∧ 1 ≤ whole := by
  change (unpacked value).isFinite at finite
  rw [floor?, of_float_eq]
  cases is : unpacked value with
  | notANumber =>
      rw [is] at finite
      exact absurd finite (by decide)
  | infinity =>
      rw [is] at finite
      exact absurd finite Bool.false_ne_true
  | zero =>
      rw [is] at reaches
      exact reaches.elim
  | finite sign mantissa exponent =>
      rw [is] at reaches
      obtain ⟨rfl, full, _, notBelow⟩ := reaches
      simp only [Binary.ofUnpacked]
      split
      · refine ⟨_, rfl, ?_⟩
        have positive : 0 < mantissa * Nat.pow 2 exponent.toNat :=
          Nat.mul_pos (Nat.lt_of_lt_of_le (by decide) full) (Nat.two_pow_pos _)
        exact Int.ofNat_le.mpr positive
      · refine ⟨_, rfl, ?_⟩
        have unit : Nat.pow 2 (-exponent).toNat ≤ mantissa :=
          Nat.le_trans (Nat.pow_le_pow_right (by decide) (by omega)) full
        change 1 ≤ Int.fdiv (mantissa : Int) (Nat.pow 2 (-exponent).toNat : Nat)
        rw [← Int.ofNat_fdiv]
        exact Int.ofNat_le.mpr ((Nat.one_le_div_iff (Nat.two_pow_pos _)).mpr unit)

end Whole

end LineTemplate.Number

import LineTemplate.Proofs.Number.Fields

/-!
The rational number that a finite real number is. Real numbers are ordered as these rationals are,
and packing a number into bits loses nothing as long as its exponent has room there.
-/

namespace LineTemplate.Number

open Float.Model (Format UnpackedFloat)
open Float.Model.UnpackedFloat

def withSign (sign : Sign) (magnitude : ℚ) : ℚ :=
  match sign with
  | .negative => -magnitude
  | .positive => magnitude

/-- Numbers that are not finite are given zero. -/
def rational : UnpackedFloat → ℚ
  | .finite sign mantissa exponent _ => withSign sign (mantissa * 2 ^ exponent)
  | _ => 0

theorem abs_with_sign (sign : Sign) (magnitude : ℚ) : |withSign sign magnitude| = |magnitude| := by
  cases sign with
  | negative => exact abs_neg magnitude
  | positive => rfl

/-- A finite number, in the form that bits give it, that is the rational. -/
structure StandsFor (number : UnpackedFloat) (value : ℚ) : Prop where
  full : Full number
  finite : number.isFinite = true
  rational_eq : rational number = value

theorem stands_for_zero (sign : Sign) : StandsFor (.zero sign) 0 :=
  ⟨trivial, rfl, rfl⟩

section Order

theorem compare_neg (first second : ℚ) : compare (-first) (-second) = (compare first second).swap := by
  rcases lt_trichotomy first second with less | rfl | greater
  · rw [compare_lt_iff_lt.mpr less, compare_gt_iff_gt.mpr (neg_lt_neg less)]
    rfl
  · rw [compare_eq_iff_eq.mpr rfl, compare_eq_iff_eq.mpr rfl]
    rfl
  · rw [compare_gt_iff_gt.mpr greater, compare_lt_iff_lt.mpr (neg_lt_neg greater)]
    rfl

variable {first second : ℕ} {firstExponent secondExponent : ℤ}

/-- With all digits in use, the smaller exponent belongs to the smaller number. -/
theorem magnitude_lt_of_exponent_lt (bound : first < 2 ^ 53)
    (full : secondExponent = leastExponent ∨ 2 ^ 52 ≤ second) (least : leastExponent ≤ firstExponent)
    (less : firstExponent < secondExponent) :
    (first : ℚ) * 2 ^ firstExponent < second * 2 ^ secondExponent := by
  have digits : 2 ^ 52 ≤ second := full.resolve_left (by omega)
  calc (first : ℚ) * 2 ^ firstExponent
      < 2 ^ 53 * 2 ^ firstExponent := by
        gcongr
        exact_mod_cast bound
    _ = 2 ^ 52 * 2 ^ (firstExponent + 1) := by
        rw [zpow_add_one₀ two_ne_zero]
        ring
    _ ≤ second * 2 ^ secondExponent := by
        gcongr
        · exact_mod_cast digits
        · exact one_le_two
        · omega

theorem compare_magnitudes (boundFirst : first < 2 ^ 53) (boundSecond : second < 2 ^ 53)
    (leastFirst : leastExponent ≤ firstExponent) (leastSecond : leastExponent ≤ secondExponent)
    (fullFirst : firstExponent = leastExponent ∨ 2 ^ 52 ≤ first)
    (fullSecond : secondExponent = leastExponent ∨ 2 ^ 52 ≤ second) :
    (compare firstExponent secondExponent).then (compare first second) =
      compare ((first : ℚ) * 2 ^ firstExponent) (second * 2 ^ secondExponent) := by
  rcases lt_trichotomy firstExponent secondExponent with less | rfl | greater
  · rw [compare_lt_iff_lt.mpr less, compare_lt_iff_lt.mpr
      (magnitude_lt_of_exponent_lt boundFirst fullSecond leastFirst less)]
    rfl
  · have unit : (0 : ℚ) < 2 ^ firstExponent := zpow_pos two_pos _
    rw [compare_eq_iff_eq.mpr rfl, Ordering.eq_then]
    rcases lt_trichotomy first second with less | rfl | greater
    · rw [compare_lt_iff_lt.mpr less, compare_lt_iff_lt.mpr]
      exact mul_lt_mul_of_pos_right (by exact_mod_cast less) unit
    · rw [compare_eq_iff_eq.mpr rfl, compare_eq_iff_eq.mpr rfl]
    · rw [compare_gt_iff_gt.mpr greater, compare_gt_iff_gt.mpr]
      exact mul_lt_mul_of_pos_right (by exact_mod_cast greater) unit
  · rw [compare_gt_iff_gt.mpr greater, compare_gt_iff_gt.mpr
      (magnitude_lt_of_exponent_lt boundSecond fullFirst leastSecond greater)]
    rfl

theorem magnitude_positive {mantissa : ℕ} (positive : 0 < mantissa) (exponent : ℤ) :
    (0 : ℚ) < mantissa * 2 ^ exponent :=
  mul_pos (by exact_mod_cast positive) (zpow_pos two_pos _)

theorem rational_zero (sign : Sign) : rational (.zero sign) = 0 :=
  rfl

theorem rational_positive (mantissa : ℕ) (exponent : ℤ) (positive : 0 < mantissa) :
    rational (.finite .positive mantissa exponent positive) = mantissa * 2 ^ exponent :=
  rfl

theorem rational_negative (mantissa : ℕ) (exponent : ℤ) (positive : 0 < mantissa) :
    rational (.finite .negative mantissa exponent positive) = -(mantissa * 2 ^ exponent) :=
  rfl

theorem compare_zero_left (zeroSign sign : Sign) {mantissa : ℕ} (exponent : ℤ)
    (positive : 0 < mantissa) :
    UnpackedFloat.compare (.zero zeroSign) (.finite sign mantissa exponent positive) =
      some (compare 0 (rational (.finite sign mantissa exponent positive))) := by
  have magnitude := magnitude_positive positive exponent
  cases sign with
  | positive =>
      rw [rational_positive, compare_lt_iff_lt.mpr magnitude]
      rfl
  | negative =>
      rw [rational_negative, compare_gt_iff_gt.mpr (neg_neg_of_pos magnitude)]
      rfl

theorem compare_zero_right (zeroSign sign : Sign) {mantissa : ℕ} (exponent : ℤ)
    (positive : 0 < mantissa) :
    UnpackedFloat.compare (.finite sign mantissa exponent positive) (.zero zeroSign) =
      some (compare (rational (.finite sign mantissa exponent positive)) 0) := by
  have magnitude := magnitude_positive positive exponent
  cases sign with
  | positive =>
      rw [rational_positive, compare_gt_iff_gt.mpr magnitude]
      rfl
  | negative =>
      rw [rational_negative, compare_lt_iff_lt.mpr (neg_neg_of_pos magnitude)]
      rfl

theorem compare_finite {sign other : Sign} {firstPositive : 0 < first} {secondPositive : 0 < second}
    (fullFirst : Full (.finite sign first firstExponent firstPositive))
    (fullSecond : Full (.finite other second secondExponent secondPositive)) :
    UnpackedFloat.compare (.finite sign first firstExponent firstPositive)
        (.finite other second secondExponent secondPositive) =
      some (compare (rational (.finite sign first firstExponent firstPositive))
        (rational (.finite other second secondExponent secondPositive))) := by
  have firstMagnitude := magnitude_positive firstPositive firstExponent
  have secondMagnitude := magnitude_positive secondPositive secondExponent
  obtain ⟨boundFirst, leastFirst, digitsFirst⟩ := fullFirst
  obtain ⟨boundSecond, leastSecond, digitsSecond⟩ := fullSecond
  have magnitudes :=
    compare_magnitudes boundFirst boundSecond leastFirst leastSecond digitsFirst digitsSecond
  cases sign <;> cases other
  case positive.positive =>
    rw [rational_positive, rational_positive, ← magnitudes]
    rfl
  case positive.negative =>
    rw [rational_positive, rational_negative, compare_gt_iff_gt.mpr (by linarith)]
    rfl
  case negative.positive =>
    rw [rational_positive, rational_negative, compare_lt_iff_lt.mpr (by linarith)]
    rfl
  case negative.negative =>
    rw [rational_negative, rational_negative, compare_neg, ← magnitudes]
    rfl

/-- Finite real numbers have the order of the rationals that they are. -/
theorem compare_of_stands_for {left right : UnpackedFloat} {leftValue rightValue : ℚ}
    (leftStands : StandsFor left leftValue) (rightStands : StandsFor right rightValue) :
    left.compare right = some (compare leftValue rightValue) := by
  obtain ⟨leftFull, leftFinite, rfl⟩ := leftStands
  obtain ⟨rightFull, rightFinite, rfl⟩ := rightStands
  cases left with
  | notANumber => cases leftFinite
  | infinity => cases leftFinite
  | zero zeroSign =>
      cases right with
      | notANumber => cases rightFinite
      | infinity => cases rightFinite
      | zero => rfl
      | finite sign mantissa exponent positive =>
          exact compare_zero_left zeroSign sign exponent positive
  | finite sign mantissa exponent positive =>
      cases right with
      | notANumber => cases rightFinite
      | infinity => cases rightFinite
      | zero zeroSign => exact compare_zero_right zeroSign sign exponent positive
      | finite => exact compare_finite leftFull rightFull

end Order

section Packing

/-- The exponent of the largest finite number. -/
def largestExponent : ℤ := 971

theorem unpack_normal {sign : Sign} {field : BitVec 11} (fraction : BitVec 52)
    (notTop : field.toNat ≠ 2047) (notBottom : field.toNat ≠ 0) {mantissa : ℕ} {exponent : ℤ}
    {positive : 0 < mantissa} (digits : mantissa = 2 ^ 52 + fraction.toNat)
    (place : exponent = field.toNat - 1075) :
    unpack Format.binary64 (packComponents Format.binary64 sign field fraction) =
      .finite sign mantissa exponent positive := by
  rw [Ne, top_iff] at notTop
  rw [Ne, zero_iff] at notBottom
  subst place digits
  simp only [unpack, unpackSign_packComponents, Sign.ofBitVec_toBitVec,
    unpackExponent_packComponents, unpackMantissa_packComponents, if_neg notTop, if_neg notBottom]
  congr 1
  exact append_implicit_bit fraction

theorem unpack_subnormal {sign : Sign} {fraction : BitVec 52} {positive : 0 < fraction.toNat} :
    unpack Format.binary64 (packComponents Format.binary64 sign 0#11 fraction) =
      .finite sign fraction.toNat leastExponent positive := by
  have some : fraction ≠ 0#52 := by
    rintro rfl
    exact absurd positive (by decide)
  simp only [unpack, unpackSign_packComponents, Sign.ofBitVec_toBitVec,
    unpackExponent_packComponents, unpackMantissa_packComponents]
  rw [if_neg (by decide), if_pos trivial, dif_neg some]
  rfl

theorem unpack_pack_finite {sign : Sign} {mantissa : ℕ} {exponent : ℤ} {positive : 0 < mantissa}
    (full : Full (.finite sign mantissa exponent positive)) (bound : exponent ≤ largestExponent) :
    unpack Format.binary64 (pack Format.binary64 (.finite sign mantissa exponent positive)) =
      .finite sign mantissa exponent positive := by
  obtain ⟨digits, least, inUse⟩ := full
  rw [largestExponent] at bound
  rw [leastExponent] at least inUse
  have room : ¬ 2 ^ 11 ≤ (exponent + 1023 + 52).toNat + 1 := by omega
  change ¬ 2 ^ Format.binary64.exponentBits ≤ (exponent + Format.binary64.exponentBias +
    Format.binary64.mantissaBitsWithoutImplicit).toNat + 1 at room
  simp only [pack, if_neg room]
  by_cases normal : 2 ^ 52 ≤ mantissa
  · have log : mantissa.log2 = 52 := (Nat.log2_eq_iff (by omega)).mpr ⟨normal, digits⟩
    have field : (BitVec.ofNat 11 (exponent + 1023 + 52).toNat).toNat = (exponent + 1075).toNat := by
      rw [BitVec.toNat_ofNat]
      omega
    change BitVec.toNat (BitVec.ofNat _ (exponent + Format.binary64.exponentBias +
      Format.binary64.mantissaBitsWithoutImplicit).toNat) = _ at field
    have fraction : (BitVec.ofNat 52 mantissa).toNat = mantissa - 2 ^ 52 := by
      rw [BitVec.toNat_ofNat]
      omega
    rw [if_pos (show mantissa.log2 + 1 = Format.binary64.mantissaBits by rw [log]; rfl)]
    exact unpack_normal _ (by rw [field]; omega) (by rw [field]; omega) (by rw [fraction]; omega)
      (by rw [field]; omega)
  · have log : mantissa.log2 + 1 ≠ Format.binary64.mantissaBits := by
      intro all
      have all : mantissa.log2 = 52 := Nat.succ.inj all
      exact normal (all ▸ Nat.log2_self_le (Nat.ne_of_gt positive))
    have fraction : (BitVec.ofNat 52 mantissa).toNat = mantissa := by
      rw [BitVec.toNat_ofNat]
      omega
    obtain rfl : exponent = leastExponent := inUse.resolve_right normal
    have some : 0 < (BitVec.ofNat 52 mantissa).toNat := by
      rw [fraction]
      exact positive
    rw [if_neg log, @unpack_subnormal _ _ some]
    congr 1

theorem unpack_pack_zero (sign : Sign) :
    unpack Format.binary64 (pack Format.binary64 (.zero sign)) = .zero sign :=
  unpack_packedZero

/-- A number below two to the power 1024 is not too large. -/
theorem exponent_le_of_lt {sign : Sign} {mantissa : ℕ} {exponent : ℤ} {positive : 0 < mantissa}
    (full : Full (.finite sign mantissa exponent positive))
    (bound : |rational (.finite sign mantissa exponent positive)| < 2 ^ 1024) :
    exponent ≤ largestExponent := by
  obtain ⟨-, -, inUse⟩ := full
  by_contra above
  rw [largestExponent, not_le] at above
  have digits : 2 ^ 52 ≤ mantissa := inUse.resolve_left (by rw [leastExponent]; omega)
  rw [rational, abs_with_sign, abs_of_pos (magnitude_positive positive exponent)] at bound
  refine absurd bound (not_lt.mpr ?_)
  calc (2 : ℚ) ^ 1024 = 2 ^ 52 * 2 ^ (972 : ℤ) := by rw [zpow_ofNat, ← pow_add]
    _ ≤ (mantissa : ℚ) * 2 ^ exponent := by
        gcongr
        · exact_mod_cast digits
        · exact one_le_two
        · omega

theorem unpack_pack_of_stands_for {number : UnpackedFloat} {value : ℚ}
    (stands : StandsFor number value) (bound : |value| < 2 ^ 1024) :
    unpack Format.binary64 (pack Format.binary64 number) = number := by
  obtain ⟨full, finite, rfl⟩ := stands
  cases number with
  | notANumber => cases finite
  | infinity => cases finite
  | zero sign => exact unpack_pack_zero sign
  | finite => exact unpack_pack_finite full (exponent_le_of_lt full bound)

end Packing

end LineTemplate.Number

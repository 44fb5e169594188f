import LineTemplate.Proofs.Number.Fields

/-!
The sign of a result. Rounding never turns a number into one of the other sign, so a sum of numbers
that are not negative is not negative, nor is what is left when the smaller number is taken from the
larger.
-/

namespace LineTemplate.Number

open Float.Model (Format UnpackedFloat)
open Float.Model.UnpackedFloat

section Leaning

/-- A finite number other than zero has the sign. -/
def Leans (sign : Sign) : UnpackedFloat → Prop
  | .finite other _ _ _ => other = sign
  | _ => True

theorem leans_unpack_components (sign : Sign) (exponent : BitVec 11) (fraction : BitVec 52) :
    Leans sign
      (unpack Format.binary64 (packComponents Format.binary64 sign exponent fraction)) := by
  simp only [unpack, unpackSign_packComponents, Sign.ofBitVec_toBitVec]
  split
  · split <;> trivial
  · split
    · split
      · trivial
      · rfl
    · rfl

theorem leans_pack {sign : Sign} {number : UnpackedFloat} (leans : Leans sign number) :
    Leans sign (unpack Format.binary64 (pack Format.binary64 number)) := by
  cases number with
  | notANumber => trivial
  | infinity other => cases other <;> trivial
  | zero other => cases other <;> trivial
  | finite other mantissa exponent positive =>
      obtain rfl : other = sign := leans
      simp only [pack]
      split
      · exact leans_unpack_components _ _ _
      · split <;> exact leans_unpack_components _ _ _

theorem leans_round_with_accuracy (sign : Sign) (mantissa : Nat) (exponent : Int)
    (accuracy : Accuracy) :
    Leans sign (roundWithAccuracy Format.binary64 sign mantissa exponent accuracy) := by
  simp only [roundWithAccuracy]
  split
  · trivial
  · rfl

theorem leans_round (sign : Sign) (mantissa : Nat) (exponent : Int) :
    Leans sign (UnpackedFloat.round Format.binary64 sign mantissa exponent) :=
  leans_round_with_accuracy _ _ _ _

theorem leans_positive_normalize {mantissa : Int} (exponent : Int) (zeroSign : Sign)
    (bound : 0 ≤ mantissa) :
    Leans .positive (UnpackedFloat.normalize Format.binary64 mantissa exponent zeroSign) := by
  simp only [UnpackedFloat.normalize]
  split
  · next less =>
      rw [Int.compare_eq_lt] at less
      omega
  · trivial
  · exact leans_round _ _ _

theorem leans_negative_normalize {mantissa : Int} (exponent : Int) (zeroSign : Sign)
    (bound : mantissa ≤ 0) :
    Leans .negative (UnpackedFloat.normalize Format.binary64 mantissa exponent zeroSign) := by
  simp only [UnpackedFloat.normalize]
  split
  · exact leans_round _ _ _
  · trivial
  · next greater =>
      rw [Int.compare_eq_gt] at greater
      omega

theorem leans_add {first second : UnpackedFloat} (leansFirst : Leans .positive first)
    (leansSecond : Leans .positive second) :
    Leans .positive (add Format.binary64 first second) := by
  cases first with
  | notANumber => trivial
  | infinity sign =>
      cases second with
      | infinity other =>
          simp only [add]
          split <;> trivial
      | _ => trivial
  | zero sign =>
      cases second with
      | zero other =>
          simp only [add]
          split <;> trivial
      | finite => exact leansSecond
      | _ => trivial
  | finite sign mantissa exponent =>
      obtain rfl : sign = .positive := leansFirst
      cases second with
      | finite other otherMantissa otherExponent =>
          obtain rfl : other = .positive := leansSecond
          exact leans_positive_normalize _ _
            (Int.add_nonneg (Int.natCast_nonneg _) (Int.natCast_nonneg _))
      | zero => rfl
      | _ => trivial

theorem leans_mul {sign other : Sign} {first second : UnpackedFloat}
    (leansFirst : Leans sign first) (leansSecond : Leans other second) :
    Leans (sign * other) (mul Format.binary64 first second) := by
  cases first with
  | finite =>
      obtain rfl := leansFirst
      cases second with
      | finite =>
          obtain rfl := leansSecond
          exact leans_round_with_accuracy _ _ _ _
      | _ => trivial
  | _ => cases second <;> trivial

theorem leans_div {sign other : Sign} {first second : UnpackedFloat}
    (leansFirst : Leans sign first) (leansSecond : Leans other second) :
    Leans (sign / other) (div Format.binary64 first second) := by
  cases first with
  | finite =>
      obtain rfl := leansFirst
      cases second with
      | finite =>
          obtain rfl := leansSecond
          exact leans_round_with_accuracy _ _ _ _
      | _ => trivial
  | _ => cases second <;> trivial

theorem leans_of_scientific (mantissa : Nat) (exponent : Int) :
    Leans .positive (ofScientific Format.binary64 mantissa exponent) := by
  unfold ofScientific
  split
  · trivial
  · split
    · trivial
    · split
      · trivial
      · split <;> exact leans_round_with_accuracy _ _ _ _

theorem leans_of_natural (value : Nat) : Leans .positive (unpacked (Float.ofNat value)) := by
  change Leans .positive (unpacked (Float.ofScientific value false 0))
  rw [Float.ofScientific]
  split
  · have digits : Leans .positive (unpacked value.toUInt64.toFloat) :=
      leans_pack (leans_positive_normalize _ _ (Int.natCast_nonneg _))
    have unit : Leans .positive (unpacked 1.0) := rfl
    exact leans_pack (leans_mul digits unit)
  · exact leans_pack (leans_of_scientific value 0)

end Leaning

section Subtraction

/-- With all digits in use, of two numbers the one with the larger exponent is the larger. -/
theorem shifted_le_of_full {first second : Nat} {firstExponent secondExponent : Int}
    (bounded : second < 2 ^ 53) (least : leastExponent ≤ secondExponent)
    (full : firstExponent = leastExponent ∨ 2 ^ 52 ≤ first)
    (notLess : (compare firstExponent secondExponent).then (compare first second) ≠ .lt) :
    second <<< (secondExponent - min firstExponent secondExponent).toNat ≤
      first <<< (firstExponent - min firstExponent secondExponent).toNat := by
  rcases Int.lt_trichotomy firstExponent secondExponent with less | rfl | greater
  · rw [Int.compare_eq_lt.mpr less] at notLess
    exact absurd rfl notLess
  · rw [Int.compare_eq_eq.mpr rfl, Ordering.eq_then, Nat.compare_ne_lt] at notLess
    simpa using notLess
  · have full : 2 ^ 52 ≤ first := full.resolve_left (by omega)
    rw [Int.min_eq_right (Int.le_of_lt greater), Int.sub_self, Int.toNat_zero, Nat.shiftLeft_zero]
    have further : 1 ≤ (firstExponent - secondExponent).toNat := by omega
    calc second ≤ 2 ^ 52 * 2 ^ 1 := Nat.le_of_lt bounded
      _ ≤ first * 2 ^ (firstExponent - secondExponent).toNat :=
          Nat.mul_le_mul full (Nat.pow_le_pow_right (by decide) further)
      _ = first <<< (firstExponent - secondExponent).toNat := (Nat.shiftLeft_eq _ _).symm

/-- The difference of two finite numbers, in units of a common power of two. -/
def difference (sign other : Sign) (first second : Nat) (firstExponent secondExponent : Int) :
    Int :=
  sign.apply (first <<< (firstExponent - min firstExponent secondExponent).toNat : Nat) -
    other.apply (second <<< (secondExponent - min firstExponent secondExponent).toNat : Nat)

theorem difference_swap (sign other : Sign) (first second : Nat)
    (firstExponent secondExponent : Int) :
    difference other sign second first secondExponent firstExponent =
      -difference sign other first second firstExponent secondExponent := by
  rw [difference, difference, Int.min_comm secondExponent, Int.neg_sub]

theorem difference_nonnegative {sign other : Sign} {first second : Nat}
    {firstExponent secondExponent : Int} {firstPositive : 0 < first} {secondPositive : 0 < second}
    (fullFirst : Full (.finite sign first firstExponent firstPositive))
    (fullSecond : Full (.finite other second secondExponent secondPositive))
    (notLess : UnpackedFloat.compare (.finite sign first firstExponent firstPositive)
      (.finite other second secondExponent secondPositive) ≠ some .lt) :
    0 ≤ difference sign other first second firstExponent secondExponent := by
  obtain ⟨boundFirst, leastFirst, fullFirst⟩ := fullFirst
  obtain ⟨boundSecond, leastSecond, fullSecond⟩ := fullSecond
  cases sign <;> cases other
  case positive.positive =>
    have ordered : (compare firstExponent secondExponent).then (compare first second) ≠ .lt :=
      fun less => notLess (congrArg some less)
    have shifted := shifted_le_of_full boundSecond leastSecond fullFirst ordered
    simp only [difference, Sign.apply]
    omega
  case positive.negative =>
    simp only [difference, Sign.apply, Int.sub_neg]
    exact Int.add_nonneg (Int.natCast_nonneg _) (Int.natCast_nonneg _)
  case negative.positive => exact absurd rfl notLess
  case negative.negative =>
    have ordered : (compare secondExponent firstExponent).then (compare second first) ≠ .lt := by
      intro less
      apply notLess
      change some ((compare firstExponent secondExponent).then (compare first second)).swap =
        some .lt
      rw [Ordering.swap_then, Int.compare_swap, Nat.compare_swap, less]
    have shifted := shifted_le_of_full boundFirst leastFirst fullSecond ordered
    rw [Int.min_comm] at shifted
    simp only [difference, Sign.apply]
    omega

/-- Taking a number from one that is not less leaves none below zero. -/
theorem leans_sub {first second : UnpackedFloat} (fullFirst : Full first) (fullSecond : Full second)
    (notLess : first.compare second ≠ some .lt) :
    Leans .positive (sub Format.binary64 first second) := by
  cases first with
  | notANumber => trivial
  | infinity sign =>
      cases second with
      | infinity other =>
          simp only [sub]
          split <;> trivial
      | _ => trivial
  | zero sign =>
      cases second with
      | zero other =>
          simp only [sub]
          split <;> trivial
      | finite other =>
          cases other with
          | positive => exact absurd rfl notLess
          | negative => rfl
      | _ => trivial
  | finite sign =>
      cases second with
      | finite =>
          exact leans_positive_normalize _ _ (difference_nonnegative fullFirst fullSecond notLess)
      | zero =>
          cases sign with
          | positive => rfl
          | negative => exact absurd rfl notLess
      | _ => trivial

/-- Taking a number from one that is not greater leaves none above zero. -/
theorem leans_sub_of_not_greater {first second : UnpackedFloat} (fullFirst : Full first)
    (fullSecond : Full second) (notGreater : second.compare first ≠ some .lt) :
    Leans .negative (sub Format.binary64 first second) := by
  cases first with
  | notANumber => trivial
  | infinity sign =>
      cases second with
      | infinity other =>
          simp only [sub]
          split <;> trivial
      | _ => trivial
  | zero sign =>
      cases second with
      | zero other =>
          simp only [sub]
          split <;> trivial
      | finite other =>
          cases other with
          | positive => rfl
          | negative => exact absurd rfl notGreater
      | _ => trivial
  | finite sign first firstExponent =>
      cases second with
      | finite other second secondExponent =>
          have reversed := difference_nonnegative fullSecond fullFirst notGreater
          rw [difference_swap] at reversed
          exact leans_negative_normalize _ _ (Int.neg_nonneg.mp reversed)
      | zero =>
          cases sign with
          | positive => exact absurd rfl notGreater
          | negative => rfl
      | _ => trivial

end Subtraction

end LineTemplate.Number

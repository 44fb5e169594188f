import LineTemplate.Proofs.Number.Rational

/-!
Rounding as arithmetic on rationals. The 53 binary digits that a real number has room for fix the
place of the last of them, and a rational goes to the nearest multiple of that place, of two equally
near ones to the even one.
-/

namespace LineTemplate.Number

section HalfEven

/-- The nearest integer, the even one of two. -/
def halfEven (value : ℚ) : ℤ :=
  if Int.fract value < 1 / 2 then ⌊value⌋
  else if Int.fract value = 1 / 2 then ⌊value⌋ + ⌊value⌋ % 2
  else ⌊value⌋ + 1

theorem half_even_of_lt {value : ℚ} (less : Int.fract value < 1 / 2) :
    halfEven value = ⌊value⌋ := by
  rw [halfEven, if_pos less]

theorem half_even_of_half {value : ℚ} (half : Int.fract value = 1 / 2) :
    halfEven value = ⌊value⌋ + ⌊value⌋ % 2 := by
  rw [halfEven, if_neg (not_lt.mpr half.ge), if_pos half]

theorem half_even_of_gt {value : ℚ} (greater : 1 / 2 < Int.fract value) :
    halfEven value = ⌊value⌋ + 1 := by
  rw [halfEven, if_neg (not_lt.mpr greater.le), if_neg greater.ne']

theorem half_even_bounds (value : ℚ) :
    ⌊value⌋ ≤ halfEven value ∧ halfEven value ≤ ⌊value⌋ + 1 := by
  unfold halfEven
  split_ifs <;> omega

theorem half_even_of_integer (value : ℤ) : halfEven value = value := by
  rw [half_even_of_lt (by rw [Int.fract_intCast]; norm_num), Int.floor_intCast]

theorem half_even_monotone {first second : ℚ} (le : first ≤ second) :
    halfEven first ≤ halfEven second := by
  rcases Int.lt_or_eq_of_le (Int.floor_mono le) with less | equal
  · calc halfEven first ≤ ⌊first⌋ + 1 := (half_even_bounds first).2
      _ ≤ ⌊second⌋ := less
      _ ≤ halfEven second := (half_even_bounds second).1
  · have fractions : Int.fract first ≤ Int.fract second := by
      rw [← Int.self_sub_floor, ← Int.self_sub_floor, equal]
      linarith
    rcases lt_trichotomy (Int.fract first) (1 / 2) with less | half | greater
    · rw [half_even_of_lt less, equal]
      exact (half_even_bounds second).1
    · rcases fractions.eq_or_lt with same | less
      · rw [half_even_of_half half, half_even_of_half (same ▸ half), equal]
      · rw [half_even_of_half half, half_even_of_gt (half ▸ less), equal]
        omega
    · rw [half_even_of_gt greater, half_even_of_gt (greater.trans_le fractions), equal]

theorem half_even_neg (value : ℚ) : halfEven (-value) = -halfEven value := by
  by_cases whole : Int.fract value = 0
  · have integer : value = ⌊value⌋ := by
      rw [← Int.self_sub_floor] at whole
      linarith
    rw [integer, ← Int.cast_neg, half_even_of_integer, half_even_of_integer]
  · have fraction : Int.fract (-value) = 1 - Int.fract value := Int.fract_neg whole
    have floor : ⌊-value⌋ = -⌊value⌋ - 1 := by
      have cast : (⌊-value⌋ : ℚ) = -⌊value⌋ - 1 := by
        rw [← Int.self_sub_floor, ← Int.self_sub_floor] at fraction
        linarith
      exact_mod_cast cast
    rcases lt_trichotomy (Int.fract value) (1 / 2) with less | half | greater
    · rw [half_even_of_lt less, half_even_of_gt (by linarith), floor]
      omega
    · rw [half_even_of_half half, half_even_of_half (by linarith), floor]
      omega
    · rw [half_even_of_gt greater, half_even_of_lt (by linarith), floor]
      omega

theorem half_even_le {value : ℚ} {bound : ℤ} (le : value ≤ bound) : halfEven value ≤ bound :=
  half_even_of_integer bound ▸ half_even_monotone le

theorem le_half_even {value : ℚ} {bound : ℤ} (le : bound ≤ value) : bound ≤ halfEven value :=
  half_even_of_integer bound ▸ half_even_monotone le

end HalfEven

section Nearest

/-- The place of the last digit that a real number has room for. -/
def lastPlace (value : ℚ) : ℤ :=
  max (Int.log 2 |value| - 52) leastExponent

/-- The real number nearest to a rational, were there no largest one. -/
def nearest (value : ℚ) : ℚ :=
  halfEven (value / 2 ^ lastPlace value) * 2 ^ lastPlace value

theorem nearest_neg (value : ℚ) : nearest (-value) = -nearest value := by
  rw [nearest, lastPlace, abs_neg, neg_div, half_even_neg, Int.cast_neg, neg_mul]
  rfl

theorem zpow_add_digits (place : ℤ) (count : ℕ) [count.AtLeastTwo] :
    (2 : ℚ) ^ (place + OfNat.ofNat count) = 2 ^ (OfNat.ofNat count : ℕ) * 2 ^ place := by
  rw [zpow_add₀ two_ne_zero, zpow_ofNat, mul_comm]

theorem last_place_eq {value : ℚ} {place : ℤ} (nonzero : value ≠ 0)
    (least : leastExponent ≤ place) (upper : |value| < 2 ^ (place + 53))
    (lower : place = leastExponent ∨ 2 ^ (place + 52) ≤ |value|) : lastPlace value = place := by
  have positive : 0 < |value| := abs_pos.mpr nonzero
  have below : Int.log 2 |value| < place + 53 :=
    (Int.lt_zpow_iff_log_lt one_lt_two positive).mp (by exact_mod_cast upper)
  rw [lastPlace]
  rcases lower with rfl | above
  · exact max_eq_right (by omega)
  · have above : place + 52 ≤ Int.log 2 |value| :=
      (Int.zpow_le_iff_le_log one_lt_two positive).mp (by exact_mod_cast above)
    omega

theorem nearest_zero : nearest 0 = 0 := by
  rw [nearest, zero_div, ← Int.cast_zero, half_even_of_integer, Int.cast_zero, zero_mul]

theorem nearest_eq {value : ℚ} {place : ℤ} (least : leastExponent ≤ place)
    (upper : |value| < 2 ^ (place + 53))
    (lower : place = leastExponent ∨ 2 ^ (place + 52) ≤ |value|) :
    nearest value = halfEven (value / 2 ^ place) * 2 ^ place := by
  by_cases zero : value = 0
  · rw [zero, nearest_zero, zero_div, ← Int.cast_zero, half_even_of_integer, Int.cast_zero, zero_mul]
  · rw [nearest, last_place_eq zero least upper lower]

theorem last_place_bounds (value : ℚ) :
    leastExponent ≤ lastPlace value ∧ |value| < 2 ^ (lastPlace value + 53) := by
  refine ⟨le_max_right _ _, ?_⟩
  have above : |value| < (2 : ℕ) ^ (Int.log 2 |value| + 1) := Int.lt_zpow_succ_log_self one_lt_two _
  push_cast at above
  refine above.trans_le (zpow_le_zpow_right₀ one_le_two ?_)
  rw [lastPlace]
  omega

/-- A number has at most 53 digits before its last place. -/
theorem digits_le {value : ℚ} {place : ℤ} (upper : value < 2 ^ (place + 53)) :
    halfEven (value / 2 ^ place) ≤ 2 ^ 53 := by
  rw [zpow_add_digits] at upper
  apply half_even_le
  rw [div_le_iff₀ (zpow_pos two_pos _)]
  exact_mod_cast upper.le

theorem le_digits {value : ℚ} {place : ℤ} (above : 2 ^ (place + 52) ≤ value) :
    2 ^ 52 ≤ halfEven (value / 2 ^ place) := by
  rw [zpow_add_digits] at above
  apply le_half_even
  rw [le_div_iff₀ (zpow_pos two_pos _)]
  exact_mod_cast above

theorem last_place_monotone {first second : ℚ} (positive : 0 < first) (le : first ≤ second) :
    lastPlace first ≤ lastPlace second := by
  rw [lastPlace, lastPlace, abs_of_pos positive, abs_of_pos (positive.trans_le le)]
  have logs := Int.log_mono_right (b := 2) positive le
  omega

/-- What has room at a finer place than its own last one is kept as it is. -/
theorem nearest_of_multiple (digits : ℤ) {place : ℤ}
    (room : lastPlace (digits * 2 ^ place) ≤ place) :
    nearest (digits * 2 ^ place) = digits * 2 ^ place := by
  generalize last : lastPlace (digits * 2 ^ place) = finer at room
  obtain ⟨count, rfl⟩ := Int.le.dest room
  have whole : (digits : ℚ) * 2 ^ (finer + count) / 2 ^ finer = (digits * 2 ^ count : ℤ) := by
    rw [zpow_add₀ two_ne_zero, zpow_natCast]
    push_cast
    field_simp
  rw [nearest, last, whole, half_even_of_integer, ← whole,
    div_mul_cancel₀ _ (zpow_ne_zero _ two_ne_zero)]

theorem nearest_of_digits {digits place : ℤ} (bound : |digits| < 2 ^ 53)
    (least : leastExponent ≤ place) : nearest (digits * 2 ^ place) = digits * 2 ^ place := by
  by_cases zero : digits = 0
  · rw [zero, Int.cast_zero, zero_mul, nearest_zero]
  · apply nearest_of_multiple
    have unit : (0 : ℚ) < 2 ^ place := zpow_pos two_pos place
    have positive : 0 < |(digits : ℚ) * 2 ^ place| :=
      abs_pos.mpr (mul_ne_zero (Int.cast_ne_zero.mpr zero) unit.ne')
    have upper : |(digits : ℚ) * 2 ^ place| < 2 ^ (place + 53) := by
      rw [abs_mul, abs_of_pos unit, zpow_add_digits]
      exact mul_lt_mul_of_pos_right (by exact_mod_cast bound) unit
    have below := (Int.lt_zpow_iff_log_lt one_lt_two positive).mp (by exact_mod_cast upper)
    rw [lastPlace]
    omega

theorem nearest_nonnegative {value : ℚ} (nonnegative : 0 ≤ value) : 0 ≤ nearest value := by
  have unit : (0 : ℚ) < 2 ^ lastPlace value := zpow_pos two_pos _
  have rounded : (0 : ℤ) ≤ halfEven (value / 2 ^ lastPlace value) := by
    apply le_half_even
    rw [Int.cast_zero]
    exact div_nonneg nonnegative unit.le
  exact mul_nonneg (by exact_mod_cast rounded) unit.le

theorem nearest_monotone_of_positive {first second : ℚ} (positive : 0 < first)
    (le : first ≤ second) : nearest first ≤ nearest second := by
  obtain ⟨least, upper⟩ := last_place_bounds first
  rcases (last_place_monotone positive le).eq_or_lt with same | finer
  · rw [nearest, nearest, ← same]
    gcongr
    exact half_even_monotone (by gcongr)
  · -- all that rounds at the finer place stays below what has 53 digits at the coarser one
    have above : (2 : ℚ) ^ (lastPlace second + 52) ≤ second := by
      have log : lastPlace second + 52 = Int.log 2 second := by
        have last : lastPlace second = max (Int.log 2 second - 52) leastExponent := by
          rw [lastPlace, abs_of_pos (positive.trans_le le)]
        omega
      rw [log]
      exact_mod_cast Int.zpow_log_le_self one_lt_two (positive.trans_le le)
    rw [abs_of_pos positive] at upper
    calc nearest first ≤ (2 ^ 53 : ℤ) * 2 ^ lastPlace first := by
          rw [nearest]
          gcongr
          exact digits_le upper
      _ = (2 ^ 52 : ℤ) * 2 ^ (lastPlace first + 1) := by
          rw [zpow_add_one₀ two_ne_zero]
          push_cast
          ring
      _ ≤ (2 ^ 52 : ℤ) * 2 ^ lastPlace second := by
          gcongr
          · exact one_le_two
          · exact finer
      _ ≤ nearest second := by
          rw [nearest]
          gcongr
          exact le_digits above

theorem nearest_monotone {first second : ℚ} (le : first ≤ second) :
    nearest first ≤ nearest second := by
  rcases lt_or_ge 0 first with positive | firstNonpositive
  · exact nearest_monotone_of_positive positive le
  rcases lt_or_ge second 0 with negative | secondNonnegative
  · rw [← neg_neg first, ← neg_neg second, nearest_neg, nearest_neg (-second)]
    exact neg_le_neg (nearest_monotone_of_positive (neg_pos.mpr negative) (neg_le_neg le))
  · calc nearest first = -nearest (-first) := by rw [nearest_neg, neg_neg]
      _ ≤ 0 := neg_nonpos.mpr (nearest_nonnegative (neg_nonneg.mpr firstNonpositive))
      _ ≤ nearest second := nearest_nonnegative secondNonnegative

/-- The real numbers tell the integers of up to 53 digits apart. -/
theorem nearest_of_small {value : ℤ} (small : |value| ≤ 2 ^ 53) : nearest value = value := by
  have kept {digits : ℤ} {place : ℤ} (bound : |digits| < 2 ^ 53) (above : 0 ≤ place) :
      nearest (digits * 2 ^ place) = digits * 2 ^ place :=
    nearest_of_digits bound (le_trans (by decide) above)
  rcases small.lt_or_eq with less | equal
  · have whole := kept less le_rfl
    rwa [zpow_zero, mul_one] at whole
  · rcases eq_or_eq_neg_of_abs_eq equal with rfl | rfl
    · have power := @kept 1 53 (by decide) (by decide)
      push_cast at power ⊢
      rwa [one_mul] at power
    · have power := @kept (-1) 53 (by decide) (by decide)
      push_cast at power ⊢
      rwa [neg_one_mul] at power

/-- A number above half of the smallest positive one is not rounded to zero. -/
theorem nearest_positive {value : ℚ} (above : 2 ^ (leastExponent - 1) < value) :
    0 < nearest value := by
  have unit : (0 : ℚ) < 2 ^ leastExponent := zpow_pos two_pos _
  rcases le_or_gt (2 ^ leastExponent) value with atLeast | below
  · have kept := @nearest_of_digits 1 leastExponent (by decide) le_rfl
    rw [Int.cast_one, one_mul] at kept
    calc 0 < 2 ^ leastExponent := unit
      _ = nearest (2 ^ leastExponent) := kept.symm
      _ ≤ nearest value := nearest_monotone atLeast
  · have positive : 0 < value := (zpow_pos two_pos _).trans above
    have half : 1 / 2 < value / 2 ^ leastExponent := by
      rw [lt_div_iff₀ unit]
      rwa [zpow_sub_one₀ two_ne_zero, mul_comm, ← one_div] at above
    have less : value / 2 ^ leastExponent < 1 := (div_lt_one unit).mpr below
    have floor : ⌊value / 2 ^ leastExponent⌋ = 0 :=
      Int.floor_eq_zero_iff.mpr ⟨(div_pos positive unit).le, less⟩
    have rounded : halfEven (value / 2 ^ leastExponent) = 1 := by
      rw [half_even_of_gt (by rwa [← Int.self_sub_floor, floor, Int.cast_zero, sub_zero]), floor,
        zero_add]
    have place : lastPlace value = leastExponent := by
      apply last_place_eq positive.ne' le_rfl _ (Or.inl rfl)
      rw [abs_of_pos positive]
      exact below.trans_le (zpow_le_zpow_right₀ one_le_two (by omega))
    rw [nearest, place, rounded, Int.cast_one, one_mul]
    exact unit

theorem nearest_eq_zero_iff (value : ℤ) : nearest value = 0 ↔ value = 0 := by
  have one : nearest 1 = 1 := by exact_mod_cast @nearest_of_small 1 (by decide)
  constructor
  · intro zero
    by_contra nonzero
    rcases Int.lt_or_gt_of_ne nonzero with negative | positive
    · have less := nearest_monotone (show (value : ℚ) ≤ -1 by exact_mod_cast Int.le_sub_one_of_lt negative)
      rw [nearest_neg, one] at less
      linarith
    · have greater := nearest_monotone (show (1 : ℚ) ≤ value by exact_mod_cast positive)
      rw [one] at greater
      linarith
  · rintro rfl
    rw [Int.cast_zero, nearest_zero]

theorem abs_nearest_le {value : ℚ} {place : ℤ} (least : leastExponent ≤ place)
    (bound : |value| ≤ 2 ^ place) : |nearest value| ≤ 2 ^ place := by
  have power : nearest (2 ^ place) = 2 ^ place := by
    have kept := @nearest_of_digits 1 _ (by decide) least
    rwa [Int.cast_one, one_mul] at kept
  rw [abs_le] at bound ⊢
  constructor
  · rw [← power, ← nearest_neg]
    exact nearest_monotone bound.1
  · rw [← power]
    exact nearest_monotone bound.2

end Nearest

end LineTemplate.Number

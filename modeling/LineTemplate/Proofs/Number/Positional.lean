import LineTemplate.Number.Real
import LineTemplate.Proofs.Number.Decimal
import LineTemplate.Proofs.Number.Fields

/-!
The text of a finite real number. It shows digits, with digits behind a point where the number is not
whole, and they write a number that is zero for zero alone: the shortest decimal is taken from an
interval that lies above half of the smallest positive number.
-/

namespace LineTemplate.Number

section Digits

theorem of_decimal_digits_append_zeros (digits : List Char) (count : ℕ) :
    ofDecimalDigits (digits ++ List.replicate count '0') = ofDecimalDigits digits * 10 ^ count := by
  induction count with
  | zero => simp
  | succ count ih =>
      have zero : digitValue '0' = 0 := rfl
      rw [List.replicate_succ', ← List.append_assoc, ofDecimalDigits, of_digits_concat,
        ← ofDecimalDigits, ih, zero, Nat.add_zero, pow_succ, mul_assoc]

theorem of_decimal_digits_zeros_append (count : ℕ) (digits : List Char) :
    ofDecimalDigits (List.replicate count '0' ++ digits) = ofDecimalDigits digits := by
  induction count with
  | zero => rfl
  | succ count ih =>
      rw [← ih, List.replicate_succ]
      rfl

theorem of_decimal_digits_to_digits (number : ℕ) :
    ofDecimalDigits (Nat.toDigits 10 number) = number := by
  rw [← Nat.toList_repr, of_decimal_digits_repr]

theorem all_digits_of_to_digits (number : ℕ) : (Nat.toDigits 10 number).all Char.isDigit = true := by
  rw [List.all_eq_true]
  exact fun digit member => Nat.isDigit_of_mem_toDigits (by decide) (by decide) member

theorem all_digits_of_zeros (count : ℕ) :
    (List.replicate count '0').all Char.isDigit = true := by
  rw [List.all_replicate]
  cases count <;> rfl

/-- Zeros at the end of a fraction are dropped. -/
theorem drop_zeros (fraction : List Char) :
    ∃ count, fraction =
      (fraction.reverse.dropWhile (· == '0')).reverse ++ List.replicate count '0' := by
  refine ⟨(fraction.reverse.takeWhile (· == '0')).length, ?_⟩
  have zeros : fraction.reverse.takeWhile (· == '0') =
      List.replicate (fraction.reverse.takeWhile (· == '0')).length '0' := by
    rw [List.eq_replicate_iff]
    exact ⟨rfl, fun digit member => by simpa using List.mem_takeWhile_imp member⟩
  rw [← List.reverse_replicate, ← zeros, ← List.reverse_append, List.takeWhile_append_dropWhile,
    List.reverse_reverse]

end Digits

/-- Digits, and behind a point those of a fraction if it has any. -/
def written (whole fraction : List Char) : List Char :=
  if fraction.isEmpty then whole else whole ++ '.' :: fraction

/-- The digits write the number. -/
structure Writes (whole fraction : List Char) (number : ℚ) : Prop where
  isDigits : isDigits whole = true
  allDigits : fraction.all Char.isDigit = true
  number_eq : number = ofDecimalDigits (whole ++ fraction) * 10 ^ (-(fraction.length : ℤ))

section Positional

theorem writes_whole {whole : List Char} (digits : isDigits whole = true) :
    Writes whole [] (ofDecimalDigits whole) :=
  ⟨digits, rfl, by simp⟩

/-- A point put into digits, with the zeros at the end left away. -/
theorem writes_fraction {padded : List Char} {places : ℕ} (allDigits : padded.all Char.isDigit = true)
    (enough : places < padded.length) :
    Writes (padded.take (padded.length - places))
      ((padded.drop (padded.length - places)).reverse.dropWhile (· == '0')).reverse
      (ofDecimalDigits padded * 10 ^ (-(places : ℤ))) := by
  obtain ⟨count, zeros⟩ := drop_zeros (padded.drop (padded.length - places))
  generalize wholeIs : padded.take (padded.length - places) = whole
  generalize ((padded.drop (padded.length - places)).reverse.dropWhile (· == '0')).reverse = kept
    at zeros
  have parts : padded = whole ++ kept ++ List.replicate count '0' := by
    rw [List.append_assoc, ← zeros, ← wholeIs, List.take_append_drop]
  have length : places = kept.length + count := by
    have lengths := congrArg List.length zeros
    rw [List.length_drop, List.length_append, List.length_replicate] at lengths
    omega
  have nonempty : whole ≠ [] := by
    rintro rfl
    have lengths := congrArg List.length wholeIs
    rw [List.length_take, List.length_nil] at lengths
    omega
  rw [parts, List.all_append, List.all_append, Bool.and_eq_true, Bool.and_eq_true] at allDigits
  refine ⟨?_, allDigits.1.2, ?_⟩
  · rw [isDigits, allDigits.1.1, Bool.and_true, Bool.not_eq_true', List.isEmpty_eq_false_iff]
    exact nonempty
  · rw [parts, of_decimal_digits_append_zeros, length, Nat.cast_add, neg_add,
      zpow_add₀ (by norm_num), zpow_neg _ (count : ℤ), zpow_natCast]
    push_cast
    field_simp

theorem positional_writes (coefficient : ℕ) (power : ℤ) :
    ∃ whole fraction, positional coefficient power = written whole fraction ∧
      Writes whole fraction (coefficient * 10 ^ power) := by
  have digits := all_digits_of_to_digits coefficient
  unfold positional
  by_cases whole : 0 ≤ power
  · refine ⟨Nat.toDigits 10 coefficient ++ List.replicate power.toNat '0', [], if_pos whole, ?_⟩
    have isNumber :
        isDigits (Nat.toDigits 10 coefficient ++ List.replicate power.toNat '0') = true := by
      rw [isDigits, List.all_append, digits, all_digits_of_zeros, Bool.and_true, Bool.and_true,
        Bool.not_eq_true', List.isEmpty_eq_false_iff]
      exact List.append_ne_nil_of_left_ne_nil Nat.toDigits_ne_nil _
    have value := writes_whole isNumber
    rw [of_decimal_digits_append_zeros, of_decimal_digits_to_digits] at value
    convert value using 1
    push_cast
    rw [← zpow_natCast, Int.toNat_of_nonneg whole]
  · simp only [if_neg whole]
    generalize paddedIs : List.replicate ((-power).toNat + 1 - (Nat.toDigits 10 coefficient).length)
      '0' ++ Nat.toDigits 10 coefficient = padded
    have enough : (-power).toNat < padded.length := by
      rw [← paddedIs, List.length_append, List.length_replicate]
      omega
    have allDigits : padded.all Char.isDigit = true := by
      rw [← paddedIs, List.all_append, all_digits_of_zeros, digits]
      rfl
    have value : ofDecimalDigits padded = coefficient := by
      rw [← paddedIs, of_decimal_digits_zeros_append, of_decimal_digits_to_digits]
    have fraction := writes_fraction allDigits enough
    rw [value, Int.toNat_of_nonneg (by omega), neg_neg] at fraction
    exact ⟨_, _, rfl, fraction⟩

end Positional

section Shortest

variable {interval : Interval} {coefficient mantissa : ℕ} {power exponent : ℤ}

theorem contains_of_nearest (found : interval.nearest? power = some coefficient) :
    interval.contains coefficient power = true := by
  unfold Interval.nearest? at found
  simp only at found
  split at found
  · next below above =>
      split at found
      · exact Option.some.inj found ▸ below
      · exact Option.some.inj found ▸ above
  · next below _ => exact Option.some.inj found ▸ below
  · next _ above => exact Option.some.inj found ▸ above
  · cases found

/-- An integer power as the quotient of the two natural powers of which one is trivial. -/
theorem zpow_eq_div (base : ℚ) (power : ℤ) :
    base ^ power = base ^ power.toNat / base ^ (-power).toNat := by
  rcases power.eq_nat_or_neg with ⟨count, rfl | rfl⟩
  · rw [Int.toNat_natCast, Int.toNat_neg_natCast, pow_zero, div_one, zpow_natCast]
  · rw [neg_neg, Int.toNat_natCast, Int.toNat_neg_natCast, pow_zero, zpow_neg, zpow_natCast, one_div]

theorem low_bound (mantissa : ℕ) (exponent : ℤ) (finest : Bool) :
    4 * mantissa - 2 ≤ (Interval.around mantissa exponent finest).low := by
  simp only [Interval.around]
  split <;> omega

/-- What lies in the interval around a number is more than half of the unit of its last place. -/
theorem above_of_contains {finest : Bool} (positive : 0 < mantissa)
    (inside : (Interval.around mantissa exponent finest).contains coefficient power = true) :
    (2 : ℚ) ^ (exponent - 1) < coefficient * 10 ^ power := by
  have low := low_bound mantissa exponent finest
  have above : 2 * (10 ^ (-power).toNat * 2 ^ (exponent - 2).toNat) <
      coefficient * (10 ^ power.toNat * 2 ^ (2 - exponent).toNat) := by
    have scale : 0 < 10 ^ (-power).toNat * 2 ^ (exponent - 2).toNat := by positivity
    rw [Interval.contains] at inside
    change (if (mantissa % 2 == 0) = true then _ else _) = true at inside
    split at inside
    · next even =>
        rw [beq_iff_eq] at even
        rw [Bool.and_eq_true, decide_eq_true_eq] at inside
        calc 2 * (10 ^ (-power).toNat * 2 ^ (exponent - 2).toNat)
            < (Interval.around mantissa exponent finest).low *
                (10 ^ (-power).toNat * 2 ^ (exponent - 2).toNat) :=
              Nat.mul_lt_mul_of_pos_right (by omega) scale
          _ ≤ coefficient * (10 ^ power.toNat * 2 ^ (2 - exponent).toNat) := inside.1
    · rw [Bool.and_eq_true, decide_eq_true_eq] at inside
      calc 2 * (10 ^ (-power).toNat * 2 ^ (exponent - 2).toNat)
          ≤ (Interval.around mantissa exponent finest).low *
              (10 ^ (-power).toNat * 2 ^ (exponent - 2).toNat) :=
            Nat.mul_le_mul_right _ (by omega)
        _ < coefficient * (10 ^ power.toNat * 2 ^ (2 - exponent).toNat) := inside.1
  have above : (2 : ℚ) * (10 ^ (-power).toNat * 2 ^ (exponent - 2).toNat) <
      coefficient * (10 ^ power.toNat * 2 ^ (2 - exponent).toNat) := by exact_mod_cast above
  have half : (2 : ℚ) ^ (exponent - 1) = 2 * 2 ^ (exponent - 2) := by
    rw [← zpow_one_add₀ two_ne_zero]
    congr 1
    omega
  rw [half, zpow_eq_div 2, zpow_eq_div 10, neg_sub, ← mul_div_assoc, ← mul_div_assoc,
    div_lt_div_iff₀ (by positivity) (by positivity)]
  linarith

/-- The shortest decimal lies in the interval, were none found it would be a whole number. -/
theorem shortest_cases (mantissa : ℕ) (exponent : ℤ) (finest : Bool) :
    shortest mantissa exponent finest = (4 * mantissa, 0) ∨
      (Interval.around mantissa exponent finest).contains (shortest mantissa exponent finest).1
        (shortest mantissa exponent finest).2 = true := by
  simp only [shortest]
  generalize search : (List.range 18).findSome? _ = found
  cases found with
  | none => exact Or.inl rfl
  | some decimal =>
      obtain ⟨place, -, here⟩ := List.exists_of_findSome?_eq_some search
      obtain ⟨coefficient, nearest, rfl⟩ := Option.map_eq_some_iff.mp here
      exact Or.inr (contains_of_nearest nearest)

theorem shortest_above (finest : Bool) (positive : 0 < mantissa) (least : leastExponent ≤ exponent) :
    (2 : ℚ) ^ (leastExponent - 1) <
      (shortest mantissa exponent finest).1 * 10 ^ (shortest mantissa exponent finest).2 := by
  rcases shortest_cases mantissa exponent finest with whole | inside
  · rw [whole, zpow_zero, mul_one]
    calc (2 : ℚ) ^ (leastExponent - 1) < 2 ^ (0 : ℤ) :=
          zpow_lt_zpow_right₀ one_lt_two (by decide)
      _ ≤ (4 * mantissa : ℕ) := by
          rw [zpow_zero]
          exact_mod_cast Nat.le_trans positive (Nat.le_mul_of_pos_left mantissa (by decide))
  · exact (zpow_le_zpow_right₀ one_le_two (by omega)).trans_lt (above_of_contains positive inside)

end Shortest

/-- The text of a finite number, with its sign put before digits. They are a lone zero for zero, and
write a number above half of the smallest positive one for every other. -/
theorem real_text_writes {value : Float} (finite : value.isFinite = true) :
    ∃ (negative : Bool) (whole fraction : List Char) (number : ℚ),
      (realText value).toList =
        (if negative then '-' :: written whole fraction else written whole fraction) ∧
      Writes whole fraction number ∧
      if value != 0.0 then (2 : ℚ) ^ (leastExponent - 1) < number
      else whole = ['0'] ∧ fraction = [] := by
  change (unpacked value).isFinite = true at finite
  have full := full_unpacked value
  have zeros := not_zero_iff value
  simp only [realText, of_float_eq]
  cases is : unpacked value with
  | notANumber =>
      rw [is] at finite
      cases finite
  | infinity =>
      rw [is] at finite
      cases finite
  | zero sign =>
      have zero : (value != 0.0) = false := by
        rw [← Bool.not_eq_true, zeros, is]
        exact id
      refine ⟨sign == .negative, ['0'], [], _, ?_, writes_whole rfl, ?_⟩
      · simp only [Binary.ofUnpacked, String.toList_ofList]
        rfl
      · rw [zero]
        exact ⟨rfl, rfl⟩
  | finite sign mantissa exponent positive =>
      rw [is] at full
      have nonzero : (value != 0.0) = true := by
        rw [zeros, is]
        trivial
      obtain ⟨-, least, -⟩ := full
      obtain ⟨whole, fraction, shape, writes⟩ :=
        positional_writes (shortest mantissa exponent (exponent == leastExponent)).1
          (shortest mantissa exponent (exponent == leastExponent)).2
      refine ⟨sign == .negative, whole, fraction, _, ?_, writes, ?_⟩
      · simp only [Binary.ofUnpacked, String.toList_ofList, if_neg positive.ne', shape]
      · rw [if_pos nonzero]
        exact shortest_above _ positive least

end LineTemplate.Number

import LineTemplate.Number.Decimal

/-!
Writing an integer and reading it again.
-/

namespace LineTemplate.Number

theorem is_digits_of_repr (number : Nat) : isDigits number.repr.toList = true := by
  rw [isDigits, Nat.toList_repr, Bool.and_eq_true]
  constructor
  · rw [Bool.not_eq_true', List.isEmpty_eq_false_iff]
    exact Nat.toDigits_ne_nil
  · rw [List.all_eq_true]
    intro digit member
    exact Nat.isDigit_of_mem_toDigits (by decide) (by decide) member

theorem of_decimal_digits_eq (digits : List Char) :
    ofDecimalDigits digits = Nat.ofDigitChars 10 digits 0 := by
  rw [ofDecimalDigits, ofDigits, Nat.ofDigitChars_eq_foldl]
  congr 1
  funext total digit
  rw [digitValue, Nat.mul_comm]

theorem of_decimal_digits_repr (number : Nat) : ofDecimalDigits number.repr.toList = number := by
  rw [of_decimal_digits_eq, Nat.toList_repr, Nat.ofDigitChars_ten_toDigits]

variable {value : Int64}

theorem integer_text_of_nonnegative (sign : 0 ≤ value.toInt) :
    integerText value = value.toInt.toNat.repr := by
  rw [integerText, Int.toString_eq_repr, Int.repr_eq_if, if_pos sign]

theorem integer_text_of_negative (sign : value.toInt < 0) :
    integerText value = "-" ++ (-value.toInt).toNat.repr := by
  rw [integerText, Int.toString_eq_repr, Int.repr_eq_if, if_neg (Int.not_le.mpr sign)]

/-- Digits, behind a minus for a negative integer. -/
theorem integer_text_digits (value : Int64) :
    ∃ digits, isDigits digits = true ∧
      (integerText value).toList = (if value.toInt < 0 then '-' :: digits else digits) ∧
      ofDecimalDigits digits = value.toInt.natAbs := by
  by_cases sign : value.toInt < 0
  · refine ⟨(-value.toInt).toNat.repr.toList, is_digits_of_repr _, ?_, ?_⟩
    · rw [integer_text_of_negative sign, String.toList_append, if_pos sign]
      rfl
    · rw [of_decimal_digits_repr]
      omega
  · refine ⟨value.toInt.toNat.repr.toList, is_digits_of_repr _, ?_, ?_⟩
    · rw [integer_text_of_nonnegative (Int.not_lt.mp sign), if_neg sign]
    · rw [of_decimal_digits_repr]
      omega

theorem digits_not_empty {digits : List Char} (isNumber : isDigits digits = true) :
    ∃ first rest, digits = first :: rest ∧ first.isDigit = true := by
  cases digits with
  | nil => cases isNumber
  | cons first rest =>
      rw [isDigits, Bool.and_eq_true, List.all_cons, Bool.and_eq_true] at isNumber
      exact ⟨first, rest, rfl, isNumber.2.1⟩

theorem split_sign_of_digit {first : Char} {rest : List Char} (digit : first.isDigit = true) :
    splitSign (first :: rest) = (false, first :: rest) := by
  unfold splitSign
  split
  · next shape =>
      obtain ⟨rfl, _⟩ := List.cons.inj shape
      cases digit
  · next shape =>
      obtain ⟨rfl, _⟩ := List.cons.inj shape
      cases digit
  · rfl

theorem integer_of_integer_text (value : Int64) :
    integer? (integerText value).toList = some value := by
  obtain ⟨digits, isNumber, text, magnitude⟩ := integer_text_digits value
  obtain ⟨first, rest, rfl, digit⟩ := digits_not_empty isNumber
  by_cases sign : value.toInt < 0
  · rw [text, if_pos sign]
    simp only [integer?, splitSign, isNumber, if_true, magnitude]
    rw [Int.ofNat_natAbs_of_nonpos (Int.le_of_lt sign), Int.neg_neg, fit_of_to_int]
  · rw [text, if_neg sign]
    simp only [integer?, split_sign_of_digit digit, isNumber, if_true, magnitude]
    simp only [Bool.false_eq_true, if_false]
    rw [Int.natAbs_of_nonneg (Int.not_lt.mp sign), fit_of_to_int]

theorem fit_of_bounds {number : Int} (lower : -0x8000000000000000 ≤ number)
    (upper : number < 0x8000000000000000) : fit? number = some (Int64.ofInt number) := by
  rw [fit?, if_pos ⟨lower, upper⟩]

end LineTemplate.Number

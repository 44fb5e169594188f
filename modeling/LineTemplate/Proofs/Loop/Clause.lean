import LineTemplate.Loop.Clause
import LineTemplate.Proofs.Number.Rounding
import LineTemplate.Proofs.Success

/-!
A loop that runs has a first value. A list without items is refused, and a range that leads towards
its end has at least its start: for integers because a quotient with the sign of the step is not
negative, for real numbers because no rounding on the way makes it negative.
-/

namespace LineTemplate.Loop

open Number
open Float.Model (Format)
open Float.Model.UnpackedFloat

theorem direction_of_checked {isZero pointsAway : Bool}
    (checked : checkDirection isZero pointsAway = .ok ()) :
    isZero = false ∧ pointsAway = false := by
  cases isZero <;> cases pointsAway <;> simp_all [checkDirection]

theorem listed_values_nonempty {lexemes : List Line.Lexeme} {values : Array Value}
    (listed : listedValues lexemes = .ok values) : 0 < values.size := by
  unfold listedValues at listed
  simp only at listed
  split at listed
  · simp at listed
  · next items =>
      obtain rfl := Except.ok.inj listed
      rw [List.size_toArray, List.length_map, List.length_pos_iff]
      intro none
      exact items (by rw [none]; rfl)

section Integers

variable {start last step : Int} {limit : Nat} {values : Array Value}

theorem quotient_nonnegative (nonzero : step ≠ 0) (forward : ¬ (0 < step ∧ last < start))
    (backward : ¬ (step < 0 ∧ start < last)) : 0 ≤ Int.tdiv (last - start) step := by
  rcases Int.lt_or_gt_of_ne nonzero with negative | positive
  · rw [← Int.neg_sub, ← Int.neg_neg step, Int.neg_tdiv_neg]
    exact Int.tdiv_nonneg (by omega) (by omega)
  · exact Int.tdiv_nonneg (by omega) (Int.le_of_lt positive)

theorem integer_range_nonempty (ranged : integerRange start last step limit = .ok values) :
    0 < values.size := by
  obtain ⟨_, checked, counted⟩ := ok_of_bind ranged
  obtain ⟨nonzero, towards⟩ := direction_of_checked checked
  simp only [beq_eq_false_iff_ne, Bool.or_eq_false_iff, Bool.and_eq_false_iff,
    decide_eq_false_iff_not] at nonzero towards
  have quotient : 0 ≤ Int.tdiv (last - start) step :=
    quotient_nonnegative nonzero (by omega) (by omega)
  obtain ⟨_, finished⟩ := ok_of_check counted
  obtain rfl := Except.ok.inj finished
  rw [Array.size_map, Array.size_range]
  omega

end Integers

section Reals

variable {start last step : Float} {places limit : Nat} {values : Array Value}

/-- The quotient that counts the steps from the start to the end. -/
theorem leans_quotient (nonzero : (step == 0.0) = false) (forward : ¬ (0.0 < step ∧ last < start))
    (backward : ¬ (step < 0.0 ∧ start < last)) :
    Leans .positive (unpacked ((last - start) / step)) := by
  change Leans .positive (unpack Format.binary64 (pack Format.binary64
    (div Format.binary64 (unpacked (last - start)) (unpacked step))))
  apply leans_pack
  rw [← Bool.not_eq_true, equal_iff, unpacked_zero] at nonzero
  rw [less_iff, less_iff, unpacked_zero] at forward backward
  have fullStart := full_unpacked start
  have fullLast := full_unpacked last
  cases is : unpacked step with
  | notANumber => cases unpacked (last - start) <;> trivial
  | infinity => cases unpacked (last - start) <;> trivial
  | zero =>
      rw [is] at nonzero
      exact absurd rfl nonzero
  | finite sign =>
      rw [is] at forward backward
      cases sign with
      | positive =>
          have difference : Leans .positive (unpacked (last - start)) :=
            leans_pack (leans_sub fullLast fullStart fun less => forward ⟨rfl, less⟩)
          exact leans_div difference (show Leans .positive (.finite .positive _ _ _) from rfl)
      | negative =>
          have difference : Leans .negative (unpacked (last - start)) :=
            leans_pack
              (leans_sub_of_not_greater fullLast fullStart fun less => backward ⟨rfl, less⟩)
          exact leans_div difference (show Leans .negative (.finite .negative _ _ _) from rfl)

/-- The tolerance does not take a value away. -/
theorem leans_tolerant {value : Float} (leans : Leans .positive (unpacked value)) :
    Leans .positive (unpacked (value + 1e-9)) :=
  leans_pack (leans_add leans (rfl : Leans .positive (unpacked 1e-9)))

/-- The number of values is one more than the number of steps. -/
theorem reaches_one_succ {whole : Int} (notNegative : 0 ≤ whole) :
    ReachesOne (unpacked (Float.ofInt whole + 1.0)) := by
  cases whole with
  | ofNat steps => exact reaches_one_unpack_pack (reaches_one_add_one (leans_of_natural steps))
  | negSucc steps => exact absurd notNegative (Int.not_le.mpr (Int.negSucc_lt_zero steps))

theorem real_range_nonempty (ranged : realRange start last step places limit = .ok values) :
    0 < values.size := by
  obtain ⟨_, checked, counted⟩ := ok_of_bind ranged
  obtain ⟨nonzero, towards⟩ := direction_of_checked checked
  simp only [Bool.or_eq_false_iff, Bool.and_eq_false_iff, decide_eq_false_iff_not] at towards
  have quotient : Leans .positive (unpacked ((last - start) / step)) :=
    leans_quotient nonzero (not_and_of_not_or_not towards.1) (not_and_of_not_or_not towards.2)
  split at counted
  · cases counted
  · next whole floored =>
      have notNegative := floor_of_leans (leans_tolerant quotient) floored
      obtain ⟨inRange, finished⟩ := ok_of_check counted
      obtain rfl := Except.ok.inj finished
      simp only [Bool.or_eq_true, Bool.not_eq_true', not_or, Bool.not_eq_false] at inRange
      obtain ⟨total, counts, positive⟩ :=
        floor_of_reaches_one (reaches_one_succ notNegative) inRange.1
      rw [counts, Array.size_map, Array.size_range, Option.getD_some]
      omega

end Reals

theorem range_nonempty {range : Range} {limit : Nat} {values : Array Value}
    (ranged : range.values limit = .ok values) : 0 < values.size := by
  unfold Range.values at ranged
  split at ranged
  · exact integer_range_nonempty ranged
  · exact integer_range_nonempty ranged
  · exact real_range_nonempty ranged

namespace Clause

theorem read_values_nonempty {form : Option Line.Lexeme} {rest : List Line.Lexeme} {limit : Nat}
    {values : Array Value} (read : readValues form rest limit = .ok values) : 0 < values.size := by
  unfold readValues at read
  split at read
  · cases read
  · split at read
    · exact listed_values_nonempty read
    · split at read
      · obtain ⟨range, _, ranged⟩ := ok_of_bind read
        exact range_nonempty ranged
      · cases read

/-- A loop line that can be read has a value to begin with. -/
theorem values_nonempty {line : String} {limit : Nat} {clause : Clause}
    (read : ofLine line limit = .ok clause) : 0 < clause.values.size := by
  obtain ⟨_, unquoted⟩ := ok_of_check read
  obtain ⟨name, _, named⟩ := ok_of_bind unquoted
  obtain ⟨values, valued, bounded⟩ := ok_of_bind named
  obtain ⟨_, finished⟩ := ok_of_check bounded
  obtain rfl := Except.ok.inj finished
  exact read_values_nonempty valued

end Clause

end LineTemplate.Loop

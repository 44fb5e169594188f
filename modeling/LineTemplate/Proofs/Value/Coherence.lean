import LineTemplate.Proofs.Expression.Numerals
import LineTemplate.Proofs.Value.Order

/-!
How equality and order of values fit together. Finite numbers and texts have one order, that every
comparison follows from either side. Only a truth beside another kind of value departs from it: such
a pair is equal when both are true or both are not, while its order is that of the texts.
-/

namespace LineTemplate

namespace Value

open Number

def isTruth : Value → Bool
  | truth _ => true
  | _ => false

/-- Any real number that the value is, is finite. -/
def Finite (value : Value) : Prop :=
  ∀ number, value = .real number → number.isFinite = true

section Orders

variable {left right : Value}

theorem compare_texts_eq_iff {left right : String} : compareTexts left right = .eq ↔ left = right := by
  unfold compareTexts
  split
  · next less => exact ⟨nofun, fun same => absurd (same ▸ less) (lt_irrefl right)⟩
  · split
    · next same => exact ⟨fun _ => same, fun _ => rfl⟩
    · next different => exact ⟨nofun, fun same => absurd same different⟩

theorem compare_texts_swap (left right : String) :
    compareTexts right left = (compareTexts left right).swap := by
  unfold compareTexts
  rcases lt_trichotomy left right with less | rfl | greater
  · rw [if_pos less, if_neg less.not_gt, if_neg less.ne']
    rfl
  · rw [if_neg (lt_irrefl left), if_pos rfl]
    rfl
  · rw [if_pos greater, if_neg greater.not_gt, if_neg greater.ne']
    rfl

/-- A number that is read off a value without an infinite one is a rational. -/
theorem stands_for_of_reading {value : Value} (finite : value.Finite) {numeral : Numeral}
    (reads : value.numeral? = some numeral) :
    ∃ number, StandsFor (unpacked numeral.toFloat) number := by
  have finite := Numeral.is_finite_of_value finite reads
  cases numeral with
  | integer whole => exact ⟨_, stands_for_of_int64 whole⟩
  | real number => exact ⟨_, full_unpacked number, finite, rfl⟩

/-- Two values that both read as numbers compare as rationals do, and all others as texts. -/
theorem order_cases (leftFinite : left.Finite) (rightFinite : right.Finite) :
    (∃ leftNumeral rightNumeral first second, left.numeral? = some leftNumeral ∧
      right.numeral? = some rightNumeral ∧ StandsFor (unpacked leftNumeral.toFloat) first ∧
      StandsFor (unpacked rightNumeral.toFloat) second ∧ left.order right = compare first second ∧
      right.order left = compare second first) ∨
    ((left.numeral? = none ∨ right.numeral? = none) ∧
      left.order right = compareTexts left.render right.render ∧
      right.order left = compareTexts right.render left.render) := by
  cases leftReads : left.numeral? with
  | none => exact Or.inr ⟨Or.inl rfl, by rw [order, leftReads], by
      rw [order, leftReads]
      cases right.numeral? <;> rfl⟩
  | some leftNumeral =>
      cases rightReads : right.numeral? with
      | none => exact Or.inr ⟨Or.inr rfl, by rw [order, leftReads, rightReads], by
          rw [order, leftReads, rightReads]⟩
      | some rightNumeral =>
          obtain ⟨first, leftStands⟩ := stands_for_of_reading leftFinite leftReads
          obtain ⟨second, rightStands⟩ := stands_for_of_reading rightFinite rightReads
          refine Or.inl ⟨_, _, first, second, rfl, rfl, leftStands, rightStands, ?_, ?_⟩
          · rw [order, leftReads, rightReads]
            exact compare_reals_eq leftStands rightStands
          · rw [order, leftReads, rightReads]
            exact compare_reals_eq rightStands leftStands

theorem numeral_of_truth {value : Value} (kind : value.isTruth = true) : value.numeral? = none := by
  cases value with
  | truth => rfl
  | integer | real | text => cases kind

/-- Beside a truth, values are ordered as their texts. -/
theorem order_of_truth (mixed : left.isTruth = true ∨ right.isTruth = true) :
    left.order right = compareTexts left.render right.render := by
  unfold order
  rcases mixed with kind | kind
  · rw [numeral_of_truth kind]
  · rw [numeral_of_truth kind]
    cases left.numeral? <;> rfl

theorem order_swap (leftFinite : left.Finite) (rightFinite : right.Finite) :
    right.order left = (left.order right).swap := by
  rcases order_cases leftFinite rightFinite with
    ⟨_, _, first, second, _, _, _, _, forward, backward⟩ | ⟨_, forward, backward⟩
  · rw [forward, backward, Std.OrientedOrd.eq_swap]
  · rw [forward, backward, compare_texts_swap]

end Orders

section Equality

variable {left right : Value}

theorem loosely_equals_of_truth (mixed : left.isTruth = true ∨ right.isTruth = true) :
    left.looselyEquals right = (left.isTrue == right.isTrue) := by
  rcases mixed with kind | kind
  · cases left <;> cases kind
    cases right <;> rfl
  · cases right <;> cases kind
    next value =>
      have swapped : (value == left.isTrue) = (left.isTrue == value) := Bool.beq_comm
      cases left <;> first
        | rfl
        | exact swapped

theorem loosely_equals_of_no_numeral (leftOther : left.isTruth = false)
    (rightOther : right.isTruth = false) (noNumeral : left.numeral? = none ∨ right.numeral? = none) :
    left.looselyEquals right = (left.render == right.render) := by
  cases left <;> cases right <;> first
    | cases leftOther; done
    | cases rightOther; done
    | (simp only [looselyEquals]
       rcases noNumeral with none | none <;> simp [none])

/-- Of values with an order, those are equal that are neither before nor behind the other. -/
theorem loosely_equals_eq_order (leftFinite : left.Finite) (rightFinite : right.Finite)
    (alike : left.isTruth = right.isTruth) :
    left.looselyEquals right = (left.order right == .eq) := by
  cases kind : left.isTruth with
  | true =>
      rw [kind] at alike
      cases left <;> cases kind
      cases right <;> cases alike
      next value other => cases value <;> cases other <;> decide +kernel
  | false =>
      rw [kind] at alike
      rcases order_cases leftFinite rightFinite with
        ⟨_, _, first, second, leftReads, rightReads, leftStands, rightStands, forward, _⟩ |
        ⟨noNumeral, forward, _⟩
      · rw [loosely_equals_of_numerals leftReads rightReads, forward, Bool.eq_iff_iff, equal_iff,
          compare_of_stands_for leftStands rightStands, Option.some_inj, beq_iff_eq]
      · rw [loosely_equals_of_no_numeral kind alike.symm noNumeral, forward, Bool.eq_iff_iff,
          beq_iff_eq, beq_iff_eq, compare_texts_eq_iff]

end Equality

end Value

namespace Expression

/-- Whether the comparison asks for equality alone, and not for the order. -/
def Comparison.asksEquality : Comparison → Bool
  | equal | notEqual => true
  | _ => false

theorem Comparison.holds_of_order (comparison : Comparison) {left right : Value}
    (equality : comparison.asksEquality = true →
      left.looselyEquals right = (left.order right == .eq)) :
    comparison.holds left right = comparison.accepts (left.order right) := by
  cases comparison <;> first
    | rfl
    | simp only [holds, accepts, equality rfl, bne]

/-- Of below, equal and above an order is exactly one. -/
theorem one_accepted (ordering : Ordering) :
    ∃! comparison, comparison ∈ [Comparison.less, .equal, .greater] ∧
      comparison.accepts ordering = true := by
  cases ordering
  · exact ⟨.less, by decide, by rintro (_ | _) <;> decide⟩
  · exact ⟨.equal, by decide, by rintro (_ | _) <;> decide⟩
  · exact ⟨.greater, by decide, by rintro (_ | _) <;> decide⟩

/-- One order of two values decides every comparison of them, from either side, and so exactly one of
below, equal and above holds. Only where one value is a truth and the other is none, equality is
decided by what is true instead, and the order is that of the texts. -/
theorem comparisons_cohere {left right : Value} (leftFinite : left.Finite)
    (rightFinite : right.Finite) {leftTree rightTree : Tree}
    (leftHas : leftTree.evaluate = .ok left) (rightHas : rightTree.evaluate = .ok right) :
    ∃ ordering : Ordering,
      (∀ comparison : Comparison,
        (comparison.asksEquality = true → left.isTruth = right.isTruth) →
        (Tree.binary (.comparison comparison) leftTree rightTree).evaluate =
            .ok (.truth (comparison.accepts ordering)) ∧
          (Tree.binary (.comparison comparison) rightTree leftTree).evaluate =
            .ok (.truth (comparison.accepts ordering.swap))) ∧
      (left.isTruth = right.isTruth →
        ∃! comparison, comparison ∈ [Comparison.less, .equal, .greater] ∧
          (Tree.binary (.comparison comparison) leftTree rightTree).evaluate = .ok (.truth true)) ∧
      (left.isTruth ≠ right.isTruth → ordering = Value.compareTexts left.render right.render ∧
        ∀ comparison ∈ [(Comparison.equal, left.isTrue == right.isTrue),
            (.notEqual, left.isTrue != right.isTrue)],
          (Tree.binary (.comparison comparison.1) leftTree rightTree).evaluate =
              .ok (.truth comparison.2) ∧
            (Tree.binary (.comparison comparison.1) rightTree leftTree).evaluate =
              .ok (.truth comparison.2)) := by
  have forward (comparison : Comparison)
      (alike : comparison.asksEquality = true → left.isTruth = right.isTruth) :=
    comparison.holds_of_order fun asks =>
      Value.loosely_equals_eq_order leftFinite rightFinite (alike asks)
  have backward (comparison : Comparison)
      (alike : comparison.asksEquality = true → left.isTruth = right.isTruth) :=
    comparison.holds_of_order fun asks =>
      Value.loosely_equals_eq_order rightFinite leftFinite (alike asks).symm
  refine ⟨left.order right, ?_, ?_, ?_⟩
  · intro comparison alike
    rw [evaluate_comparison comparison leftHas rightHas,
      evaluate_comparison comparison rightHas leftHas, forward comparison alike,
      backward comparison alike, Value.order_swap leftFinite rightFinite]
    exact ⟨rfl, rfl⟩
  · intro alike
    simp only [evaluate_comparison _ leftHas rightHas, forward _ fun _ => alike, Except.ok.injEq,
      Value.truth.injEq]
    exact one_accepted (left.order right)
  · intro mixed
    have oneTruth : left.isTruth = true ∨ right.isTruth = true := by
      cases leftKind : left.isTruth <;> cases rightKind : right.isTruth <;> simp_all
    refine ⟨Value.order_of_truth oneTruth, fun comparison listed => ?_⟩
    have equal := Value.loosely_equals_of_truth oneTruth
    have reversed := Value.loosely_equals_of_truth oneTruth.symm
    rw [Bool.beq_comm] at reversed
    rw [evaluate_comparison _ leftHas rightHas, evaluate_comparison _ rightHas leftHas]
    simp only [List.mem_cons, List.not_mem_nil, or_false] at listed
    rcases listed with rfl | rfl
    · exact ⟨congrArg (Except.ok ∘ Value.truth) equal, congrArg (Except.ok ∘ Value.truth) reversed⟩
    · simp only [Comparison.holds, equal, reversed, bne]
      exact ⟨trivial, trivial⟩

/-- Text that spells a number beside a number, and beside a truth, which as text is above it. -/
theorem comparisons_cohere_spelled :
    (Value.text "10").Finite ∧ (Value.integer 9).Finite ∧ (Value.truth true).Finite ∧
      (∃! comparison, comparison ∈ [Comparison.less, .equal, .greater] ∧
        (Tree.binary (.comparison comparison) (.literal (.text "10"))
          (.literal (.integer 9))).evaluate = .ok (.truth true)) ∧
      (Tree.binary (.comparison .less) (.literal (.text "10"))
        (.literal (.truth true))).evaluate = .ok (.truth true) ∧
      (Tree.binary (.comparison .equal) (.literal (.text "10"))
        (.literal (.truth true))).evaluate = .ok (.truth true) := by
  have leftFinite : (Value.text "10").Finite := nofun
  have rightFinite : (Value.integer 9).Finite := nofun
  have truthFinite : (Value.truth true).Finite := nofun
  obtain ⟨_, -, one, -⟩ := @comparisons_cohere _ _ leftFinite rightFinite (.literal (.text "10"))
    (.literal (.integer 9)) rfl rfl
  obtain ⟨ordering, follows, -, mixed⟩ := @comparisons_cohere _ _ leftFinite truthFinite
    (.literal (.text "10")) (.literal (.truth true)) rfl rfl
  obtain ⟨texts, equality⟩ := mixed (by decide)
  have below : ordering = .lt := by
    rw [texts]
    decide
  have less := (follows .less nofun).1
  rw [below] at less
  exact ⟨leftFinite, rightFinite, truthFinite, one rfl, less, (equality _ List.mem_cons_self).1⟩

/-- The truth equals the number one, and yet is greater. -/
theorem equal_and_greater :
    evaluateText "true == 1" = .ok (.truth true) ∧ evaluateText "true > 1" = .ok (.truth true) := by
  decide +kernel

end Expression

end LineTemplate

import LineTemplate.Expression.Evaluation
import LineTemplate.Proofs.Block.Operations
import LineTemplate.Proofs.Number.Integers

/-!
Comparing values that read as integers. They are compared as the real numbers nearest to them, so
the order of two integers is never reversed, but two integers with the same nearest real number count
as equal. Integers of at most 53 binary digits, and all that real numbers tell apart, are compared as
the integers that they are.
-/

namespace LineTemplate

namespace Number

/-- No other integer than itself has the same nearest real number. -/
def ToldApart (left right : Int64) : Prop :=
  nearest left.toInt = nearest right.toInt → left = right

section ToldApart

variable {left right : Int64}

/-- Integers of at most 53 binary digits are told apart from all others. -/
theorem told_apart_of_small (small : |left.toInt| < 2 ^ 53) : ToldApart left right := by
  intro same
  obtain ⟨lower, upper⟩ := abs_lt.mp small
  have kept := nearest_of_small small.le
  have limit : nearest ((2 ^ 53 : ℤ) : ℚ) = ((2 ^ 53 : ℤ) : ℚ) := nearest_of_small (by decide)
  have least : nearest ((-2 ^ 53 : ℤ) : ℚ) = ((-2 ^ 53 : ℤ) : ℚ) := nearest_of_small (by decide)
  rw [kept] at same
  have within : |right.toInt| ≤ 2 ^ 53 := by
    rw [abs_le]
    constructor
    · by_contra! below
      have le := nearest_monotone (Int.cast_le (R := ℚ).mpr below.le)
      rw [least, ← same, Int.cast_le] at le
      omega
    · by_contra! above
      have le := nearest_monotone (Int.cast_le (R := ℚ).mpr above.le)
      rw [limit, ← same, Int.cast_le] at le
      omega
  rw [nearest_of_small within, Int.cast_inj, Int64.toInt_inj] at same
  exact same

theorem nearest_inj (told : ToldApart left right) :
    nearest left.toInt = nearest right.toInt ↔ left = right :=
  ⟨told, fun equal => by rw [equal]⟩

/-- Rounding keeps the order of what it tells apart. -/
theorem compare_nearest (told : ToldApart left right) :
    compare (nearest left.toInt) (nearest right.toInt) = compare left.toInt right.toInt := by
  rcases lt_trichotomy left.toInt right.toInt with less | equal | greater
  · have le := nearest_monotone (Int.cast_le (R := ℚ).mpr less.le)
    have ne : nearest left.toInt ≠ nearest right.toInt :=
      fun same => less.ne (congrArg Int64.toInt (told same))
    rw [compare_lt_iff_lt.mpr less, compare_lt_iff_lt.mpr (lt_of_le_of_ne le ne)]
  · rw [equal, compare_eq_iff_eq.mpr rfl, compare_eq_iff_eq.mpr rfl]
  · have le := nearest_monotone (Int.cast_le (R := ℚ).mpr greater.le)
    have ne : nearest right.toInt ≠ nearest left.toInt :=
      fun same => greater.ne (congrArg Int64.toInt (told same.symm)).symm
    rw [compare_gt_iff_gt.mpr greater, compare_gt_iff_gt.mpr (lt_of_le_of_ne le ne)]

end ToldApart

end Number

namespace Value

open Number

/-- Finite real numbers have an order. -/
theorem compare_reals_eq {left right : Float} {leftValue rightValue : ℚ}
    (leftStands : StandsFor (unpacked left) leftValue)
    (rightStands : StandsFor (unpacked right) rightValue) :
    compareReals left right = compare leftValue rightValue := by
  have forward : left < right ↔ leftValue < rightValue := by
    rw [less_iff, compare_of_stands_for leftStands rightStands, Option.some_inj, compare_lt_iff_lt]
  have backward : right < left ↔ rightValue < leftValue := by
    rw [less_iff, compare_of_stands_for rightStands leftStands, Option.some_inj, compare_lt_iff_lt]
  unfold compareReals
  simp only [forward, backward]
  rcases lt_trichotomy leftValue rightValue with less | equal | greater
  · rw [if_pos less, compare_lt_iff_lt.mpr less]
  · rw [if_neg equal.not_lt, if_neg equal.not_gt, compare_eq_iff_eq.mpr equal]
  · rw [if_neg greater.not_gt, if_pos greater, compare_gt_iff_gt.mpr greater]

section Reading

variable {left right : Value} {leftInteger rightInteger : Int64}

theorem loosely_equals_of_numerals {leftNumeral rightNumeral : Numeral}
    (leftReads : left.numeral? = some leftNumeral)
    (rightReads : right.numeral? = some rightNumeral) :
    left.looselyEquals right = (leftNumeral.toFloat == rightNumeral.toFloat) := by
  cases left <;> cases right <;> first
    | cases leftReads; done
    | cases rightReads; done
    | simp only [looselyEquals, leftReads, rightReads]

theorem equal_of_reads (leftReads : left.numeral? = some (.integer leftInteger))
    (rightReads : right.numeral? = some (.integer rightInteger)) :
    left.looselyEquals right = true ↔ nearest leftInteger.toInt = nearest rightInteger.toInt := by
  rw [loosely_equals_of_numerals leftReads rightReads, Numeral.toFloat, Numeral.toFloat, equal_iff,
    compare_of_integers, Option.some_inj, compare_eq_iff_eq]

theorem order_of_reads (leftReads : left.numeral? = some (.integer leftInteger))
    (rightReads : right.numeral? = some (.integer rightInteger)) :
    left.order right = compare (nearest leftInteger.toInt) (nearest rightInteger.toInt) := by
  rw [order, leftReads, rightReads]
  exact compare_reals_eq (stands_for_of_int64 leftInteger) (stands_for_of_int64 rightInteger)

end Reading

end Value

namespace Expression

open Number Value

/-- What a comparison makes of the order of its sides. -/
def Comparison.accepts (comparison : Comparison) (ordering : Ordering) : Bool :=
  match comparison with
  | equal => ordering == .eq
  | notEqual => ordering != .eq
  | less => ordering == .lt
  | lessOrEqual => ordering != .gt
  | greater => ordering == .gt
  | greaterOrEqual => ordering != .lt

section Comparing

variable {left right : Value} {leftInteger rightInteger : Int64}

theorem Comparison.holds_of_reads (comparison : Comparison)
    (leftReads : left.numeral? = some (.integer leftInteger))
    (rightReads : right.numeral? = some (.integer rightInteger)) :
    comparison.holds left right =
      comparison.accepts (compare (nearest leftInteger.toInt) (nearest rightInteger.toInt)) := by
  have equal : left.looselyEquals right =
      (compare (nearest leftInteger.toInt) (nearest rightInteger.toInt) == .eq) := by
    rw [Bool.eq_iff_iff, equal_of_reads leftReads rightReads, beq_iff_eq, compare_eq_iff_eq]
  cases comparison <;>
    simp only [holds, accepts, equal, order_of_reads leftReads rightReads, bne]

theorem evaluate_comparison (comparison : Comparison) {leftTree rightTree : Tree}
    (leftHas : leftTree.evaluate = .ok left) (rightHas : rightTree.evaluate = .ok right) :
    (Tree.binary (.comparison comparison) leftTree rightTree).evaluate =
      .ok (.truth (comparison.holds left right)) := by
  rw [Tree.evaluate, leftHas, rightHas]
  rfl

theorem any_equal_of_reads {values : List Value} {integers : List Int64}
    (leftReads : left.numeral? = some (.integer leftInteger))
    (read : List.Forall₂ (fun value integer => value.numeral? = some (.integer integer)) values
      integers)
    (told : ∀ integer ∈ integers, ToldApart leftInteger integer) :
    values.any left.looselyEquals = integers.contains leftInteger := by
  induction read with
  | nil => rfl
  | cons reads _ ih =>
      have first := equal_of_reads leftReads reads
      rw [nearest_inj (told _ List.mem_cons_self)] at first
      rw [List.any_cons, List.contains_cons, ih fun integer member =>
        told integer (List.mem_cons_of_mem _ member), Bool.eq_iff_iff.mpr (first.trans beq_iff_eq.symm)]

end Comparing

/-- Integers that real numbers tell apart are compared as integers, by every operator and by the
cases of a selection, whatever spells them. -/
theorem integers_are_compared {left : Value} {a : Int64}
    (leftReads : left.numeral? = some (.integer a)) :
    (∀ (right : Value) (b : Int64), right.numeral? = some (.integer b) → ToldApart a b →
      (left.looselyEquals right = true ↔ a = b) ∧
      left.order right = compare a.toInt b.toInt ∧
      ∀ (comparison : Comparison) (leftTree rightTree : Tree),
        leftTree.evaluate = .ok left → rightTree.evaluate = .ok right →
        (Tree.binary (.comparison comparison) leftTree rightTree).evaluate =
          .ok (.truth (comparison.accepts (compare a.toInt b.toInt)))) ∧
    (∀ (values : List Value) (integers : List Int64) (frame : Block.Frame) (outer : Block.Stack),
      List.Forall₂ (fun value integer => value.numeral? = some (.integer integer)) values integers →
      (∀ integer ∈ integers, ToldApart a integer) → frame.kind = .selection left →
      Block.Stack.case (frame :: outer) values =
        ({ frame with
            live := !frame.taken && integers.contains a
            taken := frame.taken || integers.contains a } :: outer, .ok ())) := by
  constructor
  · intro right b rightReads told
    refine ⟨?_, ?_, ?_⟩
    · rw [equal_of_reads leftReads rightReads, nearest_inj told]
    · rw [order_of_reads leftReads rightReads, compare_nearest told]
    · intro comparison leftTree rightTree leftHas rightHas
      rw [evaluate_comparison comparison leftHas rightHas,
        comparison.holds_of_reads leftReads rightReads, compare_nearest told]
  · intro values integers frame outer read told selects
    rw [Block.Stack.case_of_selection outer selects, any_equal_of_reads leftReads read told]

theorem integers_are_compared_spelled :
    (Tree.binary (.comparison .less) (.literal (.text "9007199254740991"))
        (.literal (.integer Int64.maxValue))).evaluate = .ok (.truth true) ∧
      Block.Stack.case [⟨.selection (.text "9007199254740991"), false, false, 7⟩]
          [.integer 9007199254740990, .text " 9007199254740991"] =
        ([⟨.selection (.text "9007199254740991"), true, true, 7⟩], .ok ()) := by
  have spelled : (Value.text "9007199254740991").numeral? = some (.integer 9007199254740991) := by
    decide +kernel
  have blank : (Value.text " 9007199254740991").numeral? = some (.integer 9007199254740991) := by
    decide +kernel
  have told : ∀ other, ToldApart 9007199254740991 other :=
    fun other => told_apart_of_small (by decide)
  obtain ⟨compared, selected⟩ := integers_are_compared spelled
  constructor
  · exact (compared (.integer Int64.maxValue) Int64.maxValue rfl (told _)).2.2 .less _ _ rfl rfl
  · exact selected _ [9007199254740990, 9007199254740991] _ [] (.cons rfl (.cons blank .nil))
      (fun other _ => told other) rfl

/-- Two to the power 53 and the integer after it have the same nearest real number. -/
theorem neighbours_are_equal :
    (Value.integer 9007199254740992).looselyEquals (.integer 9007199254740993) = true ∧
      (Value.integer 9007199254740992).order (.integer 9007199254740993) = .eq := by
  decide +kernel

end Expression

end LineTemplate

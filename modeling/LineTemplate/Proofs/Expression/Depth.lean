import LineTemplate.Proofs.Expression.Exactness
import LineTemplate.Proofs.Expression.Rendering

/-!
How deep the evaluation of an expression goes. Nestings are limited, and between two of them a way
through the tree takes at most one step to a right operand for each level of operators. A step to a
left operand takes no nesting: a tree is as high as a chain of operators is long, and no height
bounds the trees of all texts. What the limit bounds is the number of all other steps.
-/

namespace LineTemplate.Expression

namespace Tree

/-- The number of trees on the longest way from the root to a leaf. -/
def height : Tree → Nat
  | literal _ => 1
  | unary _ operand => operand.height + 1
  | binary _ left right => max left.height right.height + 1
  | choice condition whenTrue whenFalse =>
      max condition.height (max whenTrue.height whenFalse.height) + 1

/-- The most steps on a way from the root to a leaf, those to a left operand not counted. -/
def turns : Tree → Nat
  | literal _ => 0
  | unary _ operand => operand.turns + 1
  | binary _ left right => max left.turns (right.turns + 1)
  | choice condition whenTrue whenFalse =>
      max condition.turns (max whenTrue.turns whenFalse.turns) + 1

/-- The length of the way from the root that leads to left operands only. -/
def leftSteps : Tree → Nat
  | binary _ left _ => left.leftSteps + 1
  | _ => 0

/-- The most steps to a left operand that follow each other on a way from the root to a leaf. -/
def longestChain : Tree → Nat
  | literal _ => 0
  | unary _ operand => operand.longestChain
  | binary _ left right =>
      max (left.leftSteps + 1) (max left.longestChain right.longestChain)
  | choice condition whenTrue whenFalse =>
      max condition.longestChain (max whenTrue.longestChain whenFalse.longestChain)

/-- Evaluation with at most so many calls inside each other; none when that is not enough. -/
def evaluateWithin : Nat → Tree → ExceptT Error Option Value
  | 0, _ => none
  | _ + 1, literal value => return value
  | depth + 1, unary operator operand => do
      ExceptT.mk (some (applyUnary operator (← operand.evaluateWithin depth)))
  | depth + 1, binary .and left right => do
      if (← left.evaluateWithin depth).isTrue then
        return .truth (← right.evaluateWithin depth).isTrue
      else return .truth false
  | depth + 1, binary .or left right => do
      if (← left.evaluateWithin depth).isTrue then return .truth true
      else return .truth (← right.evaluateWithin depth).isTrue
  | depth + 1, binary (.arithmetic operator) left right => do
      let leftValue ← left.evaluateWithin depth
      let rightValue ← right.evaluateWithin depth
      ExceptT.mk (some (arithmeticResult (leftValue.apply operator rightValue)))
  | depth + 1, binary (.comparison comparison) left right => do
      let leftValue ← left.evaluateWithin depth
      let rightValue ← right.evaluateWithin depth
      return .truth (comparison.holds leftValue rightValue)
  | depth + 1, choice condition whenTrue whenFalse => do
      if (← condition.evaluateWithin depth).isTrue then whenTrue.evaluateWithin depth
      else whenFalse.evaluateWithin depth

section Height

variable {tree : Tree} {chain bound : Nat}

theorem left_steps_le_longest_chain (tree : Tree) : tree.leftSteps ≤ tree.longestChain := by
  cases tree with
  | binary => exact Nat.le_max_left _ _
  | _ => exact Nat.zero_le _

/-- The height below a turn, where one turn more is allowed for. -/
theorem height_below_turn (cut : tree.height ≤ tree.turns * (chain + 1) + tree.leftSteps + 1)
    (short : tree.longestChain ≤ chain) (few : tree.turns < bound) :
    tree.height ≤ bound * (chain + 1) := by
  have steps := Nat.le_trans tree.left_steps_le_longest_chain short
  calc tree.height ≤ tree.turns * (chain + 1) + (chain + 1) := by omega
    _ = (tree.turns + 1) * (chain + 1) := (Nat.succ_mul _ _).symm
    _ ≤ bound * (chain + 1) := Nat.mul_le_mul_right _ few

/-- The turns of a way cut it into chains: the one at the root, and one behind each turn. -/
theorem height_le_of_chain (tree : Tree) (short : tree.longestChain ≤ chain) :
    tree.height ≤ tree.turns * (chain + 1) + tree.leftSteps + 1 := by
  induction tree with
  | literal => simp only [height, turns, leftSteps, Nat.zero_mul, Nat.le_refl]
  | unary operator operand ih =>
      have below := height_below_turn (ih short) short (Nat.lt_succ_self operand.turns)
      exact Nat.succ_le_succ below
  | binary operator left right ihLeft ihRight =>
      simp only [longestChain, Nat.max_le] at short
      have inLeft := ihLeft short.2.1
      have kept := Nat.mul_le_mul_right (chain + 1) (Nat.le_max_left left.turns (right.turns + 1))
      have inRight := height_below_turn (ihRight short.2.2) short.2.2
        (Nat.le_max_right left.turns (right.turns + 1))
      simp only [height, turns, leftSteps]
      omega
  | choice condition whenTrue whenFalse ihCondition ihTrue ihFalse =>
      simp only [longestChain, Nat.max_le] at short
      have inCondition : condition.height ≤ (choice condition whenTrue whenFalse).turns * (chain + 1) :=
        height_below_turn (ihCondition short.1) short.1 (by simp only [turns]; omega)
      have inTrue : whenTrue.height ≤ (choice condition whenTrue whenFalse).turns * (chain + 1) :=
        height_below_turn (ihTrue short.2.1) short.2.1 (by simp only [turns]; omega)
      have inFalse : whenFalse.height ≤ (choice condition whenTrue whenFalse).turns * (chain + 1) :=
        height_below_turn (ihFalse short.2.2) short.2.2 (by simp only [turns]; omega)
      exact Nat.succ_le_succ (Nat.max_le.mpr ⟨inCondition, Nat.max_le.mpr ⟨inTrue, inFalse⟩⟩)

end Height

section Evaluation

variable {Item Result : Type}

/-- Steps that are deep enough one by one are deep enough together. -/
theorem within_bind (first : Except Error Item) (next : Item → Except Error Result)
    {deeper : Item → ExceptT Error Option Result}
    (within : ∀ item, first = .ok item → deeper item = ExceptT.mk (some (next item))) :
    ((ExceptT.mk (some first) : ExceptT Error Option Item) >>= deeper) =
      ExceptT.mk (some (first >>= next)) := by
  cases first with
  | error error => rfl
  | ok item => exact within item rfl

theorem depth_of_height {depth : Nat} {tree : Tree} (enough : tree.height ≤ depth) :
    ∃ less, depth = less + 1 ∧ tree.height ≤ less + 1 := by
  cases depth with
  | zero => cases tree <;> exact absurd enough (Nat.not_succ_le_zero _)
  | succ less => exact ⟨less, rfl, enough⟩

/-- No call goes deeper than the tree is high. -/
theorem evaluate_within_of_height {depth : Nat} {tree : Tree} (enough : tree.height ≤ depth) :
    tree.evaluateWithin depth = some tree.evaluate := by
  induction tree generalizing depth with
  | literal =>
      obtain ⟨less, rfl, _⟩ := depth_of_height enough
      rfl
  | unary operator operand ih =>
      obtain ⟨less, rfl, enough⟩ := depth_of_height enough
      have inside := ih (Nat.le_of_succ_le_succ enough)
      simp only [evaluateWithin, evaluate]
      rw [inside]
      exact within_bind _ _ fun _ _ => rfl
  | binary operator left right ihLeft ihRight =>
      obtain ⟨less, rfl, enough⟩ := depth_of_height enough
      obtain ⟨ofLeft, ofRight⟩ := Nat.max_le.mp (Nat.le_of_succ_le_succ enough)
      have inLeft := ihLeft ofLeft
      have inRight := ihRight ofRight
      -- `and` and `or` call for the right operand only if the left one leaves the truth open.
      rcases operator with operator | comparison | _ | _ <;> simp only [evaluateWithin, evaluate] <;>
        rw [inLeft, inRight]
      · exact within_bind _ _ fun _ _ => within_bind _ _ fun _ _ => rfl
      · exact within_bind _ _ fun _ _ => within_bind _ _ fun _ _ => rfl
      · refine within_bind _ _ fun value _ => ?_
        cases value.isTrue
        · rfl
        · exact within_bind _ _ fun _ _ => rfl
      · refine within_bind _ _ fun value _ => ?_
        cases value.isTrue
        · exact within_bind _ _ fun _ _ => rfl
        · rfl
  | choice condition whenTrue whenFalse ihCondition ihTrue ihFalse =>
      obtain ⟨less, rfl, enough⟩ := depth_of_height enough
      obtain ⟨ofCondition, arms⟩ := Nat.max_le.mp (Nat.le_of_succ_le_succ enough)
      obtain ⟨ofTrue, ofFalse⟩ := Nat.max_le.mp arms
      simp only [evaluateWithin, evaluate]
      rw [ihCondition ofCondition, ihTrue ofTrue, ihFalse ofFalse]
      refine within_bind _ _ fun value _ => ?_
      cases value.isTrue <;> rfl

end Evaluation

section Terms

variable {tree : Tree}

theorem literal_of_term {value : Value} (same : tree.term = .literal value) :
    tree = .literal value := by
  cases tree <;> cases same
  rfl

theorem unary_of_term {operator : UnaryOperator} {operand : Term}
    (same : tree.term = .unary operator operand) :
    ∃ inner, tree = .unary operator inner ∧ inner.term = operand := by
  cases tree <;> cases same
  exact ⟨_, rfl, rfl⟩

theorem binary_of_term {operator : BinaryOperator} {left right : Term}
    (same : tree.term = .binary operator left right) :
    ∃ first second, tree = .binary operator first second ∧ first.term = left ∧
      second.term = right := by
  cases tree <;> cases same
  exact ⟨_, _, rfl, rfl, rfl⟩

theorem choice_of_term {condition whenTrue whenFalse : Term}
    (same : tree.term = .choice condition whenTrue whenFalse) :
    ∃ test first second, tree = .choice test first second ∧ test.term = condition ∧
      first.term = whenTrue ∧ second.term = whenFalse := by
  cases tree <;> cases same
  exact ⟨_, _, _, rfl, rfl, rfl, rfl⟩

end Terms

end Tree

/-- Between two nestings there is at most one turn for each level down to the operands. -/
theorem turns_of_written {level : Level} {nesting : Nat} {tokens : List Token} {tree : Tree}
    (written : Written level nesting tokens tree.term) :
    tree.turns + level.rank ≤ Level.operand.rank * (nesting + 1) := by
  have leaf {value : Value} (nesting : Nat) :
      (Tree.literal value).turns + Level.operand.rank ≤ Level.operand.rank * (nesting + 1) := by
    simp only [Tree.turns, Level.rank]
    omega
  generalize same : tree.term = term at written
  induction written generalizing tree with
  | tighter loose _ ih =>
      have inside := ih same
      rw [Level.rank_tighter loose] at inside
      omega
  | choice _ _ _ ihTest ihTrue ihFalse =>
      obtain ⟨test, first, second, rfl, ofTest, ofTrue, ofFalse⟩ := Tree.choice_of_term same
      have inTest := ihTest ofTest
      have inTrue := ihTrue ofTrue
      have inFalse := ihFalse ofFalse
      simp only [Level.rank, Tree.turns] at inTest inTrue inFalse ⊢
      omega
  | binary operates _ _ ihBefore ihAfter =>
      obtain ⟨first, second, rfl, ofFirst, ofSecond⟩ := Tree.binary_of_term same
      have inFirst := ihBefore ofFirst
      have inSecond := ihAfter ofSecond
      rw [Level.rank_tighter (is_binary_of_operator operates).2] at inSecond
      simp only [Tree.turns]
      omega
  | negation _ ih | refusal _ ih =>
      obtain ⟨inner, rfl, ofInner⟩ := Tree.unary_of_term same
      have inside := ih ofInner
      simp only [Level.rank, Tree.turns] at inside ⊢
      omega
  | plus _ ih =>
      have inside := ih same
      simp only [Level.rank] at inside ⊢
      omega
  | parenthesis _ ih =>
      have inside := ih same
      simp only [Level.rank] at inside ⊢
      omega
  | integer | real | text | truth =>
      rw [Tree.literal_of_term same]
      exact leaf _
  | name =>
      cases tree <;> cases same

/-- The most turns that nestings allow. -/
def maximalTurns : Nat := Level.operand.rank * maximalNesting

theorem turns_of_text {text : String} {tree : Tree} (read : Tree.ofText text = .ok tree) :
    tree.turns ≤ maximalTurns := by
  rw [Tree.ofText] at read
  split at read
  · cases read
  · next found _ =>
      have derived : Derives maximalNesting found tree.term := (of_tokens_answers found).1 tree read
      have written : Written .choice 255 found tree.term := derived
      exact turns_of_written written

/-- A way through the tree of a text takes only so many steps other than to a left operand, whatever
the text is. The tree is not higher than these steps and the chains of left operands before, between
and behind them, and its evaluation calls itself no deeper. -/
theorem nestings_bound_depth {text : String} {tree : Tree} (read : Tree.ofText text = .ok tree) :
    let bound := (maximalTurns + 1) * (tree.longestChain + 1)
    tree.turns ≤ maximalTurns ∧ tree.height ≤ bound ∧
      ∀ depth, bound ≤ depth → tree.evaluateWithin depth = some tree.evaluate := by
  intro bound
  have turns := turns_of_text read
  have high : tree.height ≤ bound :=
    Tree.height_below_turn (tree.height_le_of_chain (Nat.le_refl _)) (Nat.le_refl _)
      (Nat.lt_succ_of_le turns)
  refine ⟨turns, high, fun depth enough => ?_⟩
  exact Tree.evaluate_within_of_height (Nat.le_trans high enough)

theorem nestings_bound_depth_mixed :
    let text := "-(1 + 2 + 3 * 4) > 5 ? 6 : 7"
    let tree : Tree :=
      .choice
        (.binary (.comparison .greater)
          (.unary .negate
            (.binary (.arithmetic .add)
              (.binary (.arithmetic .add) (.literal (.integer 1)) (.literal (.integer 2)))
              (.binary (.arithmetic .multiply) (.literal (.integer 3)) (.literal (.integer 4)))))
          (.literal (.integer 5)))
        (.literal (.integer 6)) (.literal (.integer 7))
    Tree.ofText text = .ok tree ∧ tree.turns = 4 ∧ tree.longestChain = 2 ∧ tree.height = 6 ∧
      tree.height ≤ (maximalTurns + 1) * 3 := by
  intro text tree
  have read : Tree.ofText text = .ok tree := by decide +kernel
  exact ⟨read, rfl, rfl, rfl, (nestings_bound_depth read).2.1⟩

/-- The sum of so many ones and another one. -/
def sumOfOnes : Nat → Tree
  | 0 => .literal (.integer 1)
  | count + 1 => .binary (.arithmetic .add) (sumOfOnes count) (.literal (.integer 1))

/-- How the sum is written, token by token. -/
def sumOfOnesWriting : Nat → List (Token × List Char)
  | 0 => [(.integer 1, ['1'])]
  | count + 1 => sumOfOnesWriting count ++ [(.plus, ['+']), (.integer 1, ['1'])]

theorem renders_sum_of_ones (count : Nat) :
    ∀ entry ∈ sumOfOnesWriting count, Renders entry.1 entry.2 := by
  have one : Renders (.integer 1) ['1'] := @Renders.decimal 1 (by decide) 0
  induction count with
  | zero => exact List.forall_mem_singleton.mpr one
  | succ count ih =>
      simp only [sumOfOnesWriting, List.forall_mem_append, List.forall_mem_cons]
      exact ⟨ih, .symbol (by decide), one, nofun⟩

theorem written_sum_of_ones (count nesting : Nat) :
    Written .sum nesting ((sumOfOnesWriting count).map Prod.fst) (sumOfOnes count).term := by
  have one : Written .operand nesting [.integer 1] (.literal (.integer 1)) := .integer 1
  induction count with
  | zero => exact written_looser (by decide) one
  | succ count ih =>
      rw [sumOfOnesWriting, List.map_append]
      exact .binary rfl ih (written_looser (by decide) one)

theorem sum_of_ones_read (count : Nat) :
    Tree.ofText (String.ofList (spaced (sumOfOnesWriting count))) = .ok (sumOfOnes count) := by
  have derived : Derives maximalNesting ((sumOfOnesWriting count).map Prod.fst)
      (sumOfOnes count).term := written_looser (Nat.zero_le _) (written_sum_of_ones count 255)
  rw [Tree.ofText, String.toList_ofList, tokens_of_spaced (renders_sum_of_ones count)]
  exact (of_tokens_of_derives derived).trans (Tree.tree_term _)

theorem sum_of_ones_deep (count : Nat) :
    (sumOfOnes count).height = count + 1 ∧ (sumOfOnes count).evaluateWithin count = none := by
  induction count with
  | zero => exact ⟨rfl, rfl⟩
  | succ count ih =>
      constructor
      · simp only [sumOfOnes, Tree.height, ih.1]
        omega
      · simp only [sumOfOnes, Tree.evaluateWithin]
        rw [ih.2]
        rfl

/-- No height bounds the trees of all texts, and no depth is enough to evaluate them: a sum of ones
is read however long it is. -/
theorem no_depth_for_all_texts :
    (¬ ∃ bound, ∀ text tree, Tree.ofText text = .ok tree → tree.height ≤ bound) ∧
      ¬ ∃ bound, ∀ text tree, Tree.ofText text = .ok tree →
        tree.evaluateWithin bound = some tree.evaluate := by
  constructor
  · rintro ⟨bound, bounded⟩
    have low := bounded _ _ (sum_of_ones_read bound)
    rw [(sum_of_ones_deep bound).1] at low
    exact Nat.not_succ_le_self bound low
  · rintro ⟨bound, enough⟩
    have evaluated := enough _ _ (sum_of_ones_read bound)
    rw [(sum_of_ones_deep bound).2] at evaluated
    cases evaluated

end LineTemplate.Expression

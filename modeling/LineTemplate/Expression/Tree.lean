import LineTemplate.Expression.Error
import LineTemplate.Value.Order

/-!
Expression trees. A tree holds no names: names have been replaced by the values they stand for
before the text is read.
-/

namespace LineTemplate.Expression

inductive Comparison where
  | equal
  | notEqual
  | less
  | lessOrEqual
  | greater
  | greaterOrEqual
  deriving DecidableEq, Repr

def Comparison.holds (comparison : Comparison) (left right : Value) : Bool :=
  match comparison with
  | equal => left.looselyEquals right
  | notEqual => !left.looselyEquals right
  | less => left.order right == .lt
  | lessOrEqual => left.order right != .gt
  | greater => left.order right == .gt
  | greaterOrEqual => left.order right != .lt

inductive UnaryOperator where
  | negate
  | not
  deriving DecidableEq, Repr

inductive BinaryOperator where
  | arithmetic (operator : Operator)
  | comparison (comparison : Comparison)
  | and
  | or
  deriving DecidableEq, Repr

inductive Tree where
  | literal (value : Value)
  | unary (operator : UnaryOperator) (operand : Tree)
  | binary (operator : BinaryOperator) (left right : Tree)
  | choice (condition whenTrue whenFalse : Tree)
  deriving DecidableEq

end LineTemplate.Expression

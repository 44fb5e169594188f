import LineTemplate.Expression.Parsing

/-!
The value of an expression. `and`, `or` and a choice evaluate only the operands that decide their
value, so an error in another operand does not arise.
-/

namespace LineTemplate.Expression

def arithmeticResult : Except ArithmeticError Value → Except Error Value
  | .ok value => .ok value
  | .error error => .error (.arithmetic error)

def applyUnary : UnaryOperator → Value → Except Error Value
  | .negate, value => arithmeticResult value.negate
  | .not, value => .ok (.truth !value.isTrue)

def Tree.evaluate : Tree → Except Error Value
  | literal value => .ok value
  | unary operator operand => do
      applyUnary operator (← operand.evaluate)
  | binary .and left right => do
      if (← left.evaluate).isTrue then return .truth (← right.evaluate).isTrue
      else return .truth false
  | binary .or left right => do
      if (← left.evaluate).isTrue then return .truth true
      else return .truth (← right.evaluate).isTrue
  | binary (.arithmetic operator) left right => do
      let leftValue ← left.evaluate
      let rightValue ← right.evaluate
      arithmeticResult (leftValue.apply operator rightValue)
  | binary (.comparison comparison) left right => do
      let leftValue ← left.evaluate
      let rightValue ← right.evaluate
      return .truth (comparison.holds leftValue rightValue)
  | choice condition whenTrue whenFalse => do
      if (← condition.evaluate).isTrue then whenTrue.evaluate else whenFalse.evaluate

/-- The value of a text without names. -/
def evaluateText (text : String) : Except Error Value := do
  (← Tree.ofText text).evaluate

end LineTemplate.Expression

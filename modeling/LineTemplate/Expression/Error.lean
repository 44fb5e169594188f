import LineTemplate.Expression.Token
import LineTemplate.Value.Arithmetic

/-!
What can go wrong between the text of an expression and its value.
-/

namespace LineTemplate.Expression

/-- Faults of form. -/
inductive Fault where
  | openText
  | tooDeep
  | missingColon
  | lonelyAssignment
  | missingClosing
  | unexpected (found : Option Token)
  deriving DecidableEq

def Fault.message : Fault → String
  | openText => "unterminated string literal"
  | tooDeep => "expression nested too deeply"
  | missingColon => "expected ':' in ternary"
  | lonelyAssignment => "unexpected '=' (use '==' to compare)"
  | missingClosing => "expected ')'"
  | unexpected found => "unexpected " ++ describePlace found

inductive Error where
  | malformed (fault : Fault)
  | unknownName (name : String)
  | arithmetic (error : ArithmeticError)
  | empty
  deriving DecidableEq

def Error.message : Error → String
  | malformed fault => "syntax error in expression: " ++ fault.message
  | unknownName name => s!"unknown identifier '{name}'"
  | arithmetic error => error.message
  | empty => "empty expression"

end LineTemplate.Expression

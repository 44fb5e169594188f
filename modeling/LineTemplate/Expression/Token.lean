import LineTemplate.Number.Real

/-!
Tokens of expressions, and how a message names them.
-/

namespace LineTemplate.Expression

inductive Token where
  | integer (value : Int64)
  | real (value : Float)
  | text (value : String)
  | name (value : String)
  | plus
  | minus
  | star
  | slash
  | percent
  | bang
  | equal
  | notEqual
  | less
  | lessOrEqual
  | greater
  | greaterOrEqual
  | and
  | or
  | assign
  | question
  | colon
  | opening
  | closing
  | unknown (character : Char)
  deriving DecidableEq

def Token.describe : Token → String
  | integer value => Number.integerText value
  | real value => Number.realText value
  | text value => "\"" ++ value ++ "\""
  | name value => value
  | plus => "Plus"
  | minus => "Minus"
  | star => "Star"
  | slash => "Slash"
  | percent => "Percent"
  | bang => "Bang"
  | equal => "Eq"
  | notEqual => "Ne"
  | less => "Lt"
  | lessOrEqual => "Le"
  | greater => "Gt"
  | greaterOrEqual => "Ge"
  | and => "And"
  | or => "Or"
  | assign => "Assign"
  | question => "Question"
  | colon => "Colon"
  | opening => "LParen"
  | closing => "RParen"
  | unknown character => "'" ++ character.toString ++ "'"

/-- What stands at a place in an expression: a token, or the end. -/
def describePlace : Option Token → String
  | some token => token.describe
  | none => "end of expression"

end LineTemplate.Expression

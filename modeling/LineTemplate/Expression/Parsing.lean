import LineTemplate.Expression.Lexing
import LineTemplate.Expression.Tree

/-!
Reading tokens as a tree. From loosest to tightest the levels are: choice, or, and, equality,
relation, sum, product, prefixed operators, operands. The binary levels group to the left.

Nesting is bounded: the whole, each parenthesis, each arm of a choice and each prefixed operator
takes one of a fixed number of nestings.
-/

namespace LineTemplate.Expression

/-- A tree read from the front of the tokens, and the tokens after it. -/
abbrev Parsed := Except Error (Tree × List Token)

abbrev Parser := List Token → Parsed

def maximalNesting : Nat := 256

def malformed {Result : Type} (fault : Fault) : Except Error Result :=
  .error (.malformed fault)

def orOperator? : Token → Option BinaryOperator
  | .or => some .or
  | _ => none

def andOperator? : Token → Option BinaryOperator
  | .and => some .and
  | _ => none

def equalityOperator? : Token → Option BinaryOperator
  | .equal => some (.comparison .equal)
  | .notEqual => some (.comparison .notEqual)
  | _ => none

def relationOperator? : Token → Option BinaryOperator
  | .less => some (.comparison .less)
  | .lessOrEqual => some (.comparison .lessOrEqual)
  | .greater => some (.comparison .greater)
  | .greaterOrEqual => some (.comparison .greaterOrEqual)
  | _ => none

def sumOperator? : Token → Option BinaryOperator
  | .plus => some (.arithmetic .add)
  | .minus => some (.arithmetic .subtract)
  | _ => none

def productOperator? : Token → Option BinaryOperator
  | .star => some (.arithmetic .multiply)
  | .slash => some (.arithmetic .divide)
  | .percent => some (.arithmetic .remainder)
  | _ => none

/-- Operators of one level and their right operands, gathered onto the tree to their left. Each
takes a token, so as many steps as there are tokens are enough. -/
def gather (operator? : Token → Option BinaryOperator) (operand : Parser) :
    Nat → Tree → List Token → Parsed
  | steps + 1, left, token :: rest =>
      match operator? token with
      | none => .ok (left, token :: rest)
      | some operator =>
          match operand rest with
          | .error error => .error error
          | .ok (right, after) => gather operator? operand steps (.binary operator left right) after
  | _, left, tokens => .ok (left, tokens)

/-- A level of operators that group to the left. -/
def leftLevel (operator? : Token → Option BinaryOperator) (steps : Nat) (operand : Parser) :
    Parser := fun tokens =>
  match operand tokens with
  | .error error => .error error
  | .ok (left, rest) => gather operator? operand steps left rest

/-- An assignment sign where an operator of equality could stand is a fault of its own. -/
def refuseAssignment : Parsed → Parsed
  | .ok (_, .assign :: _) => malformed .lonelyAssignment
  | parsed => parsed

def equality (steps : Nat) (operand : Parser) : Parser := fun tokens =>
  refuseAssignment
    (leftLevel equalityOperator? steps
      (leftLevel relationOperator? steps
        (leftLevel sumOperator? steps (leftLevel productOperator? steps operand))) tokens)

def disjunction (steps : Nat) (operand : Parser) : Parser :=
  leftLevel orOperator? steps (leftLevel andOperator? steps (equality steps operand))

/-- A condition alone, or with two arms, each a whole expression of its own. -/
def choice (condition arm : Parser) : Parser := fun tokens =>
  match condition tokens with
  | .ok (test, .question :: afterTest) =>
      match arm afterTest with
      | .ok (whenTrue, .colon :: afterArm) =>
          match arm afterArm with
          | .ok (whenFalse, rest) => .ok (.choice test whenTrue whenFalse, rest)
          | .error error => .error error
      | .ok _ => malformed .missingColon
      | .error error => .error error
  | parsed => parsed

def tooDeep : Parser := fun _ => malformed .tooDeep

def nameOperand (name : String) (rest : List Token) : Parsed :=
  if Text.equalIgnoringCase name "true" then .ok (.literal (.truth true), rest)
  else if Text.equalIgnoringCase name "false" then .ok (.literal (.truth false), rest)
  else .error (.unknownName name)

/-- Prefixed operators and operands. `inner` reads what a prefixed operator applies to and `whole`
what stands in parentheses. -/
def operandWith (inner whole : Parser) : Parser
  | .minus :: rest =>
      (inner rest).map fun (operand, after) => (.unary .negate operand, after)
  | .bang :: rest =>
      (inner rest).map fun (operand, after) => (.unary .not operand, after)
  | .plus :: rest => inner rest
  | .integer value :: rest => .ok (.literal (.integer value), rest)
  | .real value :: rest => .ok (.literal (.real value), rest)
  | .text value :: rest => .ok (.literal (.text value), rest)
  | .name name :: rest => nameOperand name rest
  | .opening :: rest =>
      match whole rest with
      | .ok (tree, .closing :: after) => .ok (tree, after)
      | .ok _ => malformed .missingClosing
      | .error error => .error error
  | token :: _ => malformed (.unexpected (some token))
  | [] => malformed (.unexpected none)

mutual

/-- A whole expression, with so many nestings left to take. -/
def expression (steps : Nat) : Nat → Parser
  | 0 => tooDeep
  | nesting + 1 => choice (disjunction steps (operand steps nesting)) (expression steps nesting)

def operand (steps : Nat) : Nat → Parser
  | 0 => operandWith tooDeep tooDeep
  | nesting + 1 =>
      operandWith (operand steps nesting)
        (choice (disjunction steps (operand steps nesting)) (expression steps nesting))

end

/-- What a prefixed operator applies to, when so many nestings are left. -/
def innerOperand (steps : Nat) : Nat → Parser
  | 0 => tooDeep
  | nesting + 1 => operand steps nesting

theorem operand_eq (steps nesting : Nat) :
    operand steps nesting = operandWith (innerOperand steps nesting) (expression steps nesting) := by
  cases nesting <;> rfl

/-- The tree of all the tokens. -/
def Tree.ofTokens (tokens : List Token) : Except Error Tree :=
  match tokens with
  | [] => .error .empty
  | _ =>
      match expression tokens.length maximalNesting tokens with
      | .ok (tree, []) => .ok tree
      | .ok (_, token :: _) => malformed (.unexpected (some token))
      | .error error => .error error

def Tree.ofText (text : String) : Except Error Tree :=
  match tokens text.toList with
  | .error fault => malformed fault
  | .ok tokens => Tree.ofTokens tokens

end LineTemplate.Expression

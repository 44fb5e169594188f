import LineTemplate.Value

/-!
Arithmetic on values. Two integers are computed exactly, with an error where 64 bits cannot hold
the result; as soon as one side is real both are taken as real numbers.
-/

namespace LineTemplate

inductive Operator where
  | add
  | subtract
  | multiply
  | divide
  | remainder
  deriving DecidableEq, Repr

def Operator.symbol : Operator → Char
  | add => '+'
  | subtract => '-'
  | multiply => '*'
  | divide => '/'
  | remainder => '%'

inductive ArithmeticError where
  | operand (operator : Operator) (value : Value)
  | divisionByZero
  | overflow (operator : Operator)
  deriving DecidableEq

def ArithmeticError.message : ArithmeticError → String
  | operand operator value =>
      s!"cannot apply '{operator.symbol}' to {value.typeName} '{value.render}'"
  | divisionByZero => "division by zero"
  | overflow operator => s!"integer overflow in '{operator.symbol}'"

namespace Value

/-- Both operands as numbers; the left one is at fault first. -/
def operands (operator : Operator) (left right : Value) :
    Except ArithmeticError (Numeral × Numeral) :=
  match left.numeral?, right.numeral? with
  | some leftNumeral, some rightNumeral => .ok (leftNumeral, rightNumeral)
  | none, _ => .error (.operand operator left)
  | some _, none => .error (.operand operator right)

def fitted (operator : Operator) (result : Int) : Except ArithmeticError Value :=
  match Number.fit? result with
  | some value => .ok (.integer value)
  | none => .error (.overflow operator)

def combine (operator : Operator) (onIntegers : Int → Int → Int) (onReals : Float → Float → Float) :
    Numeral → Numeral → Except ArithmeticError Value
  | .integer left, .integer right => fitted operator (onIntegers left.toInt right.toInt)
  | left, right => .ok (.real (onReals left.toFloat right.toFloat))

/-- Text that spells no number is not added but appended. -/
def isPlainText : Value → Bool
  | text value => (Numeral.ofText? value.toList).isNone
  | _ => false

def add (left right : Value) : Except ArithmeticError Value :=
  if left.isPlainText || right.isPlainText then .ok (.text (left.render ++ right.render))
  else do
    let (leftNumeral, rightNumeral) ← operands .add left right
    combine .add (· + ·) (· + ·) leftNumeral rightNumeral

def subtract (left right : Value) : Except ArithmeticError Value := do
  let (leftNumeral, rightNumeral) ← operands .subtract left right
  combine .subtract (· - ·) (· - ·) leftNumeral rightNumeral

def multiply (left right : Value) : Except ArithmeticError Value := do
  let (leftNumeral, rightNumeral) ← operands .multiply left right
  combine .multiply (· * ·) (· * ·) leftNumeral rightNumeral

/-- The integer quotient of a division that leaves nothing, if 64 bits can hold it. -/
def exactQuotient? : Numeral → Numeral → Option Int64
  | .integer left, .integer right =>
      if Int.tmod left.toInt right.toInt = 0 then
        Number.fit? (Int.tdiv left.toInt right.toInt)
      else none
  | _, _ => none

/-- An exact quotient of integers is an integer; every other quotient is real. -/
def divide (left right : Value) : Except ArithmeticError Value := do
  let (leftNumeral, rightNumeral) ← operands .divide left right
  if rightNumeral.toFloat == 0.0 then .error .divisionByZero
  else
    match exactQuotient? leftNumeral rightNumeral with
    | some quotient => .ok (.integer quotient)
    | none => .ok (.real (leftNumeral.toFloat / rightNumeral.toFloat))

/-- The remainder of a division of integers, by a quotient that itself must fit. -/
def integerRemainder (left right : Int64) : Except ArithmeticError Value :=
  match Number.fit? (Int.tdiv left.toInt right.toInt) with
  | some _ => fitted .remainder (Int.tmod left.toInt right.toInt)
  | none => .error (.overflow .remainder)

def remainder (left right : Value) : Except ArithmeticError Value := do
  let (leftNumeral, rightNumeral) ← operands .remainder left right
  if rightNumeral.toFloat == 0.0 then .error .divisionByZero
  else
    match leftNumeral, rightNumeral with
    | .integer leftInteger, .integer rightInteger => integerRemainder leftInteger rightInteger
    | _, _ => .ok (.real (Number.remainder leftNumeral.toFloat rightNumeral.toFloat))

def negate (value : Value) : Except ArithmeticError Value :=
  match value.numeral? with
  | some (.integer whole) => fitted .subtract (-whole.toInt)
  | some (.real magnitude) => .ok (.real (-magnitude))
  | none => .error (.operand .subtract value)

def apply : Operator → Value → Value → Except ArithmeticError Value
  | .add => add
  | .subtract => subtract
  | .multiply => multiply
  | .divide => divide
  | .remainder => remainder

end Value

end LineTemplate

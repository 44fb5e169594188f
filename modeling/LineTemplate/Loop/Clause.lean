import LineTemplate.Directive.Error
import LineTemplate.Line.Lexeme
import LineTemplate.Text.Split
import LineTemplate.Variables

/-!
Loop lines: a variable and the values it takes, listed or as an arithmetic range. A range of
integers is computed exactly. A range with a real number in it has as many values as reach the end
up to a small tolerance, each rounded to the decimal places of the numbers as written.
-/

namespace LineTemplate.Loop

open DirectiveError (loopFault)

structure Clause where
  name : String
  values : Array Value
  deriving DecidableEq

/-- Quoted lexemes are text as they stand, others are inferred; bare commas only separate. -/
def listedValues (lexemes : List Line.Lexeme) : Except DirectiveError (Array Value) :=
  let items := lexemes.filter fun lexeme => lexeme.quoted || lexeme.text != ","
  if items.isEmpty then .error (loopFault .emptyList)
  else
    .ok (items.map fun lexeme =>
      if lexeme.quoted then Value.text lexeme.text else Value.infer lexeme.text).toArray

def readNumber (number : RangeNumber) (lexeme : Option Line.Lexeme) :
    Except DirectiveError Numeral :=
  match lexeme with
  | none => .error (loopFault (.missingNumber number))
  | some lexeme =>
      match Value.infer lexeme.text with
      | .integer value => .ok (.integer value)
      | .real value => .ok (.real value)
      | _ => .error (loopFault (.notANumber number lexeme.text))

structure Range where
  start : Numeral
  last : Numeral
  step : Option Numeral
  deriving DecidableEq

/-- `start TO last`, then `STEP step` or nothing. -/
def Range.ofLexemes (lexemes : List Line.Lexeme) : Except DirectiveError Range := do
  let start ← readNumber .start lexemes[0]?
  if !lexemes[1]?.any (·.isKeyword "TO") then throw (loopFault .missingTo)
  let last ← readNumber .last lexemes[2]?
  let step ←
    match lexemes[3]? with
    | none => pure none
    | some lexeme =>
        if lexeme.isKeyword "STEP" then some <$> readNumber .step lexemes[4]?
        else throw (loopFault (.unexpected lexeme.text))
  match lexemes[5]? with
  | some extra => throw (loopFault (.unexpected extra.text))
  | none => return { start, last, step }

def checkDirection (isZero pointsAway : Bool) : Except DirectiveError Unit :=
  if isZero then .error (loopFault .zeroStep)
  else if pointsAway then .error (loopFault .wrongDirection)
  else .ok ()

def integerAt (start step : Int) (index : Nat) : Value :=
  .integer (Int64.ofInt (start + index * step))

def integerRange (start last step : Int) (limit : Nat) : Except DirectiveError (Array Value) := do
  checkDirection (step == 0) ((0 < step && last < start) || (step < 0 && start < last))
  let count := (Int.tdiv (last - start) step + 1).toNat
  if limit < count then throw (.passLimit limit)
  return (Array.range count).map (integerAt start step)

/-- Digits after the point in the text of a number. -/
def decimalPlaces (numeral : Numeral) : Nat :=
  match Text.splitOnce? (· == '.') numeral.toValue.render.toList with
  | some (_, fraction) => fraction.length
  | none => 0

/-- The nearest number with so many decimal places, of which at most fifteen count. Zero is never
negative. -/
def roundTo (places : Nat) (value : Float) : Float :=
  let scale := Float.ofNat (Nat.pow 10 (min places 15))
  match Number.round? (value * scale) with
  | none => value
  | some whole =>
      let rounded := Float.ofInt whole / scale + 0.0
      if rounded.isFinite then rounded else value

def realAt (start step : Float) (places index : Nat) : Value :=
  .real (roundTo places (start + Float.ofNat index * step))

def realRange (start last step : Float) (places limit : Nat) :
    Except DirectiveError (Array Value) := do
  checkDirection (step == 0.0) ((0.0 < step && last < start) || (step < 0.0 && start < last))
  match Number.floor? ((last - start) / step + 1e-9) with
  | none => throw (.passLimit limit)
  | some whole =>
      let count := Float.ofInt whole + 1.0
      if !count.isFinite || Float.ofNat limit < count then throw (.passLimit limit)
      let total := ((Number.floor? count).getD 0).toNat
      return (Array.range total).map (realAt start step places)

namespace Range

/-- Without a step the range goes one by one towards its end. -/
def values (range : Range) (limit : Nat) : Except DirectiveError (Array Value) :=
  match range.start, range.last, range.step with
  | .integer start, .integer last, none =>
      integerRange start.toInt last.toInt (if last < start then -1 else 1) limit
  | .integer start, .integer last, some (.integer step) =>
      integerRange start.toInt last.toInt step.toInt limit
  | start, last, step =>
      let stepReal :=
        match step with
        | some numeral => numeral.toFloat
        | none => if last.toFloat < start.toFloat then -1.0 else 1.0
      let places :=
        max (decimalPlaces start) (max (decimalPlaces last) ((step.map decimalPlaces).getD 0))
      realRange start.toFloat last.toFloat stepReal places limit

end Range

namespace Clause

def readName (lexeme : Option Line.Lexeme) : Except DirectiveError String :=
  match lexeme with
  | none => .error (loopFault .missingVariable)
  | some lexeme =>
      if !lexeme.quoted && isIdentifier lexeme.text then .ok lexeme.text
      else .error (loopFault (.badVariable lexeme.text))

def readValues (form : Option Line.Lexeme) (rest : List Line.Lexeme) (limit : Nat) :
    Except DirectiveError (Array Value) :=
  match form with
  | none => .error (loopFault .missingForm)
  | some lexeme =>
      if lexeme.isKeyword "IN" then listedValues rest
      else if lexeme.isKeyword "FROM" then do
        (← Range.ofLexemes rest).values limit
      else .error (loopFault (.badForm lexeme.text))

/-- The clause of a whole loop line, keyword included, with at most `limit` values. -/
def ofLine (line : String) (limit : Nat) : Except DirectiveError Clause := do
  if Line.hasOpenQuote line then throw .openQuote
  let lexemes := Line.lexemes line
  let name ← readName lexemes[1]?
  let values ← readValues lexemes[2]? (lexemes.drop 3) limit
  if limit < values.size then throw (.passLimit limit)
  return { name, values }

end Clause

end LineTemplate.Loop

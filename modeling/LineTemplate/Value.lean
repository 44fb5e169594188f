import LineTemplate.Number.Real
import LineTemplate.Text.Blank
import LineTemplate.Text.Folding
import LineTemplate.Text.Quote

/-!
Values of variables and expressions. Every value has a text form, a truth, and possibly a reading
as a number: text that spells a number counts as that number wherever one is needed.
-/

namespace LineTemplate

inductive Value where
  | integer (value : Int64)
  | real (value : Float)
  | text (value : String)
  | truth (value : Bool)
  deriving DecidableEq

instance : Inhabited Value := ⟨.text ""⟩

namespace Value

def render : Value → String
  | integer value => Number.integerText value
  | real value => Number.realText value
  | text value => value
  | truth value => if value then "true" else "false"

def typeName : Value → String
  | integer _ => "integer"
  | real _ => "real"
  | text _ => "string"
  | truth _ => "boolean"

/-- Zero, empty text, the text `0` and falsehood are false; all else is true. -/
def isTrue : Value → Bool
  | integer value => value != 0
  | real value => value != 0.0
  | text value => value != "" && value != "0"
  | truth value => value

end Value

/-- The number that a value reads as. -/
inductive Numeral where
  | integer (value : Int64)
  | real (value : Float)
  deriving DecidableEq

namespace Numeral

def toFloat : Numeral → Float
  | integer value => Float.ofInt value.toInt
  | real value => value

def toValue : Numeral → Value
  | integer value => .integer value
  | real value => .real value

/-- Integers first; then finite decimals, which must show a digit. Blanks around the text do not
count. -/
def ofText? (characters : List Char) : Option Numeral :=
  let trimmed := Text.trim characters
  match Number.integer? trimmed with
  | some value => some (integer value)
  | none =>
      (Number.decimal? trimmed).bind fun decimal =>
        let value := decimal.toFloat
        if value.isFinite then some (real value) else none

end Numeral

namespace Value

def numeral? : Value → Option Numeral
  | integer value => some (.integer value)
  | real value => some (.real value)
  | text value => Numeral.ofText? value.toList
  | truth _ => none

def isNumeric (value : Value) : Bool :=
  value.numeral?.isSome

/-- The value itself, or the number it spells. -/
def canonical (value : Value) : Value :=
  match value.numeral? with
  | some numeral => numeral.toValue
  | none => value

theorem numeral_of_to_value (numeral : Numeral) : numeral.toValue.numeral? = some numeral := by
  cases numeral <;> rfl

/-- Text in quotes is the text between them, the truth words in any case are truths, text that
spells a number is that number, and other text stands for itself without the blanks around it. -/
def infer (source : String) : Value :=
  let trimmed := Text.trim source.toList
  match Text.unquote? trimmed with
  | some inner => .text (String.ofList inner)
  | none =>
      let word := String.ofList trimmed
      if Text.equalIgnoringCase word "true" then .truth true
      else if Text.equalIgnoringCase word "false" then .truth false
      else
        match Numeral.ofText? trimmed with
        | some numeral => numeral.toValue
        | none => .text word

end Value

end LineTemplate

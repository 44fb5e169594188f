import LineTemplate.Value

/-!
Loose equality and order of values. Two numbers compare as real numbers and any other two values
as text; but a truth equals whatever has the same truth.
-/

namespace LineTemplate.Value

def looselyEquals (left right : Value) : Bool :=
  match left, right with
  | truth value, other => value == other.isTrue
  | other, truth value => value == other.isTrue
  | _, _ =>
      match left.numeral?, right.numeral? with
      | some leftNumeral, some rightNumeral => leftNumeral.toFloat == rightNumeral.toFloat
      | _, _ => left.render == right.render

/-- Numbers that have no order count as equal. -/
def compareReals (left right : Float) : Ordering :=
  if left < right then .lt else if right < left then .gt else .eq

/-- Text is ordered by code points. -/
def compareTexts (left right : String) : Ordering :=
  if left < right then .lt else if left = right then .eq else .gt

def order (left right : Value) : Ordering :=
  match left.numeral?, right.numeral? with
  | some leftNumeral, some rightNumeral =>
      compareReals leftNumeral.toFloat rightNumeral.toFloat
  | _, _ => compareTexts left.render right.render

end LineTemplate.Value

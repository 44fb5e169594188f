import LineTemplate.Proofs.Expression.Spelling
import LineTemplate.Proofs.Number.Decimal

/-!
Literals of values. A value that is written as a literal is read back as one operand, whatever
surrounds it: a negative integer comes as a negation in parentheses, text comes with its quotes and
backslashes escaped.
-/

namespace LineTemplate

/-- A literal of the value is read back as that value: the value is a truth, text that spells no
number, or reads as an integer that can be negated. -/
def Value.ReadsBack (value : Value) : Prop :=
  match value.numeral? with
  | some (.integer whole) => whole ≠ Int64.minValue
  | some (.real _) => False
  | none => True

namespace Expression

/-- The tokens of a literal of the value. -/
def tokensOfValue : Value → List Token
  | .integer whole =>
      if whole.toInt < 0 then
        [.opening, .minus, .integer (Int64.ofInt (-whole.toInt)), .closing]
      else [.integer whole]
  | .real value => [.real value]
  | .text value => [.text value]
  | .truth value => [.name (if value then "true" else "false")]

theorem tokens_of_opening (rest : List Char) :
    tokens ('(' :: rest) = (tokens rest).map (.opening :: ·) := by
  apply tokens_of_first rfl
  cases rest <;> rfl

theorem tokens_of_minus (rest : List Char) :
    tokens ('-' :: rest) = (tokens rest).map (.minus :: ·) := by
  apply tokens_of_first rfl
  cases rest <;> rfl

theorem tokens_of_closing (rest : List Char) :
    tokens (')' :: rest) = (tokens rest).map (.closing :: ·) := by
  apply tokens_of_first rfl
  cases rest <;> rfl

section Integers

variable {whole : Int64}

theorem lexes_natural {number : Nat} {value : Int64}
    (fits : Number.fit? number = some value) : Lexes number.repr.toList [.integer value] := by
  apply lexes_decimal (Number.is_digits_of_repr number)
  rw [Number.of_decimal_digits_repr, fits]

theorem lexes_integer_text (sign : 0 ≤ whole.toInt) :
    Lexes (Number.integerText whole).toList [.integer whole] := by
  rw [Number.integer_text_of_nonnegative sign]
  apply lexes_natural
  rw [Int.toNat_of_nonneg sign, Number.fit_of_to_int]

theorem lower_bound_of_ne_least (notLeast : whole ≠ Int64.minValue) :
    -0x8000000000000000 < whole.toInt := by
  have lower := whole.le_toInt
  have apart : whole.toInt ≠ Int64.minValue.toInt := fun same => notLeast (Int64.toInt_inj.mp same)
  have least : Int64.minValue.toInt = -0x8000000000000000 := by decide
  omega

/-- The digits of a negative integer are read as its magnitude. -/
theorem fit_of_magnitude (sign : whole.toInt < 0) (notLeast : whole ≠ Int64.minValue) :
    Number.fit? ((-whole.toInt).toNat : Nat) = some (Int64.ofInt (-whole.toInt)) := by
  have lower := lower_bound_of_ne_least notLeast
  rw [Int.toNat_of_nonneg (by omega)]
  exact Number.fit_of_bounds (by omega) (by omega)

theorem negate_of_magnitude (sign : whole.toInt < 0) (notLeast : whole ≠ Int64.minValue) :
    Value.negate (.integer (Int64.ofInt (-whole.toInt))) = .ok (.integer whole) := by
  have lower := lower_bound_of_ne_least notLeast
  have magnitude : (Int64.ofInt (-whole.toInt)).toInt = -whole.toInt :=
    Int64.toInt_ofInt_of_le (by omega) (by omega)
  simp only [Value.negate, Value.numeral?, Value.fitted, magnitude, Int.neg_neg,
    Number.fit_of_to_int]

theorem lexes_negative (sign : whole.toInt < 0) (notLeast : whole ≠ Int64.minValue) :
    Lexes ("(" ++ Number.integerText whole ++ ")").toList
      [.opening, .minus, .integer (Int64.ofInt (-whole.toInt)), .closing] := by
  intro rest ends
  have fits := fit_of_magnitude sign notLeast
  have closes : EndsWord (')' :: rest) := by
    rintro _ ⟨rfl⟩
    exact Or.inr rfl
  have shape : ("(" ++ Number.integerText whole ++ ")").toList ++ rest =
      '(' :: '-' :: ((-whole.toInt).toNat.repr.toList ++ ')' :: rest) := by
    rw [Number.integer_text_of_negative sign]
    simp only [String.toList_append, List.append_assoc]
    rfl
  rw [shape, tokens_of_opening, tokens_of_minus, lexes_natural fits _ closes, tokens_of_closing]
  cases tokens rest <;> rfl

theorem starts_with_minus_iff :
    (Number.integerText whole).startsWith "-" = true ↔ whole.toInt < 0 := by
  rw [String.startsWith_string_iff]
  by_cases sign : whole.toInt < 0
  · rw [Number.integer_text_of_negative sign, String.toList_append]
    exact ⟨fun _ => sign, fun _ => List.prefix_append _ _⟩
  · rw [Number.integer_text_of_nonnegative (Int.not_lt.mp sign)]
    refine ⟨fun starts => ?_, fun negative => absurd negative sign⟩
    have digits := Number.is_digits_of_repr whole.toInt.toNat
    rw [Number.isDigits, Bool.and_eq_true, List.all_eq_true] at digits
    have isDigit := digits.2 '-' (starts.subset List.mem_cons_self)
    cases isDigit

theorem literal_of_integer {value : Value} (numeral : value.numeral? = some (.integer whole)) :
    literal value =
      if whole.toInt < 0 then "(" ++ Number.integerText whole ++ ")"
      else Number.integerText whole := by
  unfold literal
  rw [numeral]
  change (if (Number.integerText whole).startsWith "-" then "(" ++ Number.integerText whole ++ ")"
    else Number.integerText whole) = _
  by_cases sign : whole.toInt < 0
  · rw [if_pos (starts_with_minus_iff.mpr sign), if_pos sign]
  · rw [if_neg (mt starts_with_minus_iff.mp sign), if_neg sign]

theorem lexes_literal_of_integer {value : Value}
    (numeral : value.numeral? = some (.integer whole)) (notLeast : whole ≠ Int64.minValue) :
    Lexes (literal value).toList (tokensOfValue (.integer whole)) := by
  rw [literal_of_integer numeral, tokensOfValue]
  by_cases sign : whole.toInt < 0
  · rw [if_pos sign, if_pos sign]
    exact lexes_negative sign notLeast
  · rw [if_neg sign, if_neg sign]
    exact lexes_integer_text (Int.not_lt.mp sign)

end Integers

/-- A character of a text inside double quotes. -/
def escape (character : Char) : List Char :=
  if character == Text.doubleQuote || character == '\\' then ['\\', character] else [character]

theorem escapes_of_escape (content : List Char) :
    Escapes Text.doubleQuote content (content.flatMap escape) := by
  induction content with
  | nil => exact .done
  | cons character content ih =>
      rw [List.flatMap_cons, escape]
      by_cases special : character = Text.doubleQuote ∨ character = '\\'
      · have marked : (character == Text.doubleQuote || character == '\\') = true := by
          simpa using special
        rw [marked, if_pos rfl]
        rcases special with rfl | rfl
        · exact @Escapes.escaped Text.doubleQuote Text.doubleQuote content _ (by decide) ih
        · exact @Escapes.escaped Text.doubleQuote '\\' content _ (by decide) ih
      · rw [not_or] at special
        have unmarked : (character == Text.doubleQuote || character == '\\') = false := by
          simpa using special
        rw [unmarked, if_neg (by decide)]
        exact .plain special.1 special.2 ih

theorem literal_of_text {content : String} (noNumeral : (Value.text content).numeral? = none) :
    (literal (.text content)).toList =
      Text.doubleQuote :: (content.toList.flatMap escape ++ [Text.doubleQuote]) := by
  simp only [literal, noNumeral, Value.render, String.toList_append, String.toList_ofList]
  rfl

/-- A literal is read as the tokens of the canonical value. -/
theorem lexes_literal {value : Value} (readsBack : value.ReadsBack) :
    Lexes (literal value).toList (tokensOfValue value.canonical) := by
  rw [Value.ReadsBack] at readsBack
  rw [Value.canonical]
  cases reading : value.numeral? with
  | some numeral =>
      rw [reading] at readsBack
      cases numeral with
      | integer whole => exact lexes_literal_of_integer reading readsBack
      | real => cases readsBack
  | none =>
      cases value with
      | integer => cases reading
      | real => cases reading
      | text content =>
          have lexed := lexes_text rfl (escapes_of_escape content.toList)
          rw [String.ofList_toList] at lexed
          rw [literal_of_text reading]
          exact lexed
      | truth value =>
          cases value with
          | true => exact @lexes_word "true" (by decide)
          | false => exact @lexes_word "false" (by decide)

end Expression

end LineTemplate

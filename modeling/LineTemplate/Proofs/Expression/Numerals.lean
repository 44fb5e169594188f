import LineTemplate.Proofs.Expression.Grammar
import LineTemplate.Proofs.Expression.Literals
import LineTemplate.Proofs.Number.Positional
import LineTemplate.Proofs.Number.Reading

/-!
Operands that are written out. A word denotes a value if it is read as one operand with that value,
and then it does so alone, in parentheses, and refused twice but for its truth. The literal of a value
denotes the number that its digits are read as, which need not be the number they were written for,
but is zero only for zero.
-/

namespace LineTemplate

namespace Numeral

/-- Every integer, and the real numbers but for the infinities and what is no number. -/
def isFinite : Numeral → Bool
  | integer _ => true
  | real value => value.isFinite

/-- Text spells finite numbers only. -/
theorem is_finite_of_text {characters : List Char} {numeral : Numeral}
    (read : ofText? characters = some numeral) : numeral.isFinite = true := by
  unfold ofText? at read
  simp only at read
  split at read
  · cases read
    rfl
  · obtain ⟨decimal, -, found⟩ := Option.bind_eq_some_iff.mp read
    split at found
    · next finite =>
        cases found
        exact finite
    · cases found

/-- Only a real number itself reads as one that is not finite. -/
theorem is_finite_of_value {value : Value} {numeral : Numeral}
    (finite : ∀ number, value = .real number → number.isFinite = true)
    (reading : value.numeral? = some numeral) : numeral.isFinite = true := by
  cases value with
  | integer =>
      cases reading
      rfl
  | real number =>
      cases reading
      exact finite number rfl
  | text => exact is_finite_of_text reading
  | truth => cases reading

/-- The text of a finite number, with its sign put before digits. They are a lone zero for zero, and
write a number above half of the smallest positive one for every other. -/
theorem text_writes {numeral : Numeral} (finite : numeral.isFinite = true) :
    ∃ (negative : Bool) (whole fraction : List Char) (number : ℚ),
      numeral.toValue.render.toList =
        (if negative then '-' :: Number.written whole fraction
          else Number.written whole fraction) ∧
      Number.Writes whole fraction number ∧
      if numeral.toValue.isTrue then (2 : ℚ) ^ (Number.leastExponent - 1) < number
      else whole = ['0'] ∧ fraction = [] := by
  cases numeral with
  | real value => exact Number.real_text_writes finite
  | integer value =>
      change ∃ (negative : Bool) (whole fraction : List Char) (number : ℚ),
        (Number.integerText value).toList = _ ∧ _ ∧ if value != 0 then _ else _
      by_cases zero : value = 0
      · subst zero
        exact ⟨false, ['0'], [], _, rfl, Number.writes_whole rfl, rfl, rfl⟩
      · obtain ⟨digits, isDigits, text, magnitude⟩ := Number.integer_text_digits value
        refine ⟨decide (value.toInt < 0), digits, [], _, ?_, Number.writes_whole isDigits, ?_⟩
        · rw [text, Number.written, List.isEmpty_nil, if_pos rfl]
          simp only [decide_eq_true_eq]
        · rw [if_pos (by simpa using zero), magnitude]
          have nonzero : value.toInt ≠ 0 := fun same => zero (Int64.toInt_inj.mp same)
          have atLeastOne : 1 ≤ value.toInt.natAbs := Int.natAbs_pos.mpr nonzero
          calc (2 : ℚ) ^ (Number.leastExponent - 1) < 2 ^ (0 : ℤ) :=
                zpow_lt_zpow_right₀ one_lt_two (by decide)
            _ = (1 : ℕ) := by rw [zpow_zero, Nat.cast_one]
            _ ≤ (value.toInt.natAbs : ℚ) := by exact_mod_cast atLeastOne

/-- The number that digits are read as, with those of a fraction behind a point. -/
def ofDigits (whole fraction : List Char) : Numeral :=
  match if fraction.isEmpty then Number.fit? (Number.ofDecimalDigits whole) else none with
  | some value => integer value
  | none =>
      real (Number.Decimal.toFloat
        ⟨false, Number.ofDecimalDigits (whole ++ fraction), -fraction.length⟩)

/-- The number with the other sign. The least integer has none. -/
def negated : Numeral → Numeral
  | integer value => integer (Int64.ofInt (-value.toInt))
  | real value => real (-value)

section Digits

variable {whole fraction : List Char} {number : ℚ}

theorem of_digits_cases (whole fraction : List Char) :
    (fraction = [] ∧ ∃ value, ofDigits whole fraction = integer value ∧
        value.toInt = Number.ofDecimalDigits whole) ∨
      ofDigits whole fraction = real (Number.Decimal.toFloat
        ⟨false, Number.ofDecimalDigits (whole ++ fraction), -fraction.length⟩) := by
  unfold ofDigits
  cases found : (if fraction.isEmpty then Number.fit? (Number.ofDecimalDigits whole) else none) with
  | none => exact Or.inr rfl
  | some value =>
      split at found
      · next empty =>
          exact Or.inl ⟨List.isEmpty_iff.mp empty, value, rfl, Number.to_int_of_fit found⟩
      · cases found

theorem negate_of_digits (whole fraction : List Char) :
    (ofDigits whole fraction).toValue.negate = .ok (ofDigits whole fraction).negated.toValue := by
  rcases of_digits_cases whole fraction with ⟨-, value, is, natural⟩ | is
  · rw [is]
    have upper := value.toInt_lt
    have fits := @Number.fit_of_bounds (-value.toInt) (by omega) (by omega)
    simp only [toValue, Value.negate, Value.numeral?, Value.fitted, fits]
    rfl
  · rw [is]
    rfl

/-- Digits above half of the smallest positive number are not read as zero. -/
theorem of_digits_is_true (writes : Number.Writes whole fraction number)
    (above : (2 : ℚ) ^ (Number.leastExponent - 1) < number) :
    (ofDigits whole fraction).toValue.isTrue = true ∧
      (ofDigits whole fraction).negated.toValue.isTrue = true := by
  obtain ⟨-, -, rfl⟩ := writes
  rcases of_digits_cases whole fraction with ⟨rfl, value, is, natural⟩ | is
  · have positive := Number.coefficient_positive above
    rw [List.append_nil] at positive
    have lower : 0 < value.toInt := by omega
    have upper := value.toInt_lt
    have magnitude : (Int64.ofInt (-value.toInt)).toInt = -value.toInt :=
      Int64.toInt_ofInt_of_le (by omega) (by omega)
    have nonzero {other : Int64} (apart : other.toInt ≠ 0) : (other != 0) = true := by
      rw [bne_iff_ne]
      rintro rfl
      exact apart rfl
    rw [is]
    constructor
    · exact nonzero lower.ne'
    · exact nonzero (by omega)
  · have notZero := Number.not_zero_of_decimal above
    rw [is]
    exact ⟨(Number.not_zero_iff _).mpr notZero,
      (Number.not_zero_iff _).mpr (Number.not_zero_neg notZero)⟩

end Digits

end Numeral

namespace Expression

/-- The token of a number. -/
def numeralToken : Numeral → Token
  | .integer value => .integer value
  | .real value => .real value

section Lexing

variable {whole fraction rest : List Char}

/-- The digits before a point, those behind it, and what follows them. -/
theorem parts_of_written (digits : whole.all Char.isDigit = true)
    (allDigits : fraction.all Char.isDigit = true) (ends : EndsWord rest) :
    (Number.written whole fraction ++ rest).takeWhile Char.isDigit = whole ∧
      fractionPart ((Number.written whole fraction ++ rest).dropWhile Char.isDigit) =
        (fraction, rest) := by
  cases fraction with
  | nil =>
      obtain ⟨taken, dropped⟩ := Text.take_while_append_of_head digits (ends_word_not ends rfl rfl)
      rw [Number.written, List.isEmpty_nil, if_pos rfl, taken, dropped]
      exact ⟨rfl, fraction_part_of_ends_word ends⟩
  | cons digit fraction =>
      have atPoint : ∀ next ∈ ('.' :: (digit :: fraction ++ rest)).head?,
          Char.isDigit next = false := by
        rintro _ ⟨rfl⟩
        rfl
      have first : (digit :: fraction ++ rest).head?.any Char.isDigit = true :=
        (Bool.and_eq_true_iff.mp (List.all_cons ▸ allDigits)).1
      have shape : Number.written whole (digit :: fraction) ++ rest =
          whole ++ '.' :: (digit :: fraction ++ rest) := by
        simp [Number.written]
      obtain ⟨taken, dropped⟩ := Text.take_while_append_of_head digits atPoint
      obtain ⟨takenFraction, droppedFraction⟩ :=
        Text.take_while_append_of_head allDigits (ends_word_not ends rfl rfl)
      rw [shape, taken, dropped, fractionPart, if_pos first, takenFraction, droppedFraction]
      exact ⟨rfl, rfl⟩

theorem decimal_token_of_written (digits : whole.all Char.isDigit = true)
    (allDigits : fraction.all Char.isDigit = true) (ends : EndsWord rest) :
    decimalToken (Number.written whole fraction ++ rest) =
      (numeralToken (Numeral.ofDigits whole fraction), rest) := by
  obtain ⟨taken, part⟩ := parts_of_written digits allDigits ends
  simp only [decimalToken, Numeral.ofDigits, taken, part, exponent_part_of_ends_word ends,
    Option.isNone_none, Bool.and_true, Option.getD_none, zero_sub]
  cases (if fraction.isEmpty then Number.fit? (Number.ofDecimalDigits whole) else none) <;> rfl

/-- Digits are read as their number, with a point or without. -/
theorem lexes_written (digits : Number.isDigits whole = true)
    (allDigits : fraction.all Char.isDigit = true) :
    Lexes (Number.written whole fraction) [numeralToken (Numeral.ofDigits whole fraction)] := by
  obtain ⟨first, others, rfl, digit⟩ := Number.digits_not_empty digits
  rw [Number.isDigits, Bool.and_eq_true] at digits
  have inside := (Bool.and_eq_true_iff.mp (List.all_cons ▸ digits.2)).2
  have visible := Text.not_blank_of_identifier_character (Text.identifier_character_of_digit digit)
  apply lexes_of_first
  intro rest ends
  have token := decimal_token_of_written digits.2 allDigits ends
  have shape : Number.written (first :: others) fraction ++ rest =
      first :: (Number.written others fraction ++ rest) := by
    cases fraction <;> rfl
  have notHex : ∀ mark ∈ (Number.written others fraction ++ rest).head?,
      mark ≠ 'x' ∧ mark ≠ 'X' := by
    cases fraction with
    | nil => exact not_hex_mark_of_digits inside ends
    | cons next fraction =>
        intro mark here
        cases others with
        | nil =>
            cases here
            decide
        | cons other others =>
            cases here
            have isDigit := List.all_eq_true.mp inside mark List.mem_cons_self
            constructor <;> rintro rfl <;> cases isDigit
  refine ⟨first, Number.written others fraction ++ rest, shape, visible, ?_⟩
  rw [first_token_of_digit digit, number_token_of_not_hex notHex, ← shape, token]

end Lexing

/-- The word is read as one operand with that value, wherever it ends, and takes so many nestings. -/
structure Denotes (depth : ℕ) (word : List Char) (value : Value) : Prop where
  notAssignment : ∀ next ∈ word.head?, next ≠ '='
  isOperand : ∃ (found : List Token) (term : Term), Lexes word found ∧
    (∀ nesting, Written .operand (nesting + depth) found term) ∧ term.names = [] ∧
    ∀ meaning, (term.ground meaning).evaluate = .ok value

section Operands

variable {depth : ℕ} {word : List Char} {value negated : Value}

theorem Denotes.deeper (denotes : Denotes depth word value) (more : ℕ) :
    Denotes (more + depth) word value := by
  obtain ⟨found, term, lexed, written, noNames, evaluates⟩ := denotes.isOperand
  refine ⟨denotes.notAssignment, found, term, lexed, fun nesting => ?_, noNames, evaluates⟩
  rw [← Nat.add_assoc]
  exact written (nesting + more)

theorem tokens_of_bang {rest : List Char} (apart : ∀ next ∈ rest.head?, next ≠ '=') :
    tokens ('!' :: rest) = (tokens rest).map (.bang :: ·) := by
  apply tokens_of_first rfl
  cases rest with
  | nil => rfl
  | cons next rest =>
      have single : pairToken? '!' next = none := by
        unfold pairToken?
        split <;> simp_all
      change Except.ok (operatorToken '!' (next :: rest)) = _
      simp only [operatorToken, single]
      rfl

theorem denotes_negated (denotes : Denotes depth word value)
    (negates : value.negate = .ok negated) : Denotes (depth + 1) ('-' :: word) negated := by
  obtain ⟨found, term, lexed, written, noNames, evaluates⟩ := denotes.isOperand
  refine ⟨by rintro _ ⟨rfl⟩; decide, .minus :: found, .unary .negate term, ?_,
    fun nesting => .negation (written nesting), noNames, fun meaning => ?_⟩
  · intro rest ends
    rw [List.cons_append, tokens_of_minus, lexed rest ends]
    cases tokens rest <;> rfl
  · simp only [Term.ground, Tree.evaluate, evaluates meaning]
    change arithmeticResult value.negate = _
    rw [negates]
    rfl

theorem denotes_refused (denotes : Denotes depth word value) :
    Denotes (depth + 1) ('!' :: word) (.truth !value.isTrue) := by
  obtain ⟨found, term, lexed, written, noNames, evaluates⟩ := denotes.isOperand
  refine ⟨by rintro _ ⟨rfl⟩; decide, .bang :: found, .unary .not term, ?_,
    fun nesting => .refusal (written nesting), noNames, fun meaning => ?_⟩
  · intro rest ends
    have apart : ∀ next ∈ (word ++ rest).head?, next ≠ '=' := by
      cases word with
      | nil =>
          rintro next here rfl
          rcases ends '=' here with same | same <;> cases same
      | cons first word => exact denotes.notAssignment
    rw [List.cons_append, tokens_of_bang apart, lexed rest ends]
    cases tokens rest <;> rfl
  · simp only [Term.ground, Tree.evaluate, evaluates meaning]
    rfl

theorem denotes_parenthesis (denotes : Denotes depth word value) :
    Denotes (depth + 1) ('(' :: (word ++ [')'])) value := by
  obtain ⟨found, term, lexed, written, noNames, evaluates⟩ := denotes.isOperand
  refine ⟨by rintro _ ⟨rfl⟩; decide, .opening :: (found ++ [.closing]), term, ?_,
    fun nesting => .parenthesis (written_looser (Nat.zero_le _) (written nesting)), noNames,
    evaluates⟩
  intro rest ends
  have closes : EndsWord (')' :: rest) := by
    rintro _ ⟨rfl⟩
    exact Or.inr rfl
  rw [List.cons_append, List.append_assoc, List.singleton_append, tokens_of_opening,
    lexed _ closes, tokens_of_closing]
  cases tokens rest with
  | error => rfl
  | ok others => simp [Except.map]

/-- What a word denotes is its value as a whole expression. -/
theorem evaluate_text_of_denotes {text : String} (denotes : Denotes depth text.toList value)
    (shallow : depth < maximalNesting) : evaluateText text = .ok value := by
  obtain ⟨found, term, lexed, written, noNames, evaluates⟩ := denotes.isOperand
  have read : tokens text.toList = .ok found := by
    have alone := lexed [] (by rintro _ ⟨⟩)
    rwa [List.append_nil, tokens_nil, Except.map, List.append_nil] at alone
  have derives : Derives maximalNesting found term := by
    have room := written (255 - depth)
    rw [Nat.sub_add_cancel (Nat.le_of_lt_succ shallow)] at room
    exact written_looser (Nat.zero_le _) room
  have tree : Tree.ofText text = .ok (term.ground fun _ => default) := by
    rw [Tree.ofText, read, ← Term.tree_of_no_names _ noNames]
    exact of_tokens_of_derives derives
  rw [evaluateText, tree]
  exact evaluates _

end Operands

section Literals

/-- The nestings that the literal of a value takes: a parenthesis and a sign if it is that of a
negative number, and none otherwise. -/
def literalNestings (value : Value) : ℕ :=
  if (literal value).toList.head? = some '(' then 2 else 0

theorem literal_nestings_shallow (value : Value) : literalNestings value < maximalNesting := by
  unfold literalNestings maximalNesting
  split <;> decide

theorem denotes_digits {whole fraction : List Char} (digits : Number.isDigits whole = true)
    (allDigits : fraction.all Char.isDigit = true) :
    Denotes 0 (Number.written whole fraction) (Numeral.ofDigits whole fraction).toValue := by
  obtain ⟨first, others, rfl, digit⟩ := Number.digits_not_empty digits
  have lexed := lexes_written digits allDigits
  refine ⟨?_, _, .literal (Numeral.ofDigits (first :: others) fraction).toValue, lexed, ?_, rfl,
    fun _ => rfl⟩
  · have head : (Number.written (first :: others) fraction).head? = some first := by
      cases fraction <;> rfl
    rw [head]
    rintro _ ⟨rfl⟩ rfl
    cases digit
  · intro nesting
    cases Numeral.ofDigits (first :: others) fraction with
    | integer value => exact .integer value
    | real value => exact .real value

theorem denotes_text {content : String} (noNumeral : (Value.text content).numeral? = none) :
    Denotes 0 (literal (.text content)).toList (.text content) := by
  rw [literal_of_text noNumeral]
  have lexed := lexes_text rfl (escapes_of_escape content.toList)
  rw [String.ofList_toList] at lexed
  refine ⟨?_, _, .literal (.text content), lexed, fun _ => .text content, rfl, fun _ => rfl⟩
  rintro _ ⟨rfl⟩
  decide

theorem denotes_truth (value : Bool) : Denotes 0 (literal (.truth value)).toList (.truth value) := by
  change Denotes 0 (if value then "true" else "false").toList (.truth value)
  refine ⟨?_, [.name (if value then "true" else "false")], .literal (.truth value), ?_,
    fun _ => .truth ?_, rfl, fun _ => rfl⟩
  · cases value <;> (rintro _ ⟨rfl⟩; decide)
  · cases value with
    | true => exact @lexes_word "true" (by decide)
    | false => exact @lexes_word "false" (by decide)
  · cases value <;> decide

section Numbers

variable {value : Value} {numeral : Numeral} {whole : Int64}

theorem literal_of_numeral {negative : Bool} {digits fraction : List Char}
    (reading : value.numeral? = some numeral)
    (text : numeral.toValue.render.toList =
      if negative then '-' :: Number.written digits fraction else Number.written digits fraction)
    (isDigits : Number.isDigits digits = true) :
    (literal value).toList =
      if negative then '(' :: ('-' :: Number.written digits fraction ++ [')'])
      else Number.written digits fraction := by
  have starts : numeral.toValue.render.startsWith "-" = negative := by
    rw [Bool.eq_iff_iff, String.startsWith_string_iff, text]
    cases negative with
    | true => simp
    | false =>
        obtain ⟨first, others, rfl, digit⟩ := Number.digits_not_empty isDigits
        have head : ∃ rest, Number.written (first :: others) fraction = first :: rest := by
          cases fraction <;> exact ⟨_, rfl⟩
        obtain ⟨rest, shape⟩ := head
        rw [if_neg Bool.false_ne_true, shape]
        constructor
        · rintro ⟨more, same⟩
          cases same
          cases digit
        · nofun
  unfold literal
  rw [reading]
  simp only [starts]
  cases negative with
  | true => simp [text]
  | false => simpa using text

/-- The literal of a number denotes a number, and zero for zero alone. -/
theorem denotes_literal_of_numeral (reading : value.numeral? = some numeral)
    (finite : numeral.isFinite = true) :
    ∃ answer : Numeral, Denotes (literalNestings value) (literal value).toList answer.toValue ∧
      answer.toValue.isTrue = numeral.toValue.isTrue := by
  obtain ⟨negative, digits, fraction, number, text, writes, above⟩ := Numeral.text_writes finite
  have denotes := denotes_digits writes.isDigits writes.allDigits
  have zero : numeral.toValue.isTrue = false →
      (Numeral.ofDigits digits fraction).toValue.isTrue = false ∧
        (Numeral.ofDigits digits fraction).negated.toValue.isTrue = false := by
    intro isZero
    rw [isZero] at above
    obtain ⟨rfl, rfl⟩ := above
    decide
  have same : (Numeral.ofDigits digits fraction).toValue.isTrue = numeral.toValue.isTrue ∧
      (Numeral.ofDigits digits fraction).negated.toValue.isTrue = numeral.toValue.isTrue := by
    cases isTrue : numeral.toValue.isTrue with
    | false => exact zero isTrue
    | true =>
        rw [isTrue] at above
        exact Numeral.of_digits_is_true writes above
  rw [literalNestings, literal_of_numeral reading text writes.isDigits]
  cases negative with
  | false => exact ⟨_, denotes.deeper _, same.1⟩
  | true =>
      have negates := Numeral.negate_of_digits digits fraction
      exact ⟨_, denotes_parenthesis (denotes_negated denotes negates), same.2⟩

/-- The text of an integer, unless it is the least one. -/
theorem denotes_integer_text (notLeast : whole ≠ Int64.minValue) :
    Denotes 1 (Number.integerText whole).toList (.integer whole) := by
  have natural (number : ℕ) (value : Int64) (fits : Number.fit? number = some value) :
      Denotes 0 number.repr.toList (.integer value) := by
    have denotes := @denotes_digits number.repr.toList [] (Number.is_digits_of_repr number) rfl
    rwa [Numeral.ofDigits, List.isEmpty_nil, if_pos rfl, Number.of_decimal_digits_repr, fits]
      at denotes
  by_cases sign : whole.toInt < 0
  · have digits := natural _ _ (fit_of_magnitude sign notLeast)
    rw [Number.integer_text_of_negative sign, String.toList_append]
    exact denotes_negated digits (negate_of_magnitude sign notLeast)
  · rw [Number.integer_text_of_nonnegative (Int.not_lt.mp sign)]
    apply (natural _ _ _).deeper 1
    rw [Int.toNat_of_nonneg (Int.not_lt.mp sign), Number.fit_of_to_int]

theorem denotes_literal_of_integer (reading : value.numeral? = some (.integer whole))
    (notLeast : whole ≠ Int64.minValue) : Denotes 2 (literal value).toList (.integer whole) := by
  have denotes := denotes_integer_text notLeast
  rw [literal_of_integer reading]
  by_cases sign : whole.toInt < 0
  · rw [if_pos sign, String.toList_append, String.toList_append]
    exact denotes_parenthesis denotes
  · rw [if_neg sign]
    exact denotes.deeper 1

end Numbers

/-- The literal of a value without an infinity denotes a value as true as what the value spells. -/
theorem denotes_literal {value : Value}
    (finite : ∀ numeral, value.numeral? = some numeral → numeral.isFinite = true) :
    ∃ answer, Denotes (literalNestings value) (literal value).toList answer ∧
      answer.isTrue = value.canonical.isTrue := by
  rw [Value.canonical]
  cases reading : value.numeral? with
  | some numeral =>
      obtain ⟨answer, denotes, same⟩ := denotes_literal_of_numeral reading (finite numeral reading)
      exact ⟨answer.toValue, denotes, same⟩
  | none =>
      cases value with
      | integer => cases reading
      | real => cases reading
      | text content => exact ⟨_, (denotes_text reading).deeper _, rfl⟩
      | truth value => exact ⟨_, (denotes_truth value).deeper _, rfl⟩

end Literals

end Expression

end LineTemplate

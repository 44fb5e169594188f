import LineTemplate.Proofs.Number.Decimal
import LineTemplate.Proofs.Text.Ascii
import LineTemplate.Value

/-!
What written values stand for. An integer in decimal is read as that integer: there is nothing to
trim from it, it is in no quotes, and it is none of the words for truths.
-/

namespace LineTemplate

namespace Number

variable {value : Int64} {character : Char}

theorem minus_or_digit (member : character ∈ (integerText value).toList) :
    character = '-' ∨ character.isDigit = true := by
  obtain ⟨digits, isNumber, text, _⟩ := integer_text_digits value
  rw [isDigits, Bool.and_eq_true, List.all_eq_true] at isNumber
  have inDigits : character ∈ '-' :: digits := by
    rw [text] at member
    split at member
    · exact member
    · exact List.mem_cons_of_mem _ member
  exact (List.mem_cons.mp inDigits).imp_right (isNumber.2 character)

theorem code_of_integer_text (member : character ∈ (integerText value).toList) :
    character.toNat = 45 ∨ 48 ≤ character.toNat ∧ character.toNat ≤ 57 := by
  rcases minus_or_digit member with rfl | digit
  · exact Or.inl rfl
  · exact Or.inr (Text.is_digit_iff.mp digit)

theorem visible_of_integer_text (member : character ∈ (integerText value).toList) :
    Text.isBlank character = false := by
  have code := code_of_integer_text member
  exact Text.not_blank_of_bounds (by omega) (by omega)

theorem integer_text_not_empty (value : Int64) :
    ∃ first rest, (integerText value).toList = first :: rest := by
  obtain ⟨digits, isNumber, text, _⟩ := integer_text_digits value
  obtain ⟨first, rest, rfl, _⟩ := digits_not_empty isNumber
  split at text <;> exact ⟨_, _, text⟩

end Number

theorem Text.not_equal_of_first {first other : Char} {rest others : List Char}
    (apart : first.toLower ≠ other.toLower) :
    equalIgnoringCase (String.ofList (first :: rest)) (String.ofList (other :: others)) =
      false := by
  simp [equalIgnoringCase, apart]

namespace Value

theorem infer_integer_text (value : Int64) :
    infer (Number.integerText value) = .integer value := by
  obtain ⟨first, rest, text⟩ := Number.integer_text_not_empty value
  have code := Number.code_of_integer_text (text ▸ List.mem_cons_self)
  have visible : ∀ character ∈ first :: rest, Text.isBlank character = false :=
    fun character member => Number.visible_of_integer_text (text ▸ member)
  have unquoted : Text.isQuote first = false := Text.not_quote_of_codes (by omega) (by omega)
  have noLetter : ∀ letter : Char, 97 ≤ letter.toNat → first.toLower ≠ letter := by
    intro letter small
    rw [Text.to_lower_of_not_capital (by omega)]
    rintro rfl
    omega
  have notTrue : Text.equalIgnoringCase (String.ofList (first :: rest)) "true" = false :=
    Text.not_equal_of_first (noLetter 't' (by decide))
  have notFalse : Text.equalIgnoringCase (String.ofList (first :: rest)) "false" = false :=
    Text.not_equal_of_first (noLetter 'f' (by decide))
  have reads := Number.integer_of_integer_text value
  rw [text] at reads
  have read : Numeral.ofText? (first :: rest) = some (.integer value) := by
    simp only [Numeral.ofText?, Text.trim_of_visible visible, reads]
  simp only [infer, text, Text.trim_of_visible visible, Text.unquote_of_unquoted rest unquoted,
    read, notTrue, notFalse]
  rfl

end Value

end LineTemplate

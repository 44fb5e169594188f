import LineTemplate.Proofs.Value.Inference

/-!
Values as they are written where no expression is expected: an integer in decimal, a truth by its
word, a text between two quotes of one kind. What is written so is read as the value, whatever the
text has in it.
-/

namespace LineTemplate

namespace Value

/-- A way to write the value. Which quotes may enclose which text depends on where it is written. -/
inductive Writes (encloses : Char → String → Prop) : Value → List Char → Prop where
  | integer (value : Int64) : Writes encloses (.integer value) (Number.integerText value).toList
  | truth {value : Bool} {word : List Char}
      (spelled : word.map Char.toLower = (if value then "true" else "false").toList) :
      Writes encloses (.truth value) word
  | text {quote : Char} {content : String} (isQuote : Text.isQuote quote = true)
      (enclosed : encloses quote content) :
      Writes encloses (.text content) (quote :: (content.toList ++ [quote]))

section Truths

variable {value : Bool} {word : List Char}

theorem identifier_of_truth_word
    (spelled : word.map Char.toLower = (if value then "true" else "false").toList) :
    isIdentifier (String.ofList word) = true := by
  refine Text.identifier_of_to_lower ?_ ?_ spelled <;> cases value <;> decide

theorem visible_of_truth_word
    (spelled : word.map Char.toLower = (if value then "true" else "false").toList)
    {character : Char} (member : character ∈ word) : Text.isBlank character = false := by
  have inside := Text.characters_of_identifier (identifier_of_truth_word spelled)
  rw [String.toList_ofList, List.all_eq_true] at inside
  exact Text.not_blank_of_identifier_character (inside character member)

theorem infer_truth_word
    (spelled : word.map Char.toLower = (if value then "true" else "false").toList) :
    infer (String.ofList word) = .truth value := by
  have identifier := identifier_of_truth_word spelled
  obtain ⟨first, rest, shape, starts, _⟩ := (Text.is_identifier_iff _).mp identifier
  rw [String.toList_ofList] at shape
  subst shape
  have visible : ∀ character ∈ first :: rest, Text.isBlank character = false :=
    fun character member => visible_of_truth_word spelled member
  have unquoted : Text.isQuote first = false :=
    Text.not_quote_of_identifier_character (Text.identifier_character_of_starts starts)
  simp only [infer, String.toList_ofList, Text.trim_of_visible visible,
    Text.unquote_of_unquoted rest unquoted, Text.equalIgnoringCase, spelled]
  cases value <;> rfl

end Truths

section Enclosed

variable {quote : Char}

theorem visible_of_quote (isQuote : Text.isQuote quote = true) : Text.isBlank quote = false := by
  rcases Text.quote_cases isQuote with rfl | rfl <;> decide

theorem trim_enclosed (isQuote : Text.isQuote quote = true) (content : List Char) :
    Text.trim (quote :: (content ++ [quote])) = quote :: (content ++ [quote]) := by
  have visible := visible_of_quote isQuote
  rw [Text.trim, Text.trim_start_of_not_blank _ _ visible, ← List.cons_append,
    Text.trim_end_append_of_not_blank _ _ visible]

theorem infer_enclosed (isQuote : Text.isQuote quote = true) (content : String) :
    infer (String.ofList (quote :: (content.toList ++ [quote]))) = .text content := by
  simp only [infer, String.toList_ofList, trim_enclosed isQuote, Text.unquote_enclosed quote _ isQuote,
    String.ofList_toList]

end Enclosed

section Words

variable {encloses : Char → String → Prop} {value : Value} {word : List Char}

theorem infer_of_writes (writes : value.Writes encloses word) :
    infer (String.ofList word) = value := by
  cases writes with
  | integer value => rw [String.ofList_toList, infer_integer_text]
  | truth spelled => exact infer_truth_word spelled
  | text isQuote => exact infer_enclosed isQuote _

/-- There is nothing to trim from a written value. -/
theorem trim_of_writes (writes : value.Writes encloses word) : Text.trim word = word := by
  cases writes with
  | integer value => exact Text.trim_of_visible fun _ => Number.visible_of_integer_text
  | truth spelled => exact Text.trim_of_visible fun _ => visible_of_truth_word spelled
  | text isQuote => exact trim_enclosed isQuote _

theorem first_of_writes (writes : value.Writes encloses word) :
    ∃ first rest, word = first :: rest ∧ Text.isBlank first = false := by
  cases writes with
  | integer value =>
      obtain ⟨first, rest, text⟩ := Number.integer_text_not_empty value
      exact ⟨first, rest, text, Number.visible_of_integer_text (text ▸ List.mem_cons_self)⟩
  | @truth value word spelled =>
      cases word with
      | nil => cases value <;> cases spelled
      | cons first rest =>
          exact ⟨first, rest, rfl, visible_of_truth_word spelled List.mem_cons_self⟩
  | text isQuote => exact ⟨_, _, rfl, visible_of_quote isQuote⟩

end Words

end Value

end LineTemplate

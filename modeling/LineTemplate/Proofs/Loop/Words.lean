import LineTemplate.Loop.Clause
import LineTemplate.Proofs.Line.Lexeme
import LineTemplate.Proofs.Value.Inference

/-!
Words of loop lines. An identifier and an integer in decimal have neither blanks, delimiters nor
quotes in them, and so each of them is one bare word of its line. Behind the keyword and the name,
the third word says how the values are named.
-/

namespace LineTemplate.Loop

open Number (integerText)

variable {name : String}

theorem bare_of_code {character : Char} (code : character.toNat = 35 ∨ character.toNat = 45 ∨
      48 ≤ character.toNat ∧ character.toNat ≤ 57 ∨ 65 ≤ character.toNat ∧ character.toNat ≤ 90 ∨
      character.toNat = 95 ∨ 97 ≤ character.toNat ∧ character.toNat ≤ 122) :
    Line.isBare character = true ∧ Text.isQuote character = false := by
  have visible : Text.isBlank character = false :=
    Text.not_blank_of_bounds (by omega) (by omega)
  have plain : Line.isDelimiter character = false := by
    rw [← Bool.not_eq_true]
    intro delimits
    simp only [Line.isDelimiter, List.contains_iff_mem, List.mem_cons, List.not_mem_nil,
      or_false] at delimits
    rcases delimits with rfl | rfl | rfl | rfl | rfl | rfl | rfl | rfl <;> revert code <;> decide
  refine ⟨?_, Text.not_quote_of_codes (by omega) (by omega)⟩
  rw [Line.isBare, visible, plain]
  rfl

theorem bare_word_of_identifier (identifier : isIdentifier name = true) :
    Line.BareWord name.toList := by
  obtain ⟨first, rest, text, starts, continues⟩ := (Text.is_identifier_iff name).mp identifier
  have firstCode := Text.starts_identifier_iff.mp starts
  rw [text]
  refine ⟨?_, first, rest, rfl, (bare_of_code (by omega)).2⟩
  rw [List.all_eq_true] at continues ⊢
  intro character member
  rcases List.mem_cons.mp member with rfl | later
  · exact (bare_of_code (by omega)).1
  · have code := Text.identifier_character_iff.mp (continues character later)
    exact (bare_of_code (by omega)).1

theorem bare_word_of_integer (value : Int64) : Line.BareWord (integerText value).toList := by
  obtain ⟨first, rest, text⟩ := Number.integer_text_not_empty value
  have code {character : Char} (member : character ∈ (integerText value).toList) :=
    Number.code_of_integer_text member
  refine ⟨?_, first, rest, text, ?_⟩
  · rw [List.all_eq_true]
    intro character member
    have code := code member
    exact (bare_of_code (by omega)).1
  · have code := code (text ▸ List.mem_cons_self)
    exact (bare_of_code (by omega)).2

/-- A line without an open quote takes the values that its lexemes name, if they are not too many. -/
theorem clause_of_lexemes {line : String} {keyword form : Line.Lexeme} {rest : List Line.Lexeme}
    (read : Line.lexemes line = keyword :: ⟨name, false⟩ :: form :: rest)
    (closed : Line.hasOpenQuote line = false) (identifier : isIdentifier name = true)
    (limit : Nat) :
    Clause.ofLine line limit = (do
      let values ← Clause.readValues (some form) rest limit
      if limit < values.size then throw (.passLimit limit)
      return { name, values }) := by
  have named : Clause.readName (some ⟨name, false⟩) = .ok name := by
    rw [Clause.readName, identifier]
    rfl
  rw [Clause.ofLine, read, closed]
  simp only [List.getElem?_cons_succ, List.getElem?_cons_zero, List.drop_succ_cons, List.drop_zero,
    named]
  rfl

end LineTemplate.Loop

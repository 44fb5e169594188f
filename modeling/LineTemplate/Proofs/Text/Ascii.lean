import LineTemplate.Text.Blank
import LineTemplate.Text.Folding
import LineTemplate.Text.Quote
import LineTemplate.Variables

/-!
The letters, digits and signs of ASCII: where they stand among the code points, and what is no
letter, blank or quote for that reason.
-/

namespace LineTemplate.Text

variable {character : Char}

theorem is_digit_iff :
    character.isDigit = true ↔ 48 ≤ character.toNat ∧ character.toNat ≤ 57 := by
  simp only [Char.isDigit, Bool.and_eq_true, decide_eq_true_eq]
  exact and_congr UInt32.le_iff_toNat_le UInt32.le_iff_toNat_le

theorem is_alpha_iff : character.isAlpha = true ↔
    65 ≤ character.toNat ∧ character.toNat ≤ 90 ∨
      97 ≤ character.toNat ∧ character.toNat ≤ 122 := by
  change (decide (65 ≤ character.val ∧ character.val ≤ 90) ||
    decide (97 ≤ character.val) && decide (character.val ≤ 122)) = true ↔ _
  simp only [Bool.or_eq_true, Bool.and_eq_true, decide_eq_true_eq]
  exact or_congr (and_congr UInt32.le_iff_toNat_le UInt32.le_iff_toNat_le)
    (and_congr UInt32.le_iff_toNat_le UInt32.le_iff_toNat_le)

theorem not_blank_of_bounds (lower : 33 ≤ character.toNat) (upper : character.toNat ≤ 126) :
    isBlank character = false := by
  simp only [isBlank, Bool.or_eq_false_iff, Bool.and_eq_false_iff, decide_eq_false_iff_not,
    beq_eq_false_iff_ne]
  omega

theorem quote_cases {quote : Char} (quotes : isQuote quote = true) :
    quote = '"' ∨ quote = '\x27' := by
  simpa [isQuote, doubleQuote, singleQuote] using quotes

theorem not_quote_of_codes (notDouble : character.toNat ≠ 34) (notSingle : character.toNat ≠ 39) :
    isQuote character = false := by
  simp only [isQuote, Bool.or_eq_false_iff, beq_eq_false_iff_ne]
  constructor
  · rintro rfl
    exact notDouble rfl
  · rintro rfl
    exact notSingle rfl

/-- What an identifier may start with. -/
def startsIdentifier (character : Char) : Bool :=
  character.isAlpha || character == '_'

/-- What may stand in an identifier. -/
def isIdentifierCharacter (character : Char) : Bool :=
  character.isAlphanum || character == '_'

theorem is_underscore_iff : (character == '_') = true ↔ character.toNat = 95 := by
  rw [beq_iff_eq]
  constructor
  · rintro rfl
    rfl
  · exact fun code => Char.toNat_inj.mp code

theorem starts_identifier_iff : startsIdentifier character = true ↔
    65 ≤ character.toNat ∧ character.toNat ≤ 90 ∨ character.toNat = 95 ∨
      97 ≤ character.toNat ∧ character.toNat ≤ 122 := by
  rw [startsIdentifier, Bool.or_eq_true, is_alpha_iff, is_underscore_iff]
  omega

theorem identifier_character_iff : isIdentifierCharacter character = true ↔
    48 ≤ character.toNat ∧ character.toNat ≤ 57 ∨ 65 ≤ character.toNat ∧ character.toNat ≤ 90 ∨
      character.toNat = 95 ∨ 97 ≤ character.toNat ∧ character.toNat ≤ 122 := by
  rw [isIdentifierCharacter, Char.isAlphanum, Bool.or_eq_true, Bool.or_eq_true, is_alpha_iff,
    is_digit_iff, is_underscore_iff]
  omega

theorem identifier_character_of_starts (starts : startsIdentifier character = true) :
    isIdentifierCharacter character = true := by
  simp only [startsIdentifier, isIdentifierCharacter, Char.isAlphanum, Bool.or_eq_true] at starts ⊢
  rcases starts with alpha | score
  · exact Or.inl (Or.inl alpha)
  · exact Or.inr score

theorem identifier_character_of_digit (digit : character.isDigit = true) :
    isIdentifierCharacter character = true := by
  simp [isIdentifierCharacter, Char.isAlphanum, digit]

theorem is_ascii_of_identifier_character (inside : isIdentifierCharacter character = true) :
    isAscii character = true := by
  have bounds := identifier_character_iff.mp inside
  simp only [isAscii, decide_eq_true_eq]
  omega

theorem not_blank_of_identifier_character (inside : isIdentifierCharacter character = true) :
    isBlank character = false := by
  have bounds := identifier_character_iff.mp inside
  exact not_blank_of_bounds (by omega) (by omega)

theorem not_quote_of_identifier_character (inside : isIdentifierCharacter character = true) :
    isQuote character = false := by
  have bounds := identifier_character_iff.mp inside
  exact not_quote_of_codes (by omega) (by omega)

theorem not_digit_of_starts_identifier (starts : startsIdentifier character = true) :
    character.isDigit = false := by
  cases digit : character.isDigit with
  | false => rfl
  | true =>
      have letter := starts_identifier_iff.mp starts
      have bounds := is_digit_iff.mp digit
      omega

theorem is_word_character_of_identifier_character
    (inside : isIdentifierCharacter character = true) : isWordCharacter character = true := by
  rw [isWordCharacter, if_pos (is_ascii_of_identifier_character inside)]
  exact inside

theorem fold_of_identifier_character (inside : isIdentifierCharacter character = true) :
    fold character = character.toLower :=
  fold_of_is_ascii character (is_ascii_of_identifier_character inside)

theorem to_lower_of_capital (lower : 65 ≤ character.toNat) (upper : character.toNat ≤ 90) :
    character.toLower.toNat = character.toNat + 32 := by
  have inside : character.val ≥ 'A'.val ∧ character.val ≤ 'Z'.val :=
    ⟨UInt32.le_iff_toNat_le.mpr lower, UInt32.le_iff_toNat_le.mpr upper⟩
  have lowered : character.toLower.val = character.val + 32 := congrArg Char.val (dif_pos inside)
  rw [Char.toNat, lowered, UInt32.toNat_add]
  change (character.toNat + 32) % _ = _
  omega

theorem to_lower_of_not_capital (outside : character.toNat < 65 ∨ 90 < character.toNat) :
    character.toLower = character := by
  apply dif_neg
  rintro ⟨lower, upper⟩
  have fromA : 65 ≤ character.toNat := UInt32.le_iff_toNat_le.mp lower
  have toZ : character.toNat ≤ 90 := UInt32.le_iff_toNat_le.mp upper
  omega

theorem to_lower_cases (character : Char) :
    65 ≤ character.toNat ∧ character.toNat ≤ 90 ∧
        character.toLower.toNat = character.toNat + 32 ∨
      (character.toNat < 65 ∨ 90 < character.toNat) ∧
        character.toLower.toNat = character.toNat := by
  by_cases capital : 65 ≤ character.toNat ∧ character.toNat ≤ 90
  · exact Or.inl ⟨capital.1, capital.2, to_lower_of_capital capital.1 capital.2⟩
  · have outside : character.toNat < 65 ∨ 90 < character.toNat := by omega
    exact Or.inr ⟨outside, by rw [to_lower_of_not_capital outside]⟩

theorem identifier_character_of_lower {expected found : Char}
    (inside : isIdentifierCharacter expected = true) (same : expected.toLower = found.toLower) :
    isIdentifierCharacter found = true := by
  rw [identifier_character_iff] at inside ⊢
  have codes := congrArg Char.toNat same
  have expectedLower := to_lower_cases expected
  have foundLower := to_lower_cases found
  omega

theorem identifier_character_of_fold {expected found : Char}
    (inside : isIdentifierCharacter expected = true) (ascii : isAscii found = true)
    (same : fold expected = fold found) : isIdentifierCharacter found = true := by
  rw [fold_of_identifier_character inside, fold_of_is_ascii found ascii] at same
  exact identifier_character_of_lower inside same

theorem starts_identifier_of_lower {expected found : Char}
    (starts : startsIdentifier expected = true) (same : expected.toLower = found.toLower) :
    startsIdentifier found = true := by
  rw [starts_identifier_iff] at starts ⊢
  have codes := congrArg Char.toNat same
  have expectedLower := to_lower_cases expected
  have foundLower := to_lower_cases found
  omega

theorem starts_identifier_of_to_lower (starts : startsIdentifier character.toLower = true) :
    startsIdentifier character = true := by
  have lowered := to_lower_cases character
  rw [starts_identifier_iff] at starts ⊢
  omega

theorem starts_identifier_of_fold {expected found : Char}
    (starts : startsIdentifier expected = true) (ascii : isAscii found = true)
    (same : fold expected = fold found) : startsIdentifier found = true := by
  rw [fold_of_identifier_character (identifier_character_of_starts starts),
    fold_of_is_ascii found ascii] at same
  exact starts_identifier_of_lower starts same

/-- A word of identifier characters that does not start with a digit. -/
theorem is_identifier_iff (word : String) :
    isIdentifier word = true ↔ ∃ first rest, word.toList = first :: rest ∧
      startsIdentifier first = true ∧ rest.all isIdentifierCharacter = true := by
  unfold isIdentifier
  cases characters : word.toList with
  | nil => simp
  | cons first rest =>
      simp only [Bool.and_eq_true]
      constructor
      · intro shape
        exact ⟨first, rest, rfl, shape⟩
      · rintro ⟨_, _, ⟨rfl, rfl⟩, shape⟩
        exact shape

theorem characters_of_identifier {word : String} (identifier : isIdentifier word = true) :
    word.toList.all isIdentifierCharacter = true := by
  obtain ⟨first, rest, shape, starts, inside⟩ := (is_identifier_iff word).mp identifier
  rw [shape, List.all_cons, identifier_character_of_starts starts, inside]
  rfl

/-- A word of letters is an identifier in any case. -/
theorem identifier_of_to_lower {characters small : List Char} (nonempty : small ≠ [])
    (letters : small.all startsIdentifier = true) (spelled : characters.map Char.toLower = small) :
    isIdentifier (String.ofList characters) = true := by
  subst spelled
  rw [List.all_map, List.all_eq_true] at letters
  have letter {character : Char} (member : character ∈ characters) :
      startsIdentifier character = true :=
    starts_identifier_of_to_lower (letters character member)
  cases characters with
  | nil => exact absurd rfl nonempty
  | cons first rest =>
      refine (is_identifier_iff _).mpr ⟨first, rest, String.toList_ofList, ?_, ?_⟩
      · exact letter List.mem_cons_self
      · rw [List.all_eq_true]
        exact fun character member =>
          identifier_character_of_starts (letter (List.mem_cons_of_mem first member))

end LineTemplate.Text

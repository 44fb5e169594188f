import LineTemplate.Proofs.Expression.Cutting
import LineTemplate.Proofs.Number.Positional

/-!
Writing tokens and reading them again. A relation says how a token may be written: integers by their
digits, text inside either quote, names and operator words in any case. What is written with single
spaces between is read as the tokens it was written from; and there is no text at all that is not cut
into tokens, unless it leaves a literal open.
-/

namespace LineTemplate.Expression

/-- How the inside of a literal is written: the quote and the backslash behind a backslash, line feed
and tab as they are or by their letters, all else as it is. -/
inductive Inside (quote : Char) : List Char → List Char → Prop where
  | done : Inside quote [] []
  | marked {character : Char} {content body : List Char}
      (special : character = quote ∨ character = '\\') (rest : Inside quote content body) :
      Inside quote (character :: content) ('\\' :: character :: body)
  | feed {content body : List Char} (rest : Inside quote content body) :
      Inside quote ('\n' :: content) ('\\' :: 'n' :: body)
  | tab {content body : List Char} (rest : Inside quote content body) :
      Inside quote ('\t' :: content) ('\\' :: 't' :: body)
  | plain {character : Char} {content body : List Char} (notQuote : character ≠ quote)
      (notBackslash : character ≠ '\\') (rest : Inside quote content body) :
      Inside quote (character :: content) (character :: body)

/-- The words that are operators. -/
def operatorWords : List (Token × String) := [(.and, "and"), (.or, "or"), (.bang, "not")]

/-- A word of which the operator word is the form in small letters. -/
def InAnyCase (word : String) (characters : List Char) : Prop :=
  characters.map Char.toLower = word.toList

instance (word : String) (characters : List Char) : Decidable (InAnyCase word characters) :=
  inferInstanceAs (Decidable (_ = _))

/-- The characters are a way to write the token. -/
inductive Renders : Token → List Char → Prop where
  | decimal {value : Int64} (natural : 0 ≤ value.toInt) (zeros : Nat) :
      Renders (.integer value)
        (List.replicate zeros '0' ++ Nat.toDigits 10 value.toInt.toNat)
  | hexadecimal {value : Int64} {mark : Char} {digits : List Char} (natural : 0 ≤ value.toInt)
      (isMark : mark = 'x' ∨ mark = 'X') (zeros : Nat)
      (shape : digits.map Char.toLower =
        List.replicate zeros '0' ++ Nat.toDigits 16 value.toInt.toNat) :
      Renders (.integer value) ('0' :: mark :: digits)
  | text {quote : Char} {content : String} {body : List Char} (isQuote : Text.isQuote quote = true)
      (inside : Inside quote content.toList body) :
      Renders (.text content) (quote :: (body ++ [quote]))
  | operatorWord {token : Token} {word : String} {characters : List Char}
      (listed : (token, word) ∈ operatorWords) (spelled : InAnyCase word characters) :
      Renders token characters
  | name {first : Char} {rest : List Char} (starts : startsName first = true)
      (continues : rest.all continuesName = true)
      (noOperator : ∀ operator ∈ operatorWords, ¬ InAnyCase operator.2 (first :: rest)) :
      Renders (.name (String.ofList (first :: rest))) (first :: rest)
  | symbol {token : Token} {characters : List Char} (listed : (token, characters) ∈ symbols) :
      Renders token characters

section Digits

theorem is_hex_digit_iff {digit : Char} : isHexDigit digit = true ↔
    48 ≤ digit.toNat ∧ digit.toNat ≤ 57 ∨ 97 ≤ digit.toNat ∧ digit.toNat ≤ 102 ∨
      65 ≤ digit.toNat ∧ digit.toNat ≤ 70 := by
  simp only [isHexDigit, Bool.or_eq_true, Bool.and_eq_true, decide_eq_true_eq, Text.is_digit_iff,
    or_assoc]
  exact or_congr Iff.rfl (or_congr
    (and_congr UInt32.le_iff_toNat_le UInt32.le_iff_toNat_le)
    (and_congr UInt32.le_iff_toNat_le UInt32.le_iff_toNat_le))

theorem is_digit_to_lower (digit : Char) : digit.toLower.isDigit = digit.isDigit := by
  have lowered := Text.to_lower_cases digit
  rw [Bool.eq_iff_iff, Text.is_digit_iff, Text.is_digit_iff]
  omega

theorem is_hex_digit_to_lower {digit : Char} (isHex : isHexDigit digit.toLower = true) :
    isHexDigit digit = true := by
  have lowered := Text.to_lower_cases digit
  rw [is_hex_digit_iff] at isHex ⊢
  omega

theorem to_lower_to_lower (character : Char) : character.toLower.toLower = character.toLower := by
  apply Char.toNat_inj.mp
  have once := Text.to_lower_cases character
  have twice := Text.to_lower_cases character.toLower
  omega

theorem hex_digit_value_to_lower (digit : Char) :
    hexDigitValue digit.toLower = hexDigitValue digit := by
  have lowered := Text.to_lower_cases digit
  rw [hexDigitValue, hexDigitValue, is_digit_to_lower, to_lower_to_lower]
  split
  · next isDigit =>
      rw [Text.is_digit_iff] at isDigit
      congr 1
      omega
  · rfl

theorem hex_digit_value_of_digit_char {digit : Nat} (bound : digit < 16) :
    hexDigitValue digit.digitChar = digit ∧ isHexDigit digit.digitChar = true := by
  have known : ∀ digit < 16,
      hexDigitValue digit.digitChar = digit ∧ isHexDigit digit.digitChar = true := by decide
  exact known digit bound

/-- Digits to the base sixteen, as they are written, are read as the number. -/
theorem of_hex_digits_to_digits (number : Nat) :
    Number.ofDigits 16 hexDigitValue (Nat.toDigits 16 number) = number ∧
      (Nat.toDigits 16 number).all isHexDigit = true := by
  induction number using Nat.strongRecOn with
  | ind number ih =>
      by_cases small : number < 16
      · obtain ⟨value, isHex⟩ := hex_digit_value_of_digit_char small
        rw [Nat.toDigits_of_lt_base small]
        simp [Number.ofDigits, value, isHex]
      · obtain ⟨value, isHex⟩ := ih (number / 16) (by omega)
        obtain ⟨lastValue, lastIsHex⟩ := hex_digit_value_of_digit_char
          (Nat.mod_lt number (by decide : 16 > 0))
        rw [Nat.toDigits_of_base_le (by decide) (Nat.not_lt.mp small), Number.of_digits_concat,
          value, lastValue, List.all_append, isHex, List.all_cons, lastIsHex]
        exact ⟨Nat.div_add_mod' number 16, rfl⟩

theorem of_hex_digits_zeros_append (zeros : Nat) (digits : List Char) :
    Number.ofDigits 16 hexDigitValue (List.replicate zeros '0' ++ digits) =
      Number.ofDigits 16 hexDigitValue digits := by
  induction zeros with
  | zero => rfl
  | succ zeros ih =>
      rw [← ih, List.replicate_succ]
      rfl

theorem of_hex_digits_to_lower (digits : List Char) :
    Number.ofDigits 16 hexDigitValue (digits.map Char.toLower) =
      Number.ofDigits 16 hexDigitValue digits := by
  simp only [Number.ofDigits, List.foldl_map, hex_digit_value_to_lower]

theorem fit_of_to_nat {value : Int64} (natural : 0 ≤ value.toInt) :
    Number.fit? (value.toInt.toNat : Nat) = some value := by
  rw [Int.toNat_of_nonneg natural, Number.fit_of_to_int]

theorem lexes_decimal_digits {value : Int64} (natural : 0 ≤ value.toInt) (zeros : Nat) :
    Lexes (List.replicate zeros '0' ++ Nat.toDigits 10 value.toInt.toNat) [.integer value] := by
  apply lexes_decimal
  · rw [Number.isDigits, List.all_append, Number.all_digits_of_zeros,
      Number.all_digits_of_to_digits, Bool.and_true, Bool.and_true, Bool.not_eq_true',
      List.isEmpty_eq_false_iff]
    exact List.append_ne_nil_of_right_ne_nil _ Nat.toDigits_ne_nil
  · rw [Number.of_decimal_digits_zeros_append, Number.of_decimal_digits_to_digits,
      fit_of_to_nat natural]

theorem lexes_hexadecimal_digits {value : Int64} {mark : Char} {digits : List Char}
    (natural : 0 ≤ value.toInt) (isMark : mark = 'x' ∨ mark = 'X') {zeros : Nat}
    (shape : digits.map Char.toLower =
      List.replicate zeros '0' ++ Nat.toDigits 16 value.toInt.toNat) :
    Lexes ('0' :: mark :: digits) [.integer value] := by
  obtain ⟨readBack, isHex⟩ := of_hex_digits_to_digits value.toInt.toNat
  apply lexes_hexadecimal isMark
  · rintro rfl
    exact Nat.toDigits_ne_nil (List.append_eq_nil_iff.mp shape.symm).2
  · have isHex : (digits.map Char.toLower).all isHexDigit = true := by
      rw [shape, List.all_append, isHex, Bool.and_true, List.all_replicate]
      cases zeros <;> rfl
    rw [List.all_map, List.all_eq_true] at isHex
    exact List.all_eq_true.mpr fun digit member => is_hex_digit_to_lower (isHex digit member)
  · rw [← of_hex_digits_to_lower, shape, of_hex_digits_zeros_append, readBack,
      fit_of_to_nat natural]

end Digits

section Words

theorem unescape_of_special {quote character : Char} (isQuote : Text.isQuote quote = true)
    (special : character = quote ∨ character = '\\') :
    unescape character = character ∧ character ≠ '\n' := by
  rcases special with rfl | rfl
  · rcases Text.quote_cases isQuote with rfl | rfl <;> decide
  · decide

theorem escapes_of_inside {quote : Char} {content body : List Char}
    (isQuote : Text.isQuote quote = true) (inside : Inside quote content body) :
    Escapes quote content body := by
  induction inside with
  | done => exact .done
  | marked special _ ih =>
      obtain ⟨same, notFeed⟩ := unescape_of_special isQuote special
      have escaped := Escapes.escaped notFeed ih
      rwa [same] at escaped
  | feed _ ih => exact @Escapes.escaped quote 'n' _ _ (by decide) ih
  | tab _ ih => exact @Escapes.escaped quote 't' _ _ (by decide) ih
  | plain notQuote notBackslash _ ih => exact .plain notQuote notBackslash ih

theorem equal_ignoring_case_iff (characters : List Char) {word : String}
    (small : word.toList.map Char.toLower = word.toList) :
    Text.equalIgnoringCase (String.ofList characters) word = true ↔ InAnyCase word characters := by
  rw [Text.equalIgnoringCase, beq_iff_eq, String.toList_ofList, small, InAnyCase]

/-- A word is read as the operator that it writes, else as a name. -/
theorem word_token_of_case (characters : List Char) :
    (∀ operator ∈ operatorWords, InAnyCase operator.2 characters →
      wordToken (String.ofList characters) = operator.1) ∧
    ((∀ operator ∈ operatorWords, ¬ InAnyCase operator.2 characters) →
      wordToken (String.ofList characters) = .name (String.ofList characters)) := by
  have isAnd := @equal_ignoring_case_iff characters "and" rfl
  have isOr := @equal_ignoring_case_iff characters "or" rfl
  have isNot := @equal_ignoring_case_iff characters "not" rfl
  constructor
  · intro operator listed spelled
    simp only [operatorWords, List.mem_cons, List.not_mem_nil, or_false] at listed
    rcases listed with rfl | rfl | rfl
    · rw [wordToken, if_pos (isAnd.mpr spelled)]
    · have notAnd : ¬ Text.equalIgnoringCase (String.ofList characters) "and" = true := by
        rw [isAnd, InAnyCase, spelled]
        decide
      rw [wordToken, if_neg notAnd, if_pos (isOr.mpr spelled)]
    · have notAnd : ¬ Text.equalIgnoringCase (String.ofList characters) "and" = true := by
        rw [isAnd, InAnyCase, spelled]
        decide
      have notOr : ¬ Text.equalIgnoringCase (String.ofList characters) "or" = true := by
        rw [isOr, InAnyCase, spelled]
        decide
      rw [wordToken, if_neg notAnd, if_neg notOr, if_pos (isNot.mpr spelled)]
  · intro noOperator
    rw [wordToken, if_neg (mt isAnd.mp (noOperator (.and, "and") (by decide))),
      if_neg (mt isOr.mp (noOperator (.or, "or") (by decide))),
      if_neg (mt isNot.mp (noOperator (.bang, "not") (by decide)))]

theorem letters_of_operator_word {token : Token} {word : String} {characters : List Char}
    (listed : (token, word) ∈ operatorWords) (spelled : InAnyCase word characters) :
    characters ≠ [] ∧ ∀ character ∈ characters, Text.startsIdentifier character = true := by
  have letters : ∀ operator ∈ operatorWords,
      operator.2.toList ≠ [] ∧ operator.2.toList.all Text.startsIdentifier = true := by decide
  obtain ⟨nonempty, all⟩ := letters _ listed
  rw [← spelled, List.all_map, List.all_eq_true] at all
  constructor
  · rintro rfl
    exact nonempty spelled.symm
  · exact fun character member => Text.starts_identifier_of_to_lower (all character member)

theorem lexes_operator_word {token : Token} {word : String} {characters : List Char}
    (listed : (token, word) ∈ operatorWords) (spelled : InAnyCase word characters) :
    Lexes characters [token] := by
  obtain ⟨nonempty, letters⟩ := letters_of_operator_word listed spelled
  cases characters with
  | nil => exact absurd rfl nonempty
  | cons first rest =>
      have continues : rest.all continuesName = true := by
        rw [List.all_eq_true]
        exact fun character member => continues_name_of_identifier_character
          (Text.identifier_character_of_starts (letters character (List.mem_cons_of_mem first member)))
      have lexed := lexes_of_starts_name
        (starts_name_of_starts_identifier (letters first List.mem_cons_self)) continues
      rwa [(word_token_of_case (first :: rest)).1 _ listed spelled] at lexed

end Words

theorem lexes_of_renders {token : Token} {word : List Char} (renders : Renders token word) :
    Lexes word [token] := by
  cases renders with
  | decimal natural zeros => exact lexes_decimal_digits natural zeros
  | hexadecimal natural isMark zeros shape => exact lexes_hexadecimal_digits natural isMark shape
  | text isQuote inside =>
      have lexed := lexes_text isQuote (escapes_of_inside isQuote inside)
      rwa [String.ofList_toList] at lexed
  | operatorWord listed spelled => exact lexes_operator_word listed spelled
  | name starts continues noOperator =>
      have lexed := lexes_of_starts_name starts continues
      rwa [(word_token_of_case _).2 noOperator] at lexed
  | symbol listed => exact lexes_symbol listed

/-- Tokens with the way each of them is written, one space between two. -/
def spaced (written : List (Token × List Char)) : List Char :=
  [' '].intercalate (written.map Prod.snd)

theorem tokens_of_spaced {written : List (Token × List Char)}
    (renders : ∀ entry ∈ written, Renders entry.1 entry.2) :
    tokens (spaced written) = .ok (written.map Prod.fst) := by
  induction written with
  | nil => exact tokens_nil
  | cons entry others ih =>
      have lexed := lexes_of_renders (renders entry List.mem_cons_self)
      have ih := ih fun other member => renders other (List.mem_cons_of_mem entry member)
      cases others with
      | nil =>
          have alone := lexed [] nofun
          rw [List.append_nil, tokens_nil] at alone
          rw [spaced, List.map_singleton, List.intercalate_singleton, alone]
          rfl
      | cons next others =>
          have shape : spaced (entry :: next :: others) =
              entry.2 ++ ' ' :: spaced (next :: others) := by
            simp [spaced, List.intercalate_cons_cons]
          have ends : EndsWord (' ' :: spaced (next :: others)) := by
            rintro _ ⟨rfl⟩
            exact Or.inl rfl
          rw [shape, lexed _ ends, tokens_of_blank rfl, ih]
          rfl

/-- Reading undoes writing, and every text is cut into tokens or leaves a literal open. -/
theorem reading_undoes_writing :
    (∀ written : List (Token × List Char), (∀ entry ∈ written, Renders entry.1 entry.2) →
      tokens (spaced written) = .ok (written.map Prod.fst)) ∧
    ∀ text, (∃ found, tokens text = .ok found ∧ Cut text found) ∨
      tokens text = .error .openText ∧ (openTail? text).isSome = true := by
  refine ⟨fun written renders => tokens_of_spaced renders, fun text => ?_⟩
  rcases cut_or_open text with ⟨found, cut⟩ | failed
  · exact Or.inl ⟨found, tokens_of_cut cut, cut⟩
  · exact Or.inr ⟨failed, (unreadable_iff_open text).mp failed⟩

/-- The text `0xfF AnD 'it\'s\n' <> été`, token by token. -/
def mixedWriting : List (Token × List Char) :=
  [(.integer 255, ['0', 'x', 'f', 'F']), (.and, ['A', 'n', 'D']),
    (.text "it's\n", ['\x27', 'i', 't', '\\', '\x27', 's', '\\', 'n', '\x27']),
    (.notEqual, ['<', '>']), (.name "été", ['é', 't', 'é'])]

theorem reading_undoes_mixed_writing :
    (∀ entry ∈ mixedWriting, Renders entry.1 entry.2) ∧
      tokens (spaced mixedWriting) = .ok (mixedWriting.map Prod.fst) := by
  have number : Renders (.integer 255) ['0', 'x', 'f', 'F'] :=
    .hexadecimal (by decide) (Or.inl rfl) 0 (by decide)
  have operator : Renders .and ['A', 'n', 'D'] :=
    @Renders.operatorWord .and "and" ['A', 'n', 'D'] (by decide) (by decide)
  have text : Renders (.text "it's\n")
      ['\x27', 'i', 't', '\\', '\x27', 's', '\\', 'n', '\x27'] := by
    refine @Renders.text '\x27' "it's\n" ['i', 't', '\\', '\x27', 's', '\\', 'n'] rfl ?_
    exact .plain (by decide) (by decide) (.plain (by decide) (by decide)
      (.marked (Or.inl rfl) (.plain (by decide) (by decide) (.feed .done))))
  have symbol : Renders .notEqual ['<', '>'] := .symbol (by decide)
  have name : Renders (.name "été") ['é', 't', 'é'] :=
    @Renders.name 'é' ['t', 'é'] (by decide +kernel) (by decide +kernel) (by decide)
  have renders : ∀ entry ∈ mixedWriting, Renders entry.1 entry.2 := by
    simp only [mixedWriting, List.forall_mem_cons]
    exact ⟨number, operator, text, symbol, name, nofun⟩
  exact ⟨renders, reading_undoes_writing.1 mixedWriting renders⟩

end LineTemplate.Expression

import LineTemplate.Expression.Names
import LineTemplate.Proofs.Text.Letter
import LineTemplate.Text.Split

/-!
How tokens are spelled. A relation between a token and a word covers every spelling of numerals,
string literals, names and operators; words with spaces between them are read as their tokens, one
after the other.
-/

namespace LineTemplate.Expression

/-- The inside of a string literal: characters as they are, or after a backslash. A line feed is not
put after one: that would still be read, but no longer be seen as a literal when names are sought. -/
inductive Escapes (quote : Char) : List Char → List Char → Prop where
  | done : Escapes quote [] []
  | plain {character : Char} {content body : List Char} (notQuote : character ≠ quote)
      (notBackslash : character ≠ '\\') (rest : Escapes quote content body) :
      Escapes quote (character :: content) (character :: body)
  | escaped {character : Char} {content body : List Char} (notFeed : character ≠ '\n')
      (rest : Escapes quote content body) :
      Escapes quote (unescape character :: content) ('\\' :: character :: body)

/-- The operators and the marks of punctuation. -/
def symbols : List (Token × List Char) :=
  [(.plus, ['+']), (.minus, ['-']), (.star, ['*']), (.slash, ['/']), (.percent, ['%']),
    (.bang, ['!']), (.equal, ['=', '=']), (.notEqual, ['!', '=']), (.notEqual, ['<', '>']),
    (.less, ['<']), (.lessOrEqual, ['<', '=']), (.greater, ['>']), (.greaterOrEqual, ['>', '=']),
    (.and, ['&', '&']), (.or, ['|', '|']), (.assign, ['=']), (.question, ['?']),
    (.colon, [':']), (.opening, ['(']), (.closing, [')'])]

/-- The word is a spelling of the token. Words of letters are operators or names. -/
inductive Spells : Token → List Char → Prop where
  | decimal {digits : List Char} {value : Int64} (isDigits : Number.isDigits digits = true)
      (fits : Number.fit? (Number.ofDecimalDigits digits) = some value) :
      Spells (.integer value) digits
  | hexadecimal {mark : Char} {digits : List Char} {value : Int64}
      (isMark : mark = 'x' ∨ mark = 'X') (nonempty : digits ≠ [])
      (isHex : digits.all isHexDigit = true)
      (fits : Number.fit? (Number.ofDigits 16 hexDigitValue digits) = some value) :
      Spells (.integer value) ('0' :: mark :: digits)
  | text {quote : Char} {content body : List Char} (isQuote : Text.isQuote quote = true)
      (escapes : Escapes quote content body) :
      Spells (.text (String.ofList content)) (quote :: (body ++ [quote]))
  | word {word : String} (identifier : isIdentifier word = true) :
      Spells (wordToken word) word.toList
  | symbol {token : Token} {characters : List Char} (listed : (token, characters) ∈ symbols) :
      Spells token characters

/-- A space, a closing parenthesis or the end of the text ends every word. -/
def EndsWord (rest : List Char) : Prop :=
  ∀ next ∈ rest.head?, next = ' ' ∨ next = ')'

theorem ends_word_cases {rest : List Char} (ends : EndsWord rest) :
    rest = [] ∨ ∃ following, rest = ' ' :: following ∨ rest = ')' :: following := by
  cases rest with
  | nil => exact Or.inl rfl
  | cons next following =>
      rcases ends next rfl with rfl | rfl
      · exact Or.inr ⟨following, Or.inl rfl⟩
      · exact Or.inr ⟨following, Or.inr rfl⟩

section Reading

variable {characters body rest : List Char} {first : Char} {token : Token}

theorem tokens_of_trim_eq {left right : List Char}
    (same : Text.trimStart left = Text.trimStart right) : tokens left = tokens right := by
  unfold tokens
  rw [same]

theorem tokens_nil : tokens [] = .ok [] := by
  rw [tokens]
  rfl

theorem tokens_of_blank {blank : Char} (isBlank : Text.isBlank blank = true) (rest : List Char) :
    tokens (blank :: rest) = tokens rest := by
  apply tokens_of_trim_eq
  rw [Text.trimStart, List.dropWhile_cons_of_pos isBlank, Text.trimStart]

theorem tokens_of_visible (visible : Text.isBlank first = false) (body : List Char) :
    tokens (first :: body) =
      (firstToken first body).bind fun (token, rest) => (tokens rest).map (token :: ·) := by
  have start := Text.trim_start_of_not_blank first body visible
  rw [tokens]
  split
  · next empty =>
      rw [start] at empty
      cases empty
  · next found =>
      rw [start] at found
      cases found
      split
      · next failed =>
          rw [failed]
          rfl
      · next succeeded =>
          rw [succeeded]
          rfl

theorem tokens_of_first (visible : Text.isBlank first = false)
    (read : firstToken first body = .ok (token, rest)) :
    tokens (first :: body) = (tokens rest).map (token :: ·) := by
  rw [tokens_of_visible visible, read]
  rfl

/-- The word is read as these tokens wherever it ends. -/
def Lexes (word : List Char) (found : List Token) : Prop :=
  ∀ rest, EndsWord rest → tokens (word ++ rest) = (tokens rest).map (found ++ ·)

theorem lexes_of_first {word : List Char}
    (first : ∀ rest, EndsWord rest → ∃ start body, word ++ rest = start :: body ∧
      Text.isBlank start = false ∧ firstToken start body = .ok (token, rest)) :
    Lexes word [token] := by
  intro rest ends
  obtain ⟨start, body, shape, visible, read⟩ := first rest ends
  rw [shape, tokens_of_first visible read]
  rfl

theorem ends_word_not {keep : Char → Bool} (ends : EndsWord rest) (space : keep ' ' = false)
    (closing : keep ')' = false) : ∀ next ∈ rest.head?, keep next = false := by
  intro next here
  rcases ends next here with rfl | rfl
  · exact space
  · exact closing

theorem fraction_part_of_ends_word (ends : EndsWord rest) : fractionPart rest = ([], rest) := by
  rcases ends_word_cases ends with rfl | ⟨following, rfl | rfl⟩ <;> rfl

theorem exponent_part_of_ends_word (ends : EndsWord rest) : exponentPart rest = (none, rest) := by
  rcases ends_word_cases ends with rfl | ⟨following, rfl | rfl⟩ <;> rfl

theorem decimal_token_of_digits {digits : List Char} {value : Int64}
    (all : digits.all Char.isDigit = true)
    (fits : Number.fit? (Number.ofDecimalDigits digits) = some value) (ends : EndsWord rest) :
    decimalToken (digits ++ rest) = (.integer value, rest) := by
  obtain ⟨taken, dropped⟩ := Text.take_while_append_of_head all (ends_word_not ends rfl rfl)
  simp only [decimalToken, taken, dropped, fraction_part_of_ends_word ends,
    exponent_part_of_ends_word ends, fits]
  rfl

theorem number_token_of_not_hex {body : List Char}
    (notHex : ∀ mark ∈ body.head?, mark ≠ 'x' ∧ mark ≠ 'X') :
    numberToken first body = decimalToken (first :: body) := by
  cases body with
  | nil => rfl
  | cons mark rest =>
      obtain ⟨notSmall, notCapital⟩ := notHex mark rfl
      simp [numberToken, notSmall, notCapital]

theorem not_hex_mark_of_digits {digits : List Char} (all : digits.all Char.isDigit = true)
    (ends : EndsWord rest) : ∀ mark ∈ (digits ++ rest).head?, mark ≠ 'x' ∧ mark ≠ 'X' := by
  intro mark here
  cases digits with
  | nil => rcases ends mark here with rfl | rfl <;> decide
  | cons digit digits =>
      cases here
      have isDigit := List.all_eq_true.mp all mark List.mem_cons_self
      constructor <;> rintro rfl <;> cases isDigit

theorem first_token_of_digit (digit : first.isDigit = true) (body : List Char) :
    firstToken first body = .ok (numberToken first body) := by
  rw [firstToken, if_pos (by rw [startsNumber, digit, Bool.true_or])]

theorem lexes_decimal {digits : List Char} {value : Int64} (isDigits : Number.isDigits digits = true)
    (fits : Number.fit? (Number.ofDecimalDigits digits) = some value) :
    Lexes digits [.integer value] := by
  simp only [Number.isDigits, Bool.and_eq_true] at isDigits
  obtain ⟨nonempty, all⟩ := isDigits
  cases digits with
  | nil => cases nonempty
  | cons first body =>
      apply lexes_of_first
      intro rest ends
      simp only [List.all_cons, Bool.and_eq_true] at all
      have visible := Text.not_blank_of_identifier_character
        (Text.identifier_character_of_digit all.1)
      refine ⟨first, body ++ rest, rfl, visible, ?_⟩
      rw [first_token_of_digit all.1,
        number_token_of_not_hex (not_hex_mark_of_digits all.2 ends)]
      exact congrArg Except.ok
        (decimal_token_of_digits (by rw [List.all_cons, all.1, all.2]; rfl) fits ends)

theorem lexes_hexadecimal {mark : Char} {digits : List Char} {value : Int64}
    (isMark : mark = 'x' ∨ mark = 'X') (nonempty : digits ≠ [])
    (isHex : digits.all isHexDigit = true)
    (fits : Number.fit? (Number.ofDigits 16 hexDigitValue digits) = some value) :
    Lexes ('0' :: mark :: digits) [.integer value] := by
  apply lexes_of_first
  intro rest ends
  refine ⟨'0', mark :: (digits ++ rest), rfl, rfl, ?_⟩
  obtain ⟨taken, dropped⟩ := Text.take_while_append_of_head isHex (ends_word_not ends rfl rfl)
  have marked : (mark == 'x' || mark == 'X') = true := by simpa using isMark
  have next : (digits ++ rest).head?.any isHexDigit = true := by
    cases digits with
    | nil => exact absurd rfl nonempty
    | cons digit digits =>
        rw [List.cons_append, List.head?_cons, Option.any_some]
        exact (Bool.and_eq_true_iff.mp (List.all_cons ▸ isHex)).1
  have read : hexToken digits = .integer value := by simp only [hexToken, fits, Option.elim_some]
  rw [first_token_of_digit rfl, numberToken, marked, next, taken, dropped, read]
  rfl

theorem text_body_of_escapes {quote : Char} {content body : List Char}
    (notBackslash : quote ≠ '\\') (escapes : Escapes quote content body) (rest : List Char) :
    textBody quote (body ++ quote :: rest) = some (content, rest) := by
  induction escapes with
  | done => simp [textBody, notBackslash]
  | plain notQuote plain escapes ih => simp [textBody, notQuote, plain, ih]
  | escaped notFeed escapes ih => simp [textBody, ih]

theorem not_backslash_of_quote {quote : Char} (isQuote : Text.isQuote quote = true) :
    quote ≠ '\\' := by
  rintro rfl
  cases isQuote

theorem not_blank_of_quote {quote : Char} (isQuote : Text.isQuote quote = true) :
    Text.isBlank quote = false := by
  rcases Text.quote_cases isQuote with rfl | rfl <;> rfl

theorem starts_no_number_of_quote {quote : Char} (isQuote : Text.isQuote quote = true)
    (body : List Char) : startsNumber quote body = false := by
  rcases Text.quote_cases isQuote with rfl | rfl <;> rfl

theorem tokens_of_closed {quote : Char} {characters content rest : List Char}
    (isQuote : Text.isQuote quote = true)
    (closed : textBody quote characters = some (content, rest)) :
    tokens (quote :: characters) = (tokens rest).map (.text (String.ofList content) :: ·) := by
  apply tokens_of_first (not_blank_of_quote isQuote)
  rw [firstToken, starts_no_number_of_quote isQuote, if_neg (by decide), if_pos isQuote, closed]

theorem tokens_of_open {quote : Char} {characters : List Char} (isQuote : Text.isQuote quote = true)
    (unclosed : textBody quote characters = none) :
    tokens (quote :: characters) = .error .openText := by
  have fault : firstToken quote characters = .error .openText := by
    rw [firstToken, starts_no_number_of_quote isQuote, if_neg (by decide), if_pos isQuote, unclosed]
  rw [tokens_of_visible (not_blank_of_quote isQuote), fault]
  rfl

/-- A string literal is read as its content, whatever follows it. -/
theorem tokens_of_text {quote : Char} {content body : List Char}
    (isQuote : Text.isQuote quote = true) (escapes : Escapes quote content body)
    (rest : List Char) : tokens (quote :: (body ++ [quote]) ++ rest) =
      (tokens rest).map (.text (String.ofList content) :: ·) := by
  have shape : quote :: (body ++ [quote]) ++ rest = quote :: (body ++ quote :: rest) := by simp
  have closed := text_body_of_escapes (not_backslash_of_quote isQuote) escapes rest
  rw [shape, tokens_of_closed isQuote closed]

theorem lexes_text {quote : Char} {content body : List Char} (isQuote : Text.isQuote quote = true)
    (escapes : Escapes quote content body) :
    Lexes (quote :: (body ++ [quote])) [.text (String.ofList content)] :=
  fun rest _ => tokens_of_text isQuote escapes rest

theorem starts_name_of_starts_identifier (starts : Text.startsIdentifier first = true) :
    startsName first = true := by
  have ascii := Text.is_ascii_of_identifier_character (Text.identifier_character_of_starts starts)
  rwa [startsName, Text.isLetter, if_pos ascii]

theorem continues_name_of_identifier_character (inside : Text.isIdentifierCharacter first = true) :
    continuesName first = true := by
  have ascii := Text.is_ascii_of_identifier_character inside
  rwa [continuesName, Text.isLetter, Text.isNumeral, if_pos ascii, if_pos ascii]

theorem all_continue_of_identifier_characters {word : List Char}
    (inside : word.all Text.isIdentifierCharacter = true) : word.all continuesName = true := by
  rw [List.all_eq_true] at inside ⊢
  exact fun character member => continues_name_of_identifier_character (inside character member)

theorem shape_of_starts_name (starts : startsName first = true) :
    Text.isBlank first = false ∧ Text.isQuote first = false ∧ first.isDigit = false ∧
      first ≠ '.' := by
  rw [startsName, Bool.or_eq_true, beq_iff_eq] at starts
  rcases starts with letter | rfl
  · refine ⟨Text.not_blank_of_letter letter, ?_, ?_, ?_⟩
    · cases isQuote : Text.isQuote first with
      | false => rfl
      | true => rcases Text.quote_cases isQuote with rfl | rfl <;> cases letter
    · cases digit : first.isDigit with
      | false => rfl
      | true =>
          have bounds := Text.is_digit_iff.mp digit
          have ascii : Text.isAscii first = true := by
            rw [Text.isAscii, decide_eq_true_eq]
            omega
          rw [Text.isLetter, if_pos ascii] at letter
          have others := Text.is_alpha_iff.mp letter
          omega
    · rintro rfl
      cases letter
  · decide

/-- A word is read up to the first character that does not continue it. -/
theorem first_token_of_word {word : List Char} (starts : startsName first = true)
    (inside : word.all continuesName = true) (ends : ∀ next ∈ rest.head?, continuesName next = false) :
    firstToken first (word ++ rest) = .ok (wordToken (String.ofList (first :: word)), rest) := by
  obtain ⟨_, notQuote, notDigit, notPoint⟩ := shape_of_starts_name starts
  have notNumber : startsNumber first (word ++ rest) = false := by
    rw [startsNumber, notDigit, beq_eq_false_iff_ne.mpr notPoint]
    rfl
  obtain ⟨taken, dropped⟩ := Text.take_while_append_of_head inside ends
  rw [firstToken, notNumber, if_neg (by decide), notQuote, if_neg (by decide), if_pos starts, taken,
    dropped]

theorem lexes_of_starts_name {word : List Char} (starts : startsName first = true)
    (inside : word.all continuesName = true) :
    Lexes (first :: word) [wordToken (String.ofList (first :: word))] := by
  apply lexes_of_first
  intro rest ends
  exact ⟨first, word ++ rest, rfl, (shape_of_starts_name starts).1,
    first_token_of_word starts inside (ends_word_not ends rfl rfl)⟩

theorem lexes_word {word : String} (identifier : isIdentifier word = true) :
    Lexes word.toList [wordToken word] := by
  obtain ⟨first, body, shape, starts, inside⟩ := (Text.is_identifier_iff word).mp identifier
  have lexed := lexes_of_starts_name (starts_name_of_starts_identifier starts)
    (all_continue_of_identifier_characters inside)
  rwa [← shape, String.ofList_toList] at lexed

theorem lexes_symbol {characters : List Char} (listed : (token, characters) ∈ symbols) :
    Lexes characters [token] := by
  apply lexes_of_first
  intro rest ends
  simp only [symbols, List.mem_cons, Prod.mk.injEq, List.not_mem_nil, or_false] at listed
  rcases ends_word_cases ends with rfl | ⟨following, rfl | rfl⟩ <;>
    rcases listed with ⟨rfl, rfl⟩ | ⟨rfl, rfl⟩ | ⟨rfl, rfl⟩ | ⟨rfl, rfl⟩ | ⟨rfl, rfl⟩ |
    ⟨rfl, rfl⟩ | ⟨rfl, rfl⟩ | ⟨rfl, rfl⟩ | ⟨rfl, rfl⟩ | ⟨rfl, rfl⟩ |
    ⟨rfl, rfl⟩ | ⟨rfl, rfl⟩ | ⟨rfl, rfl⟩ | ⟨rfl, rfl⟩ | ⟨rfl, rfl⟩ |
    ⟨rfl, rfl⟩ | ⟨rfl, rfl⟩ | ⟨rfl, rfl⟩ | ⟨rfl, rfl⟩ | ⟨rfl, rfl⟩ <;>
    exact ⟨_, _, rfl, rfl, rfl⟩

theorem lexes_of_spells {word : List Char} (spells : Spells token word) : Lexes word [token] := by
  cases spells with
  | decimal isDigits fits => exact lexes_decimal isDigits fits
  | hexadecimal isMark nonempty isHex fits => exact lexes_hexadecimal isMark nonempty isHex fits
  | text isQuote escapes => exact lexes_text isQuote escapes
  | word identifier => exact lexes_word identifier
  | symbol listed => exact lexes_symbol listed

end Reading

theorem first_of_spells {token : Token} {word : List Char} (spells : Spells token word) :
    ∃ first body, word = first :: body ∧ first ≠ ' ' := by
  cases spells with
  | decimal isDigits fits =>
      rw [Number.isDigits, Bool.and_eq_true, List.all_eq_true] at isDigits
      cases word with
      | nil => cases isDigits.1
      | cons digit digits =>
          refine ⟨digit, digits, rfl, ?_⟩
          rintro rfl
          cases isDigits.2 ' ' List.mem_cons_self
  | hexadecimal => exact ⟨'0', _, rfl, by decide⟩
  | @text quote content body isQuote escapes =>
      refine ⟨quote, _, rfl, ?_⟩
      rintro rfl
      cases isQuote
  | @word word identifier =>
      obtain ⟨first, body, shape, starts, _⟩ := (Text.is_identifier_iff word).mp identifier
      refine ⟨first, body, shape, ?_⟩
      rintro rfl
      cases starts
  | symbol listed =>
      have visible : ∀ symbol ∈ symbols, symbol.2 ≠ [] ∧ symbol.2.head? ≠ some ' ' := by decide
      obtain ⟨nonempty, notSpace⟩ := visible _ listed
      cases word with
      | nil => exact absurd rfl nonempty
      | cons first body => exact ⟨first, body, rfl, fun same => notSpace (congrArg some same)⟩

/-- A text that spells the tokens, with spaces between their words. -/
inductive Spaced : List Token → List Char → Prop where
  | done : Spaced [] []
  | space {written : List Token} {text : List Char} (rest : Spaced written text) :
      Spaced written (' ' :: text)
  | word {token : Token} {written : List Token} {word text : List Char}
      (spells : Spells token word) (apart : ∀ next ∈ text.head?, next = ' ')
      (rest : Spaced written text) : Spaced (token :: written) (word ++ text)

end LineTemplate.Expression

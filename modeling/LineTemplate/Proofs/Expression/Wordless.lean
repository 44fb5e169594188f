import LineTemplate.Proofs.Expression.Rendering
import LineTemplate.Proofs.Expression.Standing

/-!
Texts without names: decimal numerals, string literals, operators and parentheses, with blanks
between. In such a text an identifier stands only if it is the word of an operator, so that variables
change its value at most where one of them is named like an operator or like no identifier at all.
The empty name is a word at both edges of every word, and changes most of these texts.
-/

namespace LineTemplate.Expression

/-- Digits, with a point before some of them. -/
inductive Mantissa : List Char → Prop where
  | whole {digits : List Char} (isDigits : Number.isDigits digits = true) : Mantissa digits
  | fraction {whole digits : List Char} (allDigits : whole.all Char.isDigit = true)
      (isDigits : Number.isDigits digits = true) : Mantissa (whole ++ '.' :: digits)

/-- A power of ten, if there is any. -/
inductive Exponent : List Char → Prop where
  | absent : Exponent []
  | power {mark : Char} {sign digits : List Char} (isMark : mark = 'e' ∨ mark = 'E')
      (isSign : sign ∈ [[], ['+'], ['-']]) (isDigits : Number.isDigits digits = true) :
      Exponent (mark :: (sign ++ digits))

/-- Blanks, operators and marks, decimal numerals and literals. -/
inductive Wordless : List Char → Prop where
  | done : Wordless []
  | blank {character : Char} {rest : List Char} (isBlank : Text.isBlank character = true)
      (further : Wordless rest) : Wordless ([character] ++ rest)
  | symbol {token : Token} {characters rest : List Char} (listed : (token, characters) ∈ symbols)
      (further : Wordless rest) : Wordless (characters ++ rest)
  | numeral {mantissa exponent rest : List Char} (isMantissa : Mantissa mantissa)
      (isExponent : Exponent exponent) (further : Wordless rest) :
      Wordless (mantissa ++ exponent ++ rest)
  | text {quote : Char} {content body rest : List Char} (isQuote : Text.isQuote quote = true)
      (escapes : Escapes quote content body) (further : Wordless rest) :
      Wordless (quote :: (body ++ [quote]) ++ rest)
  | operator {token : Token} {word : String} {characters rest : List Char}
      (listed : (token, word) ∈ operatorWords) (spelled : InAnyCase word characters)
      (ends : ∀ next ∈ rest.head?, continuesName next = false) (further : Wordless rest) :
      Wordless (characters ++ rest)

section Pieces

variable {before : Option Char} {piece text name : List Char}

/-- No identifier starts between characters of no word. -/
theorem stands_behind_apart (identifier : isIdentifier (String.ofList name) = true)
    (apart : Apart piece) (stands : Stands before (piece ++ text) name) :
    Stands (piece.getLast?.or before) text name := by
  have closed : Closed piece := closed_of_unquoted fun character member =>
    (apart character member).2
  rcases stands_cases closed stands with
    ⟨front, inside, found, back, -, nonempty, rfl, shape, folds, -, -⟩ | behind
  · obtain ⟨first, others, rfl, -, inWord⟩ := word_of_fold identifier folds
    cases inside with
    | nil => exact absurd rfl nonempty
    | cons next inside =>
        obtain ⟨rfl, -⟩ := List.cons.inj shape
        have notWord := (apart first (List.mem_append_right front List.mem_cons_self)).1
        rw [(inWord first List.mem_cons_self).1] at notWord
        cases notWord
  · exact behind

/-- No identifier starts in a literal. -/
theorem stands_behind_literal {quote : Char} {content body : List Char}
    (identifier : isIdentifier (String.ofList name) = true) (isQuote : Text.isQuote quote = true)
    (escapes : Escapes quote content body)
    (stands : Stands before (quote :: (body ++ [quote]) ++ text) name) :
    Stands (some quote) text name := by
  have closed := closed_literal isQuote escapes
  rcases stands_cases closed stands with
    ⟨front, inside, found, back, outside, nonempty, split, shape, folds, -, -⟩ | behind
  · obtain ⟨first, others, rfl, -, -⟩ := word_of_fold identifier folds
    by_cases empty : front = []
    · subst empty
      rw [List.nil_append] at split
      subst split
      obtain ⟨rfl, -⟩ := List.cons.inj shape
      rw [outside.notQuote first rfl] at isQuote
      cases isQuote
    · obtain ⟨further, rfl, -, -⟩ :=
        literal_of_closed isQuote escapes outside.closed empty outside.shape
      have lengths := congrArg List.length split
      rw [List.length_append, List.length_append] at lengths
      have positive := List.length_pos_iff.mpr nonempty
      omega
  · rwa [← List.cons_append, List.getLast?_concat, Option.some_or] at behind

theorem apart_of_blank {character : Char} (isBlank : Text.isBlank character = true) :
    Text.isWordCharacter character = false ∧ Text.isQuote character = false := by
  refine ⟨Text.not_word_character_of_blank isBlank, ?_⟩
  cases isQuote : Text.isQuote character with
  | false => rfl
  | true =>
      rw [not_blank_of_quote isQuote] at isBlank
      cases isBlank

theorem apart_of_symbol {token : Token} {characters : List Char}
    (listed : (token, characters) ∈ symbols) : Apart characters := by
  have known : symbols.all (fun symbol => symbol.2.all fun character =>
      !Text.isWordCharacter character && !Text.isQuote character) = true := by decide +kernel
  intro character member
  have apart := List.all_eq_true.mp (List.all_eq_true.mp known _ listed) character member
  simpa using apart

theorem mantissa_shape {mantissa : List Char} (isMantissa : Mantissa mantissa) :
    (∀ character ∈ mantissa, character.isDigit = true ∨ character = '.') ∧
      mantissa.getLast?.any Char.isDigit = true := by
  have last {digits : List Char} (isDigits : Number.isDigits digits = true) (front : List Char) :
      (front ++ digits).getLast?.any Char.isDigit = true := by
    rw [Number.isDigits, Bool.and_eq_true, Bool.not_eq_true', List.isEmpty_eq_false_iff,
      List.all_eq_true] at isDigits
    rw [List.getLast?_append_of_ne_nil front isDigits.1, List.getLast?_eq_some_getLast isDigits.1,
      Option.any_some]
    exact isDigits.2 _ (List.getLast_mem isDigits.1)
  cases isMantissa with
  | whole isDigits =>
      refine ⟨?_, last isDigits []⟩
      rw [Number.isDigits, Bool.and_eq_true, List.all_eq_true] at isDigits
      exact fun character member => Or.inl (isDigits.2 character member)
  | @fraction whole digits allDigits isDigits =>
      refine ⟨?_, by simpa using last isDigits (whole ++ ['.'])⟩
      rw [Number.isDigits, Bool.and_eq_true, List.all_eq_true] at isDigits
      rw [List.all_eq_true] at allDigits
      intro character member
      rw [List.mem_append, List.mem_cons] at member
      rcases member with inWhole | rfl | inFraction
      · exact Or.inl (allDigits character inWhole)
      · exact Or.inr rfl
      · exact Or.inl (isDigits.2 character inFraction)

theorem exponent_shape {exponent : List Char} (isExponent : Exponent exponent) :
    exponent = [] ∨ ∃ mark power, exponent = mark :: power ∧ (mark = 'e' ∨ mark = 'E') ∧
      ∀ character ∈ power, character.isDigit = true ∨ character = '+' ∨ character = '-' := by
  cases isExponent with
  | absent => exact Or.inl rfl
  | @power mark sign digits isMark isSign isDigits =>
      refine Or.inr ⟨mark, sign ++ digits, rfl, isMark, ?_⟩
      rw [Number.isDigits, Bool.and_eq_true, List.all_eq_true] at isDigits
      simp only [List.mem_cons, List.not_mem_nil, or_false] at isSign
      intro character member
      rcases List.mem_append.mp member with inSign | inDigits
      · rcases isSign with rfl | rfl | rfl
        · cases inSign
        · exact Or.inr (Or.inl (List.mem_singleton.mp inSign))
        · exact Or.inr (Or.inr (List.mem_singleton.mp inSign))
      · exact Or.inl (isDigits.2 character inDigits)

theorem starts_no_identifier {character : Char}
    (plain : character.isDigit = true ∨ character ∈ ['.', '+', '-']) :
    Text.isAscii character = true ∧ Text.startsIdentifier character = false ∧
      Text.isQuote character = false := by
  rcases plain with digit | sign
  · have inside := Text.identifier_character_of_digit digit
    refine ⟨Text.is_ascii_of_identifier_character inside, ?_,
      Text.not_quote_of_identifier_character inside⟩
    cases starts : Text.startsIdentifier character with
    | false => rfl
    | true =>
        rw [Text.not_digit_of_starts_identifier starts] at digit
        cases digit
  · simp only [List.mem_cons, List.not_mem_nil, or_false] at sign
    rcases sign with rfl | rfl | rfl <;> exact ⟨rfl, rfl, rfl⟩

theorem unquoted_numeral {mantissa exponent : List Char} (isMantissa : Mantissa mantissa)
    (isExponent : Exponent exponent) : Unquoted (mantissa ++ exponent) := by
  apply unquoted_append
  · intro character member
    have shape := (mantissa_shape isMantissa).1 character member
    exact (starts_no_identifier (by simpa using shape.imp_right Or.inl)).2.2
  · rcases exponent_shape isExponent with rfl | ⟨mark, power, rfl, isMark, inPower⟩
    · exact unquoted_nil
    · refine List.forall_mem_cons.mpr ⟨?_, fun character member => ?_⟩
      · rcases isMark with rfl | rfl <;> rfl
      · have shape := inPower character member
        exact (starts_no_identifier (by simpa using shape.imp_right Or.inr)).2.2

/-- No identifier starts in a numeral: the mark of an exponent stands behind a digit. -/
theorem stands_behind_numeral {mantissa exponent : List Char} (isMantissa : Mantissa mantissa)
    (isExponent : Exponent exponent) (identifier : isIdentifier (String.ofList name) = true)
    (stands : Stands before (mantissa ++ exponent ++ text) name) :
    Stands ((mantissa ++ exponent).getLast?.or before) text name := by
  have closed := closed_of_unquoted (unquoted_numeral isMantissa isExponent)
  obtain ⟨inMantissa, lastDigit⟩ := mantissa_shape isMantissa
  rcases stands_cases closed stands with
    ⟨front, inside, found, back, -, nonempty, split, shape, folds, starts, -⟩ | behind
  · exfalso
    obtain ⟨first, others, rfl, leading, inWord⟩ := word_of_fold identifier folds
    have isWord := (inWord first List.mem_cons_self).1
    cases inside with
    | nil => exact nonempty rfl
    | cons next inside =>
        obtain ⟨rfl, -⟩ := List.cons.inj shape
        have noMark (plain : first.isDigit = true ∨ first ∈ ['.', '+', '-']) : False := by
          obtain ⟨ascii, notStarts, -⟩ := starts_no_identifier plain
          rw [leading ascii] at notStarts
          cases notStarts
        have notHere (whole : front = mantissa) : False := by
          obtain ⟨digit, last, isDigit⟩ := (Option.any_eq_true _ _).mp lastDigit
          have digitIsWord := Text.is_word_character_of_identifier_character
            (Text.identifier_character_of_digit isDigit)
          rw [whole, last, Option.some_or, List.cons_append, List.head?_cons, isBoundary,
            Option.any_some, Option.any_some, digitIsWord, isWord] at starts
          cases starts
        rcases List.append_eq_append_iff.mp split with ⟨more, reaches, rest⟩ | ⟨more, reaches, rest⟩
        · cases more with
          | nil => exact notHere (by rw [reaches, List.append_nil])
          | cons mark more =>
              rcases exponent_shape isExponent with rfl | ⟨_, power, rfl, -, inPower⟩
              · cases rest
              · obtain ⟨-, rfl⟩ := List.cons.inj rest
                have here := inPower first (List.mem_append_right more List.mem_cons_self)
                exact noMark (by simpa using here.imp_right Or.inr)
        · cases more with
          | nil => exact notHere (by rw [reaches, List.append_nil])
          | cons mark more =>
              obtain ⟨rfl, -⟩ := List.cons.inj rest
              have here := inMantissa first (by rw [reaches]; simp)
              exact noMark (by simpa using here.imp_right Or.inl)
  · exact behind

/-- Where the word of an operator stands, no identifier starts but one spelled like the operator. -/
theorem stands_behind_operator {token : Token} {word : String} {characters : List Char}
    (listed : (token, word) ∈ operatorWords) (spelled : InAnyCase word characters)
    (ends : ∀ next ∈ text.head?, continuesName next = false)
    (identifier : isIdentifier (String.ofList name) = true)
    (stands : Stands before (characters ++ text) name) :
    InAnyCase word name ∨ Stands (characters.getLast?.or before) text name := by
  obtain ⟨-, letters⟩ := letters_of_operator_word listed spelled
  have inside {character : Char} (member : character ∈ characters) :=
    Text.identifier_character_of_starts (letters character member)
  have isWord {character : Char} (member : character ∈ characters) :=
    Text.is_word_character_of_identifier_character (inside member)
  have closed : Closed characters := closed_of_unquoted fun character member =>
    Text.not_quote_of_identifier_character (inside member)
  rcases stands_cases closed stands with
    ⟨front, remaining, found, back, -, nonempty, split, shape, folds, starts, stops⟩ | behind
  · left
    obtain ⟨first, others, foundIs, -, inWord⟩ := word_of_fold identifier folds
    have foundNonempty : found ≠ [] := foundIs ▸ List.cons_ne_nil first others
    have firstIsWord := (inWord first (foundIs ▸ List.mem_cons_self)).1
    -- The boundary in front of the name is that in front of the operator.
    have atFront : front = [] := by
      by_contra behindFront
      have lastIsWord := isWord (split ▸ List.mem_append_left remaining
        (List.getLast_mem behindFront))
      rw [List.getLast?_eq_some_getLast behindFront, Option.some_or, foundIs, List.cons_append,
        List.head?_cons, no_boundary_in_word lastIsWord firstIsWord] at starts
      cases starts
    subst atFront
    rw [List.nil_append] at split
    subst split
    have lastIsWord := (inWord _ (List.getLast_mem foundNonempty)).1
    rw [List.getLast?_eq_some_getLast foundNonempty, Option.some_or] at stops
    have whole : found = characters := by
      rcases List.append_eq_append_iff.mp shape with ⟨more, rfl, rfl⟩ | ⟨more, rfl, rfl⟩
      · cases more with
        | nil => rw [List.append_nil]
        | cons next more =>
            have nextIsWord := isWord (List.mem_append_right found List.mem_cons_self)
            rw [List.cons_append, List.head?_cons, no_boundary_in_word lastIsWord nextIsWord] at stops
            cases stops
      · cases more with
        | nil => rw [List.append_nil]
        | cons next more =>
            have continues := (inWord next (List.mem_append_right characters List.mem_cons_self)).2
            rw [ends next rfl] at continues
            cases continues
    subst whole
    have same := lower_of_fold (identifier_characters identifier)
      (List.all_eq_true.mpr fun character member => inside member) folds
    rw [InAnyCase, ← same]
    exact spelled
  · exact Or.inr behind

end Pieces

theorem closed_of_wordless {text : List Char} (wordless : Wordless text) : Closed text := by
  induction wordless with
  | done => exact .done
  | blank isBlank _ ih => exact .plain (apart_of_blank isBlank).2 ih
  | symbol listed _ ih =>
      exact closed_append (closed_of_unquoted fun character member =>
        (apart_of_symbol listed character member).2) ih
  | numeral isMantissa isExponent _ ih =>
      exact closed_append (closed_of_unquoted (unquoted_numeral isMantissa isExponent)) ih
  | text isQuote escapes _ ih => exact .literal isQuote escapes ih
  | operator listed spelled _ _ ih =>
      have letters := (letters_of_operator_word listed spelled).2
      exact closed_append (closed_of_unquoted fun character member =>
        Text.not_quote_of_identifier_character
          (Text.identifier_character_of_starts (letters character member))) ih

/-- An identifier that stands in such a text is the word of an operator. By induction on the text. -/
theorem operator_of_stands {text name : List Char} (wordless : Wordless text)
    (identifier : isIdentifier (String.ofList name) = true) {before : Option Char}
    (stands : Stands before text name) : ∃ operator ∈ operatorWords, InAnyCase operator.2 name := by
  induction wordless generalizing before with
  | done =>
      obtain ⟨front, found, back, outside, folds, -⟩ := stands
      obtain ⟨first, others, rfl, -⟩ := word_of_fold identifier folds
      have shape := outside.shape
      simp at shape
  | blank isBlank _ ih =>
      exact ih (stands_behind_apart identifier
        (List.forall_mem_singleton.mpr (apart_of_blank isBlank)) stands)
  | symbol listed _ ih => exact ih (stands_behind_apart identifier (apart_of_symbol listed) stands)
  | numeral isMantissa isExponent _ ih =>
      exact ih (stands_behind_numeral isMantissa isExponent identifier stands)
  | text isQuote escapes _ ih => exact ih (stands_behind_literal identifier isQuote escapes stands)
  | operator listed spelled ends _ ih =>
      rcases stands_behind_operator listed spelled ends identifier stands with same | behind
      · exact ⟨_, listed, same⟩
      · exact ih behind

/-- Variables do not change the value of a text without names: those named by identifiers never, but
for the words of operators, and others only if their names stand in the text. -/
theorem wordless_text_keeps_value {bindings : Variables} {text : String}
    (wordless : Wordless text.toList) (nonempty : "" ∉ bindings.names)
    (others : ∀ name ∈ bindings.names,
      (isIdentifier name = true → ∃ operator ∈ operatorWords, InAnyCase operator.2 name.toList) →
      ¬ Stands none text.toList name.toList) :
    evaluate bindings text = evaluateText text := by
  rw [evaluate, evaluateWith, substitute_of_nothing nonempty (closed_of_wordless wordless)]
  intro name member stands
  refine others name member (fun identifier => ?_) stands
  exact operator_of_stands wordless (by rwa [String.ofList_toList]) stands

/-- A text with the letter of an exponent, an operator in capitals and a literal, and variables that
are named like parts of it. -/
theorem wordless_text_keeps_value_spelled :
    let bindings : Variables :=
      ⟨[("7", .integer 3), ("and_", .integer 2), ("e5", .integer 1)], by decide⟩
    let text := "1.5e5<.5 AND'e5'"
    Wordless text.toList ∧ "" ∉ bindings.names ∧ evaluate bindings text = evaluateText text := by
  intro bindings text
  have shape : text.toList = ['1'] ++ '.' :: ['5'] ++ ['e', '5'] ++ (['<'] ++ (([] ++ '.' :: ['5']) ++
      [] ++ ([' '] ++ (['A', 'N', 'D'] ++ ('\x27' :: (['e', '5'] ++ ['\x27']) ++ []))))) := by decide
  have quoted : Escapes '\x27' ['e', '5'] ['e', '5'] :=
    .plain (by decide) (by decide) (.plain (by decide) (by decide) .done)
  have quoteEnds : continuesName '\x27' = false := rfl
  have operator : Wordless (['A', 'N', 'D'] ++ ('\x27' :: (['e', '5'] ++ ['\x27']) ++ [])) :=
    @Wordless.operator .and "and" _ _ (by decide) (by decide)
      (by rintro _ ⟨rfl⟩; exact quoteEnds) (.text rfl quoted .done)
  have power : Exponent ['e', '5'] := @Exponent.power 'e' [] ['5'] (Or.inl rfl) (by simp) rfl
  have wordless : Wordless text.toList := by
    rw [shape]
    exact .numeral (.fraction rfl rfl) power (@Wordless.symbol .less _ _ (by decide)
      (.numeral (.fraction rfl rfl) .absent (.blank rfl operator)))
  have nonempty : "" ∉ bindings.names := by decide
  have ascii : text.toList.all Text.isAscii = true := by decide
  have noSeven : '7' ∉ text.toList := by decide
  refine ⟨wordless, nonempty, wordless_text_keeps_value wordless nonempty ?_⟩
  intro name member unlike
  have listed : name ∈ ["7", "and_", "e5"] := member
  simp only [List.mem_cons, List.not_mem_nil, or_false] at listed
  rcases listed with rfl | rfl | rfl
  · rintro ⟨front, found, back, outside, folds, -⟩
    cases found with
    | nil => cases folds
    | cons seven found =>
        obtain ⟨isSeven, -⟩ := List.cons.inj folds
        have member : seven ∈ text.toList := by
          rw [outside.shape]
          simp
        rw [Text.fold_of_is_ascii seven (List.all_eq_true.mp ascii seven member)] at isSeven
        have lowered := Text.to_lower_cases seven
        have code : seven.toLower.toNat = 55 := congrArg Char.toNat isSeven
        have same : seven = '7' := Char.toNat_inj.mp (by change seven.toNat = 55; omega)
        exact noSeven (same ▸ member)
  · exact absurd (unlike (by decide)) (by decide)
  · exact absurd (unlike (by decide)) (by decide)

section EmptyName

variable {pattern : NamePattern} {replacement : List Char → List Char} {word : List Char}

theorem empty_name_at_boundary (only : pattern.names = [[]]) {before : Option Char}
    {text : List Char} (notQuoted : quotedOccurrence? text = none)
    (boundary : isBoundary before text.head? = true) :
    occurrence? pattern before text = some ⟨0, true⟩ := by
  rw [occurrence?, notQuoted, only, List.findSome?_singleton]
  simp only [boundary, if_true, nameOccurrence?, afterName?, List.length_nil, List.take_zero,
    List.getLast?_nil, Option.none_or]

/-- Inside a word the empty name is not found, and at its end it is. -/
theorem replace_from_word_end (only : pattern.names = [[]]) {last : Char}
    (continues : Text.isWordCharacter last = true)
    (inWord : ∀ character ∈ word, Text.isWordCharacter character = true) :
    replaceFrom pattern replacement (some last) false 0 word = word ++ replacement [] := by
  induction word generalizing last with
  | nil =>
      have ends : isBoundary (some last) ([] : List Char).head? = true := by
        rw [isBoundary, Option.any_some, continues]
        rfl
      simp only [replaceFrom, empty_name_at_boundary only rfl ends]
      rfl
  | cons character word ih =>
      have isWord := inWord character List.mem_cons_self
      have nowhere : occurrence? pattern (some last) (character :: word) = none := by
        rw [occurrence?, quoted_occurrence_of_not_quote (not_quote_of_word_character isWord),
          List.head?_cons, no_boundary_in_word continues isWord, if_neg (by decide)]
      rw [replace_from_of_no_occurrence nowhere,
        ih isWord fun other member => inWord other (List.mem_cons_of_mem character member)]
      rfl

/-- The empty name is a word at both edges of every word: even the digits of a numeral are put
between two literals of its value. -/
theorem empty_name_surrounds_word {bindings : Variables} {value : Value} {text : String}
    (only : bindings.names = [""]) (known : bindings.lookup? "" = some value) (nonempty : text ≠ "")
    (inWord : ∀ character ∈ text.toList, Text.isWordCharacter character = true) :
    evaluate bindings text = evaluateText (literal value ++ text ++ literal value) := by
  have onlyEmpty : (NamePattern.ofVariables bindings).names = [[]] := by
    rw [NamePattern.ofVariables, only, List.mergeSort_singleton]
    rfl
  have replaced : replacementOf bindings [] = (literal value).toList := by
    rw [replacementOf, String.ofList_nil, known]
  rw [evaluate, evaluateWith, substitute_eq]
  cases shape : text.toList with
  | nil => exact absurd (String.toList_eq_nil_iff.mp shape) nonempty
  | cons first word =>
      rw [shape, List.forall_mem_cons] at inWord
      have starts : isBoundary none (first :: word).head? = true := by
        rw [isBoundary, List.head?_cons, Option.any_some, inWord.1]
        rfl
      have found := empty_name_at_boundary onlyEmpty
        (quoted_occurrence_of_not_quote (not_quote_of_word_character inWord.1)) starts
      simp only [replaceFrom, found, replace_from_word_end onlyEmpty inWord.1 inWord.2, replaced]
      congr 1
      rw [← String.toList_inj]
      simp [shape]

example : evaluate ⟨[("", .integer 1)], by decide⟩ "2" = .ok (.integer 121) := by decide +kernel

end EmptyName

/-- A variable may be named like a numeral, and then gives way. -/
theorem numeral_gives_way :
    let bindings : Variables := ⟨[("5", .integer 2)], by decide⟩
    evaluate bindings "5 + 1" = .ok (.integer 3) ∧ evaluateText "5 + 1" = .ok (.integer 6) := by
  decide +kernel

end LineTemplate.Expression

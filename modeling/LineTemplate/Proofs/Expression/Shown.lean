import LineTemplate.Proofs.Expression.Placing
import LineTemplate.Proofs.Expression.Standing
import LineTemplate.Proofs.Value.Coherence

/-!
Words in the literals of values. In quotes no name is read. A literal without quotes shows one word
at most, a truth or the word for a number that is not finite, and nothing else in it could be read as
a name.
-/

namespace LineTemplate.Expression

section Literals

variable {opening run closing front inside body content : List Char} {quote : Char} {value : Value}

/-- Of a text with one word, what starts as a word does behind a character of none is that word. -/
theorem lone_word (shape : opening ++ (run ++ closing) = front ++ inside)
    (opens : ∀ character ∈ opening, Text.isWordCharacter character = false)
    (inRun : ∀ character ∈ run, Text.isWordCharacter character = true)
    (closes : ∀ character ∈ closing, Text.isWordCharacter character = false)
    (starts : inside.head?.any Text.isWordCharacter = true)
    (free : front.getLast?.any Text.isWordCharacter = false) : inside = run ++ closing := by
  have noStart {piece rest : List Char} (nonempty : piece ≠ [])
      (outside : ∀ character ∈ piece, Text.isWordCharacter character = false)
      (is : inside = piece ++ rest) : False := by
    obtain ⟨first, others, rfl⟩ := List.exists_cons_of_ne_nil nonempty
    rw [is, List.cons_append, List.head?_cons, Option.any_some, outside first List.mem_cons_self]
      at starts
    cases starts
  rcases split_cases shape with ⟨left, nonempty, rfl, is⟩ | ⟨further, rfl, rest⟩
  · have outside : ∀ character ∈ left, Text.isWordCharacter character = false :=
      fun character member => opens character (List.mem_append_right front member)
    exact (noStart nonempty outside is).elim
  · rcases split_cases rest with ⟨left, -, rfl, is⟩ | ⟨more, rfl, rfl⟩
    · cases reached : further.getLast? with
      | none =>
          rw [List.getLast?_eq_none_iff.mp reached, List.nil_append]
          exact is
      | some last =>
          have member := List.mem_append_left left (List.mem_of_getLast? reached)
          rw [List.getLast?_append, reached, Option.some_or, Option.any_some, inRun last member] at free
          cases free
    · have nonempty : inside ≠ [] := by
        rintro rfl
        cases starts
      have outside : ∀ character ∈ inside, Text.isWordCharacter character = false :=
        fun character member => closes character (List.mem_append_right more member)
      exact (noStart nonempty outside (List.append_nil inside).symm).elim

theorem transparent_literal (isQuote : Text.isQuote quote = true)
    (escapes : Escapes quote content body) : Transparent (quote :: (body ++ [quote])) := by
  intro rest
  have closed := text_body_of_escapes (not_backslash_of_quote isQuote) escapes rest
  rw [List.cons_append, List.append_assoc, List.singleton_append, open_tail_of_closed isQuote closed]

/-- Inside of a literal, the literal is open. -/
theorem open_inside_literal {first : Char} {others : List Char} (isQuote : Text.isQuote quote = true)
    (escapes : Escapes quote content body)
    (shape : quote :: (body ++ [quote]) = front ++ first :: others)
    (notQuote : Text.isQuote first = false) : openTail? front ≠ none := by
  cases front with
  | nil =>
      rw [← (List.cons.inj shape).1, isQuote] at notQuote
      cases notQuote
  | cons start left =>
      rw [List.cons_append, List.cons.injEq] at shape
      obtain ⟨rfl, split⟩ := shape
      have notBackslash := not_backslash_of_quote isQuote
      cases read : textBody quote left with
      | none =>
          rw [open_tail_of_open isQuote read]
          nofun
      | some found =>
          -- the literal would end in front of its own closing quote
          obtain ⟨_, rest⟩ := found
          obtain ⟨before, rfl, alike⟩ := text_body_split notBackslash read
          have early := alike (rest ++ first :: others)
          have whole := text_body_of_escapes notBackslash escapes []
          rw [List.append_assoc, List.cons_append] at split
          rw [← split, whole, Option.some.injEq, Prod.mk.injEq] at early
          cases (List.append_eq_nil_iff.mp early.2.symm).2

/-- Words that the literal of the value may show. -/
inductive ShownWord (value : Value) : String → Prop where
  | truth (answer : Bool) : ShownWord value (Value.truth answer).render
  | infinite {word : String} (listed : word ∈ ["inf", "NaN"]) (notFinite : ¬ value.Finite) :
      ShownWord value word

theorem literal_of_finite {numeral : Numeral} (reading : value.numeral? = some numeral)
    (finite : numeral.isFinite = true) : ∀ character ∈ (literal value).toList,
      Text.isQuote character = false ∧ Text.startsIdentifier character = false := by
  obtain ⟨negative, whole, fraction, _, text, writes, -⟩ := Numeral.text_writes finite
  have ofDigits {digits : List Char} (allDigits : digits.all Char.isDigit = true) :
      ∀ character ∈ digits,
        Text.isQuote character = false ∧ Text.startsIdentifier character = false := by
    intro character member
    have digit := List.all_eq_true.mp allDigits character member
    refine ⟨Text.not_quote_of_identifier_character (Text.identifier_character_of_digit digit), ?_⟩
    cases starts : Text.startsIdentifier character with
    | false => rfl
    | true =>
        rw [Text.not_digit_of_starts_identifier starts] at digit
        cases digit
  have isDigits := writes.isDigits
  have ofWhole := ofDigits (Bool.and_eq_true_iff.mp isDigits).2
  have ofWritten : ∀ character ∈ Number.written whole fraction,
      Text.isQuote character = false ∧ Text.startsIdentifier character = false := by
    rw [Number.written]
    split
    · exact ofWhole
    · rw [List.forall_mem_append, List.forall_mem_cons]
      exact ⟨ofWhole, ⟨rfl, rfl⟩, ofDigits writes.allDigits⟩
  rw [literal_of_numeral reading text isDigits]
  split
  · rw [List.forall_mem_cons, List.forall_mem_append, List.forall_mem_cons,
      List.forall_mem_singleton]
    exact ⟨⟨rfl, rfl⟩, ⟨⟨rfl, rfl⟩, ofWritten⟩, rfl, rfl⟩
  · exact ofWritten

/-- A literal is a text in quotes, or has no character a name starts with, or shows one word. -/
theorem literal_cases (value : Value) :
    (∃ content body, Escapes Text.doubleQuote content body ∧
      (literal value).toList = Text.doubleQuote :: (body ++ [Text.doubleQuote])) ∨
    (∀ character ∈ (literal value).toList,
      Text.isQuote character = false ∧ Text.startsIdentifier character = false) ∨
    ∃ (opening : List Char) (word : String) (closing : List Char),
      (literal value).toList = opening ++ (word.toList ++ closing) ∧
      ShownWord value word ∧ ∀ character ∈ opening ++ closing,
        Text.isWordCharacter character = false ∧ Text.isQuote character = false := by
  cases reading : value.numeral? with
  | some numeral =>
      cases finite : numeral.isFinite with
      | true => exact Or.inr (Or.inl (literal_of_finite reading finite))
      | false =>
          have notFinite : ¬ value.Finite := fun every => by
            rw [Numeral.is_finite_of_value every reading] at finite
            cases finite
          right; right
          rcases literal_of_infinite reading finite with is | is | is <;> rw [is]
          · exact ⟨[], "NaN", [], rfl, .infinite (by decide) notFinite, nofun⟩
          · exact ⟨[], "inf", [], rfl, .infinite (by decide) notFinite, nofun⟩
          · refine ⟨['(', '-'], "inf", [')'], rfl, .infinite (by decide) notFinite, ?_⟩
            exact List.forall_mem_cons.mpr ⟨⟨rfl, rfl⟩, List.forall_mem_cons.mpr
              ⟨⟨rfl, rfl⟩, List.forall_mem_singleton.mpr ⟨rfl, rfl⟩⟩⟩
  | none =>
      cases value with
      | integer => cases reading
      | real => cases reading
      | text content =>
          exact Or.inl ⟨_, _, escapes_of_escape content.toList, literal_of_text reading⟩
      | truth answer =>
          refine Or.inr (Or.inr ⟨[], _, [], ?_, .truth answer, nofun⟩)
          rw [List.nil_append, List.append_nil]
          rfl

theorem identifier_of_shown {word : String} (shown : ShownWord value word) :
    word.toList.all Text.isIdentifierCharacter = true := by
  cases shown with
  | truth answer => cases answer <;> decide
  | infinite listed =>
      have both : ∀ word ∈ ["inf", "NaN"],
          word.toList.all Text.isIdentifierCharacter = true := by decide
      exact both word listed

/-- What starts as a name in a literal that is not in quotes is a word that the literal shows. -/
theorem word_of_literal {first : Char} {others : List Char}
    (shape : (literal value).toList = front ++ first :: others)
    (starts : Text.startsIdentifier first = true) (closed : openTail? front = none)
    (free : front.getLast?.any Text.isWordCharacter = false) :
    ∃ word rest, first :: others = word.toList ++ rest ∧
      rest.head?.any Text.isWordCharacter = false ∧ ShownWord value word := by
  have identifier := Text.identifier_character_of_starts starts
  have isWord := Text.is_word_character_of_identifier_character identifier
  rcases literal_cases value with
    ⟨content, body, escapes, is⟩ | plain | ⟨opening, word, closing, is, shown, outside⟩
  · rw [is] at shape
    have notQuote := Text.not_quote_of_identifier_character identifier
    exact absurd closed (open_inside_literal rfl escapes shape notQuote)
  · have member : first ∈ (literal value).toList := by
      rw [shape]
      exact List.mem_append_right front List.mem_cons_self
    rw [(plain first member).2] at starts
    cases starts
  · rw [List.forall_mem_append] at outside
    have inWord : ∀ character ∈ word.toList, Text.isWordCharacter character = true :=
      fun character member => Text.is_word_character_of_identifier_character
        (List.all_eq_true.mp (identifier_of_shown shown) character member)
    have whole := lone_word (is.symm.trans shape)
      (fun character member => (outside.1 character member).1) inWord
      (fun character member => (outside.2 character member).1) isWord free
    refine ⟨word, closing, whole, ?_, shown⟩
    cases closing with
    | nil => rfl
    | cons next closing => exact (outside.2 next List.mem_cons_self).1

theorem transparent_of_literal (value : Value) : Transparent (literal value).toList := by
  rcases literal_cases value with
    ⟨content, body, escapes, is⟩ | plain | ⟨opening, word, closing, is, shown, outside⟩
  · rw [is]
    exact transparent_literal rfl escapes
  · exact transparent_of_unquoted fun character member => (plain character member).1
  · rw [List.forall_mem_append] at outside
    have inWord : Unquoted word.toList := fun character member =>
      Text.not_quote_of_identifier_character
        (List.all_eq_true.mp (identifier_of_shown shown) character member)
    rw [is]
    apply transparent_of_unquoted
    rw [Unquoted, List.forall_mem_append, List.forall_mem_append]
    exact ⟨fun character member => (outside.1 character member).2, inWord,
      fun character member => (outside.2 character member).2⟩

end Literals

end LineTemplate.Expression

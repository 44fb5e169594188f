import LineTemplate.Proofs.Expression.Spelling

/-!
Reading a text from quote to quote. A run without quotes is read apart from what follows it, a
literal is read as its content, and a text cannot be read exactly when it leaves a literal open.
-/

namespace LineTemplate.Expression

def Unquoted (run : List Char) : Prop :=
  ∀ character ∈ run, Text.isQuote character = false

/-- A run ends at a quote or at the end of the text. -/
def EndsRun (rest : List Char) : Prop :=
  ∀ next ∈ rest.head?, Text.isQuote next = true

theorem unquoted_nil : Unquoted [] :=
  fun _ member => absurd member List.not_mem_nil

theorem unquoted_append {front back : List Char} (left : Unquoted front) (right : Unquoted back) :
    Unquoted (front ++ back) := by
  intro character member
  rcases List.mem_append.mp member with inFront | inBack
  · exact left character inFront
  · exact right character inBack

theorem unquoted_of_suffix {run left : List Char} (unquoted : Unquoted run)
    (suffix : left <:+ run) : Unquoted left :=
  fun character member => unquoted character (suffix.subset member)

theorem ends_run_nil : EndsRun [] := by
  rintro _ ⟨⟩

theorem ends_run_of_quote {quote : Char} (isQuote : Text.isQuote quote = true)
    (following : List Char) : EndsRun (quote :: following) := by
  rintro _ ⟨rfl⟩
  exact isQuote

theorem split_at_quote (text : List Char) :
    ∃ run rest, text = run ++ rest ∧ Unquoted run ∧ EndsRun rest := by
  induction text with
  | nil => exact ⟨[], [], rfl, unquoted_nil, ends_run_nil⟩
  | cons character text ih =>
      cases isQuote : Text.isQuote character with
      | true => exact ⟨[], character :: text, rfl, unquoted_nil, ends_run_of_quote isQuote text⟩
      | false =>
          obtain ⟨run, rest, rfl, unquoted, ends⟩ := ih
          exact ⟨character :: run, rest, rfl, List.forall_mem_cons.mpr ⟨isQuote, unquoted⟩, ends⟩

theorem ends_run_cases {rest : List Char} (ends : EndsRun rest) :
    rest = [] ∨ ∃ following, rest = '"' :: following ∨ rest = '\x27' :: following := by
  cases rest with
  | nil => exact Or.inl rfl
  | cons quote following =>
      rcases Text.quote_cases (ends quote rfl) with rfl | rfl
      · exact Or.inr ⟨following, Or.inl rfl⟩
      · exact Or.inr ⟨following, Or.inr rfl⟩

section Runs

variable {Result : Type} {run rest : List Char}

/-- What is read from the run, and what is left of it, do not depend on what follows the run. -/
def ReadsApart (read : List Char → Result × List Char) (run : List Char) : Prop :=
  ∃ result left, left <:+ run ∧
    ∀ rest, EndsRun rest → read (run ++ rest) = (result, left ++ rest)

theorem take_while_apart {keep : Char → Bool} (double : keep '"' = false)
    (single : keep '\x27' = false) (run : List Char) :
    ReadsApart (fun characters => (characters.takeWhile keep, characters.dropWhile keep)) run := by
  refine ⟨run.takeWhile keep, run.dropWhile keep, List.dropWhile_suffix keep, ?_⟩
  intro rest ends
  induction run with
  | nil => rcases ends_run_cases ends with rfl | ⟨following, rfl | rfl⟩ <;> simp [double, single]
  | cons character run ih =>
      rw [Prod.mk.injEq] at ih ⊢
      cases kept : keep character with
      | true => simp [kept, ih]
      | false => simp [kept]

theorem head_any_apart {keep : Char → Bool} (double : keep '"' = false)
    (single : keep '\x27' = false) (run : List Char) (ends : EndsRun rest) :
    (run ++ rest).head?.any keep = run.head?.any keep := by
  cases run with
  | nil => rcases ends_run_cases ends with rfl | ⟨following, rfl | rfl⟩ <;> simp [double, single]
  | cons character run => rfl

/-- Nothing is read from the run, whatever follows it. -/
theorem apart_of_nothing {read : List Char → Result × List Char} (nothing : Result)
    (left : ∀ rest, EndsRun rest → read (run ++ rest) = (nothing, run ++ rest)) :
    ReadsApart read run :=
  ⟨nothing, run, List.suffix_rfl, left⟩

theorem apart_of_tail {read readTail : List Char → Result × List Char} {character : Char}
    (tail : ReadsApart readTail run)
    (same : ∀ rest, EndsRun rest → read (character :: (run ++ rest)) = readTail (run ++ rest)) :
    ReadsApart read (character :: run) := by
  obtain ⟨result, left, suffix, apart⟩ := tail
  refine ⟨result, left, suffix.trans (List.suffix_cons character run), ?_⟩
  intro rest ends
  rw [List.cons_append, same rest ends, apart rest ends]

theorem fraction_part_apart (run : List Char) : ReadsApart fractionPart run := by
  cases run with
  | nil =>
      apply apart_of_nothing []
      intro rest ends
      rcases ends_run_cases ends with rfl | ⟨following, rfl | rfl⟩ <;> rfl
  | cons character run =>
      by_cases point : character = '.'
      · subst point
        have next {rest : List Char} (ends : EndsRun rest) :=
          @head_any_apart rest Char.isDigit rfl rfl run ends
        cases digit : run.head?.any Char.isDigit with
        | true =>
            apply apart_of_tail (@take_while_apart Char.isDigit rfl rfl run)
            intro rest ends
            rw [fractionPart, next ends, digit, if_pos rfl]
        | false =>
            apply apart_of_nothing []
            intro rest ends
            rw [List.cons_append, fractionPart, next ends, digit, if_neg (by decide)]
      · apply apart_of_nothing []
        intro rest ends
        simp [fractionPart, point]

theorem split_sign_apart (run : List Char) : ReadsApart Number.splitSign run := by
  cases run with
  | nil =>
      apply apart_of_nothing false
      intro rest ends
      rcases ends_run_cases ends with rfl | ⟨following, rfl | rfl⟩ <;> rfl
  | cons sign run =>
      by_cases minus : sign = '-'
      · subst minus
        exact ⟨true, run, List.suffix_cons _ _, fun _ _ => rfl⟩
      · by_cases plus : sign = '+'
        · subst plus
          exact ⟨false, run, List.suffix_cons _ _, fun _ _ => rfl⟩
        · apply apart_of_nothing false
          intro rest ends
          simp [Number.splitSign, minus, plus]

theorem exponent_part_apart (run : List Char) : ReadsApart exponentPart run := by
  cases run with
  | nil =>
      apply apart_of_nothing none
      intro rest ends
      rcases ends_run_cases ends with rfl | ⟨following, rfl | rfl⟩ <;> rfl
  | cons mark run =>
      obtain ⟨negative, signless, signSuffix, sign⟩ := split_sign_apart run
      obtain ⟨digits, left, suffix, read⟩ := @take_while_apart Char.isDigit rfl rfl signless
      have next {rest : List Char} (ends : EndsRun rest) :=
        @head_any_apart rest Char.isDigit rfl rfl signless ends
      cases here : (mark == 'e' || mark == 'E') && signless.head?.any Char.isDigit with
      | true =>
          refine ⟨some (if negative then -(Number.ofDecimalDigits digits : Int)
            else Number.ofDecimalDigits digits), left,
            suffix.trans (signSuffix.trans (List.suffix_cons mark run)), ?_⟩
          intro rest ends
          have taken := read rest ends
          rw [Prod.mk.injEq] at taken
          simp only [List.cons_append, exponentPart, sign rest ends, next ends, here, if_true,
            taken.1, taken.2]
      | false =>
          apply apart_of_nothing none
          intro rest ends
          simp only [List.cons_append, exponentPart, sign rest ends, next ends, here]
          rfl

theorem decimal_token_apart (run : List Char) : ReadsApart decimalToken run := by
  obtain ⟨whole, afterWhole, wholeSuffix, readWhole⟩ := @take_while_apart Char.isDigit rfl rfl run
  obtain ⟨fraction, afterFraction, fractionSuffix, readFraction⟩ := fraction_part_apart afterWhole
  obtain ⟨exponent, left, exponentSuffix, readExponent⟩ := exponent_part_apart afterFraction
  have suffix := exponentSuffix.trans (fractionSuffix.trans wholeSuffix)
  have parts {rest : List Char} (ends : EndsRun rest) :=
    Prod.mk.inj (readWhole rest ends)
  cases known : if fraction.isEmpty && exponent.isNone then
      Number.fit? (Number.ofDecimalDigits whole) else none with
  | some value =>
      refine ⟨.integer value, left, suffix, fun rest ends => ?_⟩
      simp only [decimalToken, (parts ends).1, (parts ends).2, readFraction rest ends,
        readExponent rest ends, known]
  | none =>
      let decimal : Number.Decimal :=
        { negative := false
          coefficient := Number.ofDecimalDigits (whole ++ fraction)
          exponent := exponent.getD 0 - fraction.length }
      refine ⟨.real decimal.toFloat, left, suffix, fun rest ends => ?_⟩
      simp only [decimalToken, (parts ends).1, (parts ends).2, readFraction rest ends,
        readExponent rest ends, known]
      rfl

theorem decimal_token_apart_of_starts {first : Char} (starts : startsNumber first run) :
    ReadsApart (fun body => decimalToken (first :: body)) run := by
  obtain ⟨token, left, suffix, read⟩ := decimal_token_apart (first :: run)
  refine ⟨token, left, ?_, read⟩
  have alone := read [] ends_run_nil
  rw [List.append_nil, List.append_nil] at alone
  have shorter := decimal_token_length_of_starts starts
  rw [alone] at shorter
  rcases List.suffix_cons_iff.mp suffix with rfl | inside
  · exact absurd shorter (Nat.not_succ_le_self _)
  · exact inside

theorem number_token_apart {first : Char} (starts : startsNumber first run) :
    ReadsApart (numberToken first) run := by
  have decimal := decimal_token_apart_of_starts starts
  cases run with
  | nil =>
      obtain ⟨token, left, suffix, read⟩ := decimal
      refine ⟨token, left, suffix, ?_⟩
      intro rest ends
      rw [← read rest ends]
      apply number_token_of_not_hex
      intro mark here
      rcases Text.quote_cases (ends mark here) with rfl | rfl <;> decide
  | cons mark run =>
      have next {rest : List Char} (ends : EndsRun rest) :=
        @head_any_apart rest isHexDigit rfl rfl run ends
      cases hex : first == '0' && (mark == 'x' || mark == 'X') && run.head?.any isHexDigit with
      | true =>
          obtain ⟨digits, left, suffix, read⟩ := @take_while_apart isHexDigit rfl rfl run
          refine ⟨hexToken digits, left, suffix.trans (List.suffix_cons mark run), ?_⟩
          intro rest ends
          have taken := read rest ends
          rw [Prod.mk.injEq] at taken
          rw [List.cons_append, numberToken, next ends, hex, if_pos rfl, taken.1, taken.2]
      | false =>
          obtain ⟨token, left, suffix, read⟩ := decimal
          refine ⟨token, left, suffix, ?_⟩
          intro rest ends
          rw [← read rest ends, List.cons_append, numberToken, next ends, hex, if_neg (by decide)]

theorem pair_token_of_quote (first : Char) {quote : Char} (isQuote : Text.isQuote quote = true) :
    pairToken? first quote = none := by
  rcases Text.quote_cases isQuote with rfl | rfl <;> simp [pairToken?]

theorem operator_token_apart (first : Char) (run : List Char) :
    ReadsApart (operatorToken first) run := by
  cases run with
  | nil =>
      apply apart_of_nothing (singleToken first)
      intro rest ends
      cases rest with
      | nil => rfl
      | cons quote following =>
          rw [List.nil_append, operatorToken, pair_token_of_quote first (ends quote rfl)]
  | cons second run =>
      cases paired : pairToken? first second with
      | some token =>
          refine ⟨token, run, List.suffix_cons second run, ?_⟩
          intro rest ends
          rw [List.cons_append, operatorToken, paired]
      | none =>
          apply apart_of_nothing (singleToken first)
          intro rest ends
          rw [List.cons_append, operatorToken, paired]

/-- The first token is read from the run it starts in. -/
theorem first_token_apart {first : Char} (notQuote : Text.isQuote first = false)
    (run : List Char) : ∃ token left, left <:+ run ∧
      ∀ rest, EndsRun rest → firstToken first (run ++ rest) = .ok (token, left ++ rest) := by
  have startsAlike {rest : List Char} (ends : EndsRun rest) :
      startsNumber first (run ++ rest) = startsNumber first run := by
    rw [startsNumber, startsNumber, @head_any_apart rest Char.isDigit rfl rfl run ends]
  by_cases number : startsNumber first run = true
  · obtain ⟨token, left, suffix, read⟩ := number_token_apart number
    refine ⟨token, left, suffix, fun rest ends => ?_⟩
    rw [firstToken, startsAlike ends, if_pos number, read rest ends]
  · by_cases name : startsName first = true
    · obtain ⟨word, left, suffix, read⟩ := @take_while_apart continuesName rfl rfl run
      refine ⟨wordToken (String.ofList (first :: word)), left, suffix, fun rest ends => ?_⟩
      have taken := read rest ends
      rw [Prod.mk.injEq] at taken
      rw [firstToken, startsAlike ends, if_neg number, notQuote, if_neg (by decide), if_pos name,
        taken.1, taken.2]
    · obtain ⟨token, left, suffix, read⟩ := operator_token_apart first run
      refine ⟨token, left, suffix, fun rest ends => ?_⟩
      rw [firstToken, startsAlike ends, if_neg number, notQuote, if_neg (by decide), if_neg name,
        read rest ends]

/-- A run without quotes is read as the same tokens, whatever follows it. -/
theorem tokens_of_run : {run : List Char} → Unquoted run →
    ∃ found, ∀ rest, EndsRun rest → tokens (run ++ rest) = (tokens rest).map (found ++ ·)
  | [], _ => by
      refine ⟨[], fun rest _ => ?_⟩
      rw [List.nil_append]
      cases tokens rest <;> rfl
  | first :: run, unquoted => by
      have inside := unquoted_of_suffix unquoted (List.suffix_cons first run)
      cases blank : Text.isBlank first with
      | true =>
          obtain ⟨found, read⟩ := tokens_of_run inside
          refine ⟨found, fun rest ends => ?_⟩
          rw [List.cons_append, tokens_of_blank blank, read rest ends]
      | false =>
          obtain ⟨token, left, suffix, readFirst⟩ :=
            first_token_apart (unquoted first List.mem_cons_self) run
          have shorter := suffix.length_le
          obtain ⟨found, read⟩ := tokens_of_run (unquoted_of_suffix inside suffix)
          refine ⟨token :: found, fun rest ends => ?_⟩
          rw [List.cons_append, tokens_of_first blank (readFirst rest ends), read rest ends]
          cases tokens rest <;> rfl
termination_by run => run.length

end Runs

section Literals

variable {quote : Char} {inner content body characters rest : List Char}

/-- Up to its end, what is read as a literal is text with escapes. Where there is no line feed, this
is also what is seen as a literal when names are sought. -/
theorem escapes_of_text_body (noFeed : '\n' ∉ characters)
    (read : textBody quote characters = some (inner, rest)) :
    ∃ body, characters = body ++ quote :: rest ∧ Escapes quote inner body := by
  fun_induction textBody quote characters generalizing inner with
  | case1 => cases read
  | case2 => cases read
  | case3 escaped characters ih =>
      obtain ⟨⟨deeper, _⟩, readDeeper, equal⟩ := Option.map_eq_some_iff.mp read
      cases equal
      simp only [List.mem_cons, not_or] at noFeed
      obtain ⟨body, rfl, escapes⟩ := ih noFeed.2.2 readDeeper
      exact ⟨_, rfl, .escaped (Ne.symm noFeed.2.1) escapes⟩
  | case4 characters =>
      cases read
      exact ⟨[], rfl, .done⟩
  | case5 character characters notLone notEscape notQuote ih =>
      obtain ⟨⟨deeper, _⟩, readDeeper, equal⟩ := Option.map_eq_some_iff.mp read
      cases equal
      simp only [List.mem_cons, not_or] at noFeed
      obtain ⟨body, rfl, escapes⟩ := ih noFeed.2 readDeeper
      have notBackslash : character ≠ '\\' := fun same => by
        cases body with
        | nil => exact notEscape quote rest same rfl
        | cons next body => exact notEscape next _ same rfl
      exact ⟨_, rfl, .plain notQuote notBackslash escapes⟩

theorem literal_length_of_open (unclosed : textBody quote characters = none) :
    literalLength? quote characters = none := by
  fun_induction textBody quote characters with
  | case1 => rfl
  | case2 => rfl
  | case3 escaped characters ih =>
      rw [literalLength?, ih (Option.map_eq_none_iff.mp unclosed), Option.map_none, ite_self]
  | case4 => cases unclosed
  | case5 character characters notLone notEscape notQuote ih =>
      have stillOpen := ih (Option.map_eq_none_iff.mp unclosed)
      simp only [literalLength?, notQuote, if_false, stillOpen, Option.map_none]

/-- What stands behind the first quote that no other closes. -/
def openTail? : List Char → Option (List Char)
  | [] => none
  | character :: rest =>
      if Text.isQuote character then
        match _read : textBody character rest with
        | some (_, after) => openTail? after
        | none => some rest
      else openTail? rest
termination_by characters => characters.length
decreasing_by
  · have shorter := text_body_length _read
    simp only [List.length_cons]
    omega
  · simp

theorem open_tail_of_not_quote (notQuote : Text.isQuote quote = false) (rest : List Char) :
    openTail? (quote :: rest) = openTail? rest := by
  rw [openTail?, notQuote, if_neg (by decide)]

theorem open_tail_of_run {run : List Char} (unquoted : Unquoted run) (rest : List Char) :
    openTail? (run ++ rest) = openTail? rest := by
  induction run with
  | nil => rfl
  | cons character run ih =>
      rw [List.cons_append, open_tail_of_not_quote (unquoted character List.mem_cons_self),
        ih (unquoted_of_suffix unquoted (List.suffix_cons character run))]

theorem open_tail_of_closed (isQuote : Text.isQuote quote = true)
    (closed : textBody quote characters = some (inner, rest)) :
    openTail? (quote :: characters) = openTail? rest := by
  rw [openTail?, if_pos isQuote]
  split
  · next read =>
      rw [closed] at read
      cases read
      rfl
  · next unclosed =>
      rw [closed] at unclosed
      cases unclosed

theorem open_tail_of_open (isQuote : Text.isQuote quote = true)
    (unclosed : textBody quote characters = none) :
    openTail? (quote :: characters) = some characters := by
  rw [openTail?, if_pos isQuote]
  split
  · next read =>
      rw [unclosed] at read
      cases read
  · rfl

theorem error_of_map_iff {Item Other Failure : Type} {change : Item → Other}
    {result : Except Failure Item} {failure : Failure} :
    result.map change = .error failure ↔ result = .error failure := by
  cases result <;> simp [Except.map]

/-- A text cannot be read exactly when a literal in it is left open. -/
theorem unreadable_iff_open (text : List Char) :
    tokens text = .error .openText ↔ (openTail? text).isSome = true := by
  obtain ⟨run, rest, shape, unquoted, ends⟩ := split_at_quote text
  obtain ⟨found, read⟩ := tokens_of_run unquoted
  rw [shape, read rest ends, error_of_map_iff, open_tail_of_run unquoted]
  cases rest with
  | nil =>
      rw [tokens_nil, openTail?]
      exact ⟨nofun, nofun⟩
  | cons quote characters =>
      have isQuote := ends quote rfl
      cases closed : textBody quote characters with
      | none =>
          rw [tokens_of_open isQuote closed, open_tail_of_open isQuote closed]
          exact ⟨fun _ => rfl, fun _ => rfl⟩
      | some literal =>
          have shorter : literal.2.length < text.length := by
            have := text_body_length closed
            rw [shape, List.length_append, List.length_cons]
            omega
          rw [tokens_of_closed isQuote closed, open_tail_of_closed isQuote closed,
            error_of_map_iff]
          exact unreadable_iff_open literal.2
termination_by text.length

end Literals

end LineTemplate.Expression

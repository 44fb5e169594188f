import LineTemplate.Proofs.Expression.LoneName
import LineTemplate.Proofs.Expression.Runs

/-!
Where names stand in a text. A name stands where it is found as a whole word, up to case, behind
complete string literals and not as the start of one. A text in which no name stands is left as it is.
Of identifiers, what is found is a whole word, and what is a whole word is found.
-/

namespace LineTemplate.Expression

/-- Characters that are no quotes, and complete literals between them. -/
inductive Closed : List Char → Prop where
  | done : Closed []
  | plain {character : Char} {rest : List Char} (notQuote : Text.isQuote character = false)
      (further : Closed rest) : Closed (character :: rest)
  | literal {quote : Char} {content body rest : List Char} (isQuote : Text.isQuote quote = true)
      (escapes : Escapes quote content body) (further : Closed rest) :
      Closed (quote :: (body ++ [quote]) ++ rest)

/-- In the text, `found` starts behind `front` and inside of no literal. -/
structure Outside (text front found back : List Char) : Prop where
  shape : text = front ++ (found ++ back)
  closed : Closed front
  notQuote : ∀ first ∈ found.head?, Text.isQuote first = false

/-- The name stands in the text that follows `before`. -/
def Stands (before : Option Char) (text name : List Char) : Prop :=
  ∃ front found back, Outside text front found back ∧ found.map Text.fold = name.map Text.fold ∧
    isBoundary (front.getLast?.or before) (found ++ back).head? = true ∧
    isBoundary (found.getLast?.or (front.getLast?.or before)) back.head? = true

section Closed

variable {quote : Char} {content body front back rest : List Char}

theorem closed_append (left : Closed front) (right : Closed back) : Closed (front ++ back) := by
  induction left with
  | done => exact right
  | plain notQuote _ ih => exact .plain notQuote ih
  | literal isQuote escapes _ ih =>
      rw [List.append_assoc]
      exact .literal isQuote escapes ih

theorem closed_of_unquoted (unquoted : Unquoted front) : Closed front := by
  induction front with
  | nil => exact .done
  | cons character front ih =>
      rw [Unquoted, List.forall_mem_cons] at unquoted
      exact .plain unquoted.1 (ih unquoted.2)

theorem closed_literal (isQuote : Text.isQuote quote = true) (escapes : Escapes quote content body) :
    Closed (quote :: (body ++ [quote])) := by
  have closed := Closed.literal isQuote escapes .done
  rwa [List.append_nil] at closed

/-- What starts where a literal does and is closed has the whole literal in front. -/
theorem literal_of_closed (isQuote : Text.isQuote quote = true)
    (escapes : Escapes quote content body) (closed : Closed front) (nonempty : front ≠ [])
    (shape : quote :: (body ++ [quote]) ++ rest = front ++ back) :
    ∃ further, front = quote :: (body ++ [quote]) ++ further ∧ rest = further ++ back ∧
      Closed further := by
  have notBackslash := not_backslash_of_quote isQuote
  have read := text_body_of_escapes notBackslash escapes rest
  cases closed with
  | done => exact absurd rfl nonempty
  | plain notQuote =>
      rw [List.cons_append, List.cons_append, List.cons.injEq] at shape
      rw [← shape.1, isQuote] at notQuote
      cases notQuote
  | @literal other _ otherBody further _ otherEscapes closed =>
      have same : quote = other ∧
          body ++ quote :: rest = otherBody ++ other :: (further ++ back) := by simpa using shape
      obtain ⟨rfl, same⟩ := same
      have readOther := text_body_of_escapes notBackslash otherEscapes (further ++ back)
      rw [← same, read, Option.some.injEq, Prod.mk.injEq] at readOther
      obtain ⟨-, rfl⟩ := readOther
      rw [List.append_cancel_right same]
      exact ⟨further, rfl, rfl, closed⟩

theorem closed_of_plain {character : Char} (notQuote : Text.isQuote character = false)
    (closed : Closed (character :: rest)) : Closed rest := by
  generalize same : character :: rest = whole at closed
  cases closed with
  | done => cases same
  | plain _ further =>
      obtain ⟨-, rfl⟩ := List.cons.inj same
      exact further
  | literal isQuote =>
      rw [(List.cons.inj same).1, isQuote] at notQuote
      cases notQuote

/-- What is left of a closed text behind a closed part is closed. -/
theorem closed_of_append (left : Closed front) (whole : Closed (front ++ back)) : Closed back := by
  induction left with
  | done => exact whole
  | plain notQuote _ ih => exact ih (closed_of_plain notQuote whole)
  | @literal quote content body rest isQuote escapes _ ih =>
      have shape : quote :: (body ++ [quote]) ++ (rest ++ back) =
          quote :: (body ++ [quote]) ++ rest ++ back ++ [] := by simp
      obtain ⟨further, same, behind, closed⟩ :=
        literal_of_closed isQuote escapes whole (List.cons_ne_nil _ _) shape
      rw [List.append_nil] at behind
      exact ih (behind ▸ closed)

end Closed

section Folding

variable {name found : List Char}

/-- What an identifier is found as starts like one, and every character of it is part of a word. -/
theorem word_of_fold (identifier : isIdentifier (String.ofList name) = true)
    (folds : found.map Text.fold = name.map Text.fold) :
    ∃ first rest, found = first :: rest ∧
      (Text.isAscii first = true → Text.startsIdentifier first = true) ∧
      ∀ character ∈ found, Text.isWordCharacter character = true ∧ continuesName character = true := by
  have inside := identifier_characters identifier
  obtain ⟨leading, others, rfl, starts, -⟩ := identifier_shape identifier
  cases found with
  | nil => cases folds
  | cons first rest =>
      refine ⟨first, rest, rfl, ?_, ?_⟩
      · intro ascii
        rw [List.map_cons, List.map_cons, List.cons.injEq] at folds
        exact Text.starts_identifier_of_fold starts ascii folds.1.symm
      · intro character member
        have folded : Text.fold character ∈ (leading :: others).map Text.fold := by
          rw [← folds]
          exact List.mem_map_of_mem member
        obtain ⟨expected, known, same⟩ := List.mem_map.mp folded
        have inName := List.all_eq_true.mp inside expected known
        refine ⟨Text.is_word_character_of_fold inName same, ?_⟩
        rcases Text.letter_of_fold inName same with identifierCharacter | letter
        · exact continues_name_of_identifier_character identifierCharacter
        · rw [continuesName, letter]
          rfl

/-- Of one script, names that fold alike are alike up to case. -/
theorem lower_of_fold (inName : name.all Text.isIdentifierCharacter = true)
    (inFound : found.all Text.isIdentifierCharacter = true)
    (folds : found.map Text.fold = name.map Text.fold) :
    found.map Char.toLower = name.map Char.toLower := by
  have lower {characters : List Char} (inside : characters.all Text.isIdentifierCharacter = true) :
      characters.map Text.fold = characters.map Char.toLower :=
    List.map_congr_left fun character member =>
      Text.fold_of_identifier_character (List.all_eq_true.mp inside character member)
  rw [← lower inName, ← lower inFound, folds]

theorem no_boundary_in_word {last next : Char} (left : Text.isWordCharacter last = true)
    (right : Text.isWordCharacter next = true) : isBoundary (some last) (some next) = false := by
  rw [isBoundary, Option.any_some, Option.any_some, left, right]
  rfl

theorem not_quote_of_word_character {character : Char}
    (inside : Text.isWordCharacter character = true) : Text.isQuote character = false := by
  cases isQuote : Text.isQuote character with
  | false => rfl
  | true => rcases Text.quote_cases isQuote with rfl | rfl <;> cases inside

end Folding

section Outside

variable {before : Option Char} {piece text front found back name : List Char}

theorem outside_behind (closed : Closed piece) (outside : Outside text front found back) :
    Outside (piece ++ text) (piece ++ front) found back :=
  ⟨by rw [outside.shape, List.append_assoc], closed_append closed outside.closed, outside.notQuote⟩

/-- What stands in the end of a text stands in the text. -/
theorem stands_behind (closed : Closed piece) (stands : Stands (piece.getLast?.or before) text name) :
    Stands before (piece ++ text) name := by
  obtain ⟨front, found, back, outside, same, starts, ends⟩ := stands
  have last : (piece ++ front).getLast?.or before =
      front.getLast?.or (piece.getLast?.or before) := by rw [List.getLast?_append, Option.or_assoc]
  rw [← last] at starts ends
  exact ⟨piece ++ front, found, back, outside_behind closed outside, same, starts, ends⟩

/-- Of two ways to cut a text, one is behind the other. -/
theorem split_cases {first second : List Char} (split : piece ++ text = first ++ second) :
    (∃ inside, inside ≠ [] ∧ piece = first ++ inside ∧ second = inside ++ text) ∨
      ∃ further, first = piece ++ further ∧ text = further ++ second := by
  rcases List.append_eq_append_iff.mp split with ⟨further, reaches, rest⟩ | ⟨inside, reaches, rest⟩
  · exact Or.inr ⟨further, reaches, rest⟩
  · by_cases empty : inside = []
    · subst empty
      rw [List.append_nil] at reaches
      exact Or.inr ⟨[], by rw [reaches, List.append_nil], rest.symm⟩
    · exact Or.inl ⟨inside, empty, reaches, rest⟩

/-- What starts in the text starts in its first piece, or behind that. -/
theorem outside_cases (closed : Closed piece) (outside : Outside (piece ++ text) front found back) :
    (∃ inside, inside ≠ [] ∧ piece = front ++ inside ∧ found ++ back = inside ++ text) ∨
      ∃ further, front = piece ++ further ∧ Outside text further found back := by
  obtain ⟨shape, closedFront, notQuote⟩ := outside
  rcases split_cases shape with ⟨inside, nonempty, rfl, rest⟩ | ⟨further, rfl, rest⟩
  · exact Or.inl ⟨inside, nonempty, rfl, rest⟩
  · exact Or.inr ⟨further, rfl, rest, closed_of_append closed closedFront, notQuote⟩

/-- A name that stands in the text starts in its first piece, or stands in what is behind that. -/
theorem stands_cases (closed : Closed piece) (stands : Stands before (piece ++ text) name) :
    (∃ front inside found back, Outside (piece ++ text) front found back ∧ inside ≠ [] ∧
      piece = front ++ inside ∧ found ++ back = inside ++ text ∧
      found.map Text.fold = name.map Text.fold ∧
      isBoundary (front.getLast?.or before) (found ++ back).head? = true ∧
      isBoundary (found.getLast?.or (front.getLast?.or before)) back.head? = true) ∨
      Stands (piece.getLast?.or before) text name := by
  obtain ⟨front, found, back, outside, folds, starts, ends⟩ := stands
  rcases outside_cases closed outside with
    ⟨inside, nonempty, split, shape⟩ | ⟨further, rfl, behind⟩
  · exact Or.inl ⟨front, inside, found, back, outside, nonempty, split, shape, folds, starts, ends⟩
  · rw [List.getLast?_append, Option.or_assoc] at starts ends
    exact Or.inr ⟨further, found, back, behind, folds, starts, ends⟩

end Outside

section Finding

variable {pattern : NamePattern} {before : Option Char} {text name : List Char}

theorem fold_of_fits {after : List Char} (fits : afterName? name text = some after) :
    ∃ found, text = found ++ after ∧ found.map Text.fold = name.map Text.fold := by
  induction name generalizing text with
  | nil =>
      cases fits
      exact ⟨[], rfl, rfl⟩
  | cons expected name ih =>
      cases text with
      | nil => cases fits
      | cons character text =>
          rw [afterName?] at fits
          split at fits
          · next same =>
              obtain ⟨found, rfl, folds⟩ := ih fits
              exact ⟨character :: found, rfl, by rw [List.map_cons, List.map_cons, same, folds]⟩
          · cases fits

/-- A name is found as characters that fold alike, and ends where a word starts or ends. -/
theorem fold_of_found {occurrence : Occurrence}
    (here : nameOccurrence? before text name = some occurrence) :
    ∃ found after, text = found ++ after ∧ found.map Text.fold = name.map Text.fold ∧
      isBoundary (found.getLast?.or before) after.head? = true ∧
      occurrence = ⟨found.length, true⟩ := by
  rw [nameOccurrence?] at here
  split at here
  · cases here
  · next after fits =>
      obtain ⟨found, rfl, folds⟩ := fold_of_fits fits
      have length : found.length = name.length := by simpa using congrArg List.length folds
      have taken : (found ++ after).take name.length = found := by rw [← length, List.take_left]
      simp only [taken] at here
      split at here
      · next ends =>
          cases here
          exact ⟨found, after, rfl, folds, ends, by rw [length]⟩
      · cases here

theorem stands_of_found {occurrence : Occurrence}
    (notQuote : ∀ first ∈ text.head?, Text.isQuote first = false)
    (starts : isBoundary before text.head? = true)
    (here : nameOccurrence? before text name = some occurrence) : Stands before text name := by
  obtain ⟨found, after, rfl, folds, ends, -⟩ := fold_of_found here
  refine ⟨[], found, after, ⟨rfl, .done, ?_⟩, folds, starts, ends⟩
  intro first leads
  apply notQuote
  rw [List.head?_append, leads]
  rfl

theorem no_occurrence_at_end (nonempty : ∀ name ∈ pattern.names, name ≠ []) :
    occurrence? pattern before [] = none := by
  have absent : pattern.names.findSome? (nameOccurrence? before []) = none := by
    rw [List.findSome?_eq_none_iff]
    intro name member
    cases name with
    | nil => exact absurd rfl (nonempty [] member)
    | cons => rfl
  simp only [occurrence?, quotedOccurrence?, absent, ite_self]

/-- Where no name stands, nothing is found. -/
theorem no_occurrence_of_nothing {character : Char}
    (notQuote : Text.isQuote character = false)
    (nothing : ∀ name ∈ pattern.names, ¬ Stands before (character :: text) name) :
    occurrence? pattern before (character :: text) = none := by
  rw [occurrence?, quoted_occurrence_of_not_quote notQuote]
  simp only
  split
  · next starts =>
      rw [List.findSome?_eq_none_iff]
      intro name member
      cases here : nameOccurrence? before (character :: text) name with
      | none => rfl
      | some occurrence =>
          have leads : ∀ first ∈ (character :: text).head?, Text.isQuote first = false := by
            rintro _ ⟨rfl⟩
            exact notQuote
          exact absurd (stands_of_found leads starts here)
            (nothing name member)
  · rfl

/-- A text in which no name stands is left as it is. -/
theorem replace_from_of_nothing {replacement : List Char → List Char} {afterMatch : Bool}
    (nonempty : ∀ name ∈ pattern.names, name ≠ []) (closed : Closed text)
    (nothing : ∀ name ∈ pattern.names, ¬ Stands before text name) :
    replaceFrom pattern replacement before afterMatch 0 text = text := by
  induction closed generalizing before afterMatch with
  | done => simp only [replaceFrom, no_occurrence_at_end nonempty]
  | @plain character rest notQuote _ ih =>
      have nowhere := no_occurrence_of_nothing notQuote nothing
      rw [replace_from_of_no_occurrence nowhere, ih]
      intro name member stands
      have alone : Closed [character] := .plain notQuote .done
      exact nothing name member (stands_behind alone stands)
  | @literal quote content body rest isQuote escapes _ ih =>
      rw [replace_from_text isQuote escapes, ih]
      intro name member stands
      have last : (quote :: (body ++ [quote])).getLast?.or before = some quote := by
        rw [← List.cons_append, List.getLast?_concat, Option.some_or]
      exact nothing name member (stands_behind (closed_literal isQuote escapes) (last ▸ stands))

theorem substitute_of_nothing {bindings : Variables} {text : String}
    (nonempty : "" ∉ bindings.names) (closed : Closed text.toList)
    (nothing : ∀ name ∈ bindings.names, ¬ Stands none text.toList name.toList) :
    substitute (NamePattern.ofVariables bindings) bindings text = text := by
  have listed {name : List Char} (member : name ∈ (NamePattern.ofVariables bindings).names) :
      ∃ source ∈ bindings.names, source.toList = name := by
    obtain ⟨source, known, rfl⟩ := List.mem_map.mp member
    exact ⟨source, List.mem_mergeSort.mp known, rfl⟩
  have noneEmpty : ∀ name ∈ (NamePattern.ofVariables bindings).names, name ≠ [] := by
    rintro name member rfl
    obtain ⟨source, known, same⟩ := listed member
    rw [String.toList_eq_nil_iff] at same
    exact nonempty (same ▸ known)
  rw [substitute_eq, replace_from_of_nothing noneEmpty closed, String.ofList_toList]
  intro name member
  obtain ⟨source, known, rfl⟩ := listed member
  exact nothing source known

end Finding

section Searching

variable {pattern : NamePattern} {replacement : List Char → List Char} {before : Option Char}
  {afterMatch : Bool} {character : Char} {name word run source rest after : List Char}

/-- What is found is a whole word, and all of it would be read as one. -/
theorem word_of_find {occurrence : Occurrence} (identifiers : pattern.OnlyIdentifiers)
    (notQuoted : quotedOccurrence? source = none)
    (here : occurrence? pattern before source = some occurrence) :
    ∃ found after, source = found ++ after ∧ occurrence = ⟨found.length, true⟩ ∧
      found ≠ [] ∧ before.any Text.isWordCharacter = false ∧
      after.head?.any Text.isWordCharacter = false ∧
      ∀ inner ∈ found, Text.isWordCharacter inner = true ∧ continuesName inner = true := by
  rw [occurrence?, notQuoted] at here
  simp only at here
  split at here
  · next starts =>
      obtain ⟨name, member, named⟩ := List.exists_of_findSome?_eq_some here
      obtain ⟨found, after, split, folds, ends, rfl⟩ := fold_of_found named
      obtain ⟨first, others, shape, -, inWord⟩ := word_of_fold (identifiers name member) folds
      have nonempty : found ≠ [] := shape ▸ List.cons_ne_nil first others
      have lastIsWord := (inWord _ (List.getLast_mem nonempty)).1
      have firstIsWord := (inWord first (shape ▸ List.mem_cons_self)).1
      rw [split, shape, List.cons_append, List.head?_cons, isBoundary, Option.any_some, firstIsWord]
        at starts
      rw [List.getLast?_eq_some_getLast nonempty, Option.some_or, isBoundary, Option.any_some,
        lastIsWord] at ends
      exact ⟨found, after, split, rfl, nonempty, by simpa using starts, by simpa using ends, inWord⟩
  · cases here

/-- A text is left as it is if every whole word in it gives way to itself. -/
theorem replace_from_of_kept (identifiers : pattern.OnlyIdentifiers) {skip : ℕ}
    (kept : ∀ front found back, source = front ++ (found ++ back) →
      (front.getLast?.or before).any Text.isWordCharacter = false →
      back.head?.any Text.isWordCharacter = false → replacement found = found) :
    replaceFrom pattern replacement before afterMatch skip source = source.drop skip := by
  induction source generalizing before afterMatch skip with
  | nil => rw [replace_from_nil identifiers, List.drop_nil]
  | cons character rest ih =>
      have further (afterMatch : Bool) (skip : ℕ) :
          replaceFrom pattern replacement (some character) afterMatch skip rest = rest.drop skip := by
        apply ih
        intro front found back shape starts ends
        apply kept (character :: front) found back (by rw [shape, List.cons_append]) _ ends
        rw [List.getLast?_cons]
        cases last : front.getLast? <;> (rw [last] at starts; exact starts)
      cases skip with
      | succ skip => exact further true skip
      | zero =>
          cases here : occurrence? pattern before (character :: rest) with
          | none => rw [replace_from_of_no_occurrence here, further, List.drop_zero, List.drop_zero]
          | some occurrence =>
              cases quoted : quotedOccurrence? (character :: rest) with
              | some copied =>
                  obtain ⟨length, rfl⟩ := quoted_occurrence_shape quoted
                  rw [occurrence?, quoted] at here
                  cases here
                  simp only [replaceFrom, occurrence?, quoted, further]
                  exact List.take_append_drop (length + 1) (character :: rest)
              | none =>
                  obtain ⟨found, back, split, rfl, nonempty, starts, ends, -⟩ :=
                    word_of_find identifiers quoted here
                  have stays := kept [] found back split starts ends
                  obtain ⟨first, others, rfl⟩ := List.exists_cons_of_ne_nil nonempty
                  rw [List.cons_append, List.cons.injEq] at split
                  obtain ⟨rfl, rfl⟩ := split
                  simp only [replaceFrom, here, further, List.length_cons, List.take_succ_cons,
                    List.take_left, List.drop_left, if_true, stays]
                  rfl

/-- What is no word character stays where it is. -/
theorem head_of_replaced (identifiers : pattern.OnlyIdentifiers) (closed : Closed source)
    (outside : source.head?.any Text.isWordCharacter = false) :
    (replaceFrom pattern replacement before afterMatch 0 source).head? = source.head? := by
  cases closed with
  | done => rw [replace_from_nil identifiers]
  | @plain character rest notQuote _ =>
      cases here : occurrence? pattern before (character :: rest) with
      | none =>
          rw [replace_from_of_no_occurrence here]
          rfl
      | some occurrence =>
          obtain ⟨found, after, split, -, nonempty, -, -, inWord⟩ :=
            word_of_find identifiers (quoted_occurrence_of_not_quote notQuote) here
          cases found with
          | nil => exact absurd rfl nonempty
          | cons first found =>
              obtain ⟨rfl, -⟩ := List.cons.inj split
              rw [List.head?_cons, Option.any_some, (inWord character List.mem_cons_self).1] at outside
              cases outside
  | literal isQuote escapes _ =>
      rw [replace_from_text isQuote escapes]
      rfl

/-- Inside a word no name starts. -/
theorem replace_from_word_run {last : Char} (continues : Text.isWordCharacter last = true)
    (inRun : ∀ inner ∈ run, Text.isWordCharacter inner = true) :
    ∃ final found, replaceFrom pattern replacement (some last) afterMatch 0 (run ++ rest) =
      run ++ replaceFrom pattern replacement final found 0 rest := by
  induction run generalizing last afterMatch with
  | nil => exact ⟨some last, afterMatch, rfl⟩
  | cons inner run ih =>
      have innerIsWord := inRun inner List.mem_cons_self
      have nowhere : occurrence? pattern (some last) (inner :: (run ++ rest)) = none := by
        rw [occurrence?, quoted_occurrence_of_not_quote (not_quote_of_word_character innerIsWord),
          List.head?_cons, no_boundary_in_word continues innerIsWord, if_neg (by decide)]
      obtain ⟨final, found, copied⟩ := @ih false inner innerIsWord
        fun other member => inRun other (List.mem_cons_of_mem inner member)
      refine ⟨final, found, ?_⟩
      rw [List.cons_append, replace_from_of_no_occurrence nowhere, copied]
      rfl

/-- A name of the pattern is found where it is a whole word. -/
theorem found_where_word (free : before.any Text.isWordCharacter = false)
    (inWord : word.all Text.isIdentifierCharacter = true) (nonempty : word ≠ [])
    (outside : after.head?.any Text.isWordCharacter = false) (member : name ∈ pattern.names)
    (inName : name.all Text.isIdentifierCharacter = true)
    (same : name.map Char.toLower = word.map Char.toLower) :
    occurrence? pattern before (word ++ after) ≠ none := by
  have length : name.length = word.length := by simpa using congrArg List.length same
  have last := any_word_character_of_last before nonempty inWord
  have named : nameOccurrence? before (word ++ after) name = some ⟨name.length, true⟩ := by
    rw [nameOccurrence?, after_name_of_equal inName inWord same]
    simp only [length, List.take_left, isBoundary, last, outside]
    rfl
  obtain ⟨first, others, rfl⟩ := List.exists_cons_of_ne_nil nonempty
  rw [List.all_cons, Bool.and_eq_true] at inWord
  have starts : isBoundary before (first :: others ++ after).head? = true := by
    rw [isBoundary, free, List.cons_append, List.head?_cons, Option.any_some,
      Text.is_word_character_of_identifier_character inWord.1]
    rfl
  rw [occurrence?, List.cons_append,
    quoted_occurrence_of_not_quote (Text.not_quote_of_identifier_character inWord.1),
    ← List.cons_append, starts, if_pos rfl]
  intro nowhere
  have absent := List.findSome?_eq_none_iff.mp nowhere name member
  rw [named] at absent
  cases absent

end Searching

end LineTemplate.Expression

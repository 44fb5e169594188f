import LineTemplate.Proofs.Expression.Numerals
import LineTemplate.Proofs.Expression.Scoping

/-!
A text with one name in it and otherwise only signs that are part of no word. Whatever names the
variables have, that name gives way to the literal of its value and the signs stay: a name that is no
identifier may fit at the front of the word or reach beyond it, but it does not end where a word ends.
The empty name does, and would be found were it not the shortest.
-/

namespace LineTemplate.Expression

/-- Characters that are part of no word and open no string literal. -/
def Apart (characters : List Char) : Prop :=
  ∀ character ∈ characters,
    Text.isWordCharacter character = false ∧ Text.isQuote character = false

section Apart

variable {characters others : List Char}

theorem apart_nil : Apart [] := by
  intro character member
  cases member

theorem apart_append (apart : Apart (characters ++ others)) : Apart characters ∧ Apart others :=
  ⟨fun character member => apart character (List.mem_append_left _ member),
    fun character member => apart character (List.mem_append_right _ member)⟩

theorem no_word_at_head (apart : Apart characters) :
    characters.head?.any Text.isWordCharacter = false := by
  cases characters with
  | nil => rfl
  | cons first rest => exact (apart first List.mem_cons_self).1

theorem no_word_at_last (apart : Apart characters) (nonempty : characters ≠ [])
    (before : Option Char) :
    (characters.getLast?.or before).any Text.isWordCharacter = false := by
  rw [List.getLast?_eq_some_getLast nonempty, Option.some_or, Option.any_some]
  exact (apart _ (List.getLast_mem nonempty)).1

end Apart

section Finding

variable {before : Option Char} {name characters word front back : List Char}

theorem split_of_fits {after : List Char} (fits : afterName? name characters = some after) :
    ∃ found, characters = found ++ after ∧ found.length = name.length := by
  induction name generalizing characters with
  | nil =>
      cases fits
      exact ⟨[], rfl, rfl⟩
  | cons expected name ih =>
      cases characters with
      | nil => cases fits
      | cons character characters =>
          rw [afterName?] at fits
          split at fits
          · obtain ⟨found, rfl, length⟩ := ih fits
            exact ⟨character :: found, rfl, congrArg Nat.succ length⟩
          · cases fits

/-- A name is found with its length, and a word starts or ends where it ends. -/
theorem boundary_of_found {occurrence : Occurrence}
    (here : nameOccurrence? before characters name = some occurrence) :
    ∃ found after, characters = found ++ after ∧ found.length = name.length ∧
      isBoundary (found.getLast?.or before) after.head? = true ∧
      occurrence = ⟨found.length, true⟩ := by
  rw [nameOccurrence?] at here
  split at here
  · cases here
  · next after fits =>
      obtain ⟨found, rfl, length⟩ := split_of_fits fits
      have taken : (found ++ after).take name.length = found := by rw [← length, List.take_left]
      simp only [taken] at here
      split at here
      · next boundary => exact ⟨found, after, rfl, length, boundary, by rw [length]; cases here; rfl⟩
      · cases here

/-- No word starts or ends between characters of no word. -/
theorem no_boundary_of_apart {found extra after : List Char} (apart : Apart (extra ++ after))
    (reaches : found = front ++ extra) (nonempty : extra ≠ []) :
    isBoundary (found.getLast?.or before) after.head? = false := by
  obtain ⟨apartExtra, apartAfter⟩ := apart_append apart
  have last : found.getLast?.or before = extra.getLast?.or (front.getLast?.or before) := by
    rw [reaches, List.getLast?_append, Option.or_assoc]
  rw [isBoundary, last, no_word_at_last apartExtra nonempty, no_word_at_head apartAfter]
  rfl

/-- Of all that fits where a word starts, only the word itself ends where a word does. -/
theorem whole_of_boundary {found after : List Char}
    (inWord : word.all Text.isIdentifierCharacter = true) (apart : Apart back)
    (shape : word ++ back = found ++ after) (nonempty : found ≠ [])
    (boundary : isBoundary (found.getLast?.or before) after.head? = true) : found = word := by
  rcases List.append_eq_append_iff.mp shape with ⟨extra, reaches, rfl⟩ | ⟨missing, rfl, rfl⟩
  · by_cases exact : extra = []
    · rw [reaches, exact, List.append_nil]
    · rw [no_boundary_of_apart apart reaches exact] at boundary
      cases boundary
  · cases missing with
    | nil => rw [List.append_nil]
    | cons next missing =>
        rw [List.all_append, Bool.and_eq_true, List.all_cons, Bool.and_eq_true] at inWord
        have last := any_word_character_of_last before nonempty inWord.1
        have continues := Text.is_word_character_of_identifier_character inWord.2.1
        rw [isBoundary, last, List.cons_append, List.head?_cons, Option.any_some, continues]
          at boundary
        cases boundary

theorem ne_empty_of_identifier {word : String} (identifier : isIdentifier word = true) :
    word ≠ "" := by
  rintro rfl
  cases identifier

theorem identifier_characters_of_same {name word : String}
    (inWord : word.toList.all Text.isIdentifierCharacter = true)
    (same : Text.equalIgnoringCase name word = true) :
    name.toList.all Text.isIdentifierCharacter = true := by
  rw [Text.equalIgnoringCase, beq_iff_eq] at same
  rw [List.all_eq_true] at inWord ⊢
  intro character member
  have lowered : character.toLower ∈ word.toList.map Char.toLower := by
    rw [← same]
    exact List.mem_map_of_mem member
  obtain ⟨other, inside, lower⟩ := List.mem_map.mp lowered
  exact Text.identifier_character_of_lower (inWord other inside) lower

end Finding

section Searching

variable {bindings : Variables} {before : Option Char} {word : String} {value : Value}
  {back : List Char}

/-- Names that come before one that is not empty are not empty. -/
theorem longer_before {names : List String} {name : String} (member : name ∈ names)
    (nonempty : name ≠ "") :
    ∃ (longer : List String) (shorter : List (List Char)), (NamePattern.ofNames names).names =
        longer.map String.toList ++ name.toList :: shorter ∧ "" ∉ longer := by
  have sorted : (names.mergeSort fun left right : String =>
      right.utf8ByteSize ≤ left.utf8ByteSize).Pairwise
      fun left right => right.utf8ByteSize ≤ left.utf8ByteSize := by
    refine (List.pairwise_mergeSort ?_ ?_ names).imp of_decide_eq_true
    · intro first second third
      simp only [decide_eq_true_eq]
      omega
    · intro first second
      simp only [Bool.or_eq_true, decide_eq_true_eq]
      omega
  obtain ⟨longer, shorter, split⟩ := List.append_of_mem (List.mem_mergeSort.mpr member)
  rw [split, List.pairwise_append] at sorted
  refine ⟨longer, shorter.map String.toList, ?_, ?_⟩
  · rw [NamePattern.ofNames, split, List.map_append, List.map_cons]
  · intro empty
    have small := sorted.2.2 "" empty name List.mem_cons_self
    exact nonempty (String.utf8ByteSize_eq_zero_iff.mp (Nat.le_zero.mp small))

/-- What is found where the word starts, by a name that is not empty, is the word. -/
theorem name_occurrence_of_nonempty {name : String} {occurrence : Occurrence}
    (inWord : word.toList.all Text.isIdentifierCharacter = true) (apart : Apart back)
    (nonempty : name ≠ "")
    (here : nameOccurrence? before (word.toList ++ back) name.toList = some occurrence) :
    occurrence = ⟨word.toList.length, true⟩ := by
  obtain ⟨found, after, split, length, ends, rfl⟩ := boundary_of_found here
  have notEmpty : found ≠ [] := by
    rintro rfl
    exact nonempty (String.toList_eq_nil_iff.mp (List.length_eq_zero_iff.mp length.symm))
  rw [whole_of_boundary inWord apart split notEmpty ends]

/-- The word itself is found, in whatever case the name is written. -/
theorem name_occurrence_of_same {name : String}
    (inWord : word.toList.all Text.isIdentifierCharacter = true) (apart : Apart back)
    (nonempty : word ≠ "") (same : Text.equalIgnoringCase name word = true) :
    nameOccurrence? before (word.toList ++ back) name.toList =
      some ⟨word.toList.length, true⟩ := by
  have inName := identifier_characters_of_same inWord same
  rw [Text.equalIgnoringCase, beq_iff_eq] at same
  have length : name.toList.length = word.toList.length := by
    simpa using congrArg List.length same
  have last := any_word_character_of_last before (mt String.toList_eq_nil_iff.mp nonempty) inWord
  rw [nameOccurrence?, after_name_of_equal inName inWord same]
  simp only [length, List.take_left, isBoundary, last, no_word_at_head apart]
  rfl

/-- Where the word starts, the word is found and nothing else. -/
theorem occurrence_of_word (free : before.any Text.isWordCharacter = false)
    (identifier : isIdentifier word = true) (apart : Apart back)
    (known : bindings.lookup? word = some value) :
    occurrence? (NamePattern.ofVariables bindings) before (word.toList ++ back) =
      some ⟨word.toList.length, true⟩ := by
  obtain ⟨first, body, shape, starts, -⟩ := (Text.is_identifier_iff word).mp identifier
  have inWord := Text.characters_of_identifier identifier
  have leading := Text.identifier_character_of_starts starts
  have notQuoted : quotedOccurrence? (word.toList ++ back) = none := by
    rw [shape, List.cons_append]
    exact quoted_occurrence_of_not_quote (Text.not_quote_of_identifier_character leading)
  have boundary : isBoundary before (word.toList ++ back).head? = true := by
    rw [isBoundary, free, shape, List.cons_append, List.head?_cons, Option.any_some,
      Text.is_word_character_of_identifier_character leading]
    rfl
  obtain ⟨name, listed, same⟩ := Variables.entry_of_lookup known
  have member : name ∈ bindings.names := List.mem_map_of_mem listed
  have nonempty : name ≠ "" := by
    rintro rfl
    rw [Text.equalIgnoringCase, beq_iff_eq, shape] at same
    cases same
  obtain ⟨longer, shorter, names, noneEmpty⟩ := longer_before member nonempty
  rw [occurrence?, notQuoted, boundary, if_pos rfl, NamePattern.of_variables_eq, names,
    List.findSome?_append, List.findSome?_cons,
    name_occurrence_of_same inWord apart (ne_empty_of_identifier identifier) same]
  cases earlier : (longer.map String.toList).findSome? (nameOccurrence? before _) with
  | none => rfl
  | some occurrence =>
      obtain ⟨_, inside, here⟩ := List.exists_of_findSome?_eq_some earlier
      obtain ⟨other, isLonger, rfl⟩ := List.mem_map.mp inside
      have otherNonempty : other ≠ "" := by
        rintro rfl
        exact noneEmpty isLonger
      rw [name_occurrence_of_nonempty inWord apart otherNonempty here]
      rfl

end Searching

section Replacing

variable {pattern : NamePattern} {replacement : List Char → List Char} {before : Option Char}
  {afterMatch : Bool} {characters rest : List Char}

theorem no_occurrence_in_apart {character : Char} (free : before.any Text.isWordCharacter = false)
    (apart : Apart [character]) : occurrence? pattern before (character :: rest) = none := by
  obtain ⟨notWord, notQuote⟩ := apart character List.mem_cons_self
  rw [occurrence?, quoted_occurrence_of_not_quote notQuote, isBoundary, free, List.head?_cons,
    Option.any_some, notWord]
  rfl

/-- Where no word stands everything is copied. -/
theorem replace_from_apart (free : before.any Text.isWordCharacter = false)
    (apart : Apart characters) :
    ∃ final found, final.any Text.isWordCharacter = false ∧
      replaceFrom pattern replacement before afterMatch 0 (characters ++ rest) =
        characters ++ replaceFrom pattern replacement final found 0 rest := by
  induction characters generalizing before afterMatch with
  | nil => exact ⟨before, afterMatch, free, rfl⟩
  | cons character characters ih =>
      obtain ⟨apartFirst, apartRest⟩ := @apart_append [character] characters apart
      obtain ⟨final, found, freeAfter, copied⟩ :=
        @ih (some character) false (no_word_at_head apartFirst) apartRest
      refine ⟨final, found, freeAfter, ?_⟩
      rw [List.cons_append, replace_from_of_no_occurrence (no_occurrence_in_apart free apartFirst),
        copied]
      rfl

theorem replace_from_only_apart (free : before.any Text.isWordCharacter = false)
    (apart : Apart characters) :
    replaceFrom pattern replacement before afterMatch 0 characters = characters := by
  obtain ⟨final, found, freeAfter, copied⟩ :=
    @replace_from_apart pattern replacement before afterMatch characters [] free apart
  have nothing : occurrence? pattern final [] = none := by
    rw [occurrence?, quotedOccurrence?, isBoundary, freeAfter]
    rfl
  rw [List.append_nil] at copied
  rw [copied, replaceFrom, nothing, List.append_nil]

/-- Behind a word that gave way, only the empty name is found, and it is left out there. -/
theorem replace_from_apart_behind (apart : Apart characters) :
    replaceFrom pattern replacement before true 0 characters = characters := by
  cases characters with
  | nil =>
      rw [replaceFrom]
      cases occurrence? pattern before [] <;> rfl
  | cons character characters =>
      obtain ⟨apartFirst, apartRest⟩ := @apart_append [character] characters apart
      have copied := @replace_from_only_apart pattern replacement (some character) false characters
        (no_word_at_head apartFirst) apartRest
      cases here : occurrence? pattern before (character :: characters) with
      | none => rw [replace_from_of_no_occurrence here, copied]
      | some occurrence =>
          have empty : ∃ isName, occurrence = ⟨0, isName⟩ := by
            rw [occurrence?, quoted_occurrence_of_not_quote
              (apartFirst character List.mem_cons_self).2] at here
            simp only at here
            split at here
            · obtain ⟨name, -, fits⟩ := List.exists_of_findSome?_eq_some here
              obtain ⟨found, after, split, -, boundary, rfl⟩ := boundary_of_found fits
              cases found with
              | nil => exact ⟨true, rfl⟩
              | cons next found =>
                  rw [split] at apart
                  rw [no_boundary_of_apart apart (List.nil_append _).symm (List.cons_ne_nil _ _)]
                    at boundary
                  cases boundary
            · cases here
          obtain ⟨isName, rfl⟩ := empty
          simp only [replaceFrom, here, if_true, List.nil_append, copied]

end Replacing

section LoneNames

variable {bindings : Variables} {word : String} {value : Value} {front back : List Char}

/-- A name between signs gives way to the literal of its value, whatever else the variables are. -/
theorem substitute_lone_name (apartFront : Apart front) (apartBack : Apart back)
    (identifier : isIdentifier word = true) (known : bindings.lookup? word = some value)
    {text : String} (shape : text.toList = front ++ (word.toList ++ back)) :
    (substitute (NamePattern.ofVariables bindings) bindings text).toList =
      front ++ ((literal value).toList ++ back) := by
  have nonempty : word.toList ≠ [] :=
    mt String.toList_eq_nil_iff.mp (ne_empty_of_identifier identifier)
  obtain ⟨final, found, free, copied⟩ :=
    @replace_from_apart (NamePattern.ofVariables bindings) (replacementOf bindings) none false front
      (word.toList ++ back) rfl apartFront
  have replaced : replacementOf bindings word.toList = (literal value).toList := by
    rw [replacementOf, String.ofList_toList, known]
  rw [substitute_eq, String.toList_ofList, shape, copied,
    replace_from_occurrence nonempty (occurrence_of_word free identifier apartBack known),
    if_pos rfl, replaced, replace_from_apart_behind apartBack]

/-- A text with one name has the value of the text with the literal in its place. -/
theorem evaluate_lone_name (apartFront : Apart front) (apartBack : Apart back)
    (identifier : isIdentifier word = true) (known : bindings.lookup? word = some value)
    {text : String} (shape : text.toList = front ++ (word.toList ++ back)) {depth : ℕ}
    {answer : Value} (denotes : Denotes depth (front ++ ((literal value).toList ++ back)) answer)
    (shallow : depth < maximalNesting) : evaluate bindings text = .ok answer := by
  apply evaluate_text_of_denotes _ shallow
  rwa [substitute_lone_name apartFront apartBack identifier known shape]

theorem evaluate_only_name (identifier : isIdentifier word = true)
    (known : bindings.lookup? word = some value) :
    evaluate bindings word = evaluateText (literal value) := by
  have replaced := substitute_lone_name apart_nil apart_nil identifier known
    (List.append_nil word.toList).symm
  rw [List.nil_append, List.append_nil, String.toList_inj] at replaced
  rw [evaluate, evaluateWith, replaced]

end LoneNames

section Infinite

/-- The words for what is no finite number. -/
theorem literal_of_infinite {value : Value} {numeral : Numeral}
    (reading : value.numeral? = some numeral) (infinite : numeral.isFinite = false) :
    literal value = "NaN" ∨ literal value = "inf" ∨ literal value = "(-inf)" := by
  unfold literal
  rw [reading]
  cases numeral with
  | integer => cases infinite
  | real number =>
      change (Number.unpacked number).isFinite = false at infinite
      have text : Numeral.toValue (.real number) = .real number := rfl
      simp only [text, Value.render, Number.realText, Number.of_float_eq]
      cases is : Number.unpacked number with
      | notANumber => exact Or.inl (by decide +kernel)
      | infinity sign =>
          cases sign with
          | positive => exact Or.inr (Or.inl (by decide +kernel))
          | negative => exact Or.inr (Or.inr (by decide +kernel))
      | zero =>
          rw [is] at infinite
          cases infinite
      | finite =>
          rw [is] at infinite
          cases infinite

theorem evaluate_text_of_first_name {text name : String} {found : List Token} {term : Term}
    (read : tokens text.toList = .ok found) (derives : Derives maximalNesting found term)
    (first : term.names.head? = some name) : evaluateText text = .error (.unknownName name) := by
  have tree : Tree.ofText text = .error (.unknownName name) := by
    rw [Tree.ofText, read, ← Term.tree_of_first_name first]
    exact of_tokens_of_derives derives
  rw [evaluateText, tree]
  rfl

/-- A text without variables knows no names. -/
theorem evaluate_text_of_name {word : String} (identifier : isIdentifier word = true)
    (free : isReserved word = false) : evaluateText word = .error (.unknownName word) := by
  have named : wordToken word = .name word := by
    rcases word_token_cases word with named | ⟨reserved, -⟩
    · exact named
    · rw [reserved] at free
      cases free
  have read : tokens word.toList = .ok [.name word] := by
    have alone := lexes_word identifier [] (by rintro _ ⟨⟩)
    rwa [List.append_nil, tokens_nil, named] at alone
  have written : Written .operand 255 [.name word] (.name word) := by
    simp only [isReserved, List.any_cons, List.any_nil, Bool.or_false, Bool.or_eq_false_iff] at free
    exact .name free.2.2.2.1 free.2.2.2.2
  exact evaluate_text_of_first_name read (written_looser (Nat.zero_le _) written) rfl

/-- The words for what is no finite number are read as names. -/
theorem evaluate_infinite {value : Value} {numeral : Numeral}
    (reading : value.numeral? = some numeral) (infinite : numeral.isFinite = false) :
    ∃ name, evaluateText (literal value) = .error (.unknownName name) := by
  rcases literal_of_infinite reading infinite with is | is | is
  · rw [is]
    exact ⟨"NaN", evaluate_text_of_name (by decide) (by decide)⟩
  · rw [is]
    exact ⟨"inf", evaluate_text_of_name (by decide) (by decide)⟩
  · rw [is]
    have closes : EndsWord [')'] := by
      rintro _ ⟨rfl⟩
      exact Or.inr rfl
    have read : tokens "(-inf)".toList = .ok [.opening, .minus, .name "inf", .closing] := by
      change tokens ('(' :: '-' :: ("inf".toList ++ [')'])) = _
      rw [tokens_of_opening, tokens_of_minus, @lexes_word "inf" (by decide) _ closes,
        tokens_of_closing, tokens_nil]
      decide
    have written : Written .operand 255 [.opening, .minus, .name "inf", .closing]
        (.unary .negate (.name "inf")) :=
      .parenthesis (written_looser (Nat.zero_le _) (.negation (.name (by decide) (by decide))))
    exact ⟨"inf", evaluate_text_of_first_name read (written_looser (Nat.zero_le _) written) rfl⟩

end Infinite

/-- Every integer but the least comes back from its text, and from a variable that holds it or text
that spells it. A variable that reads as a number is evaluated to a number if and only if the number
is finite. -/
theorem numbers_survive_text (numeral : Numeral) :
    (∀ whole, numeral = .integer whole → whole ≠ Int64.minValue →
      evaluateText numeral.toValue.render = .ok (.integer whole)) ∧
    ∀ (bindings : Variables) (word : String) (value : Value), isIdentifier word = true →
      bindings.lookup? word = some value → value.numeral? = some numeral →
      (∀ whole, numeral = .integer whole → whole ≠ Int64.minValue →
        evaluate bindings word = .ok (.integer whole)) ∧
      ((∃ answer : Numeral, evaluate bindings word = .ok answer.toValue) ↔
        numeral.isFinite = true) := by
  constructor
  · rintro whole rfl notLeast
    exact evaluate_text_of_denotes (denotes_integer_text notLeast) (by decide)
  · intro bindings word value identifier known reading
    rw [evaluate_only_name identifier known]
    constructor
    · rintro whole rfl notLeast
      exact evaluate_text_of_denotes (denotes_literal_of_integer reading notLeast) (by decide)
    · constructor
      · rintro ⟨answer, evaluated⟩
        cases finite : numeral.isFinite with
        | true => rfl
        | false =>
            obtain ⟨name, failed⟩ := evaluate_infinite reading finite
            rw [failed] at evaluated
            cases evaluated
      · intro finite
        obtain ⟨answer, denotes, -⟩ := denotes_literal_of_numeral reading finite
        exact ⟨answer, evaluate_text_of_denotes denotes (literal_nestings_shallow value)⟩

/-- Among names that are no identifiers, a name in another case. -/
theorem numbers_survive_text_signed :
    let bindings : Variables :=
      ⟨[("", .truth true), ("(x", .integer 1), ("n", .text " -7"), ("x", .text "1.")], by decide⟩
    evaluateText (Number.integerText (-9223372036854775807)) =
        .ok (.integer (-9223372036854775807)) ∧
      evaluate bindings "N" = .ok (.integer (-7)) ∧
      ∃ answer : Numeral, evaluate bindings "x" = .ok answer.toValue := by
  intro bindings
  have spelled : (Value.text " -7").numeral? = some (.integer (-7)) := by decide
  have point : ∃ numeral, (Value.text "1.").numeral? = some numeral ∧ numeral.isFinite = true :=
    ⟨.real 1.0, by decide +kernel, by decide +kernel⟩
  obtain ⟨numeral, reading, finite⟩ := point
  refine ⟨(numbers_survive_text (.integer _)).1 _ rfl (by decide), ?_, ?_⟩
  · exact ((numbers_survive_text _).2 bindings "N" _ (by decide) (by decide) spelled).1 _ rfl
      (by decide)
  · exact ((numbers_survive_text _).2 bindings "x" _ (by decide) (by decide) reading).2.mpr finite

/-- The digits of the least integer are too many without their sign, and the word for an infinite
number is the name of no variable. -/
theorem least_and_infinite_are_lost :
    let bindings : Variables :=
      ⟨[("x", .real (Number.Binary.toFloat (.infinite false)))], by decide⟩
    evaluateText (Number.integerText Int64.minValue) = .ok (.real (-9223372036854775808.0)) ∧
      evaluate bindings "x" = .error (.unknownName "inf") := by
  intro bindings
  constructor
  · have digits := @denotes_digits "9223372036854775808".toList [] (by decide) rfl
    have denotes := denotes_negated digits (Numeral.negate_of_digits _ _)
    have value : (Numeral.ofDigits "9223372036854775808".toList []).negated.toValue =
        .real (-9223372036854775808.0) := by decide +kernel
    rw [value] at denotes
    exact evaluate_text_of_denotes denotes (by decide)
  · have inf : literal (.real (Number.Binary.toFloat (.infinite false))) = "inf" := by
      decide +kernel
    rw [@evaluate_only_name bindings "x" _ (by decide) rfl, inf]
    exact evaluate_text_of_name (by decide) (by decide)

end LineTemplate.Expression

import LineTemplate.Proofs.Expression.Spelling
import LineTemplate.Proofs.Variables

/-!
Putting values in for names. In a text of words with spaces between them, a word that is a name as
a whole gives way, in whatever case it is written; numerals, operators and the insides of string
literals stay as they are.
-/

namespace LineTemplate.Expression

namespace NamePattern

/-- The pattern looks for identifiers only. -/
def OnlyIdentifiers (pattern : NamePattern) : Prop :=
  ∀ name ∈ pattern.names, isIdentifier (String.ofList name) = true

/-- The pattern looks for every variable, and possibly for names that are none. -/
def Covers (pattern : NamePattern) (bindings : Variables) : Prop :=
  ∀ name ∈ bindings.names, name.toList ∈ pattern.names

theorem of_variables_covers (bindings : Variables) : (ofVariables bindings).Covers bindings := by
  intro name member
  exact List.mem_map_of_mem (List.mem_mergeSort.mpr member)

/-- The names to look for, whatever their values. -/
def ofNames (names : List String) : NamePattern :=
  ⟨(names.mergeSort fun left right => right.utf8ByteSize ≤ left.utf8ByteSize).map String.toList⟩

theorem of_variables_eq (bindings : Variables) : ofVariables bindings = ofNames bindings.names :=
  rfl

theorem of_names_only_identifiers {names : List String}
    (identifiers : ∀ name ∈ names, isIdentifier name = true) : (ofNames names).OnlyIdentifiers := by
  intro name member
  obtain ⟨source, known, rfl⟩ := List.mem_map.mp member
  rw [String.ofList_toList]
  exact identifiers source (List.mem_mergeSort.mp known)

theorem of_variables_only_identifiers {bindings : Variables}
    (identifiers : ∀ name ∈ bindings.names, isIdentifier name = true) :
    (ofVariables bindings).OnlyIdentifiers :=
  of_names_only_identifiers identifiers

end NamePattern

theorem identifier_shape {name : List Char} (identifier : isIdentifier (String.ofList name) = true) :
    ∃ first rest, name = first :: rest ∧ Text.startsIdentifier first = true ∧
      rest.all Text.isIdentifierCharacter = true := by
  have shape := (Text.is_identifier_iff (String.ofList name)).mp identifier
  rwa [String.toList_ofList] at shape

theorem identifier_characters {name : List Char}
    (identifier : isIdentifier (String.ofList name) = true) :
    name.all Text.isIdentifierCharacter = true := by
  have inside := Text.characters_of_identifier identifier
  rwa [String.toList_ofList] at inside

section Matching

variable {name word rest : List Char}

/-- A name that fits at the front of a word ends inside it: what follows the word is no part of a
name. -/
theorem split_of_after_name (inName : name.all Text.isIdentifierCharacter = true)
    (inWord : word.all Text.isIdentifierCharacter = true) (ends : EndsWord rest)
    {after : List Char} (fits : afterName? name (word ++ rest) = some after) :
    ∃ front back, word = front ++ back ∧ front.length = name.length ∧
      front.map Char.toLower = name.map Char.toLower ∧ after = back ++ rest := by
  induction name generalizing word with
  | nil =>
      cases fits
      exact ⟨[], word, rfl, rfl, rfl, rfl⟩
  | cons expected name ih =>
      rw [List.all_cons, Bool.and_eq_true] at inName
      cases word with
      | nil =>
          exfalso
          rcases ends_word_cases ends with rfl | ⟨following, shape⟩
          · cases fits
          · have noFold : ∀ stop, Text.isAscii stop = true →
                Text.isIdentifierCharacter stop = false →
                Text.fold expected ≠ Text.fold stop := by
              intro stop ascii outside same
              rw [Text.identifier_character_of_fold inName.1 ascii same] at outside
              cases outside
            rcases shape with rfl | rfl
            · rw [List.nil_append, afterName?, if_neg (noFold ' ' rfl rfl)] at fits
              cases fits
            · rw [List.nil_append, afterName?, if_neg (noFold ')' rfl rfl)] at fits
              cases fits
      | cons character word =>
          rw [List.all_cons, Bool.and_eq_true] at inWord
          rw [List.cons_append, afterName?] at fits
          split at fits
          · next same =>
              obtain ⟨front, back, rfl, length, lower, following⟩ := ih inName.2 inWord.2 fits
              rw [Text.fold_of_identifier_character inName.1,
                Text.fold_of_identifier_character inWord.1] at same
              refine ⟨character :: front, back, rfl, ?_, ?_, following⟩
              · rw [List.length_cons, List.length_cons, length]
              · rw [List.map_cons, List.map_cons, same, lower]
          · cases fits

theorem after_name_of_equal (inName : name.all Text.isIdentifierCharacter = true)
    (inWord : word.all Text.isIdentifierCharacter = true)
    (same : name.map Char.toLower = word.map Char.toLower) :
    afterName? name (word ++ rest) = some rest := by
  induction name generalizing word with
  | nil =>
      cases word with
      | nil => rfl
      | cons character word => cases same
  | cons expected name ih =>
      cases word with
      | nil => cases same
      | cons character word =>
          rw [List.all_cons, Bool.and_eq_true] at inName inWord
          rw [List.map_cons, List.map_cons, List.cons.injEq] at same
          rw [List.cons_append, afterName?, if_pos]
          · exact ih inName.2 inWord.2 same.2
          · rw [Text.fold_of_identifier_character inName.1,
              Text.fold_of_identifier_character inWord.1, same.1]

theorem any_word_character_of_last {front : List Char} (before : Option Char)
    (nonempty : front ≠ []) (inside : front.all Text.isIdentifierCharacter = true) :
    (front.getLast?.or before).any Text.isWordCharacter = true := by
  rw [List.getLast?_eq_some_getLast nonempty, Option.some_or, Option.any_some]
  exact Text.is_word_character_of_identifier_character
    (List.all_eq_true.mp inside _ (List.getLast_mem nonempty))

/-- A name is found where a word starts if it is the whole word, up to case. -/
theorem name_occurrence_of_word (before : Option Char)
    (identifier : isIdentifier (String.ofList name) = true)
    (inWord : word.all Text.isIdentifierCharacter = true)
    (ends : EndsWord rest) :
    nameOccurrence? before (word ++ rest) name =
      if name.map Char.toLower = word.map Char.toLower then some ⟨word.length, true⟩ else none := by
  have inName := identifier_characters identifier
  have outside : rest.head?.any Text.isWordCharacter = false := by
    rcases ends_word_cases ends with rfl | ⟨following, rfl | rfl⟩ <;> rfl
  cases fits : afterName? name (word ++ rest) with
  | none =>
      rw [nameOccurrence?, fits, if_neg]
      intro same
      rw [after_name_of_equal inName inWord same] at fits
      cases fits
  | some after =>
      obtain ⟨front, back, rfl, length, lower, rfl⟩ :=
        split_of_after_name inName inWord ends fits
      have taken : ((front ++ back) ++ rest).take name.length = front := by
        rw [List.append_assoc, ← length, List.take_left]
      have nonempty : front ≠ [] := by
        rintro rfl
        obtain ⟨first, others, rfl, _⟩ := identifier_shape identifier
        cases length
      rw [List.all_append, Bool.and_eq_true] at inWord
      have last := any_word_character_of_last before nonempty inWord.1
      simp only [nameOccurrence?, fits, taken, isBoundary, last]
      cases back with
      | nil =>
          rw [List.nil_append, outside, List.append_nil, if_pos lower.symm, length]
          rfl
      | cons next back =>
          rw [List.all_cons, Bool.and_eq_true] at inWord
          have continues := Text.is_word_character_of_identifier_character inWord.2.1
          have longer : name.map Char.toLower ≠ (front ++ next :: back).map Char.toLower := by
            intro same
            have lengths := congrArg List.length same
            simp only [List.length_map, List.length_append, List.length_cons] at lengths
            omega
          rw [if_neg longer, List.cons_append, List.head?_cons, Option.any_some, continues]
          rfl

theorem after_name_of_other_start {character : Char}
    (identifier : isIdentifier (String.ofList name) = true)
    (ascii : Text.isAscii character = true) (other : Text.startsIdentifier character = false) :
    afterName? name (character :: rest) = none := by
  obtain ⟨first, body, rfl, starts, _⟩ := identifier_shape identifier
  rw [afterName?, if_neg]
  intro same
  rw [Text.starts_identifier_of_fold starts ascii same] at other
  cases other

end Matching

section Replacing

variable {pattern : NamePattern} {replacement : List Char → List Char} {before : Option Char}
  {afterMatch : Bool} {character : Char} {word rest : List Char}

theorem quoted_occurrence_of_not_quote (notQuote : Text.isQuote character = false) :
    quotedOccurrence? (character :: rest) = none := by
  rw [quotedOccurrence?, notQuote, if_neg (by decide)]

theorem replace_from_nil (identifiers : pattern.OnlyIdentifiers) (skip : Nat) :
    replaceFrom pattern replacement before afterMatch skip [] = [] := by
  have absent : pattern.names.findSome? (nameOccurrence? before []) = none := by
    rw [List.findSome?_eq_none_iff]
    intro name member
    obtain ⟨first, others, rfl, _⟩ := identifier_shape (identifiers name member)
    rfl
  have nowhere : occurrence? pattern before [] = none := by
    simp only [occurrence?, quotedOccurrence?, absent, ite_self]
  simp only [replaceFrom, nowhere]

theorem replace_from_of_no_occurrence
    (nowhere : occurrence? pattern before (character :: rest) = none) :
    replaceFrom pattern replacement before afterMatch 0 (character :: rest) =
      character :: replaceFrom pattern replacement (some character) false 0 rest := by
  simp only [replaceFrom, nowhere]

/-- What starts no identifier and no string literal is copied. -/
theorem replace_from_other_start (identifiers : pattern.OnlyIdentifiers)
    (ascii : Text.isAscii character = true) (notQuote : Text.isQuote character = false)
    (other : Text.startsIdentifier character = false) :
    replaceFrom pattern replacement before afterMatch 0 (character :: rest) =
      character :: replaceFrom pattern replacement (some character) false 0 rest := by
  apply replace_from_of_no_occurrence
  have absent : pattern.names.findSome? (nameOccurrence? before (character :: rest)) = none := by
    rw [List.findSome?_eq_none_iff]
    intro name member
    rw [nameOccurrence?, after_name_of_other_start (identifiers name member) ascii other]
  rw [occurrence?, quoted_occurrence_of_not_quote notQuote, absent, ite_self]

theorem replace_from_space (identifiers : pattern.OnlyIdentifiers) :
    replaceFrom pattern replacement before afterMatch 0 (' ' :: rest) =
      ' ' :: replaceFrom pattern replacement (some ' ') false 0 rest :=
  replace_from_other_start identifiers rfl rfl rfl

/-- Inside a word no name starts. -/
theorem replace_from_inside_word (inside : word.all Text.isIdentifierCharacter = true) {last : Char}
    (continues : Text.isWordCharacter last = true) :
    ∃ final found, replaceFrom pattern replacement (some last) afterMatch 0 (word ++ rest) =
      word ++ replaceFrom pattern replacement final found 0 rest := by
  induction word generalizing last afterMatch with
  | nil => exact ⟨some last, afterMatch, rfl⟩
  | cons character word ih =>
      rw [List.all_cons, Bool.and_eq_true] at inside
      have wordCharacter := Text.is_word_character_of_identifier_character inside.1
      have noBoundary : isBoundary (some last) (some character) = false := by
        simp only [isBoundary, Option.any_some, continues, wordCharacter, bne_self_eq_false]
      have nowhere : occurrence? pattern (some last) (character :: (word ++ rest)) = none := by
        rw [occurrence?,
          quoted_occurrence_of_not_quote (Text.not_quote_of_identifier_character inside.1),
          List.head?_cons, noBoundary, if_neg (by decide)]
      obtain ⟨final, found, copied⟩ := @ih false inside.2 character wordCharacter
      refine ⟨final, found, ?_⟩
      rw [List.cons_append, replace_from_of_no_occurrence nowhere, copied]
      rfl

theorem replace_from_skip (word : List Char) :
    replaceFrom pattern replacement before true word.length (word ++ rest) =
      replaceFrom pattern replacement (word.getLast?.or before) true 0 rest := by
  induction word generalizing before with
  | nil => rfl
  | cons character word ih =>
      rw [List.getLast?_cons, Option.some_or, List.cons_append, List.length_cons, replaceFrom, ih]
      cases word.getLast? <;> rfl

theorem replace_from_occurrence {isName : Bool} (nonempty : word ≠ [])
    (here : occurrence? pattern before (word ++ rest) = some ⟨word.length, isName⟩) :
    replaceFrom pattern replacement before afterMatch 0 (word ++ rest) =
      (if isName then replacement word else word) ++
        replaceFrom pattern replacement word.getLast? true 0 rest := by
  cases word with
  | nil => exact absurd rfl nonempty
  | cons character word =>
      have last : word.getLast?.or (some character) = (character :: word).getLast? := by
        rw [List.getLast?_cons]
        cases word.getLast? <;> rfl
      rw [List.cons_append, List.length_cons] at here
      simp only [List.cons_append, replaceFrom, here, List.take_succ_cons, List.take_left]
      rw [replace_from_skip, last]

theorem quoted_occurrence_shape {text : List Char} {occurrence : Occurrence}
    (quoted : quotedOccurrence? text = some occurrence) :
    ∃ length, occurrence = ⟨length + 1, false⟩ := by
  cases text with
  | nil => cases quoted
  | cons quote rest =>
      rw [quotedOccurrence?] at quoted
      split at quoted
      · obtain ⟨length, _, rfl⟩ := Option.map_eq_some_iff.mp quoted
        exact ⟨length, rfl⟩
      · cases quoted

/-- A pattern without names leaves the text alone. -/
theorem replace_from_of_no_names (noNames : pattern.names = []) (skip : Nat) (text : List Char) :
    replaceFrom pattern replacement before afterMatch skip text = text.drop skip := by
  have onlyQuoted (before : Option Char) (text : List Char) :
      occurrence? pattern before text = quotedOccurrence? text := by
    rw [occurrence?, noNames, List.findSome?_nil, ite_self]
    cases quotedOccurrence? text <;> rfl
  induction text generalizing before afterMatch skip with
  | nil =>
      simp only [replaceFrom, onlyQuoted, quotedOccurrence?, List.drop_nil]
  | cons character text ih =>
      cases skip with
      | succ skip => rw [replaceFrom, ih, List.drop_succ_cons]
      | zero =>
          cases quoted : quotedOccurrence? (character :: text) with
          | none =>
              rw [replace_from_of_no_occurrence (by rw [onlyQuoted, quoted]), ih]
              rfl
          | some occurrence =>
              obtain ⟨length, rfl⟩ := quoted_occurrence_shape quoted
              simp only [replaceFrom, onlyQuoted, quoted, ih, List.take_succ_cons]
              rw [if_neg (by decide), List.cons_append, List.take_append_drop]
              rfl

/-- Only what stands in the text is replaced. -/
theorem replace_from_congr {first second : List Char → List Char} {skip : Nat} {text : List Char}
    (agree : ∀ found, found <:+: text → first found = second found) :
    replaceFrom pattern first before afterMatch skip text =
      replaceFrom pattern second before afterMatch skip text := by
  have empty : first [] = second [] := agree [] (List.nil_infix)
  induction text generalizing before afterMatch skip with
  | nil => simp only [replaceFrom, empty]
  | cons character rest ih =>
      have further (before : Option Char) (afterMatch : Bool) (skip : Nat) :=
        @ih before afterMatch skip fun found inside =>
          agree found (inside.trans (List.suffix_cons character rest).isInfix)
      cases skip with
      | succ skip => simp only [replaceFrom, further]
      | zero =>
          simp only [replaceFrom]
          split
          · rw [further]
          · rw [empty, further]
          · next length isName _ =>
              rw [further, agree _ (List.take_prefix (length + 1) (character :: rest)).isInfix]

/-- Between spaces, the word gives way to the other. -/
def GivesWay (pattern : NamePattern) (replacement : List Char → List Char)
    (word other : List Char) : Prop :=
  ∀ before afterMatch rest, before.any Text.isWordCharacter = false → EndsWord rest →
    ∃ final found, replaceFrom pattern replacement before afterMatch 0 (word ++ rest) =
      other ++ replaceFrom pattern replacement final found 0 rest

theorem identifier_character_of_hex_digit {digit : Char} (isHex : isHexDigit digit = true) :
    Text.isIdentifierCharacter digit = true := by
  simp only [isHexDigit, Bool.or_eq_true, Bool.and_eq_true, decide_eq_true_eq] at isHex
  rw [Text.identifier_character_iff]
  rcases isHex with (isDigit | ⟨lower, upper⟩) | ⟨lower, upper⟩
  · exact Or.inl (Text.is_digit_iff.mp isDigit)
  · have fromA : 97 ≤ digit.toNat := UInt32.le_iff_toNat_le.mp lower
    have toF : digit.toNat ≤ 102 := UInt32.le_iff_toNat_le.mp upper
    omega
  · have fromA : 65 ≤ digit.toNat := UInt32.le_iff_toNat_le.mp lower
    have toF : digit.toNat ≤ 70 := UInt32.le_iff_toNat_le.mp upper
    omega

theorem gives_way_of_numeral (identifiers : pattern.OnlyIdentifiers) {digit : Char}
    (isDigit : digit.isDigit = true) (inside : word.all Text.isIdentifierCharacter = true) :
    GivesWay pattern replacement (digit :: word) (digit :: word) := by
  intro before afterMatch rest _ _
  have identifierCharacter := Text.identifier_character_of_digit isDigit
  have other : Text.startsIdentifier digit = false := by
    cases starts : Text.startsIdentifier digit with
    | false => rfl
    | true =>
        rw [Text.not_digit_of_starts_identifier starts] at isDigit
        cases isDigit
  have wordCharacter := Text.is_word_character_of_identifier_character identifierCharacter
  obtain ⟨final, found, copied⟩ :=
    @replace_from_inside_word pattern replacement false word rest inside digit wordCharacter
  refine ⟨final, found, ?_⟩
  rw [List.cons_append, replace_from_other_start identifiers
    (Text.is_ascii_of_identifier_character identifierCharacter)
    (Text.not_quote_of_identifier_character identifierCharacter) other, copied]
  rfl

theorem literal_length_of_escapes {quote : Char} {content body : List Char}
    (notBackslash : quote ≠ '\\') (escapes : Escapes quote content body) (rest : List Char) :
    literalLength? quote (body ++ quote :: rest) = some (body.length + 1) := by
  induction escapes with
  | done => simp [literalLength?, notBackslash]
  | plain notQuote plain escapes ih => simp [literalLength?, notQuote, plain, ih]
  | escaped notFeed escapes ih => simp [literalLength?, notFeed, ih]

/-- A string literal is copied. -/
theorem replace_from_text {quote : Char} {content body : List Char}
    (isQuote : Text.isQuote quote = true) (escapes : Escapes quote content body) :
    replaceFrom pattern replacement before afterMatch 0 (quote :: (body ++ [quote]) ++ rest) =
      quote :: (body ++ [quote]) ++ replaceFrom pattern replacement (some quote) true 0 rest := by
  have here : occurrence? pattern before ((quote :: (body ++ [quote])) ++ rest) =
      some ⟨(quote :: (body ++ [quote])).length, false⟩ := by
    have length := literal_length_of_escapes (not_backslash_of_quote isQuote) escapes rest
    simp only [List.cons_append, List.append_assoc, List.nil_append,
      List.length_cons, List.length_append, List.length_nil, occurrence?, quotedOccurrence?,
      isQuote, if_true, length, Option.map_some]
  have last : (quote :: (body ++ [quote])).getLast? = some quote := by
    rw [← List.cons_append, List.getLast?_concat]
  rw [replace_from_occurrence (List.cons_ne_nil _ _) here, last]
  rfl

theorem gives_way_of_text {quote : Char} {content body : List Char}
    (isQuote : Text.isQuote quote = true) (escapes : Escapes quote content body) :
    GivesWay pattern replacement (quote :: (body ++ [quote])) (quote :: (body ++ [quote])) :=
  fun _ _ _ _ _ => ⟨_, true, replace_from_text isQuote escapes⟩

theorem replace_from_others (identifiers : pattern.OnlyIdentifiers)
    (others : ∀ character ∈ word, Text.isAscii character = true ∧
      Text.isQuote character = false ∧ Text.startsIdentifier character = false) :
    ∃ final found, replaceFrom pattern replacement before afterMatch 0 (word ++ rest) =
      word ++ replaceFrom pattern replacement final found 0 rest := by
  induction word generalizing before afterMatch with
  | nil => exact ⟨before, afterMatch, rfl⟩
  | cons character word ih =>
      obtain ⟨ascii, notQuote, other⟩ := others character List.mem_cons_self
      obtain ⟨final, found, copied⟩ := @ih (some character) false
        fun next member => others next (List.mem_cons_of_mem character member)
      refine ⟨final, found, ?_⟩
      rw [List.cons_append, replace_from_other_start identifiers ascii notQuote other, copied]
      rfl

theorem gives_way_of_symbol (identifiers : pattern.OnlyIdentifiers) {token : Token}
    (listed : (token, word) ∈ symbols) : GivesWay pattern replacement word word := by
  intro before afterMatch rest _ _
  have plain : symbols.all (fun symbol => symbol.2.all fun character =>
      Text.isAscii character && !Text.isQuote character && !Text.startsIdentifier character) =
      true := rfl
  apply replace_from_others identifiers
  intro character member
  have known := List.all_eq_true.mp (List.all_eq_true.mp plain _ listed) character member
  simpa [Bool.and_eq_true, and_assoc] using known

theorem find_some_of_shared {Item Result : Type} {items : List Item} {find : Item → Option Result}
    {fits : Item → Prop} [DecidablePred fits] {result : Result}
    (shared : ∀ item ∈ items, find item = if fits item then some result else none) :
    items.findSome? find = if ∃ item ∈ items, fits item then some result else none := by
  induction items with
  | nil => simp
  | cons first items ih =>
      have tail := ih fun item member => shared item (List.mem_cons_of_mem first member)
      rw [List.findSome?_cons, shared first List.mem_cons_self, tail]
      by_cases here : fits first
      · simp [here]
      · simp [here]

/-- An identifier gives way if it is a name of the pattern, up to case. -/
theorem gives_way_of_identifier (identifiers : pattern.OnlyIdentifiers)
    (identifier : isIdentifier (String.ofList word) = true) :
    GivesWay pattern replacement word
      (if ∃ name ∈ pattern.names, name.map Char.toLower = word.map Char.toLower then
        replacement word
      else word) := by
  intro before afterMatch rest apart ends
  have inWord := identifier_characters identifier
  obtain ⟨first, body, shape, starts, inside⟩ := identifier_shape identifier
  have leading := Text.identifier_character_of_starts starts
  have wordCharacter := Text.is_word_character_of_identifier_character leading
  have boundary : isBoundary before (word ++ rest).head? = true := by
    rw [isBoundary, apart, shape, List.cons_append, List.head?_cons, Option.any_some, wordCharacter]
    rfl
  have notQuoted : quotedOccurrence? (word ++ rest) = none := by
    rw [shape, List.cons_append]
    exact quoted_occurrence_of_not_quote (Text.not_quote_of_identifier_character leading)
  have searched := find_some_of_shared fun name member =>
    name_occurrence_of_word before (identifiers name member) inWord ends
  have here : occurrence? pattern before (word ++ rest) =
      pattern.names.findSome? (nameOccurrence? before (word ++ rest)) := by
    rw [occurrence?, notQuoted, boundary, if_pos rfl]
  rw [searched] at here
  by_cases known : ∃ name ∈ pattern.names, name.map Char.toLower = word.map Char.toLower
  · rw [if_pos known] at here ⊢
    have nonempty : word ≠ [] := by
      rw [shape]
      exact List.cons_ne_nil first body
    exact ⟨_, true, replace_from_occurrence nonempty here⟩
  · rw [if_neg known] at here ⊢
    obtain ⟨final, found, copied⟩ :=
      @replace_from_inside_word pattern replacement false body rest inside first wordCharacter
    refine ⟨final, found, ?_⟩
    rw [shape, List.cons_append] at here ⊢
    rw [replace_from_of_no_occurrence here, copied]
    rfl

end Replacing

theorem substitute_eq (pattern : NamePattern) (bindings : Variables) (text : String) :
    substitute pattern bindings text =
      String.ofList (replaceFrom pattern (replacementOf bindings) none false 0 text.toList) := by
  rw [substitute]
  split
  · next empty =>
      rw [replace_from_of_no_names (List.isEmpty_iff.mp empty), List.drop_zero,
        String.ofList_toList]
  · rfl

theorem replacement_of_unknown {bindings : Variables} {name : List Char}
    (unknown : bindings.lookup? (String.ofList name) = none) :
    replacementOf bindings name = name := by
  rw [replacementOf, unknown]

/-- A word gives way to a literal of its value, or stays when it has none. -/
theorem gives_way_of_word {pattern : NamePattern} {bindings : Variables} {word : String}
    (identifiers : pattern.OnlyIdentifiers) (covers : pattern.Covers bindings)
    (identifier : isIdentifier word = true) :
    GivesWay pattern (replacementOf bindings) word.toList
      (replacementOf bindings word.toList) := by
  have given := @gives_way_of_identifier pattern (replacementOf bindings) word.toList identifiers
    (by rwa [String.ofList_toList])
  by_cases known : ∃ name ∈ pattern.names,
      name.map Char.toLower = word.toList.map Char.toLower
  · rwa [if_pos known] at given
  · rw [if_neg known] at given
    have unknown : bindings.lookup? (String.ofList word.toList) = none := by
      apply Variables.lookup_of_unknown
      intro name member
      rw [Text.equalIgnoringCase, String.toList_ofList, beq_eq_false_iff_ne]
      exact fun same => known ⟨name.toList, covers name member, same⟩
    rwa [replacement_of_unknown unknown]

end LineTemplate.Expression

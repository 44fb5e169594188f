import LineTemplate.Proofs.Expression.Shown
import LineTemplate.Proofs.Expression.Writing

/-!
Known names are not reported as unknown. A name that is reported stands apart in the text that is read.
If it were the name of a variable, it would have stood there before and have given way: the literal of
a value shows no word but a truth, unless the value is a number that is not finite.

A word as it is read is not always a word as names are sought: a mark or another joining character
ends the first and carries on the second. A name in front of such a character does not give way.
-/

namespace LineTemplate.Expression

/-- In the text that follows `before`, the word stands in some case at the start of a longer word,
which goes on with a character that continues no name. -/
def Joined (before : Option Char) (text word : List Char) : Prop :=
  ∃ front found joiner back, Outside text front found (joiner :: back) ∧
    found.map Char.toLower = word.map Char.toLower ∧
    (front.getLast?.or before).any Text.isWordCharacter = false ∧
    Text.isWordCharacter joiner = true ∧ continuesName joiner = false

section Words

variable {before : Option Char} {piece text word run back tail : List Char}

theorem joined_behind (closed : Closed piece) (joined : Joined (piece.getLast?.or before) text word) :
    Joined before (piece ++ text) word := by
  obtain ⟨front, found, joiner, back, outside, same, free, joins⟩ := joined
  rw [← Option.or_assoc, ← List.getLast?_append] at free
  exact ⟨piece ++ front, found, joiner, back, outside_behind closed outside, same, free, joins⟩

/-- A word that stands apart stands in the first piece of the text, or apart in what is behind. -/
theorem stands_apart_cases (transparent : Transparent piece)
    (stands : StandsApart before (piece ++ text) word) :
    (∃ front inside back, inside ≠ [] ∧ piece = front ++ inside ∧ word ++ back = inside ++ text ∧
      openTail? front = none ∧ (front.getLast?.or before).any Text.isWordCharacter = false ∧
      ∀ next ∈ back.head?, continuesName next = false) ∨
      StandsApart (piece.getLast?.or before) text word := by
  obtain ⟨front, back, split, closed, free, ends⟩ := stands
  rcases split_cases split with ⟨inside, nonempty, shape, rest⟩ | ⟨further, rfl, rest⟩
  · exact Or.inl ⟨front, inside, back, nonempty, shape, rest, closed, free, ends⟩
  · rw [transparent] at closed
    rw [List.getLast?_append, Option.or_assoc] at free
    exact Or.inr ⟨further, back, rest, closed, free, ends⟩

theorem first_of_split {first : Char} {letters inside : List Char}
    (split : first :: letters ++ back = inside ++ tail) (nonempty : inside ≠ []) :
    ∃ others, inside = first :: others := by
  obtain ⟨start, others, rfl⟩ := List.exists_cons_of_ne_nil nonempty
  exact ⟨others, by rw [(List.cons.inj split).1]⟩

/-- A word that ends is the whole run of word characters in which it stands, unless a character
follows there that does not continue it. -/
theorem whole_run (split : word ++ back = run ++ tail)
    (inWord : word.all Text.isIdentifierCharacter = true)
    (outside : tail.head?.any Text.isWordCharacter = false)
    (ends : ∀ next ∈ back.head?, continuesName next = false) :
    word = run ∨ ∃ joiner more, run = word ++ joiner :: more ∧ continuesName joiner = false := by
  rcases List.append_eq_append_iff.mp split with ⟨more, rfl, rfl⟩ | ⟨more, rfl, rfl⟩
  · cases more with
    | nil => exact Or.inl (List.append_nil word).symm
    | cons joiner more => exact Or.inr ⟨joiner, more, rfl, ends joiner rfl⟩
  · cases more with
    | nil => exact Or.inl (List.append_nil run)
    | cons next more =>
        rw [List.all_append, List.all_cons, Bool.and_eq_true, Bool.and_eq_true] at inWord
        rw [List.cons_append, List.head?_cons, Option.any_some,
          Text.is_word_character_of_identifier_character inWord.2.1] at outside
        cases outside

/-- A text is cut behind the word characters at its start. -/
theorem split_behind_word (text : List Char) : ∃ run after, text = run ++ after ∧
    (∀ inner ∈ run, Text.isWordCharacter inner = true) ∧
      after.head?.any Text.isWordCharacter = false := by
  refine ⟨text.takeWhile Text.isWordCharacter, text.dropWhile Text.isWordCharacter,
    List.takeWhile_append_dropWhile.symm, fun _ member => List.mem_takeWhile_imp member, ?_⟩
  have stopped := List.head?_dropWhile_not Text.isWordCharacter text
  cases here : (text.dropWhile Text.isWordCharacter).head? with
  | none => rfl
  | some next =>
      rw [here] at stopped
      exact stopped

end Words

section Known

variable {bindings : Variables} {before previous : Option Char} {afterMatch : Bool}
  {name word : String} {value : Value} {character : Char} {source rest found after back : List Char}

theorem is_identifier_of_same (identifier : isIdentifier name = true)
    (same : Text.equalIgnoringCase name word = true) : isIdentifier word = true := by
  have reversed : Text.equalIgnoringCase word name = true := by
    rwa [Text.equal_ignoring_case_comm]
  have inWord :=
    identifier_characters_of_same (Text.characters_of_identifier identifier) reversed
  rw [Text.is_identifier_iff] at identifier ⊢
  obtain ⟨first, others, shape, starts, -⟩ := identifier
  rw [Text.equalIgnoringCase, beq_iff_eq, shape, List.map_cons] at same
  obtain ⟨start, rest, is, lower, -⟩ := List.map_eq_cons_iff.mp same.symm
  rw [is, List.all_cons, Bool.and_eq_true] at inWord
  exact ⟨start, rest, is, Text.starts_identifier_of_lower starts lower.symm, inWord.2⟩

/-- What is looked up is one of the names, up to case. -/
theorem name_of_lookup (identifiers : ∀ known ∈ bindings.names, isIdentifier known = true)
    (known : bindings.lookup? word = some value) : isIdentifier word = true ∧
      ∃ name ∈ bindings.names, isIdentifier name = true ∧
        Text.equalIgnoringCase name word = true := by
  obtain ⟨name, entry, same⟩ := Variables.entry_of_lookup known
  have member : name ∈ bindings.names := List.mem_map_of_mem entry
  have identifier := identifiers name member
  exact ⟨is_identifier_of_same identifier same, name, member, identifier, same⟩

/-- A known name that shows at the start of what is left as it is would have been found, unless it
goes on with a character that joins it. -/
theorem joined_of_copied (identifiers : ∀ known ∈ bindings.names, isIdentifier known = true)
    (known : bindings.lookup? word = some value) (closed : Closed (character :: rest))
    (seam : previous = before ∨ (character :: rest).head?.any Text.isWordCharacter = false)
    (free : previous.any Text.isWordCharacter = false)
    (nowhere : occurrence? (.ofVariables bindings) before (character :: rest) = none)
    (split : word.toList ++ back = character :: replaceFrom (.ofVariables bindings)
      (replacementOf bindings) (some character) false 0 rest)
    (ends : ∀ next ∈ back.head?, continuesName next = false) :
    Joined before (character :: rest) word.toList := by
  obtain ⟨identifier, name, member, nameIdentifier, same⟩ := name_of_lookup identifiers known
  obtain ⟨first, others, shape, starts, inside⟩ := (Text.is_identifier_iff word).mp identifier
  have inWord := Text.characters_of_identifier identifier
  have isWord : Text.isWordCharacter character = true := by
    rw [shape, List.cons_append, List.cons.injEq] at split
    rw [← split.1]
    exact Text.is_word_character_of_identifier_character (Text.identifier_character_of_starts starts)
  have free : before.any Text.isWordCharacter = false := by
    rcases seam with rfl | outside
    · exact free
    · rw [List.head?_cons, Option.any_some, isWord] at outside
      cases outside
  -- the word in which it shows is copied as a whole
  obtain ⟨run, after, rfl, inRun, outside⟩ := split_behind_word rest
  have inWhole : ∀ inner ∈ character :: run, Text.isWordCharacter inner = true :=
    List.forall_mem_cons.mpr ⟨isWord, inRun⟩
  have closedRun : Closed (character :: run) := closed_of_unquoted fun inner member =>
    not_quote_of_word_character (inWhole inner member)
  have closedAfter : Closed after := closed_of_append closedRun closed
  obtain ⟨final, matched, copied⟩ := @replace_from_word_run (.ofVariables bindings)
    (replacementOf bindings) false run after character isWord inRun
  rw [copied, ← List.cons_append] at split
  have onlyIdentifiers := NamePattern.of_variables_only_identifiers identifiers
  rcases whole_run split inWord (by rwa [head_of_replaced onlyIdentifiers closedAfter outside]) ends
    with whole | ⟨joiner, more, longer, noName⟩
  · have nonempty : word.toList ≠ [] := by
      rw [shape]
      exact List.cons_ne_nil first others
    have inName := identifier_characters_of_same inWord same
    rw [Text.equalIgnoringCase, beq_iff_eq] at same
    have present := @found_where_word (.ofVariables bindings) before name.toList word.toList after
      free inWord nonempty outside (NamePattern.of_variables_covers bindings name member) inName same
    rw [whole] at present
    exact absurd nowhere present
  · refine ⟨[], word.toList, joiner, more ++ after, ⟨?_, .done, ?_⟩, rfl, free, ?_, noName⟩
    · rw [← List.cons_append, longer, List.append_assoc, List.cons_append, List.nil_append]
    · intro start leads
      rw [shape] at leads
      cases leads
      exact Text.not_quote_of_identifier_character (Text.identifier_character_of_starts starts)
    · apply inWhole
      rw [longer]
      exact List.mem_append_right _ List.mem_cons_self

/-- A word that shows at the start of a run of word characters is that run, if none of them ends a
name. -/
theorem run_of_shown {run output : List Char}
    (inWord : word.toList.all Text.isIdentifierCharacter = true)
    (inRun : ∀ inner ∈ run, continuesName inner = true)
    (split : word.toList ++ back = run ++ output)
    (outside : output.head?.any Text.isWordCharacter = false)
    (ends : ∀ next ∈ back.head?, continuesName next = false) : word.toList = run := by
  rcases whole_run split inWord outside ends with whole | ⟨joiner, more, rfl, noName⟩
  · exact whole
  · rw [inRun joiner (List.mem_append_right _ List.mem_cons_self)] at noName
    cases noName

/-- A known name does not show in what another word gives way to. -/
theorem hidden_in_replacement (known : bindings.lookup? word = some value)
    (identifier : isIdentifier word = true)
    (hidden : ∀ entry ∈ bindings.entries, ¬ ShownWord entry.2 word)
    (inFound : ∀ inner ∈ found, Text.isWordCharacter inner = true ∧ continuesName inner = true)
    {front inside output : List Char} (nonempty : inside ≠ [])
    (shape : replacementOf bindings found = front ++ inside)
    (split : word.toList ++ back = inside ++ output) (closed : openTail? front = none)
    (free : front.getLast?.any Text.isWordCharacter = false)
    (outside : output.head?.any Text.isWordCharacter = false)
    (ends : ∀ next ∈ back.head?, continuesName next = false) : False := by
  have inWord := Text.characters_of_identifier identifier
  obtain ⟨start, letters, spelling, starts, -⟩ := (Text.is_identifier_iff word).mp identifier
  obtain ⟨others, rfl⟩ := first_of_split (spelling ▸ split) nonempty
  cases looked : bindings.lookup? (String.ofList found) with
  | none =>
      rw [replacement_of_unknown looked] at shape
      have whole : found = [] ++ (found ++ []) := by rw [List.nil_append, List.append_nil]
      have isWord := Text.is_word_character_of_identifier_character
        (Text.identifier_character_of_starts starts)
      have is := lone_word (whole.symm.trans shape) nofun (fun inner member => (inFound inner member).1)
        nofun isWord free
      rw [is, List.append_nil] at split
      have equal := run_of_shown inWord (fun inner member => (inFound inner member).2) split outside ends
      rw [← equal, String.ofList_toList, known] at looked
      cases looked
  | some other =>
      rw [replacementOf, looked] at shape
      obtain ⟨shown, rest, is, apart, shows⟩ := word_of_literal shape starts closed free
      have inShown : ∀ inner ∈ shown.toList, continuesName inner = true := fun inner member =>
        continues_name_of_identifier_character
          (List.all_eq_true.mp (identifier_of_shown shows) inner member)
      rw [is, List.append_assoc] at split
      have behind : (rest ++ output).head?.any Text.isWordCharacter = false := by
        cases rest with
        | nil => exact outside
        | cons => exact apart
      have equal := String.toList_inj.mp (run_of_shown inWord inShown split behind ends)
      obtain ⟨_, entry, -⟩ := Variables.entry_of_lookup looked
      exact hidden _ entry (equal ▸ shows)

theorem transparent_of_replacement
    (inFound : ∀ inner ∈ found, Text.isWordCharacter inner = true ∧ continuesName inner = true) :
    Transparent (replacementOf bindings found) := by
  rw [replacementOf]
  split
  · exact transparent_of_literal _
  · exact transparent_of_unquoted fun inner member =>
      not_quote_of_word_character (inFound inner member).1

theorem any_or_of_free {last before : Option Char}
    (free : (last.or before).any Text.isWordCharacter = false) :
    last.any Text.isWordCharacter = false := by
  cases last with
  | none => rfl
  | some => exact free

/-- No known name stands apart where names have given way, unless a character joined it before. -/
theorem known_name_gives_way (identifiers : ∀ known ∈ bindings.names, isIdentifier known = true)
    (known : bindings.lookup? word = some value)
    (hidden : ∀ entry ∈ bindings.entries, ¬ ShownWord entry.2 word) (closed : Closed source)
    (separate : ¬ Joined before source word.toList)
    (seam : previous = before ∨ source.head?.any Text.isWordCharacter = false) :
    ¬ StandsApart previous (replaceFrom (.ofVariables bindings) (replacementOf bindings) before
      afterMatch 0 source) word.toList := by
  have onlyIdentifiers := NamePattern.of_variables_only_identifiers identifiers
  have identifier := (name_of_lookup identifiers known).1
  obtain ⟨start, letters, spelling, starts, -⟩ := (Text.is_identifier_iff word).mp identifier
  have isIdentifierCharacter := Text.identifier_character_of_starts starts
  induction size : source.length using Nat.strong_induction_on
    generalizing source before previous afterMatch with
  | _ size ih =>
  subst size
  intro stands
  cases closed with
  | done =>
      obtain ⟨front, back, split, -⟩ := stands
      rw [replace_from_nil onlyIdentifiers, spelling] at split
      simp at split
  | @plain character rest notQuote further =>
      cases here : occurrence? (.ofVariables bindings) before (character :: rest) with
      | none =>
          have transparent : Transparent [character] :=
            transparent_of_unquoted (List.forall_mem_singleton.mpr notQuote)
          rw [replace_from_of_no_occurrence here] at stands
          rcases stands_apart_cases transparent stands with
            ⟨front, inside, back, nonempty, shape, split, -, free, ends⟩ | behind
          · obtain ⟨others, rfl⟩ := first_of_split (spelling ▸ split) nonempty
            obtain ⟨rfl, same⟩ : front = [] ∧ [character] = start :: others := by
              rcases List.singleton_eq_append_iff.mp shape with ⟨rfl, same⟩ | ⟨-, empty⟩
              · exact ⟨rfl, same.symm⟩
              · cases empty
            rw [← same] at split
            have whole : Closed (character :: rest) := .plain notQuote further
            exact separate (joined_of_copied identifiers known whole seam free here split ends)
          · have alone : Closed [character] := .plain notQuote .done
            have deeper := fun joined => separate (joined_behind alone joined)
            exact ih rest.length (Nat.lt_succ_self _) further deeper (Or.inl rfl) rfl behind
      | some occurrence =>
          obtain ⟨found, after, parts, rfl, nonempty, free, outside, inFound⟩ :=
            word_of_find onlyIdentifiers (quoted_occurrence_of_not_quote notQuote) here
          have closedFound : Closed found := closed_of_unquoted fun inner member =>
            not_quote_of_word_character (inFound inner member).1
          have whole : Closed (character :: rest) := .plain notQuote further
          rw [parts] at here separate stands ih whole
          have closedAfter := closed_of_append closedFound whole
          rw [replace_from_occurrence nonempty here, if_pos rfl] at stands
          rcases stands_apart_cases (transparent_of_replacement inFound) stands with
            ⟨front, inside, back, insideNonempty, shape, split, closedFront, free, ends⟩ | behind
          · rw [← head_of_replaced onlyIdentifiers closedAfter outside] at outside
            exact hidden_in_replacement known identifier hidden inFound insideNonempty shape split
              closedFront (any_or_of_free free) outside ends
          · have deeper := fun joined => separate (joined_behind closedFound joined)
            rw [List.getLast?_eq_some_getLast nonempty, Option.some_or,
              ← List.getLast?_eq_some_getLast nonempty] at deeper
            have shorter : after.length < (found ++ after).length := by
              rw [List.length_append]
              exact Nat.lt_add_of_pos_left (List.length_pos_of_ne_nil nonempty)
            exact ih after.length shorter closedAfter deeper (Or.inr outside) rfl behind
  | @literal quote content body rest isQuote escapes further =>
      have last : (quote :: (body ++ [quote])).getLast? = some quote := by
        rw [← List.cons_append, List.getLast?_concat]
      rw [replace_from_text isQuote escapes] at stands
      rcases stands_apart_cases (transparent_literal isQuote escapes) stands with
        ⟨front, inside, back, nonempty, shape, split, closedFront, free, ends⟩ | behind
      · obtain ⟨others, rfl⟩ := first_of_split (spelling ▸ split) nonempty
        have notQuote := Text.not_quote_of_identifier_character isIdentifierCharacter
        exact open_inside_literal isQuote escapes shape notQuote closedFront
      · have deeper := fun joined => separate (joined_behind (closed_literal isQuote escapes) joined)
        rw [last, Option.some_or] at behind deeper
        exact ih rest.length (by simp; omega) further deeper (Or.inl rfl) rfl behind

end Known

section Joining

variable {bindings : Variables} {word : String} {characters : List Char} {joiner : Char}

/-- No name is found in a word that ends in a character that continues none. -/
theorem joined_name_stays (identifiers : ∀ known ∈ bindings.names, isIdentifier known = true)
    (everyJoins : ∀ character ∈ characters ++ [joiner], Text.isWordCharacter character = true)
    (noName : continuesName joiner = false) {text : String}
    (shape : text.toList = characters ++ [joiner]) :
    substitute (.ofVariables bindings) bindings text = text := by
  have closed : Closed text.toList := by
    rw [shape]
    exact closed_of_unquoted fun character member =>
      not_quote_of_word_character (everyJoins character member)
  refine substitute_of_nothing (fun empty => absurd (identifiers "" empty) (by decide)) closed ?_
  rw [shape]
  rintro name member ⟨front, found, back, ⟨split, -, -⟩, folds, -, ends⟩
  have isName := identifiers name member
  rw [← @String.ofList_toList name] at isName
  obtain ⟨start, others, rfl, -, inFound⟩ := word_of_fold isName folds
  have last := List.getLast_mem (List.cons_ne_nil start others)
  have isLast := List.getLast?_eq_some_getLast (List.cons_ne_nil start others)
  cases back with
  | nil =>
      have same := congrArg List.getLast? split
      rw [List.append_nil, List.getLast?_concat, List.getLast?_append, isLast, Option.some_or,
        Option.some.injEq] at same
      rw [same, (inFound _ last).2] at noName
      cases noName
  | cons next back =>
      have nextJoins : Text.isWordCharacter next = true := by
        apply everyJoins
        rw [split]
        simp
      rw [isLast, Option.some_or, List.head?_cons,
        no_boundary_in_word (inFound _ last).1 nextJoins] at ends
      cases ends

theorem tokens_of_joined_name (identifier : isIdentifier word = true)
    (free : isReserved word = false) (notQuote : Text.isQuote joiner = false)
    (noName : continuesName joiner = false) :
    ∃ found, tokens (word.toList ++ [joiner]) = .ok (.name word :: found) := by
  obtain ⟨first, body, spelling, starts, inside⟩ := (Text.is_identifier_iff word).mp identifier
  have startsName := starts_name_of_starts_identifier starts
  have continues := all_continue_of_identifier_characters inside
  have ends : ∀ next ∈ [joiner].head?, continuesName next = false := by
    rintro _ ⟨rfl⟩
    exact noName
  have token := first_token_of_word startsName continues ends
  rw [← spelling, String.ofList_toList, word_token_of_not_reserved free] at token
  obtain ⟨found, others⟩ := tokens_of_run (List.forall_mem_singleton.mpr notQuote)
  have alone := others [] nofun
  rw [List.append_nil, tokens_nil] at alone
  refine ⟨found ++ [], ?_⟩
  rw [spelling, List.cons_append, tokens_of_first (shape_of_starts_name startsName).1 token, alone]
  rfl

/-- A name in front of a character that joins it is reported, whatever the variables are. -/
theorem joined_name_is_reported (identifiers : ∀ known ∈ bindings.names, isIdentifier known = true)
    (identifier : isIdentifier word = true) (free : isReserved word = false)
    (joins : Text.isWordCharacter joiner = true) (noName : continuesName joiner = false)
    {text : String} (shape : text.toList = word.toList ++ [joiner]) :
    evaluate bindings text = .error (.unknownName word) := by
  have inWord := Text.characters_of_identifier identifier
  have everyJoins : ∀ character ∈ word.toList ++ [joiner],
      Text.isWordCharacter character = true := by
    rw [List.forall_mem_append, List.forall_mem_singleton]
    exact ⟨fun character member => Text.is_word_character_of_identifier_character
      (List.all_eq_true.mp inWord character member), joins⟩
  obtain ⟨found, read⟩ :=
    tokens_of_joined_name identifier free (not_quote_of_word_character joins) noName
  have tree : Tree.ofText text = .error (.unknownName word) := by
    rw [Tree.ofText, shape, read]
    exact tree_of_leading_name (not_truth_of_not_reserved free) found
  rw [evaluate, evaluateWith, joined_name_stays identifiers everyJoins noName shape, evaluateText,
    tree]
  rfl

end Joining

section Reported

variable {bindings : Variables} {text : String} {before : Option Char} {characters word : List Char}

theorem not_joined_of_ascii (ascii : characters.all Text.isAscii = true) :
    ¬ Joined before characters word := by
  rintro ⟨front, found, joiner, back, outside, -, -, joins, noName⟩
  have member : joiner ∈ characters := by
    rw [outside.shape]
    simp
  rw [Text.isWordCharacter, if_pos (List.all_eq_true.mp ascii joiner member)] at joins
  rw [continues_name_of_identifier_character joins] at noName
  cases noName

/-- A name that is reported as unknown is not known, unless in the text a character joins it that
continues no name, or it is the word for a number that is not finite and such a number is known. -/
theorem known_name_is_not_reported {name : String}
    (identifiers : ∀ known ∈ bindings.names, isIdentifier known = true)
    (closed : Closed text.toList) (separate : ¬ Joined none text.toList name.toList)
    (finite : name ∈ ["inf", "NaN"] → ∀ entry ∈ bindings.entries, entry.2.Finite)
    (reported : evaluate bindings text = .error (.unknownName name)) :
    bindings.lookup? name = none := by
  cases known : bindings.lookup? name with
  | none => rfl
  | some value =>
      rw [evaluate, evaluateWith, substitute_eq] at reported
      obtain ⟨found, read, noTruth, awaited⟩ := awaited_of_reported reported
      rw [String.toList_ofList, tokens_iff_cut] at read
      have hidden : ∀ entry ∈ bindings.entries, ¬ ShownWord entry.2 name := by
        intro entry member shown
        cases shown with
        | truth answer =>
            obtain ⟨notTrue, notFalse⟩ := noTruth
            cases answer with
            | true => exact absurd notTrue (by decide)
            | false => exact absurd notFalse (by decide)
        | infinite listed notFinite => exact notFinite (finite listed entry member)
      have apart := stands_apart_of_awaited read awaited
      exact absurd apart
        (known_name_gives_way identifiers known hidden closed separate (Or.inl rfl))

/-- A name that is not known, behind one that is and behind a literal. -/
theorem known_name_is_not_reported_spelled :
    let bindings : Variables := ⟨[("x", .text "1")], by decide⟩
    let text := "X+'inf'<inf"
    evaluate bindings text = .error (.unknownName "inf") ∧ bindings.lookup? "inf" = none := by
  intro bindings text
  have identifiers : ∀ known ∈ bindings.names, isIdentifier known = true := by decide
  have shape : text.toList =
      ['X', '+'] ++ ('\x27' :: (['i', 'n', 'f'] ++ ['\x27']) ++ ['<', 'i', 'n', 'f']) := by decide
  have quoted : Escapes '\x27' ['i', 'n', 'f'] ['i', 'n', 'f'] :=
    .plain (by decide) (by decide) (.plain (by decide) (by decide)
      (.plain (by decide) (by decide) .done))
  have behind : Closed ['<', 'i', 'n', 'f'] := .plain rfl (.plain rfl (.plain rfl (.plain rfl .done)))
  have closed : Closed text.toList := by
    rw [shape]
    exact .plain rfl (.plain rfl (.literal rfl quoted behind))
  have separate : ¬ Joined none text.toList "inf".toList := not_joined_of_ascii (by decide)
  have finite : ∀ entry ∈ bindings.entries, entry.2.Finite := List.forall_mem_singleton.mpr nofun
  have reported : evaluate bindings text = .error (.unknownName "inf") := by decide +kernel
  exact ⟨reported, known_name_is_not_reported identifiers closed separate (fun _ => finite) reported⟩

theorem accent_joins : Text.isWordCharacter '\u0301' = true ∧ continuesName '\u0301' = false := by
  have notAscii : ¬ Text.isAscii '\u0301' = true := by decide
  constructor
  · rw [Text.isWordCharacter, if_neg notAscii, Text.in_ranges_eq, Text.in_ranges_eq]
    decide +kernel
  · rw [continuesName, Text.isLetter, Text.isNumeral, if_neg notAscii, if_neg notAscii,
      Text.in_ranges_eq, Text.in_ranges_eq]
    decide +kernel

/-- The word for an infinite number is read as a name, and so is what stands in front of an accent
that belongs to the same word. -/
theorem known_names_are_reported :
    let infinite := Value.real (Number.Binary.toFloat (.infinite false))
    let numbers : Variables := ⟨[("inf", infinite)], by decide⟩
    let whole : Variables := ⟨[("x", .integer 1)], by decide⟩
    (∀ known ∈ numbers.names ++ whole.names, isIdentifier known = true) ∧
      (evaluate numbers "inf" = .error (.unknownName "inf") ∧
        numbers.lookup? "inf" = some infinite) ∧
      evaluate whole "x\u0301" = .error (.unknownName "x") ∧
        whole.lookup? "x" = some (.integer 1) := by
  intro infinite numbers whole
  refine ⟨by decide, ⟨by decide +kernel, rfl⟩, ?_, rfl⟩
  have identifiers : ∀ known ∈ whole.names, isIdentifier known = true := by decide
  have identifier : isIdentifier "x" = true := by decide
  have free : isReserved "x" = false := by decide
  obtain ⟨joins, noName⟩ := accent_joins
  exact joined_name_is_reported identifiers identifier free joins noName (by decide)

end Reported

end LineTemplate.Expression

import LineTemplate.Proofs.Expression.Grammar
import LineTemplate.Proofs.Expression.Literals
import LineTemplate.Proofs.Expression.Substitution

/-!
Names in expressions stand for values. Putting literals into the text and evaluating what comes out
is the same as evaluating the expression with each name bound to the number its value spells, or to
the value itself; the leftmost name without a value is an error.

The proof follows the text: the words of the written expression give way to words that are read as
the tokens of an operand, those tokens write the term with its values put in, and the tree of that
term has the value of the tree with the values themselves as leaves.
-/

namespace LineTemplate

/-- The names are identifiers and no reserved words, and the values are read back from their
literals. -/
structure Variables.Substitutable (bindings : Variables) : Prop where
  isIdentifier : ∀ name ∈ bindings.names, isIdentifier name = true
  notReserved : ∀ name ∈ bindings.names, Expression.isReserved name = false
  readsBack : ∀ entry ∈ bindings.entries, entry.2.ReadsBack

namespace Expression

variable {bindings : Variables} {pattern : NamePattern}

/-- A reserved word has no value, in whatever case it is written. -/
theorem lookup_of_reserved (substitutable : bindings.Substitutable) {word : String}
    (reserved : isReserved word = true) : bindings.lookup? word = none := by
  cases found : bindings.lookup? word with
  | none => rfl
  | some value =>
      obtain ⟨name, member, same⟩ := Variables.entry_of_lookup found
      have free := substitutable.notReserved name (List.mem_map_of_mem member)
      rw [isReserved, List.any_eq_true] at reserved
      obtain ⟨listed, isListed, equal⟩ := reserved
      have taken : isReserved name = true := by
        rw [isReserved, List.any_eq_true]
        exact ⟨listed, isListed, Text.equal_ignoring_case_trans same equal⟩
      rw [taken] at free
      cases free

theorem reads_back_of_lookup (substitutable : bindings.Substitutable) {word : String}
    {value : Value} (found : bindings.lookup? word = some value) : value.ReadsBack := by
  obtain ⟨name, member, _⟩ := Variables.entry_of_lookup found
  exact substitutable.readsBack (name, value) member

section Reading

/-- What a token of the text becomes. -/
def standIn (bindings : Variables) : Token → List Token
  | .name word =>
      match bindings.lookup? word with
      | some value => tokensOfValue value.canonical
      | none => [.name word]
  | token => [token]

theorem stand_in_of_unknown {word : String} (unknown : bindings.lookup? word = none) :
    standIn bindings (.name word) = [.name word] := by
  rw [standIn, unknown]

theorem stand_in_of_lookup {word : String} {value : Value}
    (found : bindings.lookup? word = some value) :
    standIn bindings (.name word) = tokensOfValue value.canonical := by
  rw [standIn, found]

theorem word_token_cases (word : String) :
    wordToken word = .name word ∨ isReserved word = true ∧
      (wordToken word = .and ∨ wordToken word = .or ∨ wordToken word = .bang) := by
  unfold wordToken
  split
  · next isAnd => exact Or.inr ⟨by simp [isReserved, isAnd], Or.inl rfl⟩
  · split
    · next isOr => exact Or.inr ⟨by simp [isReserved, isOr], Or.inr (Or.inl rfl)⟩
    · split
      · next isNot => exact Or.inr ⟨by simp [isReserved, isNot], Or.inr (Or.inr rfl)⟩
      · exact Or.inl rfl

theorem stand_in_of_symbol {token : Token} {characters : List Char}
    (listed : (token, characters) ∈ symbols) : standIn bindings token = [token] := by
  have noNames : ∀ symbol ∈ symbols, ∀ word, symbol.1 ≠ .name word := by
    intro symbol member word same
    simp only [symbols, List.mem_cons, List.not_mem_nil, or_false] at member
    rcases member with rfl | rfl | rfl | rfl | rfl | rfl | rfl | rfl | rfl | rfl | rfl | rfl | rfl |
      rfl | rfl | rfl | rfl | rfl | rfl | rfl <;> cases same
  cases token with
  | name word => exact absurd rfl (noNames _ listed word)
  | _ => rfl

theorem lexes_replacement_of_word (substitutable : bindings.Substitutable) {word : String}
    (identifier : isIdentifier word = true) :
    Lexes (replacementOf bindings word.toList) (standIn bindings (wordToken word)) := by
  cases found : bindings.lookup? word with
  | none =>
      have stays : standIn bindings (wordToken word) = [wordToken word] := by
        rcases word_token_cases word with named | ⟨_, isAnd | isOr | isNot⟩
        · rw [named, stand_in_of_unknown found]
        · rw [isAnd]
          rfl
        · rw [isOr]
          rfl
        · rw [isNot]
          rfl
      rw [stays, replacement_of_unknown (by rwa [String.ofList_toList])]
      exact lexes_word identifier
  | some value =>
      have named : wordToken word = .name word := by
        rcases word_token_cases word with named | ⟨reserved, _⟩
        · exact named
        · rw [lookup_of_reserved substitutable reserved] at found
          cases found
      rw [named, stand_in_of_lookup found, replacementOf, String.ofList_toList, found]
      exact lexes_literal (reads_back_of_lookup substitutable found)

/-- Every word gives way to one that is read as what its token becomes. -/
theorem gives_way_of_spells (substitutable : bindings.Substitutable)
    (identifiers : pattern.OnlyIdentifiers) (covers : pattern.Covers bindings) {token : Token}
    {word : List Char} (spells : Spells token word) :
    ∃ other, GivesWay pattern (replacementOf bindings) word other ∧
      Lexes other (standIn bindings token) := by
  have lexed := lexes_of_spells spells
  cases spells with
  | decimal isDigits fits =>
      refine ⟨word, ?_, lexed⟩
      rw [Number.isDigits, Bool.and_eq_true] at isDigits
      cases word with
      | nil => cases isDigits.1
      | cons digit digits =>
          have all := isDigits.2
          rw [List.all_cons, Bool.and_eq_true, List.all_eq_true] at all
          apply gives_way_of_numeral identifiers all.1
          rw [List.all_eq_true]
          exact fun other member => Text.identifier_character_of_digit (all.2 other member)
  | hexadecimal isMark nonempty isHex fits =>
      refine ⟨_, ?_, lexed⟩
      apply gives_way_of_numeral identifiers rfl
      rw [List.all_cons, Bool.and_eq_true, List.all_eq_true]
      constructor
      · rcases isMark with rfl | rfl <;> rfl
      · intro digit member
        exact identifier_character_of_hex_digit (List.all_eq_true.mp isHex digit member)
  | text isQuote escapes => exact ⟨_, gives_way_of_text isQuote escapes, lexed⟩
  | word identifier =>
      exact ⟨_, gives_way_of_word identifiers covers identifier,
        lexes_replacement_of_word substitutable identifier⟩
  | symbol listed =>
      refine ⟨word, gives_way_of_symbol identifiers listed, ?_⟩
      rw [stand_in_of_symbol listed]
      exact lexed

theorem ends_word_of_replaced (identifiers : pattern.OnlyIdentifiers)
    {replacement : List Char → List Char} {before : Option Char} {found : Bool} {text : List Char}
    (apart : ∀ next ∈ text.head?, next = ' ') :
    EndsWord (replaceFrom pattern replacement before found 0 text) := by
  cases text with
  | nil =>
      rw [replace_from_nil identifiers]
      intro next here
      cases here
  | cons next text =>
      rw [apart next rfl, replace_from_space identifiers]
      rintro _ ⟨rfl⟩
      exact Or.inl rfl

/-- The replaced text is read as what the tokens of the text become. Where a word starts, no other
word ends. -/
theorem tokens_of_replaced (substitutable : bindings.Substitutable)
    (identifiers : pattern.OnlyIdentifiers) (covers : pattern.Covers bindings)
    {written : List Token} {text : List Char} (spaced : Spaced written text)
    (before : Option Char) (found : Bool)
    (free : before.any Text.isWordCharacter = false ∨ ∀ next ∈ text.head?, next = ' ') :
    tokens (replaceFrom pattern (replacementOf bindings) before found 0 text) =
      .ok (written.flatMap (standIn bindings)) := by
  induction spaced generalizing before found with
  | done =>
      rw [replace_from_nil identifiers, tokens_nil]
      rfl
  | space rest ih =>
      rw [replace_from_space identifiers, tokens_of_blank rfl]
      exact ih (some ' ') false (Or.inl rfl)
  | @word token written word text spells apart rest ih =>
      have apartBefore : before.any Text.isWordCharacter = false := by
        rcases free with apartBefore | spaced
        · exact apartBefore
        · obtain ⟨first, body, rfl, notSpace⟩ := first_of_spells spells
          exact absurd (spaced first rfl) notSpace
      have ends : EndsWord text := fun next here => Or.inl (apart next here)
      obtain ⟨other, givesWay, lexed⟩ :=
        gives_way_of_spells substitutable identifiers covers spells
      obtain ⟨final, flag, replaced⟩ := givesWay before found text apartBefore ends
      rw [replaced, lexed _ (ends_word_of_replaced identifiers apart),
        ih final flag (Or.inr apart), List.flatMap_cons]
      rfl

theorem tokens_of_substitute (substitutable : bindings.Substitutable)
    (identifiers : pattern.OnlyIdentifiers) (covers : pattern.Covers bindings)
    {written : List Token} {text : String} (spaced : Spaced written text.toList) :
    tokens (substitute pattern bindings text).toList =
      .ok (written.flatMap (standIn bindings)) := by
  rw [substitute_eq, String.toList_ofList]
  exact tokens_of_replaced substitutable identifiers covers spaced none false (Or.inl rfl)

end Reading

section Standing

variable {nesting : Nat} {level : Level} {written : List Token} {term : Term}

/-- The term that the literal of a value is read as. -/
def Term.ofValue : Value → Term
  | .integer whole =>
      if whole.toInt < 0 then
        .unary .negate (.literal (.integer (Int64.ofInt (-whole.toInt))))
      else .literal (.integer whole)
  | value => .literal value

/-- The term with its values put in. -/
def Term.standIn (bindings : Variables) : Term → Term
  | .literal value => .literal value
  | .name word =>
      match bindings.lookup? word with
      | some value => .ofValue value.canonical
      | none => .name word
  | .unary operator operand => .unary operator (operand.standIn bindings)
  | .binary operator left right =>
      .binary operator (left.standIn bindings) (right.standIn bindings)
  | .choice condition whenTrue whenFalse =>
      .choice (condition.standIn bindings) (whenTrue.standIn bindings)
        (whenFalse.standIn bindings)

/-- A literal is one operand. A negative integer takes two nestings, for its parentheses and its
sign. -/
theorem written_of_value (value : Value) (nesting : Nat) :
    Written .operand (nesting + 2) (tokensOfValue value) (Term.ofValue value) := by
  cases value with
  | integer whole =>
      rw [tokensOfValue, Term.ofValue]
      split
      · exact .parenthesis (written_looser (Nat.zero_le _) (.negation (.integer _)))
      · exact .integer whole
  | real value => exact .real value
  | text value => exact .text value
  | truth value =>
      apply Written.truth
      cases value <;> decide

theorem stand_in_of_operator {token : Token} {operator : BinaryOperator}
    (operates : level.operator? token = some operator) : standIn bindings token = [token] := by
  cases token with
  | name word => cases level <;> cases operates
  | _ => rfl

/-- With values put in for its names, a written term is still written, two nestings deeper. -/
theorem written_stand_in (substitutable : bindings.Substitutable)
    (derivation : Written level nesting written term) :
    Written level (nesting + 2) (written.flatMap (standIn bindings)) (term.standIn bindings) := by
  induction derivation with
  | tighter loose _ ih => exact .tighter loose ih
  | choice _ _ _ ihTested ihTrue ihFalse =>
      simp only [List.flatMap_append, List.flatMap_cons]
      exact .choice ihTested ihTrue ihFalse
  | binary operates _ _ ihBefore ihAfter =>
      rw [List.flatMap_append, List.flatMap_cons, stand_in_of_operator operates]
      exact .binary operates ihBefore ihAfter
  | negation _ ih => exact .negation ih
  | refusal _ ih => exact .refusal ih
  | plus _ ih => exact .plus ih
  | parenthesis _ ih =>
      rw [List.flatMap_cons, List.flatMap_append]
      exact .parenthesis ih
  | integer value => exact .integer value
  | real value => exact .real value
  | text value => exact .text value
  | @truth nesting word value spelled =>
      have reserved : isReserved word = true := by
        cases value with
        | true =>
            have isTrue : Text.equalIgnoringCase word "true" = true := spelled
            simp [isReserved, isTrue]
        | false =>
            have isFalse : Text.equalIgnoringCase word "false" = true := spelled
            simp [isReserved, isFalse]
      have stays := stand_in_of_unknown (lookup_of_reserved substitutable reserved)
      rw [List.flatMap_cons, stays]
      exact .truth spelled
  | @name nesting word notTrue notFalse =>
      rw [List.flatMap_cons, List.flatMap_nil, List.append_nil, Term.standIn]
      cases found : bindings.lookup? word with
      | none =>
          rw [stand_in_of_unknown found]
          exact .name notTrue notFalse
      | some value =>
          rw [stand_in_of_lookup found]
          exact written_of_value value.canonical nesting

/-- The names that keep standing are those without a value. -/
theorem names_stand_in (bindings : Variables) (term : Term) :
    (term.standIn bindings).names =
      term.names.filter fun name => (bindings.lookup? name).isNone := by
  induction term with
  | literal => rfl
  | name word =>
      rw [Term.standIn]
      cases found : bindings.lookup? word with
      | none => simp [Term.names, found]
      | some value =>
          simp only [Term.names, List.filter_cons, found, Option.isNone_some, List.filter_nil]
          unfold Term.ofValue
          split
          · split <;> rfl
          · rfl
  | unary operator operand ih => exact ih
  | binary operator left right ihLeft ihRight =>
      simp only [Term.standIn, Term.names, List.filter_append, ihLeft, ihRight]
  | choice condition whenTrue whenFalse ihCondition ihTrue ihFalse =>
      simp only [Term.standIn, Term.names, List.filter_append, ihCondition, ihTrue, ihFalse]

theorem ne_least_of_canonical {value : Value} {whole : Int64} (readsBack : value.ReadsBack)
    (canonical : value.canonical = .integer whole) : whole ≠ Int64.minValue := by
  rw [Value.canonical] at canonical
  rw [Value.ReadsBack] at readsBack
  cases numeral : value.numeral? with
  | none =>
      rw [numeral] at canonical
      rw [show value = .integer whole from canonical] at numeral
      cases numeral
  | some read =>
      rw [numeral] at canonical readsBack
      cases read with
      | integer =>
          cases canonical
          exact readsBack
      | real => cases canonical

theorem evaluate_of_value {value : Value} (readsBack : value.ReadsBack)
    (meaning : String → Value) :
    ((Term.ofValue value.canonical).ground meaning).evaluate = .ok value.canonical := by
  cases canonical : value.canonical with
  | integer whole =>
      rw [Term.ofValue]
      split
      · next sign =>
          have notLeast := ne_least_of_canonical readsBack canonical
          simp only [Term.ground, Tree.evaluate, applyUnary]
          change arithmeticResult _ = _
          rw [negate_of_magnitude sign notLeast]
          rfl
      · rfl
  | real => rfl
  | text => rfl
  | truth => rfl

/-- Values put in and values bound to names come to the same. -/
theorem evaluate_stand_in (substitutable : bindings.Substitutable) {meaning : String → Value}
    (other : String → Value) {term : Term}
    (meant : ∀ name ∈ term.names,
      (bindings.lookup? name).map Value.canonical = some (meaning name)) :
    ((term.standIn bindings).ground other).evaluate = (term.ground meaning).evaluate := by
  induction term with
  | literal => rfl
  | name word =>
      have named := meant word List.mem_cons_self
      cases found : bindings.lookup? word with
      | none =>
          rw [found] at named
          cases named
      | some value =>
          rw [found, Option.map_some, Option.some.injEq] at named
          rw [Term.standIn, found, Term.ground, ← named]
          exact evaluate_of_value (reads_back_of_lookup substitutable found) other
  | unary operator operand ih =>
      simp only [Term.standIn, Term.ground, Tree.evaluate, ih meant]
  | binary operator left right ihLeft ihRight =>
      have onLeft := ihLeft fun name member => meant name (List.mem_append_left _ member)
      have onRight := ihRight fun name member => meant name (List.mem_append_right _ member)
      cases operator <;>
        simp only [Term.standIn, Term.ground, Tree.evaluate, onLeft, onRight]
  | choice condition whenTrue whenFalse ihCondition ihTrue ihFalse =>
      have onCondition := ihCondition fun name member =>
        meant name (List.mem_append_left _ (List.mem_append_left _ member))
      have onTrue := ihTrue fun name member =>
        meant name (List.mem_append_left _ (List.mem_append_right _ member))
      have onFalse := ihFalse fun name member => meant name (List.mem_append_right _ member)
      simp only [Term.standIn, Term.ground, Tree.evaluate, onCondition, onTrue, onFalse]

end Standing

/-- The tree of the replaced text is that of the term with its values put in. The text leaves room
for the two nestings of a negative integer. -/
theorem tree_of_substitute (substitutable : bindings.Substitutable)
    (identifiers : pattern.OnlyIdentifiers) (covers : pattern.Covers bindings) {term : Term}
    {written : List Token} {text : String} (derives : Derives 254 written term)
    (spaced : Spaced written text.toList) :
    Tree.ofText (substitute pattern bindings text) = (term.standIn bindings).tree := by
  have deeper : Derives maximalNesting (written.flatMap (standIn bindings))
      (term.standIn bindings) := written_stand_in substitutable derives
  rw [Tree.ofText, tokens_of_substitute substitutable identifiers covers spaced]
  exact of_tokens_of_derives deeper

/-- A written expression has the value of its term with each name bound to the canonical value of
its variable. If a name has no value, the leftmost such name is the error. -/
theorem substitution_is_scoped_lookup (substitutable : bindings.Substitutable) {term : Term}
    {written : List Token} {text : String} (derives : Derives 254 written term)
    (spaced : Spaced written text.toList) :
    (∀ word, term.names.find? (fun name => (bindings.lookup? name).isNone) = some word →
        evaluate bindings text = .error (.unknownName word)) ∧
      ∀ meaning : String → Value,
        (∀ name ∈ term.names,
          (bindings.lookup? name).map Value.canonical = some (meaning name)) →
        evaluate bindings text = (term.ground meaning).evaluate := by
  have identifiers := NamePattern.of_variables_only_identifiers substitutable.isIdentifier
  have covers := NamePattern.of_variables_covers bindings
  have read := tree_of_substitute substitutable identifiers covers derives spaced
  have names := names_stand_in bindings term
  constructor
  · intro word unknown
    have first : (term.standIn bindings).names.head? = some word := by
      rw [names, List.head?_filter, unknown]
    rw [evaluate, evaluateWith, evaluateText, read, Term.tree_of_first_name first]
    rfl
  · intro meaning meant
    have noNames : (term.standIn bindings).names = [] := by
      rw [names, List.filter_eq_nil_iff]
      intro name member
      have named := meant name member
      cases found : bindings.lookup? name with
      | none =>
          rw [found] at named
          cases named
      | some value => simp
    rw [evaluate, evaluateWith, evaluateText, read, Term.tree_of_no_names meaning noNames]
    exact evaluate_stand_in substitutable meaning meant

/-- Text with quotes and a negative integer, in another case than that of their names. -/
theorem substitution_is_scoped_lookup_titled :
    let bindings : Variables :=
      ⟨[("N", .integer (-5)), ("title", .text "say \"hi\"")], by decide⟩
    let written : List Token := [.name "TITLE", .plus, .minus, .name "n", .star, .integer 2]
    let term : Term := .binary (.arithmetic .add) (.name "TITLE")
      (.binary (.arithmetic .multiply) (.unary .negate (.name "n")) (.literal (.integer 2)))
    bindings.Substitutable ∧ Derives 254 written term ∧
      Spaced written "TITLE + - n * 2".toList ∧
      evaluate bindings "TITLE + - n * 2" = .ok (.text "say \"hi\"10") := by
  intro bindings written term
  have substitutable : bindings.Substitutable := by
    refine ⟨by decide, by decide, ?_⟩
    intro entry member
    simp only [bindings, List.mem_cons, List.not_mem_nil, or_false] at member
    rcases member with rfl | rfl
    · change (-5 : Int64) ≠ Int64.minValue
      decide
    · exact trivial
  have derives : Derives 254 written term := by
    have title : Written .sum 253 [.name "TITLE"] (.name "TITLE") :=
      written_looser (by decide) (.name rfl rfl)
    have negated : Written .product 253 [.minus, .name "n"] (.unary .negate (.name "n")) :=
      written_looser (by decide) (.negation (.name rfl rfl))
    have product : Written .product 253 _ _ :=
      @Written.binary .product 253 .star (.arithmetic .multiply) _ _ _ _ rfl negated (.integer 2)
    have sum : Written .sum 253 _ _ :=
      @Written.binary .sum 253 .plus (.arithmetic .add) _ _ _ _ rfl title product
    exact written_looser (Nat.zero_le _) sum
  have spaced : Spaced written "TITLE + - n * 2".toList := by
    have title : Spells (.name "TITLE") "TITLE".toList := @Spells.word "TITLE" (by decide)
    have name : Spells (.name "n") "n".toList := @Spells.word "n" (by decide)
    have plus : Spells .plus ['+'] := .symbol (by simp [symbols])
    have minus : Spells .minus ['-'] := .symbol (by simp [symbols])
    have star : Spells .star ['*'] := .symbol (by simp [symbols])
    have two : Spells (.integer 2) ['2'] := .decimal (by decide) (by decide)
    have apart (text : List Char) : ∀ next ∈ (' ' :: text).head?, next = ' ' := by
      rintro _ ⟨rfl⟩
      rfl
    have last : Spaced [.integer 2] (['2'] ++ []) := .word two (by rintro _ ⟨⟩) .done
    exact .word title (apart _) (.space (.word plus (apart _) (.space (.word minus (apart _)
      (.space (.word name (apart _) (.space (.word star (apart _) (.space last)))))))))
  have value := (substitution_is_scoped_lookup substitutable derives spaced).2
    (fun name => if name = "n" then .integer (-5) else .text "say \"hi\"") (by decide)
  exact ⟨substitutable, derives, spaced, value⟩

end Expression

end LineTemplate

import LineTemplate.Proofs.Expression.Grammar
import LineTemplate.Proofs.Expression.Literals

/-!
Writing terms. Each term is written with parentheses only where the grammar needs them, and each
text of tokens is spelled with one space after a word, so that every expression of names, integers,
texts and truths has a text that reads as it.
-/

namespace LineTemplate.Expression

namespace BinaryOperator

def level : BinaryOperator → Level
  | .or => .or
  | .and => .and
  | .comparison .equal | .comparison .notEqual => .equality
  | .comparison _ => .relation
  | .arithmetic .add | .arithmetic .subtract => .sum
  | .arithmetic _ => .product

def token : BinaryOperator → Token
  | .or => .or
  | .and => .and
  | .comparison .equal => .equal
  | .comparison .notEqual => .notEqual
  | .comparison .less => .less
  | .comparison .lessOrEqual => .lessOrEqual
  | .comparison .greater => .greater
  | .comparison .greaterOrEqual => .greaterOrEqual
  | .arithmetic .add => .plus
  | .arithmetic .subtract => .minus
  | .arithmetic .multiply => .star
  | .arithmetic .divide => .slash
  | .arithmetic .remainder => .percent

theorem operator_of_token (operator : BinaryOperator) :
    operator.level.operator? operator.token = some operator := by
  rcases operator with operator | comparison | _ | _
  · cases operator <;> rfl
  · cases comparison <;> rfl
  · rfl
  · rfl

end BinaryOperator

def UnaryOperator.token : UnaryOperator → Token
  | .negate => .minus
  | .not => .bang

namespace Term

/-- The tightest level at which the term is written without parentheses around it. -/
def level : Term → Level
  | .binary operator _ _ => operator.level
  | .choice .. => .choice
  | _ => .operand

/-- The tokens of a term that stands at a level, in parentheses if it is too loose for it. -/
def enclose (level : Level) (term : Term) (written : List Token) : List Token :=
  if level.rank ≤ term.level.rank then written else .opening :: (written ++ [.closing])

def leafTokens : Value → List Token
  | .integer value => [.integer value]
  | .real value => [.real value]
  | .text value => [.text value]
  | .truth value => [.name (if value then "true" else "false")]

def write : Term → List Token
  | .literal value => leafTokens value
  | .name word => [.name word]
  | .unary operator operand => operator.token :: operand.enclose .operand operand.write
  | .binary operator left right =>
      left.enclose operator.level left.write ++
        operator.token :: right.enclose operator.level.tighter right.write
  | .choice condition whenTrue whenFalse =>
      condition.enclose .or condition.write ++
        .question :: (whenTrue.write ++ .colon :: whenFalse.write)

/-- Nestings that a term takes at a level, given those it takes without parentheses. -/
def nestingAt (level : Level) (term : Term) (inside : Nat) : Nat :=
  if level.rank ≤ term.level.rank then inside else inside + 1

def nesting : Term → Nat
  | .literal _ => 0
  | .name _ => 0
  | .unary _ operand => operand.nestingAt .operand operand.nesting + 1
  | .binary operator left right =>
      max (left.nestingAt operator.level left.nesting)
        (right.nestingAt operator.level.tighter right.nesting)
  | .choice condition whenTrue whenFalse =>
      max (condition.nestingAt .or condition.nesting)
        (max whenTrue.nesting whenFalse.nesting + 1)

/-- The leaves are names, texts, truths and integers that are not negative. -/
def Plain : Term → Prop
  | .literal (.integer value) => 0 ≤ value.toInt
  | .literal (.real _) => False
  | .literal _ => True
  | .name word => isIdentifier word = true ∧ isReserved word = false
  | .unary _ operand => operand.Plain
  | .binary _ left right => left.Plain ∧ right.Plain
  | .choice condition whenTrue whenFalse =>
      condition.Plain ∧ whenTrue.Plain ∧ whenFalse.Plain

end Term

section Writing

variable {term : Term}

theorem written_enclose {level : Level} {available : Nat}
    (enough : term.nestingAt level term.nesting ≤ available)
    (written : ∀ {nesting : Nat}, term.nesting ≤ nesting →
      Written term.level nesting term.write term) :
    Written level available (term.enclose level term.write) term := by
  rw [Term.nestingAt] at enough
  rw [Term.enclose]
  by_cases tight : level.rank ≤ term.level.rank
  · rw [if_pos tight] at enough ⊢
    exact written_looser tight (written enough)
  · rw [if_neg tight] at enough ⊢
    obtain ⟨fewer, rfl⟩ : ∃ fewer, available = fewer + 1 := ⟨available - 1, by omega⟩
    have whole : Written .choice fewer term.write term :=
      written_looser (Nat.zero_le _) (written (Nat.le_of_succ_le_succ enough))
    have tightest : level.rank ≤ Level.operand.rank := by cases level <;> decide
    exact written_looser tightest (.parenthesis whole)

theorem written_leaf (value : Value) (nesting : Nat) :
    Written .operand nesting (Term.leafTokens value) (.literal value) := by
  cases value with
  | integer value => exact .integer value
  | real value => exact .real value
  | text value => exact .text value
  | truth value =>
      apply Written.truth
      cases value <;> decide

theorem not_truth_of_not_reserved {word : String} (free : isReserved word = false) :
    Text.equalIgnoringCase word "true" = false ∧ Text.equalIgnoringCase word "false" = false := by
  rw [isReserved, List.any_eq_false] at free
  constructor
  · simpa using free "true" (by decide)
  · simpa using free "false" (by decide)

/-- The tokens of a term write it. -/
theorem written_of_write (plain : term.Plain) {nesting : Nat} (enough : term.nesting ≤ nesting) :
    Written term.level nesting term.write term := by
  induction term generalizing nesting with
  | literal value => exact written_leaf value nesting
  | name word =>
      obtain ⟨notTrue, notFalse⟩ := not_truth_of_not_reserved plain.2
      exact .name notTrue notFalse
  | unary operator operand ih =>
      rw [Term.nesting] at enough
      obtain ⟨fewer, rfl⟩ : ∃ fewer, nesting = fewer + 1 := ⟨nesting - 1, by omega⟩
      have inside := written_enclose (Nat.le_of_succ_le_succ enough) (ih plain)
      cases operator with
      | negate => exact .negation inside
      | not => exact .refusal inside
  | binary operator left right ihLeft ihRight =>
      rw [Term.nesting, Nat.max_le] at enough
      exact .binary operator.operator_of_token (written_enclose enough.1 (ihLeft plain.1))
        (written_enclose enough.2 (ihRight plain.2))
  | choice condition whenTrue whenFalse ihCondition ihTrue ihFalse =>
      rw [Term.nesting, Nat.max_le] at enough
      obtain ⟨fewer, rfl⟩ : ∃ fewer, nesting = fewer + 1 := ⟨nesting - 1, by omega⟩
      have arms := Nat.max_le.mp (Nat.le_of_succ_le_succ enough.2)
      exact .choice (written_enclose enough.1 (ihCondition plain.1))
        (written_looser (Nat.zero_le _) (ihTrue plain.2.1 arms.1))
        (written_looser (Nat.zero_le _) (ihFalse plain.2.2 arms.2))

end Writing

section Spelling

/-- Some word is a spelling of the token. -/
def Token.Spellable (token : Token) : Prop :=
  ∃ word, Spells token word

theorem spellable_symbol {token : Token} (listed : token ∈ symbols.map Prod.fst) :
    token.Spellable := by
  obtain ⟨symbol, member, rfl⟩ := List.mem_map.mp listed
  exact ⟨symbol.2, .symbol member⟩

theorem spellable_integer {value : Int64} (sign : 0 ≤ value.toInt) :
    (Token.integer value).Spellable := by
  refine ⟨value.toInt.toNat.repr.toList, .decimal (Number.is_digits_of_repr _) ?_⟩
  rw [Number.of_decimal_digits_repr, Int.toNat_of_nonneg sign, Number.fit_of_to_int]

theorem spellable_text (content : String) : (Token.text content).Spellable := by
  have spells := Spells.text rfl (escapes_of_escape content.toList)
  rw [String.ofList_toList] at spells
  exact ⟨_, spells⟩

theorem word_token_of_not_reserved {word : String} (free : isReserved word = false) :
    wordToken word = .name word := by
  rw [isReserved, List.any_eq_false] at free
  rw [wordToken, if_neg (free "and" (by decide)), if_neg (free "or" (by decide)),
    if_neg (free "not" (by decide))]

theorem spellable_name {word : String} (identifier : isIdentifier word = true)
    (free : isReserved word = false) : (Token.name word).Spellable := by
  have spells := Spells.word identifier
  rw [word_token_of_not_reserved free] at spells
  exact ⟨word.toList, spells⟩

theorem spellable_truth (value : Bool) :
    (Token.name (if value then "true" else "false")).Spellable := by
  cases value with
  | true => exact ⟨_, @Spells.word "true" (by decide)⟩
  | false => exact ⟨_, @Spells.word "false" (by decide)⟩

theorem spellable_leaf {value : Value} (plain : (Term.literal value).Plain) :
    ∀ token ∈ Term.leafTokens value, token.Spellable := by
  intro token member
  cases value with
  | integer =>
      rw [List.mem_singleton.mp member]
      exact spellable_integer plain
  | real => cases plain
  | text content =>
      rw [List.mem_singleton.mp member]
      exact spellable_text content
  | truth value =>
      rw [List.mem_singleton.mp member]
      exact spellable_truth value

theorem spellable_operator (operator : BinaryOperator) : operator.token.Spellable := by
  apply spellable_symbol
  rcases operator with operator | comparison | _ | _
  · cases operator <;> decide
  · cases comparison <;> decide
  · decide
  · decide

theorem spellable_enclose {level : Level} {term : Term} {written : List Token}
    (spellable : ∀ token ∈ written, token.Spellable) :
    ∀ token ∈ term.enclose level written, token.Spellable := by
  intro token member
  rw [Term.enclose] at member
  split at member
  · exact spellable token member
  · rw [List.mem_cons, List.mem_append, List.mem_singleton] at member
    rcases member with rfl | inside | rfl
    · exact spellable_symbol (by decide)
    · exact spellable token inside
    · exact spellable_symbol (by decide)

theorem spellable_write {term : Term} (plain : term.Plain) :
    ∀ token ∈ term.write, token.Spellable := by
  induction term with
  | literal value => exact spellable_leaf plain
  | name word =>
      intro token member
      rw [List.mem_singleton.mp member]
      exact spellable_name plain.1 plain.2
  | unary operator operand ih =>
      intro token member
      rcases List.mem_cons.mp member with rfl | inside
      · apply spellable_symbol
        cases operator <;> decide
      · exact spellable_enclose (ih plain) token inside
  | binary operator left right ihLeft ihRight =>
      intro token member
      rw [Term.write, List.mem_append, List.mem_cons] at member
      rcases member with inLeft | rfl | inRight
      · exact spellable_enclose (ihLeft plain.1) token inLeft
      · exact spellable_operator operator
      · exact spellable_enclose (ihRight plain.2) token inRight
  | choice condition whenTrue whenFalse ihCondition ihTrue ihFalse =>
      intro token member
      rw [Term.write, List.mem_append, List.mem_cons, List.mem_append, List.mem_cons] at member
      rcases member with inCondition | rfl | inTrue | rfl | inFalse
      · exact spellable_enclose (ihCondition plain.1) token inCondition
      · exact spellable_symbol (by decide)
      · exact ihTrue plain.2.1 token inTrue
      · exact spellable_symbol (by decide)
      · exact ihFalse plain.2.2 token inFalse

theorem spaced_of_spellable {written : List Token}
    (spellable : ∀ token ∈ written, token.Spellable) : ∃ text, Spaced written (' ' :: text) := by
  induction written with
  | nil => exact ⟨[], .space .done⟩
  | cons token written ih =>
      obtain ⟨word, spells⟩ := spellable token List.mem_cons_self
      obtain ⟨text, spaced⟩ :=
        ih fun other member => spellable other (List.mem_cons_of_mem token member)
      have apart : ∀ next ∈ (' ' :: text).head?, next = ' ' := by
        rintro _ ⟨rfl⟩
        rfl
      exact ⟨word ++ ' ' :: text, .space (.word spells apart spaced)⟩

end Spelling

/-- Every plain term has a text, in which it takes one nesting more than its operands do. -/
theorem every_plain_term_is_written {term : Term} (plain : term.Plain) {nesting : Nat}
    (enough : term.nesting < nesting) :
    ∃ written text, Derives nesting written term ∧ Spaced written text := by
  obtain ⟨fewer, rfl⟩ : ∃ fewer, nesting = fewer + 1 := ⟨nesting - 1, by omega⟩
  obtain ⟨text, spaced⟩ := spaced_of_spellable (spellable_write plain)
  have derivation := written_of_write plain (Nat.le_of_lt_succ enough)
  exact ⟨term.write, ' ' :: text, written_looser (Nat.zero_le _) derivation, spaced⟩

end LineTemplate.Expression

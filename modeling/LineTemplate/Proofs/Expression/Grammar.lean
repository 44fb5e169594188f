import LineTemplate.Expression.Evaluation

/-!
The grammar of expressions. Terms are expressions with names in them, and a relation says which
tokens write a term, level by level and with how many nestings. The parser reads whatever the
grammar writes: it yields the tree of the term, or the first of its names, which the parser does not
know.
-/

namespace LineTemplate.Expression

/-- An expression in which names may stand for values. -/
inductive Term where
  | literal (value : Value)
  | name (word : String)
  | unary (operator : UnaryOperator) (operand : Term)
  | binary (operator : BinaryOperator) (left right : Term)
  | choice (condition whenTrue whenFalse : Term)

/-- The names of a term, from left to right. -/
def Term.names : Term → List String
  | literal _ => []
  | name word => [word]
  | unary _ operand => operand.names
  | binary _ left right => left.names ++ right.names
  | choice condition whenTrue whenFalse =>
      condition.names ++ whenTrue.names ++ whenFalse.names

/-- The tree of a term. The first name, if there is any, is an error. -/
def Term.tree : Term → Except Error Tree
  | literal value => .ok (.literal value)
  | name word => .error (.unknownName word)
  | unary operator operand => do
      return .unary operator (← operand.tree)
  | binary operator left right => do
      let leftTree ← left.tree
      let rightTree ← right.tree
      return .binary operator leftTree rightTree
  | choice condition whenTrue whenFalse => do
      let conditionTree ← condition.tree
      let trueTree ← whenTrue.tree
      let falseTree ← whenFalse.tree
      return .choice conditionTree trueTree falseTree

/-- The tree of a term whose names have a meaning. -/
def Term.ground (meaning : String → Value) : Term → Tree
  | literal value => .literal value
  | name word => .literal (meaning word)
  | unary operator operand => .unary operator (operand.ground meaning)
  | binary operator left right =>
      .binary operator (left.ground meaning) (right.ground meaning)
  | choice condition whenTrue whenFalse =>
      .choice (condition.ground meaning) (whenTrue.ground meaning) (whenFalse.ground meaning)

theorem Term.tree_of_no_names (meaning : String → Value) {term : Term} (noNames : term.names = []) :
    term.tree = .ok (term.ground meaning) := by
  induction term with
  | literal => rfl
  | name => cases noNames
  | unary operator operand ih =>
      rw [tree, ih noNames]
      rfl
  | binary operator left right ihLeft ihRight =>
      rw [names, List.append_eq_nil_iff] at noNames
      rw [tree, ihLeft noNames.1, ihRight noNames.2]
      rfl
  | choice condition whenTrue whenFalse ihCondition ihTrue ihFalse =>
      rw [names, List.append_eq_nil_iff, List.append_eq_nil_iff] at noNames
      rw [tree, ihCondition noNames.1.1, ihTrue noNames.1.2, ihFalse noNames.2]
      rfl

theorem Term.tree_of_first_name {word : String} {term : Term}
    (first : term.names.head? = some word) : term.tree = .error (.unknownName word) := by
  have meaning : String → Value := fun _ => default
  induction term with
  | literal => cases first
  | name =>
      cases first
      rfl
  | unary operator operand ih =>
      rw [tree, ih first]
      rfl
  | binary operator left right ihLeft ihRight =>
      rw [names, List.head?_append] at first
      cases atLeft : left.names with
      | cons =>
          rw [tree, ihLeft (by simpa [atLeft] using first)]
          rfl
      | nil =>
          rw [tree, tree_of_no_names meaning atLeft, ihRight (by simpa [atLeft] using first)]
          rfl
  | choice condition whenTrue whenFalse ihCondition ihTrue ihFalse =>
      rw [names, List.append_assoc, List.head?_append, List.head?_append] at first
      cases atCondition : condition.names with
      | cons =>
          rw [tree, ihCondition (by simpa [atCondition] using first)]
          rfl
      | nil =>
          cases atTrue : whenTrue.names with
          | cons =>
              rw [tree, tree_of_no_names meaning atCondition,
                ihTrue (by simpa [atCondition, atTrue] using first)]
              rfl
          | nil =>
              rw [tree, tree_of_no_names meaning atCondition, tree_of_no_names meaning atTrue,
                ihFalse (by simpa [atCondition, atTrue] using first)]
              rfl

/-- The levels of the grammar, from the loosest to the tightest. -/
inductive Level where
  | choice
  | or
  | and
  | equality
  | relation
  | sum
  | product
  | operand
  deriving DecidableEq

namespace Level

def rank : Level → Nat
  | choice => 0
  | or => 1
  | and => 2
  | equality => 3
  | relation => 4
  | sum => 5
  | product => 6
  | operand => 7

def tighter : Level → Level
  | choice => or
  | or => and
  | and => equality
  | equality => relation
  | relation => sum
  | sum => product
  | product => operand
  | operand => operand

/-- The operators of a level that groups to the left. -/
def operator? : Level → Token → Option BinaryOperator
  | choice => fun _ => none
  | or => orOperator?
  | and => andOperator?
  | equality => equalityOperator?
  | relation => relationOperator?
  | sum => sumOperator?
  | product => productOperator?
  | operand => fun _ => none

def parser (steps nesting : Nat) : Level → Parser
  | choice => Expression.choice (disjunction steps (Expression.operand steps nesting))
      (expression steps nesting)
  | or => disjunction steps (Expression.operand steps nesting)
  | and => leftLevel andOperator? steps
      (Expression.equality steps (Expression.operand steps nesting))
  | equality => Expression.equality steps (Expression.operand steps nesting)
  | relation => leftLevel relationOperator? steps (leftLevel sumOperator? steps
      (leftLevel productOperator? steps (Expression.operand steps nesting)))
  | sum => leftLevel sumOperator? steps
      (leftLevel productOperator? steps (Expression.operand steps nesting))
  | product => leftLevel productOperator? steps (Expression.operand steps nesting)
  | operand => Expression.operand steps nesting

end Level

/-- The level at which a token carries an expression on. An assignment sign counts as a sign of
equality, as it is refused there. -/
def Token.level? : Token → Option Level
  | .question => some .choice
  | .or => some .or
  | .and => some .and
  | .equal | .notEqual | .assign => some .equality
  | .less | .lessOrEqual | .greater | .greaterOrEqual => some .relation
  | .plus | .minus => some .sum
  | .star | .slash | .percent => some .product
  | _ => none

/-- Tokens that write a term at a level. The number bounds the nestings inside: each parenthesis,
each arm of a choice and each prefixed operator takes one. -/
inductive Written : Level → Nat → List Token → Term → Prop where
  | tighter {level : Level} {nesting : Nat} {tokens : List Token} {term : Term}
      (loose : level ≠ .operand) (written : Written level.tighter nesting tokens term) :
      Written level nesting tokens term
  | choice {nesting : Nat} {test whenTrue whenFalse : List Token} {condition first second : Term}
      (tested : Written .or (nesting + 1) test condition)
      (isTrue : Written .choice nesting whenTrue first)
      (isFalse : Written .choice nesting whenFalse second) :
      Written .choice (nesting + 1) (test ++ .question :: (whenTrue ++ .colon :: whenFalse))
        (.choice condition first second)
  | binary {level : Level} {nesting : Nat} {token : Token} {operator : BinaryOperator}
      {lefts rights : List Token} {left right : Term} (operates : level.operator? token = some operator)
      (before : Written level nesting lefts left)
      (after : Written level.tighter nesting rights right) :
      Written level nesting (lefts ++ token :: rights) (.binary operator left right)
  | negation {nesting : Nat} {tokens : List Token} {term : Term}
      (operand : Written .operand nesting tokens term) :
      Written .operand (nesting + 1) (.minus :: tokens) (.unary .negate term)
  | refusal {nesting : Nat} {tokens : List Token} {term : Term}
      (operand : Written .operand nesting tokens term) :
      Written .operand (nesting + 1) (.bang :: tokens) (.unary .not term)
  | plus {nesting : Nat} {tokens : List Token} {term : Term}
      (operand : Written .operand nesting tokens term) :
      Written .operand (nesting + 1) (.plus :: tokens) term
  | parenthesis {nesting : Nat} {tokens : List Token} {term : Term}
      (whole : Written .choice nesting tokens term) :
      Written .operand (nesting + 1) (.opening :: (tokens ++ [.closing])) term
  | integer {nesting : Nat} (value : Int64) :
      Written .operand nesting [.integer value] (.literal (.integer value))
  | real {nesting : Nat} (value : Float) :
      Written .operand nesting [.real value] (.literal (.real value))
  | text {nesting : Nat} (value : String) :
      Written .operand nesting [.text value] (.literal (.text value))
  | truth {nesting : Nat} {word : String} {value : Bool}
      (spelled : Text.equalIgnoringCase word (if value then "true" else "false") = true) :
      Written .operand nesting [.name word] (.literal (.truth value))
  | name {nesting : Nat} {word : String} (notTrue : Text.equalIgnoringCase word "true" = false)
      (notFalse : Text.equalIgnoringCase word "false" = false) :
      Written .operand nesting [.name word] (.name word)

theorem Level.rank_tighter {level : Level} (loose : level ≠ .operand) :
    level.tighter.rank = level.rank + 1 := by
  cases level with
  | operand => exact absurd rfl loose
  | _ => rfl

theorem Level.eq_of_rank {level other : Level} (same : level.rank = other.rank) :
    level = other := by
  cases level <;> cases other <;> first | rfl | cases same

/-- What is written at a level is written at every looser one. -/
theorem written_looser {level other : Level} {nesting : Nat} {tokens : List Token} {term : Term}
    (looser : level.rank ≤ other.rank) (written : Written other nesting tokens term) :
    Written level nesting tokens term := by
  by_cases same : level.rank = other.rank
  · rwa [Level.eq_of_rank same]
  · have loose : level ≠ .operand := by
      rintro rfl
      have tightest : other.rank ≤ 7 := by cases other <;> decide
      exact same (Nat.le_antisymm looser tightest)
    have next := Level.rank_tighter loose
    exact .tighter loose (written_looser (by omega) written)
termination_by other.rank - level.rank

/-- What follows does not carry on an expression of the level. -/
def Stops (level : Level) (rest : List Token) : Prop :=
  ∀ token ∈ rest.head?, ∀ other, token.level? = some other → other.rank < level.rank

namespace Level

theorem rank_lt_tighter {level : Level} (loose : level ≠ .operand) :
    level.rank < level.tighter.rank := by
  rw [rank_tighter loose]
  exact Nat.lt_succ_self level.rank

theorem level_of_operator {level : Level} {token : Token} {operator : BinaryOperator}
    (operates : level.operator? token = some operator) : token.level? = some level := by
  cases level <;> cases token <;> first | rfl | cases operates

theorem operator_of_stops {level : Level} {token : Token} {rest : List Token}
    (stops : Stops level (token :: rest)) : level.operator? token = none := by
  cases operates : level.operator? token with
  | none => rfl
  | some operator =>
      exact absurd (stops token rfl level (level_of_operator operates)) (Nat.lt_irrefl _)

end Level

theorem stops_tighter {level : Level} {rest : List Token} (loose : level ≠ .operand)
    (stops : Stops level rest) : Stops level.tighter rest := by
  intro token first other carries
  exact Nat.lt_trans (stops token first other carries) (Level.rank_lt_tighter loose)

theorem stops_of_operator {level : Level} {token : Token} {operator : BinaryOperator}
    (operates : level.operator? token = some operator) (loose : level ≠ .operand)
    (rest : List Token) : Stops level.tighter (token :: rest) := by
  rintro _ ⟨rfl⟩ other carries
  rw [Level.level_of_operator operates] at carries
  cases carries
  exact Level.rank_lt_tighter loose

theorem stops_of_no_level {token : Token} (ends : token.level? = none) (level : Level)
    (rest : List Token) : Stops level (token :: rest) := by
  rintro _ ⟨rfl⟩ other carries
  rw [ends] at carries
  cases carries

theorem stops_question {level : Level} (inside : level ≠ .choice) (rest : List Token) :
    Stops level (.question :: rest) := by
  rintro _ ⟨rfl⟩ _ ⟨rfl⟩
  cases level with
  | choice => exact absurd rfl inside
  | _ => decide

theorem stops_nil (level : Level) : Stops level [] := by
  intro token first
  cases first

/-- What a level does with what it has gathered. -/
def Level.finish : Level → Parsed → Parsed
  | .equality => refuseAssignment
  | _ => id

theorem finish_of_stops {level : Level} {rest : List Token} (stops : Stops level rest)
    (tree : Tree) : level.finish (.ok (tree, rest)) = .ok (tree, rest) := by
  cases level with
  | equality =>
      cases rest with
      | nil => rfl
      | cons token rest =>
          have apart : token ≠ .assign := by
            rintro rfl
            exact absurd (stops .assign rfl .equality rfl) (Nat.lt_irrefl _)
          cases token with
          | assign => exact absurd rfl apart
          | _ => rfl
  | _ => rfl

theorem finish_of_error (level : Level) (error : Error) :
    level.finish (.error error) = .error error := by
  cases level <;> rfl

/-- The levels that group operators to the left. -/
def Level.IsBinary (level : Level) : Prop :=
  level ≠ .choice ∧ level ≠ .operand

theorem is_binary_of_operator {level : Level} {token : Token} {operator : BinaryOperator}
    (operates : level.operator? token = some operator) : level.IsBinary := by
  constructor <;> rintro rfl <;> cases operates

theorem parser_of_binary {level : Level} (isBinary : level.IsBinary) (steps nesting : Nat)
    (tokens : List Token) :
    level.parser steps nesting tokens =
      level.finish (leftLevel level.operator? steps (level.tighter.parser steps nesting) tokens) := by
  cases level with
  | choice => exact absurd rfl isBinary.1
  | operand => exact absurd rfl isBinary.2
  | _ => rfl

/-- The tokens are read as the term, whatever follows, as long as it does not carry them on. -/
def Reads (steps : Nat) (level : Level) (nesting : Nat) (tokens : List Token) (term : Term) : Prop :=
  ∀ rest, Stops level rest →
    level.parser steps nesting (tokens ++ rest) = term.tree.map fun tree => (tree, rest)

/-- The tokens are gathered into the term, even if more operators of the level follow. -/
def Gathers (steps : Nat) (level : Level) (nesting : Nat) (tokens : List Token) (term : Term) :
    Prop :=
  ∀ rest, Stops level.tighter rest → ∃ left, steps ≤ left + tokens.length ∧
    leftLevel level.operator? steps (level.tighter.parser steps nesting) (tokens ++ rest) =
      match term.tree with
      | .error error => .error error
      | .ok tree => gather level.operator? (level.tighter.parser steps nesting) left tree rest

variable {steps nesting : Nat} {level : Level} {tokens : List Token} {term : Term}

theorem gather_of_stops {rest : List Token} (stops : Stops level rest) (operand : Parser)
    (left : Nat) (tree : Tree) :
    gather level.operator? operand left tree rest = .ok (tree, rest) := by
  cases left with
  | zero => rfl
  | succ left =>
      cases rest with
      | nil => rfl
      | cons token rest => simp only [gather, Level.operator_of_stops stops]

theorem reads_of_gathers (isBinary : level.IsBinary)
    (gathers : Gathers steps level nesting tokens term) :
    Reads steps level nesting tokens term := by
  intro rest stops
  obtain ⟨left, _, gathered⟩ := gathers rest (stops_tighter isBinary.2 stops)
  rw [parser_of_binary isBinary, gathered]
  cases term.tree with
  | error error => exact finish_of_error level error
  | ok tree =>
      simp only [gather_of_stops stops]
      exact finish_of_stops stops tree

theorem gathers_of_reads (reads : Reads steps level.tighter nesting tokens term) :
    Gathers steps level nesting tokens term := by
  intro rest stops
  refine ⟨steps, Nat.le_add_right _ _, ?_⟩
  rw [leftLevel, reads rest stops]
  cases term.tree <;> rfl

theorem gathers_binary {token : Token} {operator : BinaryOperator} {lefts rights : List Token}
    {left right : Term} (operates : level.operator? token = some operator)
    (enough : (lefts ++ token :: rights).length ≤ steps)
    (before : Gathers steps level nesting lefts left)
    (after : Reads steps level.tighter nesting rights right) :
    Gathers steps level nesting (lefts ++ token :: rights) (.binary operator left right) := by
  intro rest stops
  have loose := (is_binary_of_operator operates).2
  obtain ⟨remaining, bound, gathered⟩ :=
    before (token :: (rights ++ rest)) (stops_of_operator operates loose _)
  rw [List.length_append, List.length_cons] at enough
  obtain ⟨fewer, rfl⟩ : ∃ fewer, remaining = fewer + 1 := ⟨remaining - 1, by omega⟩
  refine ⟨fewer, by rw [List.length_append, List.length_cons]; omega, ?_⟩
  rw [List.append_assoc, List.cons_append, gathered]
  cases leftTree : left.tree with
  | error error => simp only [Term.tree, leftTree]; rfl
  | ok tree =>
      simp only [gather, operates, after rest stops]
      cases rightTree : right.tree with
      | error error => simp only [Term.tree, leftTree, rightTree]; rfl
      | ok rightTree' => simp only [Term.tree, leftTree, rightTree]; rfl

theorem reads_choice_of_or (reads : Reads steps .or nesting tokens term) :
    Reads steps .choice nesting tokens term := by
  intro rest stops
  have inside : Stops .or rest := stops_tighter (by decide) stops
  have condition := reads rest inside
  simp only [Level.parser] at condition ⊢
  rw [choice, condition]
  cases term.tree with
  | error error => rfl
  | ok tree =>
      cases rest with
      | nil => rfl
      | cons token rest =>
          have apart : token ≠ .question := by
            rintro rfl
            exact absurd (stops .question rfl .choice rfl) (Nat.lt_irrefl _)
          cases token with
          | question => exact absurd rfl apart
          | _ => rfl

theorem reads_choice {test whenTrue whenFalse : List Token} {condition first second : Term}
    (tested : Reads steps .or (nesting + 1) test condition)
    (isTrue : Reads steps .choice nesting whenTrue first)
    (isFalse : Reads steps .choice nesting whenFalse second) :
    Reads steps .choice (nesting + 1) (test ++ .question :: (whenTrue ++ .colon :: whenFalse))
      (.choice condition first second) := by
  intro rest stops
  have atQuestion := tested (.question :: (whenTrue ++ .colon :: (whenFalse ++ rest)))
    (stops_question (by decide) _)
  have atColon := isTrue (.colon :: (whenFalse ++ rest)) (stops_of_no_level rfl .choice _)
  have atEnd := isFalse rest stops
  have arm : expression steps (nesting + 1) = Level.choice.parser steps nesting := rfl
  simp only [Level.parser] at atQuestion
  simp only [List.append_assoc, List.cons_append]
  rw [Level.parser, choice, atQuestion, arm]
  cases conditionTree : condition.tree with
  | error error => simp only [Term.tree, conditionTree]; rfl
  | ok tree =>
      simp only [Except.map, atColon]
      cases firstTree : first.tree with
      | error error => simp only [Term.tree, conditionTree, firstTree]; rfl
      | ok firstTree' =>
          simp only [Except.map, atEnd]
          cases secondTree : second.tree with
          | error error => simp only [Term.tree, conditionTree, firstTree, secondTree]; rfl
          | ok secondTree' => simp only [Term.tree, conditionTree, firstTree, secondTree]; rfl

theorem operand_parser_succ (steps nesting : Nat) :
    Level.operand.parser steps (nesting + 1) =
      operandWith (Level.operand.parser steps nesting) (Level.choice.parser steps nesting) :=
  rfl

theorem operand_with_opening (inner whole : Parser) (rest : List Token) :
    operandWith inner whole (.opening :: rest) =
      match whole rest with
      | .ok (tree, .closing :: after) => .ok (tree, after)
      | .ok _ => malformed .missingClosing
      | .error error => .error error :=
  rfl

theorem operand_with_name (inner whole : Parser) (word : String) (rest : List Token) :
    operandWith inner whole (.name word :: rest) = nameOperand word rest :=
  rfl

theorem reads_unary {token : Token} (operator : UnaryOperator)
    (prefixed : ∀ inner whole rest,
      operandWith inner whole (token :: rest) =
        (inner rest).map fun (operand, after) => (.unary operator operand, after))
    (reads : Reads steps .operand nesting tokens term) :
    Reads steps .operand (nesting + 1) (token :: tokens) (.unary operator term) := by
  intro rest stops
  rw [operand_parser_succ, List.cons_append, prefixed, reads rest stops]
  simp only [Term.tree]
  cases term.tree <;> rfl

theorem reads_parenthesis (reads : Reads steps .choice nesting tokens term) :
    Reads steps .operand (nesting + 1) (.opening :: (tokens ++ [.closing])) term := by
  intro rest _
  have inside := reads (.closing :: rest) (stops_of_no_level rfl .choice rest)
  rw [operand_parser_succ, List.cons_append, List.append_assoc, operand_with_opening]
  rw [List.singleton_append, inside]
  cases term.tree <;> rfl

theorem reads_leaf {token : Token} (leaf : ∀ inner whole rest,
    operandWith inner whole (token :: rest) = term.tree.map fun tree => (tree, rest)) :
    Reads steps .operand nesting [token] term := by
  intro rest _
  rw [Level.parser, operand_eq, List.singleton_append, leaf]

theorem reads_truth {word : String} {value : Bool}
    (spelled : Text.equalIgnoringCase word (if value then "true" else "false") = true) :
    Reads steps .operand nesting [.name word] (.literal (.truth value)) := by
  apply reads_leaf
  intro inner whole rest
  cases value with
  | true =>
      have isTrue : Text.equalIgnoringCase word "true" = true := spelled
      simp only [operand_with_name, nameOperand, isTrue, if_true]
      rfl
  | false =>
      have isFalse : Text.equalIgnoringCase word "false" = true := spelled
      have other : Text.equalIgnoringCase word "true" = false := by
        simp only [Text.equalIgnoringCase, beq_iff_eq] at isFalse ⊢
        rw [isFalse]
        decide
      simp only [operand_with_name, nameOperand, other, isFalse, if_true]
      rfl

theorem reads_name {word : String} (notTrue : Text.equalIgnoringCase word "true" = false)
    (notFalse : Text.equalIgnoringCase word "false" = false) :
    Reads steps .operand nesting [.name word] (.name word) := by
  apply reads_leaf
  intro inner whole rest
  simp only [operand_with_name, nameOperand, notTrue, notFalse]
  rfl

/-- The parser reads what the grammar writes, by induction on how it is written. -/
theorem reads_of_written (written : Written level nesting tokens term)
    (enough : tokens.length ≤ steps) :
    Reads steps level nesting tokens term ∧
      (level.IsBinary → Gathers steps level nesting tokens term) := by
  have operandOnly {nesting : Nat} {tokens : List Token} {term : Term}
      (reads : Reads steps .operand nesting tokens term) :
      Reads steps .operand nesting tokens term ∧
        (Level.operand.IsBinary → Gathers steps .operand nesting tokens term) :=
    ⟨reads, fun isBinary => absurd rfl isBinary.2⟩
  induction written with
  | @tighter level nesting tokens term loose written ih =>
      have reads := (ih enough).1
      by_cases isChoice : level = .choice
      · subst isChoice
        exact ⟨reads_choice_of_or reads, fun isBinary => absurd rfl isBinary.1⟩
      · have gathers := gathers_of_reads reads
        exact ⟨reads_of_gathers ⟨isChoice, loose⟩ gathers, fun _ => gathers⟩
  | choice tested isTrue isFalse ihTested ihTrue ihFalse =>
      simp only [List.length_append, List.length_cons] at enough
      have reads := reads_choice (ihTested (by omega)).1 (ihTrue (by omega)).1
        (ihFalse (by omega)).1
      exact ⟨reads, fun isBinary => absurd rfl isBinary.1⟩
  | binary operates before after ihBefore ihAfter =>
      have isBinary := is_binary_of_operator operates
      have lengths := enough
      rw [List.length_append, List.length_cons] at lengths
      have gathers := gathers_binary operates enough ((ihBefore (by omega)).2 isBinary)
        (ihAfter (by omega)).1
      exact ⟨reads_of_gathers isBinary gathers, fun _ => gathers⟩
  | negation operand ih =>
      rw [List.length_cons] at enough
      exact operandOnly (reads_unary .negate (fun _ _ _ => rfl) (ih (by omega)).1)
  | refusal operand ih =>
      rw [List.length_cons] at enough
      exact operandOnly (reads_unary .not (fun _ _ _ => rfl) (ih (by omega)).1)
  | plus operand ih =>
      rw [List.length_cons] at enough
      exact operandOnly fun rest stops => (ih (by omega)).1 rest stops
  | parenthesis whole ih =>
      simp only [List.length_cons, List.length_append, List.length_nil] at enough
      exact operandOnly (reads_parenthesis (ih (by omega)).1)
  | integer value => exact operandOnly (reads_leaf fun _ _ _ => rfl)
  | real value => exact operandOnly (reads_leaf fun _ _ _ => rfl)
  | text value => exact operandOnly (reads_leaf fun _ _ _ => rfl)
  | truth spelled => exact operandOnly (reads_truth spelled)
  | name notTrue notFalse => exact operandOnly (reads_name notTrue notFalse)

theorem written_ne_nil (written : Written level nesting tokens term) : tokens ≠ [] := by
  induction written with
  | tighter _ _ ih => exact ih
  | choice => simp
  | binary => simp
  | _ => simp

/-- A whole expression, which takes one nesting itself. -/
def Derives : Nat → List Token → Term → Prop
  | 0, _, _ => False
  | nesting + 1, tokens, term => Written .choice nesting tokens term

/-- Tokens that write a term are read as its tree, or its first name is reported. -/
theorem of_tokens_of_derives (derives : Derives maximalNesting tokens term) :
    Tree.ofTokens tokens = term.tree := by
  have written : Written .choice 255 tokens term := derives
  have reads := (reads_of_written written (Nat.le_refl _)).1 [] (stops_nil _)
  have whole : expression tokens.length maximalNesting =
      Level.choice.parser tokens.length 255 := rfl
  rw [List.append_nil] at reads
  cases found : tokens with
  | nil => exact absurd found (written_ne_nil written)
  | cons token rest =>
      rw [← found, Tree.ofTokens, whole, reads]
      · cases term.tree <;> rfl
      · exact fun none => written_ne_nil written none

end LineTemplate.Expression

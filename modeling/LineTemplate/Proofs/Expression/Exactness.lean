import LineTemplate.Proofs.Expression.Grammar

/-!
The parser is exact. It reads a sequence of tokens as a tree just when the grammar writes the tree
with them, so no sequence has two trees. What it refuses as nested too deeply has as many tokens that
begin something nested as there are nestings, however long it is.
-/

namespace LineTemplate.Expression

/-- The tree as a term, which has no names. -/
def Tree.term : Tree → Term
  | literal value => .literal value
  | unary operator operand => .unary operator operand.term
  | binary operator left right => .binary operator left.term right.term
  | choice condition whenTrue whenFalse =>
      .choice condition.term whenTrue.term whenFalse.term

theorem Tree.tree_term (tree : Tree) : tree.term.tree = .ok tree := by
  induction tree with
  | literal => rfl
  | unary operator operand ih =>
      rw [term, Term.tree, ih]
      rfl
  | binary operator left right ihLeft ihRight =>
      rw [term, Term.tree, ihLeft, ihRight]
      rfl
  | choice condition whenTrue whenFalse ihCondition ihTrue ihFalse =>
      rw [term, Term.tree, ihCondition, ihTrue, ihFalse]
      rfl

/-- How many tokens begin something nested. A sign does where an operand is awaited, and is an
operator elsewhere. -/
def nestings : Bool → List Token → Nat
  | _, [] => 0
  | awaits, token :: rest =>
      match token with
      | .opening | .question | .colon | .bang => nestings true rest + 1
      | .plus | .minus => nestings true rest + if awaits then 1 else 0
      | .integer _ | .real _ | .text _ | .name _ | .closing | .unknown _ => nestings false rest
      | _ => nestings true rest

theorem nestings_of_operator {level : Level} {token : Token} {operator : BinaryOperator}
    (operates : level.operator? token = some operator) (rest : List Token) :
    nestings false (token :: rest) = nestings true rest := by
  cases level <;> cases token <;> first | rfl | cases operates

variable {level : Level} {nesting steps : Nat} {tokens front rest : List Token} {term : Term}
  {tree : Tree}

/-- Behind an expression no operand is awaited. -/
theorem nestings_of_written (written : Written level nesting front term) (rest : List Token) :
    nestings false rest ≤ nestings true (front ++ rest) := by
  induction written generalizing rest with
  | tighter _ _ ih => exact ih rest
  | @choice _ test whenTrue whenFalse _ _ _ _ _ _ ihTest ihTrue ihFalse =>
      rw [List.append_assoc, List.cons_append, List.append_assoc, List.cons_append]
      calc nestings false rest ≤ nestings true (whenFalse ++ rest) := ihFalse rest
        _ ≤ nestings false (.colon :: (whenFalse ++ rest)) := Nat.le_succ _
        _ ≤ nestings true (whenTrue ++ .colon :: (whenFalse ++ rest)) := ihTrue _
        _ ≤ nestings false (.question :: (whenTrue ++ .colon :: (whenFalse ++ rest))) :=
            Nat.le_succ _
        _ ≤ _ := ihTest _
  | @binary _ _ token _ lefts rights _ _ operates _ _ ihBefore ihAfter =>
      rw [List.append_assoc, List.cons_append]
      calc nestings false rest ≤ nestings true (rights ++ rest) := ihAfter rest
        _ = nestings false (token :: (rights ++ rest)) := (nestings_of_operator operates _).symm
        _ ≤ _ := ihBefore _
  | negation _ ih => exact Nat.le_succ_of_le (ih rest)
  | refusal _ ih => exact Nat.le_succ_of_le (ih rest)
  | plus _ ih => exact Nat.le_succ_of_le (ih rest)
  | @parenthesis _ inside _ _ ih =>
      rw [List.cons_append, List.append_assoc]
      exact Nat.le_succ_of_le (ih (.closing :: rest))
  | integer | real | text | truth | name => exact Nat.le_refl _

/-- What the grammar writes when one nesting is taken first. -/
def Nested (level : Level) : Nat → List Token → Term → Prop
  | 0, _, _ => False
  | nesting + 1, tokens, term => Written level nesting tokens term

theorem written_of_nested (nested : Nested level nesting tokens term) :
    ∃ left, nesting = left + 1 ∧ Written level left tokens term := by
  cases nesting with
  | zero => exact nested.elim
  | succ left => exact ⟨left, rfl, nested⟩

/-- The answers that fit the tokens: a tree written with those at the front, a refusal of so many
nestings or more, or another error. -/
inductive Answers (writes : List Token → Term → Prop) (room : Nat) (tokens : List Token) :
    Parsed → Prop where
  | read {front rest : List Token} {tree : Tree} (split : tokens = front ++ rest)
      (written : writes front tree.term) : Answers writes room tokens (.ok (tree, rest))
  | tooDeep (deep : room ≤ nestings true tokens) :
      Answers writes room tokens (malformed .tooDeep)
  | refused {error : Error} (other : error ≠ .malformed .tooDeep) :
      Answers writes room tokens (.error error)

def Exact (writes : List Token → Term → Prop) (room : Nat) (parser : Parser) : Prop :=
  ∀ tokens, Answers writes room tokens (parser tokens)

theorem exact_too_deep (level : Level) : Exact (Nested level 0) 0 tooDeep :=
  fun _ => .tooDeep (Nat.zero_le _)

theorem answers_gather {operand : Parser} {lefts : List Token} {left : Tree}
    (exact : Exact (Written level.tighter nesting) (nesting + 1) operand)
    (split : tokens = lefts ++ rest) (written : Written level nesting lefts left.term) :
    Answers (Written level nesting) (nesting + 1) tokens
      (gather level.operator? operand steps left rest) := by
  induction steps generalizing lefts left rest with
  | zero => exact .read split written
  | succ steps ih =>
      cases rest with
      | nil => exact .read split written
      | cons token rest =>
          cases operates : level.operator? token with
          | none =>
              simp only [gather, operates]
              exact .read split written
          | some operator =>
              simp only [gather, operates]
              have answered := exact rest
              generalize operand rest = parsed at answered
              cases answered with
              | @read rights after right splitRight writtenRight =>
                  have splitBoth : tokens = (lefts ++ token :: rights) ++ after := by
                    rw [split, splitRight, List.append_assoc, List.cons_append]
                  exact ih splitBoth (.binary operates written writtenRight)
              | tooDeep deep =>
                  have inside := nestings_of_written written (token :: rest)
                  rw [← split, nestings_of_operator operates] at inside
                  exact .tooDeep (Nat.le_trans deep inside)
              | refused other => exact .refused other

theorem answers_finish {parsed : Parsed}
    (answers : Answers (Written level nesting) (nesting + 1) tokens parsed) :
    Answers (Written level nesting) (nesting + 1) tokens (level.finish parsed) := by
  cases level with
  | equality =>
      simp only [Level.finish]
      unfold refuseAssignment
      split
      · exact .refused (by simp)
      · exact answers
  | _ => exact answers

theorem exact_of_tighter (isBinary : level.IsBinary)
    (exact : Exact (Written level.tighter nesting) (nesting + 1)
      (level.tighter.parser steps nesting)) :
    Exact (Written level nesting) (nesting + 1) (level.parser steps nesting) := by
  intro tokens
  rw [parser_of_binary isBinary]
  apply answers_finish
  rw [leftLevel]
  have answered := exact tokens
  generalize level.tighter.parser steps nesting tokens = parsed at answered
  cases answered with
  | read split written => exact answers_gather exact split (.tighter isBinary.2 written)
  | tooDeep deep => exact .tooDeep deep
  | refused other => exact .refused other

/-- The levels between a choice and an operand, one by one. -/
theorem exact_or (operand : Exact (Written .operand nesting) (nesting + 1)
      (Level.operand.parser steps nesting)) :
    Exact (Written .or nesting) (nesting + 1) (Level.or.parser steps nesting) := by
  have product : Exact (Written .product nesting) (nesting + 1)
      (Level.product.parser steps nesting) := exact_of_tighter ⟨by decide, by decide⟩ operand
  have sum : Exact (Written .sum nesting) (nesting + 1) (Level.sum.parser steps nesting) :=
    exact_of_tighter ⟨by decide, by decide⟩ product
  have relation : Exact (Written .relation nesting) (nesting + 1)
      (Level.relation.parser steps nesting) := exact_of_tighter ⟨by decide, by decide⟩ sum
  have equality : Exact (Written .equality nesting) (nesting + 1)
      (Level.equality.parser steps nesting) := exact_of_tighter ⟨by decide, by decide⟩ relation
  have and : Exact (Written .and nesting) (nesting + 1) (Level.and.parser steps nesting) :=
    exact_of_tighter ⟨by decide, by decide⟩ equality
  exact exact_of_tighter ⟨by decide, by decide⟩ and

theorem exact_choice {condition arm : Parser}
    (exactCondition : Exact (Written .or nesting) (nesting + 1) condition)
    (exactArm : Exact (Nested .choice nesting) nesting arm) :
    Exact (Written .choice nesting) (nesting + 1) (choice condition arm) := by
  intro tokens
  rw [choice]
  have tested := exactCondition tokens
  generalize condition tokens = parsed at tested
  cases tested with
  | tooDeep deep => exact .tooDeep deep
  | refused other => exact .refused other
  | @read test afterTest conditionTree split written =>
      have alone : Written .choice nesting test conditionTree.term := .tighter (by decide) written
      cases afterTest with
      | nil => exact .read split alone
      | cons token afterTest =>
          cases token with
          | question =>
              have inside : nestings true afterTest + 1 ≤ nestings true tokens :=
                split ▸ nestings_of_written written (.question :: afterTest)
              have first := exactArm afterTest
              simp only
              generalize arm afterTest = firstArm at first
              cases first with
              | tooDeep deep => exact .tooDeep (by omega)
              | refused other => exact .refused other
              | @read whenTrue afterArm trueTree splitTrue nestedTrue =>
                  obtain ⟨left, rfl, writtenTrue⟩ := written_of_nested nestedTrue
                  cases afterArm with
                  | nil => exact .refused (by simp)
                  | cons token afterArm =>
                      cases token with
                      | colon =>
                          have further : nestings true afterArm + 1 ≤ nestings true afterTest :=
                            splitTrue ▸ nestings_of_written writtenTrue (.colon :: afterArm)
                          have second := exactArm afterArm
                          simp only
                          generalize arm afterArm = secondArm at second
                          cases second with
                          | tooDeep deep => exact .tooDeep (by omega)
                          | refused other => exact .refused other
                          | @read whenFalse rest falseTree splitFalse nestedFalse =>
                              refine .read ?_ (.choice written writtenTrue nestedFalse)
                              rw [split, splitTrue, splitFalse]
                              simp only [List.append_assoc, List.cons_append]
                      | _ => exact .refused (by simp)
          | _ => exact .read split alone

theorem answers_prefixed {parsed : Parsed} {token : Token} (build : Tree → Tree)
    (takes : nestings true (token :: rest) = nestings true rest + 1)
    (writes : ∀ {left front tree}, Written .operand left front (Tree.term tree) →
      Written .operand (left + 1) (token :: front) (build tree).term)
    (answers : Answers (Nested .operand nesting) nesting rest parsed) :
    Answers (Written .operand nesting) (nesting + 1) (token :: rest)
      (parsed.map fun (operand, after) => (build operand, after)) := by
  cases answers with
  | tooDeep deep => exact .tooDeep (takes ▸ Nat.succ_le_succ deep)
  | refused other => exact .refused other
  | @read front after tree split nested =>
      obtain ⟨left, rfl, written⟩ := written_of_nested nested
      exact .read (congrArg (token :: ·) split) (writes written)

theorem answers_parenthesis {whole : Parser}
    (exact : Exact (Nested .choice nesting) nesting whole) (inner : Parser) (rest : List Token) :
    Answers (Written .operand nesting) (nesting + 1) (.opening :: rest)
      (operandWith inner whole (.opening :: rest)) := by
  rw [operand_with_opening]
  have answered := exact rest
  generalize whole rest = parsed at answered
  cases answered with
  | tooDeep deep => exact .tooDeep (Nat.succ_le_succ deep)
  | refused other => exact .refused other
  | @read front after tree split nested =>
      obtain ⟨left, rfl, written⟩ := written_of_nested nested
      cases after with
      | nil => exact .refused (by simp)
      | cons token after =>
          cases token with
          | closing =>
              refine .read ?_ (.parenthesis written)
              rw [split, List.cons_append, List.append_assoc, List.singleton_append]
          | _ => exact .refused (by simp)

theorem answers_leaf {token : Token} (written : Written .operand nesting [token] tree.term) :
    Answers (Written .operand nesting) (nesting + 1) (token :: rest) (.ok (tree, rest)) :=
  .read rfl written

theorem answers_name (word : String) (rest : List Token) :
    Answers (Written .operand nesting) (nesting + 1) (.name word :: rest)
      (nameOperand word rest) := by
  unfold nameOperand
  split
  · next isTrue => exact answers_leaf (.truth isTrue)
  · split
    · next isFalse => exact answers_leaf (.truth isFalse)
    · exact .refused (by simp)

theorem exact_operand {inner whole : Parser}
    (exactInner : Exact (Nested .operand nesting) nesting inner)
    (exactWhole : Exact (Nested .choice nesting) nesting whole) :
    Exact (Written .operand nesting) (nesting + 1) (operandWith inner whole) := by
  intro tokens
  cases tokens with
  | nil => exact .refused (by simp)
  | cons token rest =>
      cases token with
      | minus => exact answers_prefixed (.unary .negate) rfl .negation (exactInner rest)
      | bang => exact answers_prefixed (.unary .not) rfl .refusal (exactInner rest)
      | plus =>
          have answers := answers_prefixed id rfl .plus (exactInner rest)
          have same :
              (inner rest).map (fun (operand, after) => (id operand, after)) = inner rest := by
            cases inner rest <;> rfl
          rw [same] at answers
          exact answers
      | opening => exact answers_parenthesis exactWhole inner rest
      | name word => exact answers_name word rest
      | integer value => exact answers_leaf (.integer value)
      | real value => exact answers_leaf (.real value)
      | text value => exact answers_leaf (.text value)
      | _ => exact .refused (by simp)

theorem exact_inner_and_whole (steps nesting : Nat) :
    Exact (Nested .operand nesting) nesting (innerOperand steps nesting) ∧
      Exact (Nested .choice nesting) nesting (expression steps nesting) := by
  induction nesting with
  | zero => exact ⟨exact_too_deep .operand, exact_too_deep .choice⟩
  | succ nesting ih =>
      have operand : Exact (Written .operand nesting) (nesting + 1)
          (Level.operand.parser steps nesting) := by
        rw [Level.parser, operand_eq]
        exact exact_operand ih.1 ih.2
      exact ⟨operand, exact_choice (exact_or operand) ih.2⟩

/-- What is written with some nestings is written with more. -/
theorem written_of_le {more : Nat} (written : Written level nesting tokens term)
    (le : nesting ≤ more) : Written level more tokens term := by
  have succ {nesting more : Nat} (le : nesting + 1 ≤ more) :
      ∃ less, more = less + 1 ∧ nesting ≤ less := ⟨more - 1, by omega, by omega⟩
  induction written generalizing more with
  | tighter loose _ ih => exact .tighter loose (ih le)
  | choice _ _ _ ihTest ihTrue ihFalse =>
      obtain ⟨less, rfl, further⟩ := succ le
      exact .choice (ihTest le) (ihTrue further) (ihFalse further)
  | binary operates _ _ ihBefore ihAfter => exact .binary operates (ihBefore le) (ihAfter le)
  | negation _ ih =>
      obtain ⟨less, rfl, further⟩ := succ le
      exact .negation (ih further)
  | refusal _ ih =>
      obtain ⟨less, rfl, further⟩ := succ le
      exact .refusal (ih further)
  | plus _ ih =>
      obtain ⟨less, rfl, further⟩ := succ le
      exact .plus (ih further)
  | parenthesis _ ih =>
      obtain ⟨less, rfl, further⟩ := succ le
      exact .parenthesis (ih further)
  | integer value => exact .integer value
  | real value => exact .real value
  | text value => exact .text value
  | truth spelled => exact .truth spelled
  | name notTrue notFalse => exact .name notTrue notFalse

theorem derives_of_le {more : Nat} (derives : Derives nesting tokens term) (le : nesting ≤ more) :
    Derives more tokens term := by
  cases nesting with
  | zero => exact derives.elim
  | succ nesting =>
      cases more with
      | zero => exact absurd le (Nat.not_succ_le_zero nesting)
      | succ more => exact written_of_le derives (Nat.le_of_succ_le_succ le)

theorem expression_of_derives (derives : Derives nesting tokens tree.term) :
    expression tokens.length nesting tokens = .ok (tree, []) := by
  cases nesting with
  | zero => exact derives.elim
  | succ nesting =>
      have reads := (reads_of_written derives (Nat.le_refl _)).1 [] (stops_nil _)
      rw [List.append_nil, Tree.tree_term] at reads
      exact reads

/-- No sequence of tokens has two trees, however deeply they are nested. -/
theorem tree_unique {other : Nat} {first second : Tree} (one : Derives nesting tokens first.term)
    (two : Derives other tokens second.term) : first = second := by
  have oneRead := expression_of_derives (derives_of_le one (Nat.le_max_left nesting other))
  have twoRead := expression_of_derives (derives_of_le two (Nat.le_max_right nesting other))
  rw [oneRead] at twoRead
  exact congrArg Prod.fst (Except.ok.inj twoRead)

theorem of_tokens_answers (tokens : List Token) :
    (∀ tree, Tree.ofTokens tokens = .ok tree → Derives maximalNesting tokens tree.term) ∧
      (Tree.ofTokens tokens = .error (.malformed .tooDeep) →
        maximalNesting ≤ nestings true tokens) := by
  cases tokens with
  | nil =>
      constructor
      · intro tree same
        cases same
      · intro same
        cases same
  | cons token rest =>
      have answered :=
        (exact_inner_and_whole (token :: rest).length maximalNesting).2 (token :: rest)
      simp only [Tree.ofTokens]
      generalize expression (token :: rest).length maximalNesting (token :: rest) = parsed at *
      cases answered with
      | tooDeep deep =>
          constructor
          · intro tree same
            cases same
          · intro _
            exact deep
      | refused other =>
          constructor
          · intro tree same
            cases same
          · intro same
            exact absurd (Except.error.inj same) other
      | @read front after found split nested =>
          cases after with
          | cons =>
              constructor
              · intro tree same
                cases same
              · intro same
                cases same
          | nil =>
              constructor
              · intro tree same
                rw [List.append_nil] at split
                rw [split, ← Except.ok.inj same]
                exact nested
              · intro same
                cases same

/-- The parser reads a tree from a sequence of tokens just when the grammar derives the tree from
the whole of it with no more nestings than there may be. A sequence has one tree at most, with any
number of nestings. Only a sequence in which so many tokens begin something nested is refused for
depth. -/
theorem reads_what_is_derived :
    (∀ tokens tree, Tree.ofTokens tokens = .ok tree ↔
      Derives maximalNesting tokens (Tree.term tree)) ∧
    (∀ tokens nesting other first second, Derives nesting tokens (Tree.term first) →
      Derives other tokens (Tree.term second) → first = second) ∧
    ∀ tokens, Tree.ofTokens tokens = .error (.malformed .tooDeep) →
      maximalNesting ≤ nestings true tokens := by
  refine ⟨?_, ?_, ?_⟩
  · intro tokens tree
    constructor
    · exact (of_tokens_answers tokens).1 tree
    · intro derives
      rw [of_tokens_of_derives derives, Tree.tree_term]
  · intro tokens nesting other first second one two
    exact tree_unique one two
  · intro tokens
    exact (of_tokens_answers tokens).2

/-- A choice whose condition begins with a sign. -/
theorem reads_what_is_derived_signed :
    let tokens : List Token :=
      [.minus, .integer 2, .star, .integer 3, .question, .integer 4, .colon, .name "TRUE"]
    let tree : Tree :=
      .choice (.binary (.arithmetic .multiply) (.unary .negate (.literal (.integer 2)))
        (.literal (.integer 3))) (.literal (.integer 4)) (.literal (.truth true))
    Tree.ofTokens tokens = .ok tree ∧ nestings true tokens = 3 ∧
      Derives maximalNesting tokens tree.term ∧
      ∀ nesting other, Derives nesting tokens (Tree.term other) → tree = other := by
  intro tokens tree
  have read : Tree.ofTokens tokens = .ok tree := by rfl
  have derived : Derives maximalNesting tokens tree.term :=
    (reads_what_is_derived.1 tokens tree).mp read
  refine ⟨read, rfl, derived, ?_⟩
  intro nesting other
  exact reads_what_is_derived.2.1 tokens maximalNesting nesting tree other derived

end LineTemplate.Expression

import LineTemplate.Proofs.Expression.Grammar

/-!
Where an unknown name is reported. The parser reports a name only where an operand is awaited: in
front of all other tokens, or right behind one that an operand follows. A tree holds no names, so
evaluation reports none.
-/

namespace LineTemplate.Expression

/-- Tokens that an operand follows. -/
def Token.awaitsOperand : Token → Bool
  | .plus | .minus | .star | .slash | .percent | .bang | .equal | .notEqual | .less | .lessOrEqual
  | .greater | .greaterOrEqual | .and | .or | .question | .colon | .opening => true
  | _ => false

def SpellsNoTruth (name : String) : Prop :=
  Text.equalIgnoringCase name "true" = false ∧ Text.equalIgnoringCase name "false" = false

/-- The name stands behind a token that an operand follows. -/
def AwaitedBehind (tokens : List Token) (name : String) : Prop :=
  ∃ front last back, tokens = front ++ last :: .name name :: back ∧ last.awaitsOperand = true

/-- The name stands where an operand is awaited. -/
def Awaited (tokens : List Token) (name : String) : Prop :=
  (∃ back, tokens = .name name :: back) ∨ AwaitedBehind tokens name

/-- What was read of the tokens leaves an end of them, and reports a name only where an operand is
awaited. -/
structure CarefulAt (tokens : List Token) (parsed : Parsed) : Prop where
  rest : ∀ {rest : List Token} {tree : Tree}, parsed = .ok (tree, rest) → rest <:+ tokens
  reported : ∀ {name : String},
    parsed = .error (.unknownName name) → SpellsNoTruth name ∧ Awaited tokens name

def Careful (parser : Parser) : Prop :=
  ∀ tokens, CarefulAt tokens (parser tokens)

section Awaiting

variable {tokens rest : List Token} {token : Token} {name : String}

theorem behind_of_awaited (awaits : token.awaitsOperand = true) (awaited : Awaited rest name) :
    AwaitedBehind (token :: rest) name := by
  rcases awaited with ⟨back, rfl⟩ | ⟨front, last, back, rfl, lastAwaits⟩
  · exact ⟨[], token, back, rfl, awaits⟩
  · exact ⟨token :: front, last, back, rfl, lastAwaits⟩

theorem behind_of_suffix (suffix : rest <:+ tokens) (behind : AwaitedBehind rest name) :
    AwaitedBehind tokens name := by
  obtain ⟨used, rfl⟩ := suffix
  obtain ⟨front, last, back, rfl, awaits⟩ := behind
  exact ⟨used ++ front, last, back, (List.append_assoc ..).symm, awaits⟩

end Awaiting

section Levels

variable {tokens rest : List Token} {tree left : Tree} {name : String} {parser condition arm : Parser}
  {operator? : Token → Option BinaryOperator} {steps : Nat}

theorem gather_rest (careful : Careful parser)
    (read : gather operator? parser steps left tokens = .ok (tree, rest)) : rest <:+ tokens := by
  induction steps generalizing left tokens with
  | zero =>
      cases read
      exact List.suffix_rfl
  | succ steps ih =>
      cases tokens with
      | nil =>
          cases read
          exact List.suffix_rfl
      | cons token tokens =>
          simp only [gather] at read
          split at read
          · cases read
            exact List.suffix_rfl
          · split at read
            · cases read
            · next operand =>
                exact (ih read).trans
                  (((careful _).rest operand).trans (List.suffix_cons token tokens))

theorem gather_reported
    (awaits : ∀ {token operator}, operator? token = some operator → token.awaitsOperand = true)
    (careful : Careful parser)
    (failed : gather operator? parser steps left tokens = .error (.unknownName name)) :
    SpellsNoTruth name ∧ AwaitedBehind tokens name := by
  induction steps generalizing left tokens with
  | zero => cases failed
  | succ steps ih =>
      cases tokens with
      | nil => cases failed
      | cons token tokens =>
          simp only [gather] at failed
          split at failed
          · cases failed
          · next operates =>
              split at failed
              · next operand =>
                  cases failed
                  exact ((careful _).reported operand).imp_right (behind_of_awaited (awaits operates))
              · next operand =>
                  have suffix := ((careful _).rest operand).trans (List.suffix_cons token tokens)
                  exact (ih failed).imp_right (behind_of_suffix suffix)

theorem careful_left_level
    (awaits : ∀ {token operator}, operator? token = some operator → token.awaitsOperand = true)
    (careful : Careful parser) : Careful (leftLevel operator? steps parser) := by
  intro tokens
  constructor
  · intro rest tree read
    rw [leftLevel] at read
    split at read
    · cases read
    · next operand => exact (gather_rest careful read).trans ((careful _).rest operand)
  · intro name failed
    rw [leftLevel] at failed
    split at failed
    · next operand =>
        cases failed
        exact (careful _).reported operand
    · next operand =>
        obtain ⟨noTruth, behind⟩ := gather_reported awaits careful failed
        exact ⟨noTruth, Or.inr (behind_of_suffix ((careful _).rest operand) behind)⟩

theorem careful_too_deep : Careful tooDeep := fun _ => ⟨nofun, nofun⟩

theorem careful_refuse_assignment (careful : Careful parser) :
    Careful fun tokens => refuseAssignment (parser tokens) := by
  intro tokens
  constructor
  · intro rest tree read
    simp only [refuseAssignment] at read
    split at read
    · cases read
    · exact (careful _).rest read
  · intro name failed
    simp only [refuseAssignment] at failed
    split at failed
    · cases failed
    · exact (careful _).reported failed

theorem awaits_of_operator (level : Level) {token : Token} {operator : BinaryOperator}
    (operates : level.operator? token = some operator) : token.awaitsOperand = true := by
  cases level <;> cases token <;> first | rfl | cases operates

theorem careful_disjunction (careful : Careful parser) : Careful (disjunction steps parser) :=
  careful_left_level (awaits_of_operator .or) (careful_left_level (awaits_of_operator .and)
    (careful_refuse_assignment (careful_left_level (awaits_of_operator .equality)
      (careful_left_level (awaits_of_operator .relation)
        (careful_left_level (awaits_of_operator .sum)
          (careful_left_level (awaits_of_operator .product) careful))))))

theorem careful_choice (carefulCondition : Careful condition) (carefulArm : Careful arm) :
    Careful (choice condition arm) := by
  intro tokens
  constructor
  · intro rest tree read
    rw [choice] at read
    split at read
    · next tested =>
        have fromTest := (List.suffix_cons _ _).trans ((carefulCondition _).rest tested)
        split at read
        · next isTrue =>
            have fromArm := (List.suffix_cons _ _).trans ((carefulArm _).rest isTrue)
            split at read
            · next isFalse =>
                cases read
                exact ((carefulArm _).rest isFalse).trans (fromArm.trans fromTest)
            · cases read
        · cases read
        · cases read
    · exact (carefulCondition _).rest read
  · intro name failed
    rw [choice] at failed
    split at failed
    · next tested =>
        have fromTest := (carefulCondition _).rest tested
        split at failed
        · next isTrue =>
            have fromArm := ((carefulArm _).rest isTrue).trans ((List.suffix_cons _ _).trans fromTest)
            split at failed
            · cases failed
            · next isFalse =>
                cases failed
                obtain ⟨noTruth, awaited⟩ := (carefulArm _).reported isFalse
                have behind := @behind_of_awaited _ .colon _ rfl awaited
                exact ⟨noTruth, Or.inr (behind_of_suffix fromArm behind)⟩
        · cases failed
        · next isTrue =>
            cases failed
            obtain ⟨noTruth, awaited⟩ := (carefulArm _).reported isTrue
            have behind := @behind_of_awaited _ .question _ rfl awaited
            exact ⟨noTruth, Or.inr (behind_of_suffix fromTest behind)⟩
    · exact (carefulCondition _).reported failed

end Levels

section Operands

variable {inner whole : Parser} {steps : Nat}

/-- What a prefixed operator applies to is awaited behind it. -/
theorem careful_prefixed {token : Token} (change : Tree → Tree) (awaits : token.awaitsOperand = true)
    (careful : Careful inner) (tokens : List Token) :
    CarefulAt (token :: tokens)
      ((inner tokens).map fun (operand, after) => (change operand, after)) := by
  cases read : inner tokens with
  | ok result =>
      constructor
      · intro rest tree same
        cases same
        exact ((careful _).rest read).trans (List.suffix_cons token tokens)
      · nofun
  | error error =>
      constructor
      · nofun
      · intro name same
        cases same
        obtain ⟨noTruth, awaited⟩ := (careful _).reported read
        exact ⟨noTruth, Or.inr (behind_of_awaited awaits awaited)⟩

theorem careful_parenthesis (carefulWhole : Careful whole) (tokens : List Token) :
    CarefulAt (.opening :: tokens) (operandWith inner whole (.opening :: tokens)) := by
  rw [operand_with_opening]
  cases read : whole tokens with
  | ok result =>
      constructor
      · intro rest tree closed
        split at closed
        · next inside =>
            cases inside
            cases closed
            exact (List.suffix_cons _ _).trans
              (((carefulWhole _).rest read).trans (List.suffix_cons _ _))
        · cases closed
        · cases closed
      · intro name failed
        split at failed
        · cases failed
        · cases failed
        · next inside => cases inside
  | error error =>
      constructor
      · nofun
      · intro name failed
        cases failed
        obtain ⟨noTruth, awaited⟩ := (carefulWhole _).reported read
        exact ⟨noTruth, Or.inr (behind_of_awaited rfl awaited)⟩

theorem careful_name (word : String) (tokens : List Token) :
    CarefulAt (.name word :: tokens) (nameOperand word tokens) := by
  unfold nameOperand
  constructor
  · intro rest tree read
    split at read
    · cases read
      exact List.suffix_cons _ _
    · split at read
      · cases read
        exact List.suffix_cons _ _
      · cases read
  · intro name failed
    split at failed
    · cases failed
    · next notTrue =>
        split at failed
        · cases failed
        · next notFalse =>
            cases failed
            exact ⟨⟨eq_false_of_ne_true notTrue, eq_false_of_ne_true notFalse⟩, Or.inl ⟨_, rfl⟩⟩

theorem careful_leaf (token : Token) (tree : Tree) (tokens : List Token) :
    CarefulAt (token :: tokens) (.ok (tree, tokens)) := by
  constructor
  · rintro _ _ ⟨rfl⟩
    exact List.suffix_cons token tokens
  · nofun

theorem careful_refused (tokens : List Token) (found : Option Token) :
    CarefulAt tokens (malformed (.unexpected found)) :=
  ⟨nofun, nofun⟩

theorem careful_operand_with (carefulInner : Careful inner) (carefulWhole : Careful whole) :
    Careful (operandWith inner whole) := by
  intro tokens
  cases tokens with
  | nil => exact careful_refused [] none
  | cons token tokens =>
      cases token with
      | minus => exact careful_prefixed (.unary .negate) rfl carefulInner tokens
      | bang => exact careful_prefixed (.unary .not) rfl carefulInner tokens
      | plus =>
          have careful := @careful_prefixed _ .plus id rfl carefulInner tokens
          have same : (inner tokens).map (fun (operand, after) => (id operand, after)) =
              inner tokens := by cases inner tokens <;> rfl
          rw [same] at careful
          exact careful
      | opening => exact careful_parenthesis carefulWhole tokens
      | name word => exact careful_name word tokens
      | integer value => exact careful_leaf (.integer value) _ tokens
      | real value => exact careful_leaf (.real value) _ tokens
      | text value => exact careful_leaf (.text value) _ tokens
      | _ => exact careful_refused _ _

/-- By induction on the nestings that are left. -/
theorem careful_parsers (steps nesting : Nat) :
    Careful (expression steps nesting) ∧ Careful (operand steps nesting) := by
  induction nesting with
  | zero => exact ⟨careful_too_deep, careful_operand_with careful_too_deep careful_too_deep⟩
  | succ nesting ih =>
      have whole : Careful (expression steps (nesting + 1)) :=
        careful_choice (careful_disjunction ih.2) ih.1
      refine ⟨whole, ?_⟩
      rw [operand_eq]
      exact careful_operand_with ih.2 whole

end Operands

theorem tree_of_tokens_reported {tokens : List Token} {name : String}
    (failed : Tree.ofTokens tokens = .error (.unknownName name)) :
    SpellsNoTruth name ∧ Awaited tokens name := by
  unfold Tree.ofTokens at failed
  split at failed
  · cases failed
  · split at failed
    · cases failed
    · cases failed
    · next read =>
        cases failed
        exact ((careful_parsers _ _).1 _).reported read

section Leading

variable {name : String} {error : Error} {parser : Parser} {tokens : List Token}

theorem left_level_of_error {steps : Nat} (operator? : Token → Option BinaryOperator)
    (failed : parser tokens = .error error) :
    leftLevel operator? steps parser tokens = .error error := by
  rw [leftLevel, failed]

theorem disjunction_of_error {steps : Nat} (failed : parser tokens = .error error) :
    disjunction steps parser tokens = .error error := by
  have relation : leftLevel relationOperator? steps (leftLevel sumOperator? steps
      (leftLevel productOperator? steps parser)) tokens = .error error :=
    left_level_of_error _ (left_level_of_error _ (left_level_of_error _ failed))
  have equality : equality steps parser tokens = .error error := by
    rw [equality, left_level_of_error _ relation]
    rfl
  exact left_level_of_error _ (left_level_of_error _ equality)

/-- A name in front of all other tokens is reported first. -/
theorem tree_of_leading_name (noTruth : SpellsNoTruth name) (rest : List Token) :
    Tree.ofTokens (.name name :: rest) = .error (.unknownName name) := by
  have failed (steps nesting : Nat) :
      operand steps nesting (.name name :: rest) = .error (.unknownName name) := by
    rw [operand_eq]
    change nameOperand name rest = _
    rw [nameOperand, noTruth.1, noTruth.2, if_neg Bool.false_ne_true, if_neg Bool.false_ne_true]
  have whole (steps nesting : Nat) : expression steps (nesting + 1) (.name name :: rest) =
      .error (.unknownName name) := by
    rw [expression, choice, disjunction_of_error (failed steps nesting)]
  have read := whole (Token.name name :: rest).length 255
  simp only [Tree.ofTokens]
  rw [show maximalNesting = 255 + 1 from rfl, read]

end Leading

section Evaluating

variable {Item Result : Type} {name : String}

theorem bind_reports_no_name {first : Except Error Item} {next : Item → Except Error Result}
    (noFirst : first ≠ .error (.unknownName name))
    (noNext : ∀ item, next item ≠ .error (.unknownName name)) :
    (first >>= next) ≠ .error (.unknownName name) := by
  cases first with
  | ok item => exact noNext item
  | error error =>
      intro same
      cases same
      exact noFirst rfl

theorem arithmetic_reports_no_name (result : Except ArithmeticError Value) :
    arithmeticResult result ≠ .error (.unknownName name) := by
  cases result <;> nofun

/-- Evaluation reports no name. -/
theorem evaluate_reports_no_name (tree : Tree) : tree.evaluate ≠ .error (.unknownName name) := by
  induction tree with
  | literal => nofun
  | unary operator operand ih =>
      apply bind_reports_no_name ih
      intro value
      cases operator with
      | negate => exact arithmetic_reports_no_name _
      | not => nofun
  | binary operator left right ihLeft ihRight =>
      cases operator with
      | arithmetic =>
          exact bind_reports_no_name ihLeft fun _ => bind_reports_no_name ihRight fun _ =>
            arithmetic_reports_no_name _
      | comparison =>
          exact bind_reports_no_name ihLeft fun _ => bind_reports_no_name ihRight fun _ => nofun
      | and =>
          apply bind_reports_no_name ihLeft
          intro value
          cases value.isTrue
          · nofun
          · exact bind_reports_no_name ihRight fun _ => nofun
      | or =>
          apply bind_reports_no_name ihLeft
          intro value
          cases value.isTrue
          · exact bind_reports_no_name ihRight fun _ => nofun
          · nofun
  | choice condition whenTrue whenFalse ihCondition ihTrue ihFalse =>
      apply bind_reports_no_name ihCondition
      intro value
      cases value.isTrue
      · exact ihFalse
      · exact ihTrue

end Evaluating

/-- A name that is reported is a token of the text, where an operand is awaited. -/
theorem awaited_of_reported {text name : String}
    (reported : evaluateText text = .error (.unknownName name)) :
    ∃ found, tokens text.toList = .ok found ∧ SpellsNoTruth name ∧ Awaited found name := by
  have unread : Tree.ofText text = .error (.unknownName name) := by
    cases read : Tree.ofText text with
    | ok tree =>
        rw [evaluateText, read] at reported
        exact absurd reported (evaluate_reports_no_name tree)
    | error error =>
        rw [evaluateText, read] at reported
        cases reported
        rfl
  unfold Tree.ofText at unread
  split at unread
  · cases unread
  · next found read => exact ⟨found, read, tree_of_tokens_reported unread⟩

end LineTemplate.Expression

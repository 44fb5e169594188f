import LineTemplate.Proofs.Expression.LoneName
import LineTemplate.Run.State

/-!
Conditions that ask for one flag. A flag alone is a list of names, which looks at the value itself; in
parentheses or refused twice it is an expression, which looks at the number that the value spells. Both
succeed, and they differ for text that is no lone zero but spells the number zero.
-/

namespace LineTemplate

/-- Text other than a lone zero that spells the number zero. -/
def Value.hidesZero : Value → Bool
  | .text content =>
      content != "0" &&
        (Numeral.ofText? content.toList).any fun numeral => !numeral.toValue.isTrue
  | _ => false

theorem Numeral.not_empty_of_spelled {content : String} {numeral : Numeral}
    (spells : ofText? content.toList = some numeral) : content ≠ "" := by
  rintro rfl
  have nothing : ofText? "".toList = none := by decide
  rw [nothing] at spells
  cases spells

theorem Value.is_true_of_hides_zero {value : Value} (hides : value.hidesZero = true) :
    value.isTrue = true := by
  cases value with
  | text content =>
      simp only [hidesZero, Bool.and_eq_true, bne_iff_ne, Option.any_eq_true] at hides
      obtain ⟨notZero, numeral, spells, -⟩ := hides
      simp [isTrue, Numeral.not_empty_of_spelled spells, notZero]
  | _ => cases hides

/-- The number that a value spells is as true as the value, unless the value hides a zero. -/
theorem Value.canonical_is_true (value : Value) :
    value.canonical.isTrue = (value.isTrue && !value.hidesZero) := by
  cases value with
  | text content =>
      have reading : (text content).numeral? = Numeral.ofText? content.toList := rfl
      rw [canonical, hidesZero, reading]
      cases spells : Numeral.ofText? content.toList with
      | none => simp
      | some numeral =>
          by_cases zero : content = "0"
          · subst zero
            have read : Numeral.ofText? "0".toList = some (.integer 0) := by decide
            rw [read] at spells
            cases spells
            rfl
          · have shown : (content != "") = true :=
              bne_iff_ne.mpr (Numeral.not_empty_of_spelled spells)
            have other : (content != "0") = true := bne_iff_ne.mpr zero
            change numeral.toValue.isTrue = ((content != "" && content != "0") &&
              !(content != "0" && !numeral.toValue.isTrue))
            rw [shown, other, Bool.true_and, Bool.true_and, Bool.true_and, Bool.not_not]
  | integer value => simp [canonical, numeral?, Numeral.toValue, hidesZero]
  | real value => simp [canonical, numeral?, Numeral.toValue, hidesZero]
  | truth value => simp [canonical, numeral?, hidesZero]

namespace Line

theorem not_separator_of_identifier {word : String} (identifier : isIdentifier word = true) :
    ∀ character ∈ word.toList, isSeparator character = false := by
  intro character member
  have inside := List.all_eq_true.mp (Text.characters_of_identifier identifier) character member
  have bounds := Text.identifier_character_iff.mp inside
  rw [isSeparator, Text.not_blank_of_identifier_character inside, Bool.false_or,
    beq_eq_false_iff_ne]
  rintro rfl
  revert bounds
  decide

/-- A line without blanks and commas is one word. -/
theorem words_of_no_separator {line : String}
    (free : ∀ character ∈ line.toList, isSeparator character = false) : words line = [line] := by
  have whole (characters : List Char)
      (free : ∀ character ∈ characters, isSeparator character = false) :
      splitRuns characters = [characters] := by
    induction characters with
    | nil => rfl
    | cons character rest ih =>
        rw [splitRuns, if_neg (by rw [free character List.mem_cons_self]; decide),
          ih fun next member => free next (List.mem_cons_of_mem character member)]
  have visible : ∀ character ∈ line.toList, Text.isBlank character = false := by
    intro character member
    have apart := free character member
    rw [isSeparator, Bool.or_eq_false_iff] at apart
    exact apart.1
  rw [words, Text.trim_of_visible visible, whole _ free, List.map_singleton, String.ofList_toList]

end Line

namespace Expression

/-- What stands around an operand that is put in parentheses or refused twice, over and over. Each
refusal and each parenthesis takes a nesting. -/
inductive Wrapped : ℕ → List Char → List Char → Prop where
  | alone : Wrapped 0 [] []
  | parenthesis {depth : ℕ} {front back : List Char} (inner : Wrapped depth front back) :
      Wrapped (depth + 1) ('(' :: front) (back ++ [')'])
  | refusedTwice {depth : ℕ} {front back : List Char} (inner : Wrapped depth front back) :
      Wrapped (depth + 2) ('!' :: '!' :: front) back

section Wrapping

variable {depth inside : ℕ} {front back word : List Char} {value : Value}

theorem signs_of_wrapped (wrapped : Wrapped depth front back) :
    ∀ character ∈ front ++ back, character = '(' ∨ character = ')' ∨ character = '!' := by
  induction wrapped with
  | alone =>
      intro character member
      cases member
  | parenthesis inner ih =>
      intro character member
      simp only [List.cons_append, List.mem_cons, List.mem_append, List.not_mem_nil, or_false]
        at member
      rcases member with rfl | inFront | inBack | rfl
      · exact Or.inl rfl
      · exact ih character (List.mem_append_left _ inFront)
      · exact ih character (List.mem_append_right _ inBack)
      · exact Or.inr (Or.inl rfl)
  | refusedTwice inner ih =>
      intro character member
      simp only [List.cons_append, List.mem_cons] at member
      rcases member with rfl | rfl | inside
      · exact Or.inr (Or.inr rfl)
      · exact Or.inr (Or.inr rfl)
      · exact ih character inside

theorem apart_of_wrapped (wrapped : Wrapped depth front back) : Apart front ∧ Apart back := by
  apply apart_append
  intro character member
  rcases signs_of_wrapped wrapped character member with rfl | rfl | rfl <;> decide

/-- Wrapping an operand keeps its truth. -/
theorem denotes_of_wrapped (wrapped : Wrapped depth front back)
    (denotes : Denotes inside word value) :
    ∃ answer, Denotes (inside + depth) (front ++ (word ++ back)) answer ∧
      answer.isTrue = value.isTrue := by
  induction wrapped with
  | alone => exact ⟨value, by rwa [List.append_nil], rfl⟩
  | @parenthesis depth front back _ ih =>
      obtain ⟨answer, deeper, same⟩ := ih
      refine ⟨answer, ?_, same⟩
      have closed := denotes_parenthesis deeper
      rwa [List.append_assoc, List.append_assoc] at closed
  | @refusedTwice depth front back _ ih =>
      obtain ⟨answer, deeper, same⟩ := ih
      refine ⟨_, denotes_refused (denotes_refused deeper), ?_⟩
      simp only [Value.isTrue, Bool.not_not]
      exact same

end Wrapping

end Expression

namespace Run.State

open Expression

variable {state : State} {directive : Directive} {word text : String} {value : Value} {depth : ℕ}
  {front back : List Char}

/-- A flag alone is as true as its value. -/
theorem holds_flag (identifier : isIdentifier word = true) (free : isReserved word = false)
    (known : state.bindings.lookup? word = some value) :
    state.holds directive word = .ok value.isTrue := by
  have words := Line.words_of_no_separator (Line.not_separator_of_identifier identifier)
  have present : presence? state.bindings word = some value.isTrue := by
    simp [presence?, words, identifier, free, known]
  have notEmpty : word.isEmpty = false :=
    String.isEmpty_eq_false_iff.mpr (ne_empty_of_identifier identifier)
  rw [holds, notEmpty, if_neg Bool.false_ne_true, present]

/-- A wrapped flag is no list of names. -/
theorem presence_of_wrapped (bindings : Variables) (wrapped : Wrapped (depth + 1) front back)
    (identifier : isIdentifier word = true) (shape : text.toList = front ++ (word.toList ++ back)) :
    presence? bindings text = none := by
  have sign (character : Char) (member : character ∈ front ++ back) :
      Line.isSeparator character = false := by
    rcases signs_of_wrapped wrapped character member with rfl | rfl | rfl <;> decide
  have apart : ∀ character ∈ text.toList, Line.isSeparator character = false := by
    intro character member
    rw [shape, List.mem_append, List.mem_append] at member
    rcases member with here | here | here
    · exact sign character (List.mem_append_left back here)
    · exact Line.not_separator_of_identifier identifier character here
    · exact sign character (List.mem_append_right front here)
  have noIdentifier : isIdentifier text = false := by
    rw [← Bool.not_eq_true, Text.is_identifier_iff, shape]
    rintro ⟨first, rest, characters, starts, -⟩
    cases wrapped <;> (cases characters; cases starts)
  simp [presence?, Line.words_of_no_separator apart, noIdentifier]

/-- A wrapped flag is as true as the number that its value spells. -/
theorem holds_wrapped_flag
    (current : state.pattern = NamePattern.ofVariables state.bindings)
    (identifier : isIdentifier word = true)
    (known : state.bindings.lookup? word = some value)
    (finite : ∀ number, value = .real number → number.isFinite = true)
    (wrapped : Wrapped (depth + 1) front back)
    (shallow : literalNestings value + (depth + 1) < maximalNesting)
    (shape : text.toList = front ++ (word.toList ++ back)) :
    state.holds directive text = .ok (value.isTrue && !value.hidesZero) := by
  obtain ⟨inner, denotesInner, sameInner⟩ :=
    denotes_literal fun _ reading => Numeral.is_finite_of_value finite reading
  obtain ⟨answer, denotes, same⟩ := denotes_of_wrapped wrapped denotesInner
  obtain ⟨apartFront, apartBack⟩ := apart_of_wrapped wrapped
  have evaluated : evaluateWith state.pattern state.bindings text = .ok answer := by
    rw [current]
    exact evaluate_lone_name apartFront apartBack identifier known shape denotes shallow
  have notEmpty : text.isEmpty = false := by
    rw [String.isEmpty_eq_false_iff]
    rintro rfl
    cases wrapped <;> cases shape
  have result : state.evaluate directive text = .ok answer := by
    rw [State.evaluate, evaluated]
  rw [holds, notEmpty, if_neg Bool.false_ne_true,
    presence_of_wrapped state.bindings wrapped identifier shape, result, ← Value.canonical_is_true,
    ← sameInner, ← same]
  rfl

/-- A flag alone and a flag in parentheses or refused twice, no deeper than expressions may be nested
with the literal of its value in them, both have an answer, and the same one unless the flag is text
that hides a zero. -/
theorem wrapped_flag_keeps_branch
    (current : state.pattern = NamePattern.ofVariables state.bindings) (directive : Directive)
    (identifier : isIdentifier word = true) (free : isReserved word = false)
    (known : state.bindings.lookup? word = some value)
    (finite : ∀ number, value = .real number → number.isFinite = true)
    (wrapped : Wrapped (depth + 1) front back)
    (shallow : literalNestings value + (depth + 1) < maximalNesting)
    (shape : text.toList = front ++ (word.toList ++ back)) :
    state.holds directive word = .ok value.isTrue ∧
      (∃ answer, state.holds directive text = .ok answer) ∧
      (state.holds directive text = state.holds directive word ↔ value.hidesZero = false) := by
  have alone := @holds_flag state directive word value identifier free known
  have inside := @holds_wrapped_flag state directive word text value depth front back current
    identifier known finite wrapped shallow shape
  refine ⟨alone, ⟨_, inside⟩, ?_⟩
  rw [alone, inside, Except.ok.injEq]
  cases hides : value.hidesZero with
  | false => simp
  | true => simp [Value.is_true_of_hides_zero hides]

/-- Text with blanks that spells a number, among names that are no identifiers. -/
theorem wrapped_flag_keeps_branch_spelled :
    let bindings : Variables :=
      ⟨[("", .truth false), ("(flag", .integer 0), ("flag", .text " 7. ")], by decide⟩
    let state := State.start bindings Markers.disabled 9
    state.holds .onlyIf "flag" = .ok true ∧
      state.holds .onlyIf "!!(Flag)" = state.holds .onlyIf "Flag" := by
  intro bindings state
  have wrapped : Wrapped 3 "!!(".toList ")".toList := .refusedTwice (.parenthesis .alone)
  have room : literalNestings (.text " 7. ") + 3 < maximalNesting := by decide +kernel
  have small := @wrapped_flag_keeps_branch state "flag" "!!(flag)" (.text " 7. ") 2 _ _ rfl .onlyIf
    (by decide) (by decide) (by decide) nofun wrapped room rfl
  have capital := @wrapped_flag_keeps_branch state "Flag" "!!(Flag)" (.text " 7. ") 2 _ _ rfl .onlyIf
    (by decide) (by decide) (by decide) nofun wrapped room rfl
  have shows : (Value.text " 7. ").hidesZero = false := by decide +kernel
  exact ⟨small.1, capital.2.2.mpr shows⟩

/-- Two zeros are text that is true, and spell a number that is not. -/
theorem hidden_zero_changes_branch :
    let bindings : Variables := ⟨[("x", .text "00")], by decide⟩
    let state := State.start bindings Markers.disabled 9
    state.holds .onlyIf "x" = .ok true ∧ state.holds .onlyIf "(x)" = .ok false := by
  intro bindings state
  constructor
  · exact @holds_flag state .onlyIf "x" _ (by decide) (by decide) rfl
  · have hides : (Value.text "00").hidesZero = true := by decide
    rw [@holds_wrapped_flag state .onlyIf "x" "(x)" (.text "00") 0 ['('] [')'] rfl (by decide) rfl
      nofun (.parenthesis .alone) (by decide +kernel) rfl, hides]
    rfl

end Run.State

end LineTemplate

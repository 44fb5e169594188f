import LineTemplate.Proofs.Line.Words
import LineTemplate.Preprocessor

/-!
Lines that list words: the values of a case and the names of a condition. They are the runs of the line,
whatever mix of blanks and commas stands between them and however often a comma is written there. A comma
at an end of the trimmed line is the exception. It adds an empty word, which a case takes for a value and
which is no name, so that a condition with it lists no names at all.
-/

namespace LineTemplate

namespace Expression

variable {bindings : Variables} {names : List String}

/-- What a condition holds that lists these words. -/
def presenceOf? (bindings : Variables) (names : List String) : Option Bool :=
  if names.all fun name => isIdentifier name && !isReserved name then
    some (names.any fun name => (bindings.lookup? name).any Value.isTrue)
  else none

theorem presence_eq (bindings : Variables) (text : String) :
    presence? bindings text = presenceOf? bindings (Line.words text) :=
  rfl

theorem presence_of_empty_word (member : "" ∈ names) : presenceOf? bindings names = none := by
  have refused : ¬ (names.all fun name => isIdentifier name && !isReserved name) = true := by
    intro isList
    have isName := List.all_eq_true.mp isList "" member
    revert isName
    decide
  rw [presenceOf?, if_neg refused]

end Expression

namespace Line

variable {line : String} {runs : List String}

theorem string_runs_exist (visible : ∃ character ∈ line.toList, isSeparator character = false) :
    ∃ runs : List String, runs ≠ [] ∧ Runs line.toList (runs.map String.toList) := by
  obtain ⟨words, isRuns⟩ := runs_exist line.toList
  have same : (words.map String.ofList).map String.toList = words := by simp [Function.comp_def]
  refine ⟨words.map String.ofList, ?_, by rwa [same]⟩
  rintro none
  obtain rfl : words = [] := List.map_eq_nil_iff.mp none
  obtain ⟨character, member, apart⟩ := visible
  generalize line.toList = characters at isRuns member
  cases isRuns with
  | done separates =>
      rw [List.all_eq_true.mp separates character member] at apart
      cases apart

/-- No keyword is empty, so no comma stands in front of one. -/
theorem not_opens_of_directive {directive : Directive}
    (isRuns : Runs line.toList (runs.map String.toList)) (present : runs ≠ [])
    (found : Directive.ofLine? line = some directive) :
    opensWithComma line = false := by
  rw [← Bool.not_eq_true]
  intro opens
  have empty : firstWord line = "" := by
    rw [firstWord, words_of_runs isRuns present, opens]
    rfl
  have unspelled : Directive.ofWord? "" = none := by decide
  rw [Directive.ofLine?, empty, unspelled] at found
  cases found

end Line

namespace Run

open Expression (presence? presenceOf? presence_eq presence_of_empty_word)
open Line (Runs isSeparator opensWithComma closesWithComma words_of_runs words_of_comma_twice)

variable {line : String} {runs : List String}

/-- A case compares with the words behind its keyword, and with the empty text for a comma behind
them. -/
theorem case_values (isRuns : Runs line.toList (runs.map String.toList)) (present : runs ≠ [])
    (found : Directive.ofLine? line = some .case) :
    (Line.words line).tail.map Value.infer =
      runs.tail.map Value.infer ++ if closesWithComma line then [.text ""] else [] := by
  have empty : Value.infer "" = .text "" := by decide
  rw [words_of_runs isRuns present, Line.not_opens_of_directive isRuns present found,
    if_neg Bool.false_ne_true, List.nil_append, List.tail_append_of_ne_nil present, List.map_append,
    apply_ite (List.map Value.infer), List.map_cons, List.map_nil, empty]

theorem presence_of_runs (isRuns : Runs line.toList (runs.map String.toList)) (present : runs ≠ [])
    (bindings : Variables) :
    presence? bindings line =
      if opensWithComma line || closesWithComma line then none else presenceOf? bindings runs := by
  rw [presence_eq, words_of_runs isRuns present]
  cases opens : opensWithComma line with
  | true => exact presence_of_empty_word (by simp)
  | false =>
      cases closes : closesWithComma line with
      | true => exact presence_of_empty_word (by simp)
      | false => simp

/-- The words of a line that has any are its runs, with an empty word for a comma at an end. These are
what a case compares with and what a list of names is read from, and a comma written twice counts
once. -/
theorem words_are_runs (visible : ∃ character ∈ line.toList, isSeparator character = false) :
    ∃ runs : List String,
      (∀ words, Runs line.toList words ↔ words = runs.map String.toList) ∧
      Line.words line = (if opensWithComma line then [""] else []) ++ runs ++
        (if closesWithComma line then [""] else []) ∧
      (Directive.ofLine? line = some .case → ∀ setting number state,
        State.perform setting .case line number state =
          state.withBlocks (state.blocks.case
            (runs.tail.map Value.infer ++ if closesWithComma line then [.text ""] else []))) ∧
      ∀ bindings,
        presence? bindings line =
          (if opensWithComma line || closesWithComma line then none
            else presenceOf? bindings runs) ∧
        ∀ front back, line.toList = front ++ ',' :: back →
          presence? bindings (String.ofList (front ++ ',' :: ',' :: back)) =
            presence? bindings line := by
  obtain ⟨runs, present, isRuns⟩ := Line.string_runs_exist visible
  refine ⟨runs, fun words => ?_, words_of_runs isRuns present, fun found setting number state => ?_,
    fun bindings => ⟨presence_of_runs isRuns present bindings, fun front back shape => ?_⟩⟩
  · constructor
    · exact Line.runs_unique isRuns
    · rintro rfl
      exact isRuns
  · rw [← case_values isRuns present found]
    rfl
  · rw [presence_eq, presence_eq, words_of_comma_twice shape]

/-- A run inside a selection, before its first case. -/
def selecting (discriminant : Value) : State :=
  { State.start NameMap.empty Markers.disabled 0 with
    blocks := [⟨.selection discriminant, false, false, 1⟩] }

theorem words_are_runs_mixed :
    let line := "\u3000#case a,,\tb , c\t"
    let setting := Setting.top Options.default fun _ => .unreadable .notFound
    let bindings : Variables := NameMap.empty.insert "b" (.truth true)
    Line.words line = ["#case", "a", "b", "c"] ∧
      (State.perform setting .case line 2 (selecting (.text "c"))).1.blocks =
        [⟨.selection (.text "c"), true, true, 1⟩] ∧
      presence? bindings "a, b" = some true ∧ presence? bindings "a,, b" = some true := by
  intro line setting bindings
  have closes : closesWithComma line = false := by decide +kernel
  obtain ⟨runs, -, isWords, cases, -⟩ :=
    words_are_runs (show ∃ character ∈ line.toList, isSeparator character = false from
      ⟨'a', by decide +kernel, by decide⟩)
  have words : Line.words line = ["#case", "a", "b", "c"] := by decide +kernel
  have opens : opensWithComma line = false := by decide +kernel
  obtain rfl : runs = ["#case", "a", "b", "c"] := by
    rw [words, opens, closes] at isWords
    simpa using isWords.symm
  obtain ⟨_, -, -, -, list⟩ :=
    words_are_runs (show ∃ character ∈ "a, b".toList, isSeparator character = false from
      ⟨'a', by decide +kernel, by decide⟩)
  have once : presence? bindings "a, b" = some true := by decide +kernel
  have twice := (list bindings).2 ['a'] [' ', 'b'] rfl
  rw [once] at twice
  refine ⟨words, ?_, once, twice⟩
  rw [cases (by decide +kernel), closes]
  decide +kernel

/-- The comma makes a case match the empty text, which is not written on it, and a list of names is none
with it. -/
theorem comma_at_end_adds_empty_word :
    let bindings : Variables := (NameMap.empty.insert "x" (.text "")).insert "y" (.truth true)
    Runs "#CASE a,".toList ["#CASE".toList, "a".toList] ∧
      Line.words "#CASE a," = ["#CASE", "a", ""] ∧
      ((Setting.top Options.default fun _ => .unreadable .notFound).outcome
        (Preprocessor.finalState Options.default (fun _ => .unreadable .notFound) bindings .off
          "#SWITCH x\n#CASE a,\nhit\n#ENDSWITCH")).output = "hit" ∧
      presence? bindings "x, y" = some true ∧ presence? bindings "x, y," = none := by
  intro bindings
  obtain ⟨words, isRuns⟩ := Line.runs_exist "#CASE a,".toList
  obtain rfl : words = ["#CASE".toList, "a".toList] := by
    rw [Line.runs_eq_filter isRuns]
    decide
  exact ⟨isRuns, by decide +kernel⟩

end Run

end LineTemplate

import LineTemplate.Preprocessor
import LineTemplate.Proofs.Run.Handling
import LineTemplate.Proofs.Text.Lines

/-!
Texts without directives. Without variables such a text passes through line by line, each line less
the carriage return that may end it. So what comes out passes through unchanged, unless a line ended
in more than one of them.
-/

namespace LineTemplate

/-- What a line is depends on what is left of it between the blanks at its ends. -/
theorem Directive.of_line_of_trim {line other : String}
    (same : Text.trim line.toList = Text.trim other.toList) :
    Directive.ofLine? line = Directive.ofLine? other := by
  simp only [Directive.ofLine?, Line.firstWord, Line.words, same]

namespace Run.State

/-- No block or loop is open, and no marker stands for anything. -/
structure Quiet (state : State) : Prop where
  blocks : state.blocks = []
  loops : state.loops.frames = []
  unmarked : (state.markers.enabled && !state.markers.entries.isEmpty) = false

variable {setting : Setting} {state : State}

theorem step_of_quiet (quiet : state.Quiet) (untrimmed : setting.options.trimsLines = false)
    {line : String} (plain : Directive.ofLine? line = none) :
    state.step setting line =
      { state with cursor := state.cursor + 1, emitted := state.emitted.push line } := by
  have active : state.advance.isActive = true := by
    simp only [isActive, advance, Block.Stack.isActive, Loop.Stack.isActive, quiet.blocks, quiet.loops]
    rfl
  have content : setting.content state.advance.markers line = line := by
    simp only [Setting.content, Markers.apply, advance, quiet.unmarked, untrimmed]
    rfl
  have markers : state.markers.searched = state.markers := by
    simp only [Markers.searched, quiet.unmarked]
    rfl
  rw [step, plain]
  simp only [active, content, if_true, emit]
  simp only [advance, markers]

/-- The induction is over the lines from the cursor on, each of which is one step. -/
theorem over_plain_lines (untrimmed : setting.options.trimsLines = false) {lines : Array String}
    (rest : List String) (quiet : state.Quiet) (stands : Stands lines state.cursor rest)
    (size : state.cursor + rest.length = lines.size)
    (plain : ∀ line ∈ rest, Directive.ofLine? line = none) :
    state.overLines setting lines =
      { state with cursor := lines.size, emitted := state.emitted ++ rest.toArray } := by
  induction rest generalizing state with
  | nil =>
      have behind : state.cursor = lines.size := size
      rw [over_lines_of_outside (Nat.le_of_eq behind.symm), ← behind]
      simp
  | cons line following ih =>
      obtain ⟨plainHere, plainBelow⟩ := List.forall_mem_cons.mp plain
      let after := { state with cursor := state.cursor + 1, emitted := state.emitted.push line }
      have quietAfter : after.Quiet := ⟨quiet.blocks, quiet.loops, quiet.unmarked⟩
      have sizeAfter : after.cursor + following.length = lines.size := by
        rw [← size, List.length_cons, Nat.add_right_comm]
        rfl
      have grouped : state.emitted.push line ++ following.toArray =
          state.emitted ++ (line :: following).toArray := by simp
      rw [over_lines_of_line stands.1, step_of_quiet quiet untrimmed plainHere,
        ih quietAfter stands.2 sizeAfter plainBelow, ← grouped]

end Run.State

open Run

namespace Preprocessor

variable {preprocessor : Preprocessor} {substitution : Substitution} {text : String}

/-- Without variables the markers of a run are off or none. -/
theorem quiet_start (own : substitution = .off ∨ substitution = .fromVariables)
    (options : Options) :
    (State.start NameMap.empty
      (Markers.ofSubstitution substitution NameMap.empty options.opening options.closing)
      options.maximalPasses).Quiet := by
  refine ⟨rfl, rfl, ?_⟩
  rcases own with rfl | rfl <;> rfl

/-- Every line is put into the output as it is, and nothing is reported. -/
theorem process_of_plain (unix : preprocessor.options.lineEnding = .unix)
    (untrimmed : preprocessor.options.trimsLines = false)
    (own : substitution = .off ∨ substitution = .fromVariables)
    (plain : ∀ line ∈ Text.splitLines text, Directive.ofLine? line = none) (files : Files) :
    preprocessor.process files NameMap.empty substitution (.text text) =
      (Text.withLineFeeds text, ofOptions preprocessor.options) := by
  let setting := Setting.top preprocessor.options files
  let start := State.start NameMap.empty
    (Markers.ofSubstitution substitution NameMap.empty preprocessor.options.opening
      preprocessor.options.closing) preprocessor.options.maximalPasses
  let lines := (Text.splitLines text).toArray
  let final := { start with cursor := lines.size, emitted := lines }
  have quiet : start.Quiet := quiet_start own preprocessor.options
  have stands : Stands lines start.cursor (Text.splitLines text) := stands_drop lines 0
  have size : start.cursor + (Text.splitLines text).length = lines.size := by
    rw [List.size_toArray]
    exact Nat.zero_add _
  have ran : start.overLines setting lines = final := by
    have emitted : start.emitted ++ (Text.splitLines text).toArray = lines := Array.empty_append
    rw [State.over_plain_lines untrimmed _ quiet stands size plain, emitted]
  have closed : finalState preprocessor.options files NameMap.empty substitution text = final := by
    change (start.overLines setting lines).close setting = final
    rw [ran]
    exact close_of_nothing_open setting quiet.blocks quiet.loops
  simp only [process, Source.read, closed, Setting.outcome, unix, Setting.top]
  rfl

theorem plain_with_line_feeds
    (plain : ∀ line ∈ Text.splitLines text, Directive.ofLine? line = none) :
    ∀ line ∈ Text.splitLines (Text.withLineFeeds text), Directive.ofLine? line = none := by
  intro line member
  rw [Text.splitLines, Text.split_on_with_line_feeds, List.map_map] at member
  obtain ⟨piece, listed, rfl⟩ := List.mem_map.mp member
  rw [← plain _ (List.mem_map_of_mem listed)]
  refine Directive.of_line_of_trim ?_
  simp only [Function.comp_apply, String.toList_ofList, Text.trim_without_final_return]

/-- A text without directives comes out as it is but for carriage returns, and what comes out passes
through unchanged exactly when no line of the text ends in two of them. -/
theorem plain_text_passes_through (unix : preprocessor.options.lineEnding = .unix)
    (untrimmed : preprocessor.options.trimsLines = false)
    (own : substitution = .off ∨ substitution = .fromVariables)
    (plain : ∀ line ∈ Text.splitLines text, Directive.ofLine? line = none) (files : Files) :
    let (output, after) := preprocessor.process files NameMap.empty substitution (.text text)
    let (again, later) := after.process files NameMap.empty substitution (.text output)
    after.diagnostics = #[] ∧ later.diagnostics = #[] ∧
      ('\r' ∉ text.toList → output = text) ∧
      (again = output ↔ ∀ line ∈ Text.splitOn '\n' text.toList, ¬ ['\r', '\r'] <:+ line) := by
  rw [process_of_plain unix untrimmed own plain files]
  dsimp only
  have once := @process_of_plain (ofOptions preprocessor.options) substitution
    (Text.withLineFeeds text) unix untrimmed own (plain_with_line_feeds plain) files
  rw [once]
  exact ⟨rfl, rfl, Text.with_line_feeds_of_absent, Text.with_line_feeds_twice_iff text⟩

/-- A line with an unknown keyword, an empty one and one that ends in a carriage return. -/
theorem plain_text_passes_through_returned :
    let text := "#NOTE %x%\n\n1\r\n\r"
    let files : Files := fun _ => .unreadable .notFound
    (∀ line ∈ Text.splitLines text, Directive.ofLine? line = none) ∧
      (let (output, after) := new.process files NameMap.empty .fromVariables (.text text)
      let (again, later) := after.process files NameMap.empty .fromVariables (.text output)
      after.diagnostics = #[] ∧ later.diagnostics = #[] ∧
        ('\r' ∉ text.toList → output = text) ∧
        (again = output ↔ ∀ line ∈ Text.splitOn '\n' text.toList, ¬ ['\r', '\r'] <:+ line)) := by
  intro text files
  have plain : ∀ line ∈ Text.splitLines text, Directive.ofLine? line = none := by decide
  exact ⟨plain, @plain_text_passes_through new .fromVariables text rfl rfl (Or.inr rfl) plain files⟩

/-- Of two carriage returns at the end of a line each time takes one. -/
theorem plain_text_changes_again :
    ¬ ∀ (preprocessor : Preprocessor) (substitution : Substitution) (text : String) (files : Files),
      preprocessor.options.lineEnding = .unix → preprocessor.options.trimsLines = false →
      (substitution = .off ∨ substitution = .fromVariables) →
      (∀ line ∈ Text.splitLines text, Directive.ofLine? line = none) →
      let (output, after) := preprocessor.process files NameMap.empty substitution (.text text)
      let (again, _) := after.process files NameMap.empty substitution (.text output)
      after.diagnostics = #[] ∧ ('\r' ∉ text.toList → output = text) ∧ again = output := by
  intro claimed
  have plain : ∀ line ∈ Text.splitLines "a\r\r", Directive.ofLine? line = none := by decide
  have settled := claimed new .off "a\r\r" (fun _ => .unreadable .notFound) rfl rfl (Or.inl rfl) plain
  rw [process_of_plain rfl rfl (Or.inl rfl) plain] at settled
  dsimp only at settled
  rw [@process_of_plain (ofOptions new.options) .off _ rfl rfl (Or.inl rfl)
    (plain_with_line_feeds plain)] at settled
  exact absurd settled.2.2 (by decide)

end Preprocessor

end LineTemplate

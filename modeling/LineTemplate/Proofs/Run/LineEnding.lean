import LineTemplate.Proofs.Run.Splicing

/-!
The line ending. It is put between the lines of the output and read nowhere else. So runs that differ
in it alone pass through the same states but for what they have put out, report the same, and have one
list of lines for their output.
-/

namespace LineTemplate

def Options.endedBy (options : Options) (ending : LineEnding) : Options :=
  { options with lineEnding := ending }

namespace Run

/-- What a run over an included file reports, if there may be one. -/
def Setting.reports (setting : Setting) (path text : String) (bindings : Variables)
    (markers : Markers) : Option (Array Diagnostic) :=
  setting.inclusion.map fun inclusion => (inclusion path text bindings markers).diagnostics

/-- Settings that differ in the line ending alone, and in what it makes of included files. -/
structure Setting.SameButEnding (first second : Setting) : Prop where
  options : second.options = first.options.endedBy second.options.lineEnding
  files : second.files = first.files
  file : second.file = first.file
  reports : second.reports = first.reports

theorem Setting.same_but_ending_refl (setting : Setting) : setting.SameButEnding setting :=
  ⟨rfl, rfl, rfl, rfl⟩

namespace State

/-- The state as if nothing had been put out. -/
def muted (state : State) : State :=
  { state with emitted := #[] }

/-- What a directive leaves, as if nothing had been put out. -/
def mute (left : State × Except DirectiveError Unit) : State × Except DirectiveError Unit :=
  (left.1.muted, left.2)

variable {first second : Setting} {line argument : String} {number : Nat} {state other : State}

theorem mute_assign (state : State) (argument : String) :
    mute (state.assign argument) = state.muted.assign argument := by
  have same : state.muted.assignment argument = state.assignment argument := by
    simp only [assignment, evaluate, muted]
  rw [assign, assign, same]
  cases state.assignment argument <;> rfl

theorem mute_open_loop (state : State) (line : String) (number : Nat) :
    mute (state.openLoop line number) = state.muted.openLoop line number := by
  have active : state.muted.isActive = state.isActive := rfl
  have loops : state.muted.loops = state.loops := rfl
  have cursor : state.muted.cursor = state.cursor := rfl
  rw [openLoop, openLoop, active, loops, cursor]
  cases state.isActive with
  | false => rfl
  | true =>
      cases Loop.Clause.ofLine line state.loops.limit with
      | error error => rfl
      | ok clause =>
          simp only [if_true]
          rcases state.loops.push clause state.cursor number with ⟨after, error | pass⟩ <;> rfl

theorem mute_finish_loop (state : State) : mute state.finishLoop = state.muted.finishLoop := by
  have loops : state.muted.loops = state.loops := rfl
  rw [finishLoop, finishLoop, loops]
  rcases state.loops.finish with ⟨after, error | ⟨cursor, name, value⟩ | _⟩ <;> rfl

theorem condition_muted (state : State) (directive : Directive) (line : String) :
    state.muted.condition directive line = state.condition directive line := by
  funext asked
  simp only [condition, holds, evaluate, muted]
  rfl

theorem discriminant_muted (state : State) (line : String) :
    state.muted.discriminant line = state.discriminant line := by
  funext asked
  simp only [discriminant, muted]
  rfl

theorem mute_with_blocks {Answer : Type} (state : State)
    (changed : Block.Stack × Except DirectiveError Answer) :
    mute (state.withBlocks changed) = state.muted.withBlocks changed :=
  rfl

/-- A directive that includes no file neither reads the output nor adds to it, and has no use for the
setting. -/
theorem mute_perform {directive : Directive} (includesNone : directive ≠ .insertFile)
    (first second : Setting) (line : String) (number : Nat) (state : State) :
    mute (perform first directive line number state) =
      perform second directive line number state.muted := by
  cases directive with
  | insertFile => exact absurd rfl includesNone
  | set =>
      simp only [perform]
      change mute (if state.isActive then _ else _) = if state.isActive then _ else _
      split
      · exact mute_assign state _
      · rfl
  | loop => exact mute_open_loop state line number
  | endLoop => exact mute_finish_loop state
  | onlyIf | elseIf =>
      simp only [perform, condition_muted]
      exact mute_with_blocks state _
  | switch =>
      simp only [perform, discriminant_muted]
      exact mute_with_blocks state _
  | otherwise | endIf | case | default | endSwitch => exact mute_with_blocks state _

/-- Which files are found and which are refused does not depend on the line ending, and a run over a
file reports the same. -/
theorem included_reports (same : first.SameButEnding second) (state : State) (argument : String) :
    (second.includeFile state.muted argument).map Outcome.diagnostics =
      (first.includeFile state argument).map Outcome.diagnostics := by
  have folder : second.options.sourceFolder = first.options.sourceFolder := by
    rw [same.options]
    rfl
  have limit : second.options.maximalIncludeDepth = first.options.maximalIncludeDepth := by
    rw [same.options]
    rfl
  have bindings : state.muted.bindings = state.bindings := rfl
  have markers : state.muted.markers = state.markers := rfl
  have reports (path text : String) : second.reports path text state.bindings state.markers =
      first.reports path text state.bindings state.markers := by rw [same.reports]
  simp only [Setting.reports] at reports
  simp only [Setting.includeFile, same.files, folder, limit, bindings, markers]
  split
  · rfl
  · split
    · rfl
    · cases inner : first.inclusion with
      | none =>
          cases outer : second.inclusion with
          | none => rfl
          | some run => simp [inner, outer] at reports
      | some run =>
          cases outer : second.inclusion with
          | none => simp [inner, outer] at reports
          | some run =>
              simp only [inner, outer, Option.map_some, Option.some.injEq] at reports
              cases (first.files (joinPath first.options.sourceFolder
                  (Setting.fileName argument))).read with
              | error error => rfl
              | ok text => exact congrArg Except.ok (reports _ _)

theorem mute_include_file (same : first.SameButEnding second) (state : State)
    (argument : String) :
    mute (state.includeFile first argument) = mute (state.muted.includeFile second argument) := by
  have reports := included_reports same state argument
  rw [includeFile, includeFile]
  cases inner : first.includeFile state argument with
  | error error =>
      cases outer : second.includeFile state.muted argument with
      | error error =>
          rw [inner, outer] at reports
          cases reports
          rfl
      | ok outcome => simp [inner, outer, Except.map] at reports
  | ok outcome =>
      cases outer : second.includeFile state.muted argument with
      | error error => simp [inner, outer, Except.map] at reports
      | ok outcome =>
          simp only [inner, outer, Except.map, Except.ok.injEq] at reports
          simp only [mute, muted, insert, reports]

theorem muted_settle (same : first.SameButEnding second) (number : Nat)
    (left : State × Except DirectiveError Unit) :
    (left.1.settle first number left.2).muted =
      (mute left).1.settle second number (mute left).2 := by
  obtain ⟨state, result⟩ := left
  cases result with
  | ok => rfl
  | error error => simp only [mute, settle, record, muted, same.file]

/-- A line does the same with any line ending, but for what it puts out. -/
theorem muted_step (same : first.SameButEnding second) (line : String) (state : State) :
    (state.step first line).muted = (state.muted.step second line).muted := by
  have moved : state.muted.advance = state.advance.muted := rfl
  have active : state.advance.muted.isActive = state.advance.isActive := rfl
  have cursor : state.muted.cursor = state.cursor := rfl
  cases spelled : Directive.ofLine? line with
  | none =>
      simp only [step, spelled, moved, active]
      split <;> rfl
  | some directive =>
      rw [step_of_spelled spelled, step_of_spelled spelled, cursor, moved, muted_settle same,
        muted_settle second.same_but_ending_refl]
      by_cases includes : directive = .insertFile
      · subst includes
        simp only [perform, active]
        split
        · rw [mute_include_file same, mute_include_file second.same_but_ending_refl]
        · rfl
      · rw [mute_perform includes first second, mute_perform includes second second]
        rfl

/-- States that differ in what they have put out, if at all. -/
theorem eq_of_muted (alike : state.muted = other.muted) :
    ∃ emitted, other = { state with emitted } := by
  obtain ⟨bindings, pattern, markers, blocks, loops, emitted, diagnostics, cursor⟩ := other
  obtain ⟨rfl, rfl, rfl, rfl, rfl, -, rfl, rfl⟩ := State.mk.inj alike
  exact ⟨emitted, rfl⟩

theorem muted_over_lines (same : first.SameButEnding second) (lines : Array String)
    (alike : state.muted = other.muted) :
    (state.overLines first lines).muted = (other.overLines second lines).muted := by
  fun_induction State.overLines first lines state generalizing other with
  | case1 state inside ih =>
      have cursor : state.muted.cursor = other.muted.cursor := by rw [alike]
      have here : lines[other.cursor]? = some lines[state.cursor] := by
        rw [← show state.cursor = other.cursor from cursor]
        exact Array.getElem?_eq_getElem inside
      rw [over_lines_of_line here]
      apply ih
      rw [muted_step same, alike, ← muted_step second.same_but_ending_refl]
  | case2 state outside =>
      have cursor : state.muted.cursor = other.muted.cursor := by rw [alike]
      rw [show state.cursor = other.cursor from cursor] at outside
      rw [over_lines_of_outside (Nat.not_lt.mp outside)]
      exact alike

theorem muted_close (same : first.SameButEnding second) (state : State) :
    (state.close first).muted = state.muted.close second := by
  have openings : state.muted.openings = state.openings := rfl
  have unclosed : second.unclosed = first.unclosed := by
    funext opening
    rw [Setting.unclosed, Setting.unclosed, same.file]
  rw [close_eq, close_eq, openings, unclosed]
  rfl

end State

/-- A run over a text reports the same with any line ending. -/
theorem Setting.diagnostics_over_text {first second : Setting} (same : first.SameButEnding second)
    (bindings : Variables) (markers : Markers) (text : String) :
    (second.overText bindings markers text).diagnostics =
      (first.overText bindings markers text).diagnostics := by
  have passes : second.options.maximalPasses = first.options.maximalPasses := by
    rw [same.options]
    rfl
  have alike := State.muted_over_lines same (Text.splitLines text).toArray
    (rfl : (State.start bindings markers first.options.maximalPasses).muted = _)
  have closed : (first.overText bindings markers text).muted =
      (second.overText bindings markers text).muted := by
    rw [overText, overText, passes, State.muted_close same,
      State.muted_close second.same_but_ending_refl, alike]
  have kept : (first.overText bindings markers text).muted.diagnostics =
      (second.overText bindings markers text).muted.diagnostics := by rw [closed]
  exact kept.symm

theorem inclusion_same_but_ending (options : Options) (files : Files) (ending : LineEnding)
    (levels : Nat) (file : Option String) :
    Setting.SameButEnding
      { options, files, file, inclusion := inclusionWithin options files levels }
      { options := options.endedBy ending, files, file,
        inclusion := inclusionWithin (options.endedBy ending) files levels } := by
  induction levels generalizing file with
  | zero => exact ⟨rfl, rfl, rfl, rfl⟩
  | succ levels ih =>
      refine ⟨rfl, rfl, rfl, ?_⟩
      funext path text bindings markers
      exact congrArg some (Setting.diagnostics_over_text (ih (some path)) bindings markers text)

theorem at_depth_same_but_ending (options : Options) (files : Files) (ending : LineEnding)
    (depth : Nat) (file : Option String) :
    (Setting.atDepth options files depth file).SameButEnding
      (.atDepth (options.endedBy ending) files depth file) :=
  inclusion_same_but_ending options files ending (options.maximalIncludeDepth - depth) file

namespace State

variable {options : Options} {files : Files} {depth : Nat} {state other : State}

theorem cursor_of_muted (alike : state.muted = other.muted) : other.cursor = state.cursor := by
  obtain ⟨emitted, rfl⟩ := eq_of_muted alike
  rfl

theorem call_ended_by (alike : state.muted = other.muted) (ending : LineEnding) (line : String) :
    call? (options.endedBy ending) files depth other line =
      call? options files depth state line := by
  obtain ⟨emitted, rfl⟩ := eq_of_muted alike
  rfl

theorem content_line_ended_by (alike : state.muted = other.muted) (ending : LineEnding)
    (file : Option String) (line : String) :
    other.contentLine? (.atDepth (options.endedBy ending) files depth file) line =
      state.contentLine? (.atDepth options files depth file) line := by
  obtain ⟨emitted, rfl⟩ := eq_of_muted alike
  rfl

/-- A text has the same lines for the output with any line ending. Expanding a line that includes a file
uses up a level of inclusion; handling a line uses up one of the steps that the text still takes. -/
theorem lines_from_ended_by (options : Options) (files : Files) (ending : LineEnding) (depth : Nat)
    (file : Option String) (lines : Array String) (state other : State)
    (alike : state.muted = other.muted) :
    other.linesFrom (options.endedBy ending) files depth file lines =
      state.linesFrom options files depth file lines := by
  have cursor := cursor_of_muted alike
  cases here : lines[state.cursor]? with
  | none =>
      have outside := Array.getElem?_eq_none_iff.mp here
      rw [lines_from_of_outside outside, lines_from_of_outside (cursor ▸ outside)]
  | some line =>
      have inside := (Array.getElem?_eq_some_iff.mp here).1
      have fewer := state.steps_left_step (.atDepth options files depth file) line lines.size inside
      have stepped := muted_step (at_depth_same_but_ending options files ending depth file) line state
      rw [alike, ← muted_step (Setting.same_but_ending_refl _)] at stepped
      have rest := lines_from_ended_by options files ending depth file lines _ _ stepped
      have there : lines[other.cursor]? = some line := cursor ▸ here
      have calls := @call_ended_by options files depth _ _ alike ending line
      cases called : call? options files depth state line with
      | none =>
          rw [lines_from_of_idle here called, lines_from_of_idle there (calls.trans called), rest,
            content_line_ended_by alike]
      | some entry =>
          obtain ⟨path, text⟩ := entry
          have above := depth_lt_of_call called
          have inner := lines_from_ended_by options files ending (depth + 1) (some path)
            (Text.splitLines text).toArray
            (start state.bindings state.markers options.maximalPasses) _ rfl
          rw [lines_from_of_call file here called,
            lines_from_of_call file there (calls.trans called), rest]
          obtain ⟨emitted, rfl⟩ := eq_of_muted alike
          exact congrArg (spliced · ++ _) inner
termination_by (options.maximalIncludeDepth - depth, state.stepsLeft lines.size)
decreasing_by
  · exact Prod.Lex.right _ fewer
  · exact Prod.Lex.left _ _ (by omega)

end State

/-- What a run over a text puts out is one list of lines, joined with any line ending. -/
theorem output_over_text (options : Options) (files : Files) (ending : LineEnding) (depth : Nat)
    (file : Option String) (bindings : Variables) (markers : Markers) (text : String) :
    let setting := Setting.atDepth (options.endedBy ending) files depth file
    (setting.outcome (setting.overText bindings markers text)).output =
      String.intercalate ending.text
        (State.textLines options files depth file bindings markers text) := by
  intro setting
  have joined := join_of_join_alike (@State.join_alike_over_text (options.endedBy ending) files depth
    file bindings markers text)
  have same : State.textLines (options.endedBy ending) files depth file bindings markers text =
      State.textLines options files depth file bindings markers text :=
    State.lines_from_ended_by options files ending depth file (Text.splitLines text).toArray _ _ rfl
  rw [same] at joined
  exact joined

end Run

namespace Preprocessor

open Run

/-- The line ending only separates. With every line ending the output is the same list of lines, joined
with that ending, and the same is reported. -/
theorem line_ending_only_separates (options : Options) (files : Files) (bindings : Variables)
    (substitution : Substitution) (source : Source) :
    ∃ (lines : List String) (diagnostics : Array Diagnostic),
      ∀ (ending : LineEnding) (earlier : Array Diagnostic),
        let preprocessor : Preprocessor :=
          { options := { options with lineEnding := ending }, diagnostics := earlier }
        let (output, after) := preprocessor.process files bindings substitution source
        output = String.intercalate ending.text lines ∧ after.diagnostics = diagnostics := by
  cases read : source.read files with
  | error error =>
      refine ⟨[], #[{ file := none, line := 0, error }], fun ending earlier => ?_⟩
      simp [process, read]
  | ok text =>
      let markers :=
        Markers.ofSubstitution substitution bindings options.opening options.closing
      refine ⟨State.textLines options files 0 none bindings markers text,
        (finalState options files bindings substitution text).diagnostics, fun ending earlier => ?_⟩
      simp only [process, read]
      exact ⟨output_over_text options files ending 0 none bindings markers text,
        Setting.diagnostics_over_text (at_depth_same_but_ending options files ending 0 none) bindings
          markers text⟩

end Preprocessor

end LineTemplate

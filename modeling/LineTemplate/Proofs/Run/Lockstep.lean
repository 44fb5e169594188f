import LineTemplate.Preprocessor
import LineTemplate.Proofs.Run.Emission
import LineTemplate.Proofs.Run.Termination
import LineTemplate.Proofs.Variation
import LineTemplate.Run.Inclusions

/-!
Variables that no directive mentions do not steer a run. Two runs that start with other values for
one such variable go through the same lines side by side, into the same files and out of them, with
the same blocks, loops and diagnostics. A content line is put out by both at once, cut into the same
gaps and markers, and only the marker of that name may have another text.
-/

namespace LineTemplate

open Text (Mentions)

def Substitution.isFromVariables : Substitution → Bool
  | fromVariables => true
  | _ => false

theorem Markers.of_fixed_substitution {substitution : Substitution}
    (fixed : substitution.isFromVariables = false) (bindings other : Variables)
    (opening closing : String) :
    ofSubstitution substitution bindings opening closing =
      ofSubstitution substitution other opening closing := by
  cases substitution with
  | fromVariables => cases fixed
  | off | table => rfl

namespace Run

/-- What two runs differ in: the value of one variable, and the text of its marker. -/
structure Difference where
  name : String
  value : Value
  otherValue : Value
  marker : String
  text : String
  otherText : String

/-- Two stores differ in the value of one name. -/
def Difference.ofVariables (options : Options) (bindings varied : Variables) (name : String) :
    Difference :=
  let value := (bindings.get? name).getD default
  let otherValue := (varied.get? name).getD default
  { name
    value
    otherValue
    marker := options.opening ++ name ++ options.closing
    text := value.render
    otherText := otherValue.render }

variable {options : Options} {files : Files} {difference : Difference} {depth number : Nat}
  {file : Option String} {line argument : String} {directive : Directive}

namespace State

/-- States at the same line of two runs that differ no more than said. -/
structure InStep (difference : Difference) (first second : State) : Prop where
  bindings : NameMap.Varies difference.name difference.value difference.otherValue first.bindings
    second.bindings
  pattern : first.pattern = second.pattern
  markers : Markers.Varies difference.name difference.marker difference.text difference.otherText
    first.markers second.markers
  blocks : first.blocks = second.blocks
  loops : first.loops = second.loops
  emitted : first.emitted.size = second.emitted.size
  diagnostics : first.diagnostics = second.diagnostics
  cursor : first.cursor = second.cursor

variable {first second : State}

theorem in_step_start {bindings varied : Variables} {markers variedMarkers : Markers}
    (varies : NameMap.Varies difference.name difference.value difference.otherValue bindings varied)
    (markersVary : Markers.Varies difference.name difference.marker difference.text
      difference.otherText markers variedMarkers) (maximalPasses : Nat) :
    InStep difference (start bindings markers maximalPasses)
      (start varied variedMarkers maximalPasses) := by
  have pattern : Expression.NamePattern.ofVariables bindings =
      Expression.NamePattern.ofVariables varied := by
    unfold Expression.NamePattern.ofVariables
    rw [NameMap.names_of_varies varies]
  exact ⟨varies, pattern, markersVary, rfl, rfl, rfl, rfl, rfl⟩

theorem is_active_of_in_step (inStep : InStep difference first second) :
    first.isActive = second.isActive := by
  rw [isActive, isActive, inStep.blocks, inStep.loops]

theorem in_step_advance (inStep : InStep difference first second) :
    InStep difference first.advance second.advance :=
  { inStep with cursor := congrArg (· + 1) inStep.cursor }

theorem in_step_blocks (inStep : InStep difference first second) (blocks : Block.Stack) :
    InStep difference { first with blocks } { second with blocks } :=
  { inStep with blocks := rfl }

theorem in_step_loops (inStep : InStep difference first second) (loops : Loop.Stack) :
    InStep difference (first.withLoops loops) (second.withLoops loops) :=
  { inStep with loops := rfl }

theorem in_step_cursor (inStep : InStep difference first second) (cursor : Nat) :
    InStep difference { first with cursor } { second with cursor } :=
  { inStep with cursor := rfl }

theorem in_step_bind (inStep : InStep difference first second) (name : String)
    (value : Value) : InStep difference (first.bind name value) (second.bind name value) := by
  have bindings := NameMap.varies_insert inStep.bindings name value
  refine { inStep with
    bindings, pattern := ?_, markers := Markers.varies_bind inStep.markers name value }
  unfold bind Expression.NamePattern.ofVariables
  simp only [NameMap.contains_of_varies inStep.bindings name, inStep.pattern,
    NameMap.names_of_varies bindings]

theorem in_step_record (inStep : InStep difference first second) (diagnostic : Diagnostic) :
    InStep difference (first.record diagnostic) (second.record diagnostic) :=
  { inStep with diagnostics := congrArg (·.push diagnostic) inStep.diagnostics }

theorem in_step_insert {output varied : String} (inStep : InStep difference first second)
    (diagnostics : Array Diagnostic) :
    InStep difference (first.insert ⟨output, diagnostics⟩) (second.insert ⟨varied, diagnostics⟩) := by
  refine { inStep with emitted := ?_, diagnostics := ?_ }
  · simp only [insert, Array.size_push, inStep.emitted]
  · simp only [insert, inStep.diagnostics]

theorem in_step_emit {text varied : String} (inStep : InStep difference first second) :
    InStep difference (first.emit text) (second.emit varied) := by
  refine { inStep with markers := Markers.varies_searched inStep.markers, emitted := ?_ }
  simp only [emit, Array.size_push, inStep.emitted]

theorem in_step_close {setting : Setting} (inStep : InStep difference first second) :
    InStep difference (first.close setting) (second.close setting) := by
  have openings : first.openings = second.openings := by
    rw [openings, openings, inStep.blocks, inStep.loops]
  rw [close, close, openings]
  generalize second.openings = left
  clear openings
  induction left generalizing first second with
  | nil => exact inStep
  | cons opening rest ih => exact ih (in_step_record inStep _)

section Unmentioned

variable (inStep : InStep difference first second)
  (unmentioned : ¬ Mentions difference.name line.toList)
include inStep

theorem evaluate_in_step {text : String} (unmentioned : ¬ Mentions difference.name text.toList)
    (directive : Directive) : first.evaluate directive text = second.evaluate directive text := by
  have same := @Expression.substitute_of_varies second.pattern _ _ _ _ _ inStep.bindings text
    unmentioned
  simp only [evaluate, Expression.evaluateWith, inStep.pattern, same]

theorem holds_in_step {text : String} (unmentioned : ¬ Mentions difference.name text.toList)
    (directive : Directive) : first.holds directive text = second.holds directive text := by
  simp only [holds, Expression.presence_of_varies inStep.bindings unmentioned,
    evaluate_in_step inStep unmentioned]

include unmentioned

theorem condition_in_step (directive : Directive) :
    first.condition directive line = second.condition directive line := by
  funext asked
  have quiet := Line.argument_unmentioned unmentioned
  simp only [condition, inStep.loops, holds_in_step inStep quiet]

theorem discriminant_in_step : first.discriminant line = second.discriminant line := by
  funext asked
  simp only [discriminant, inStep.loops]
  cases selected : (Line.words line)[1]? with
  | none => rfl
  | some word =>
      have inside := Line.words_inside (List.mem_of_getElem? selected)
      have same : first.bindings.lookup? word = second.bindings.lookup? word :=
        Variables.lookup_of_varies inStep.bindings fun mentioned =>
          unmentioned (Text.mentions_of_inside inside mentioned)
      simp only [Option.getD_some, same]

theorem assignment_in_step :
    first.assignment (Line.argument line) = second.assignment (Line.argument line) := by
  unfold assignment
  cases split : Text.splitOnce? (· == '=') (Line.argument line).toList with
  | none => rfl
  | some sides =>
      obtain ⟨left, right⟩ := sides
      have quiet : ¬ Mentions difference.name (String.ofList (Text.trim right)).toList := by
        rw [String.toList_ofList]
        exact fun mentioned => Line.argument_unmentioned unmentioned
          (Text.mentions_of_inside ((Text.trim_inside right).trans (Text.split_once_inside split))
            mentioned)
      simp only [evaluate_in_step inStep quiet]

end Unmentioned

/-- What a directive leaves of two states, and the same result. -/
structure LeftInStep (difference : Difference)
    (left right : State × Except DirectiveError Unit) : Prop where
  states : InStep difference left.1 right.1
  result : left.2 = right.2

theorem in_step_settle {setting : Setting} {left right : State × Except DirectiveError Unit}
    (inStep : LeftInStep difference left right) :
    InStep difference (left.1.settle setting number left.2)
      (right.1.settle setting number right.2) := by
  unfold settle
  rw [inStep.result]
  split
  · exact inStep.states
  · exact in_step_record inStep.states _

theorem left_with_blocks {Answer : Type} (inStep : InStep difference first second)
    (changed : Block.Stack × Except DirectiveError Answer) :
    LeftInStep difference (first.withBlocks changed) (second.withBlocks changed) :=
  ⟨in_step_blocks inStep changed.1, rfl⟩

theorem left_assign (inStep : InStep difference first second)
    (unmentioned : ¬ Mentions difference.name line.toList) :
    LeftInStep difference (first.assign (Line.argument line))
      (second.assign (Line.argument line)) := by
  unfold assign
  rw [assignment_in_step inStep unmentioned]
  cases second.assignment (Line.argument line) with
  | error error => exact ⟨inStep, rfl⟩
  | ok found => exact ⟨in_step_bind inStep found.1 found.2, rfl⟩

theorem outcome_of_line_setting {state : State} {outcome : Outcome}
    (included : (lineSetting options files depth file).includeFile state argument = .ok outcome) :
    outcome = { output := "", diagnostics := #[] } := by
  by_cases above : depth < options.maximalIncludeDepth
  · simp only [Setting.includeFile, lineSetting, if_pos above] at included
    split at included
    · cases included
    · split at included
      · cases included
      · split at included
        · cases included
        · exact (Except.ok.inj included).symm
  · simp only [Setting.includeFile, lineSetting, if_neg above] at included
    split at included
    · cases included
    · split at included <;> cases included

/-- The machine leaves the runs over included files to itself: the line as such inserts nothing. -/
theorem left_include_file (inStep : InStep difference first second) (argument : String) :
    LeftInStep difference
      (first.includeFile (lineSetting options files depth file) argument)
      (second.includeFile (lineSetting options files depth file) argument) := by
  have same : (lineSetting options files depth file).includeFile first argument =
      (lineSetting options files depth file).includeFile second argument := by
    by_cases above : depth < options.maximalIncludeDepth
    · simp only [Setting.includeFile, lineSetting, if_pos above]
    · simp only [Setting.includeFile, lineSetting, if_neg above]
  unfold includeFile
  rw [same]
  cases included : (lineSetting options files depth file).includeFile second argument with
  | error error => exact ⟨inStep, rfl⟩
  | ok outcome =>
      rw [outcome_of_line_setting included]
      exact ⟨in_step_insert inStep #[], rfl⟩

theorem left_open_loop (inStep : InStep difference first second) (line : String)
    (number : Nat) :
    LeftInStep difference (first.openLoop line number) (second.openLoop line number) := by
  unfold openLoop
  rw [is_active_of_in_step inStep, inStep.loops, inStep.cursor]
  split
  · split
    · exact ⟨in_step_loops inStep _, rfl⟩
    · split
      · exact ⟨in_step_loops inStep _, rfl⟩
      · exact ⟨in_step_bind (in_step_loops inStep _) _ _, rfl⟩
  · exact ⟨in_step_loops inStep _, rfl⟩

theorem left_finish_loop (inStep : InStep difference first second) :
    LeftInStep difference first.finishLoop second.finishLoop := by
  unfold finishLoop
  rw [inStep.loops]
  split
  · exact ⟨in_step_loops inStep _, rfl⟩
  · exact ⟨in_step_loops inStep _, rfl⟩
  · exact ⟨in_step_cursor (in_step_bind (in_step_loops inStep _) _ _) _, rfl⟩

theorem left_perform (inStep : InStep difference first second)
    (unmentioned : ¬ Mentions difference.name line.toList) (directive : Directive) (number : Nat) :
    LeftInStep difference
      (perform (lineSetting options files depth file) directive line number first)
      (perform (lineSetting options files depth file) directive line number second) := by
  cases directive with
  | onlyIf | elseIf =>
      simp only [perform, inStep.blocks, condition_in_step inStep unmentioned]
      exact left_with_blocks inStep _
  | switch =>
      simp only [perform, inStep.blocks, discriminant_in_step inStep unmentioned]
      exact left_with_blocks inStep _
  | otherwise | endIf | case | default | endSwitch =>
      simp only [perform, inStep.blocks]
      exact left_with_blocks inStep _
  | set =>
      simp only [perform, is_active_of_in_step inStep]
      split
      · exact left_assign inStep unmentioned
      · exact ⟨inStep, rfl⟩
  | insertFile =>
      simp only [perform, is_active_of_in_step inStep]
      split
      · exact left_include_file inStep _
      · exact ⟨inStep, rfl⟩
  | loop => exact left_open_loop inStep line number
  | endLoop => exact left_finish_loop inStep

/-- A line keeps two states in step, unless it is a directive that mentions the name. -/
theorem in_step_step (inStep : InStep difference first second)
    (unmentioned : Directive.ofLine? line ≠ none → ¬ Mentions difference.name line.toList) :
    InStep difference (first.step (lineSetting options files depth file) line)
      (second.step (lineSetting options files depth file) line) := by
  have advanced := in_step_advance inStep
  cases spelled : Directive.ofLine? line with
  | none =>
      simp only [step, spelled, is_active_of_in_step advanced]
      split
      · exact in_step_emit advanced
      · exact advanced
  | some directive =>
      have quiet := unmentioned (by rw [spelled]; exact Option.some_ne_none directive)
      have left := @left_perform options files _ depth file _ _ _ advanced quiet directive
        (second.cursor + 1)
      rw [step_of_spelled spelled, step_of_spelled spelled, inStep.cursor]
      exact in_step_settle left

end State

/-- The texts that may be read for a text: the text itself, and the files that lines of such texts
include, whether they are reached or not. -/
inductive MayRead (options : Options) (files : Files) (text : String) : String → Prop where
  | itself : MayRead options files text text
  | included {outer path content : String} (read : MayRead options files text outer)
      (named : path ∈ includedPaths options.sourceFolder outer)
      (found : files path = .regular (.ok content)) :
      MayRead options files text (Text.withoutFinalFeed content)

/-- No directive in a text that may be read mentions the name. -/
def Unmentioned (options : Options) (files : Files) (text name : String) : Prop :=
  ∀ inner, MayRead options files text inner →
    ∀ line ∈ Text.splitLines inner, Directive.ofLine? line ≠ none → ¬ Mentions name line.toList

namespace Activation

/-- Runs over the same text, at the same line, after as many lines. -/
structure InStep (options : Options) (files : Files) (text : String) (difference : Difference)
    (first second : Activation) : Prop where
  file : first.file = second.file
  lines : first.lines = second.lines
  handled : first.handled = second.handled
  state : State.InStep difference first.state second.state
  read : ∃ inner, MayRead options files text inner ∧
    first.lines = (Text.splitLines inner).toArray

variable {text inner : String} {first second : Activation}

theorem in_step_proceed {state other : State}
    (inStep : InStep options files text difference first second)
    (states : State.InStep difference state other) :
    InStep options files text difference (first.proceed state) (second.proceed other) :=
  ⟨inStep.file, inStep.lines, congrArg (· + 1) inStep.handled, states, inStep.read⟩

theorem in_step_receive {setting : Setting} {state other : State}
    (inStep : InStep options files text difference first second)
    (ended : State.InStep difference state other) :
    InStep options files text difference (first.receive (setting.outcome state))
      (second.receive (setting.outcome other)) := by
  refine { inStep with state := ?_ }
  simp only [receive, Setting.outcome, ended.diagnostics]
  exact State.in_step_insert inStep.state other.diagnostics

/-- A file is entered with the variables and markers as they are in either run. -/
theorem in_step_start {state other : State} (inStep : State.InStep difference state other)
    (read : MayRead options files text inner) (file : Option String) :
    InStep options files text difference (start options file state.bindings state.markers inner)
      (start options file other.bindings other.markers inner) :=
  ⟨rfl, rfl, rfl, State.in_step_start inStep.bindings inStep.markers _, inner, read, rfl⟩

end Activation

namespace Machine

/-- Machines with as many runs under way, each in step with its counterpart. -/
inductive InStep (options : Options) (files : Files) (text : String) (difference : Difference) :
    Machine → Machine → Prop where
  | running {current other : Activation} {callers others : List Activation}
      (currents : Activation.InStep options files text difference current other)
      (waiting : List.Forall₂ (Activation.InStep options files text difference) callers others) :
      InStep options files text difference (running current callers) (running other others)
  | finished {state other : State} (states : State.InStep difference state other) :
      InStep options files text difference (finished state) (finished other)

/-- What two machines emit with their next steps. Either both put out a content line, and what each puts
out is the line as its markers fill it, cut alike; or both do the same, and put out no line. -/
inductive EmitsAlike (options : Options) (difference : Difference) (first second : Machine) :
    Emission → Emission → Prop where
  | content {line : String} {markers varied : Markers} {factors : List (List Char × String)}
      {last : List Char} (here : first.contentLine? = some (line, markers))
      (there : second.contentLine? = some (line, varied))
      (alike : Markers.CutAlike difference.name difference.text difference.otherText markers varied
        line.toList factors last) :
      EmitsAlike options difference first second
        (.content (options.finish (markers.fill factors last)))
        (.content (options.finish (varied.fill factors last)))
  | other {emission : Emission} (here : first.contentLine? = none)
      (there : second.contentLine? = none) (noContent : ∀ text, emission ≠ .content text) :
      EmitsAlike options difference first second emission emission

/-- What the runs under way have put out after the next step is what they had put out before, with
what each machine emits. -/
def StepsAlike (options : Options) (files : Files) (difference : Difference)
    (first second : Machine) : Prop :=
  ∃ emission varied, EmitsAlike options difference first second emission varied ∧
    (first.advance options files).outputs =
      emission.onto options.lineEnding.text first.outputs ∧
    (second.advance options files).outputs =
      varied.onto options.lineEnding.text second.outputs

variable {text : String} {first second : Machine}

theorem may_read_of_call {state : State} {inner path content : String}
    (read : MayRead options files text inner) (member : line ∈ Text.splitLines inner)
    (called : call? options files depth state line = some (path, content)) :
    MayRead options files text content := by
  unfold call? at called
  simp only at called
  split at called
  · next starts =>
      split at called
      · next found =>
          obtain ⟨_, rfl⟩ := Prod.mk.inj (Option.some.inj called)
          refine .included read (List.mem_filterMap.mpr ⟨line, member, ?_⟩) found
          simp [includedPath?, starts.1, starts.2.2.1]
      · cases called
  · cases called

theorem in_step_advance (unmentioned : Unmentioned options files text difference.name)
    (inStep : InStep options files text difference first second) :
    InStep options files text difference (first.advance options files)
      (second.advance options files) := by
  cases inStep with
  | finished states => exact .finished states
  | @running current other callers others currents waiting =>
      obtain ⟨inner, read, lines⟩ := currents.read
      have depth : others.length = callers.length := waiting.length_eq.symm
      have line : other.lines[other.state.cursor]? = current.lines[current.state.cursor]? := by
        rw [currents.lines, currents.state.cursor]
      have called (line : String) : call? options files callers.length other.state line =
          call? options files callers.length current.state line := by
        simp only [call?, State.is_active_of_in_step currents.state]
      simp only [advance, line, depth, called, ← currents.file]
      cases here : current.lines[current.state.cursor]? with
      | some line =>
          have member : line ∈ Text.splitLines inner := by
            rw [lines] at here
            exact List.mem_of_getElem? (Array.getElem?_toList ▸ here)
          cases call : call? options files callers.length current.state line with
          | some entry =>
              obtain ⟨path, content⟩ := entry
              have entered := may_read_of_call read member call
              simp only [call]
              exact .running (Activation.in_step_start currents.state entered (some path))
                (.cons (Activation.in_step_proceed currents (State.in_step_advance currents.state))
                  waiting)
          | none =>
              simp only [call]
              exact .running (Activation.in_step_proceed currents
                (State.in_step_step currents.state (unmentioned inner read line member))) waiting
      | none =>
          have closed := @State.in_step_close _ _ _
            (lineSetting options files callers.length current.file) currents.state
          cases waiting with
          | nil => exact .finished closed
          | cons caller rest =>
              simp only
              exact .running (Activation.in_step_receive caller closed) rest

/-- Machines in step stay in step. -/
theorem in_step_after (unmentioned : Unmentioned options files text difference.name)
    (inStep : InStep options files text difference first second) (count : Nat) :
    InStep options files text difference (first.after options files count)
      (second.after options files count) := by
  induction count generalizing first second with
  | zero => exact inStep
  | succ count ih => exact ih (in_step_advance unmentioned inStep)

theorem in_step_start {bindings varied : Variables} {markers variedMarkers : Markers}
    (varies : NameMap.Varies difference.name difference.value difference.otherValue bindings varied)
    (markersVary : Markers.Varies difference.name difference.marker difference.text
      difference.otherText markers variedMarkers) :
    InStep options files text difference (start options bindings markers text)
      (start options varied variedMarkers text) :=
  .running ⟨rfl, rfl, rfl, State.in_step_start varies markersVary _, text, .itself, rfl⟩ .nil

theorem after_finished (state : State) (count : Nat) :
    (finished state).after options files count = finished state := by
  induction count with
  | zero => rfl
  | succ count ih => exact ih

/-- Machines in step emit alike. -/
theorem emits_alike (inStep : InStep options files text difference first second) :
    EmitsAlike options difference first second (first.emission options files)
      (second.emission options files) := by
  cases inStep with
  | finished => exact .other rfl rfl (by simp [emission])
  | @running current other callers others currents waiting =>
      have depth : others.length = callers.length := waiting.length_eq.symm
      have empty : others.isEmpty = callers.isEmpty := by cases waiting <;> rfl
      have active := State.is_active_of_in_step currents.state
      have there : other.lines[other.state.cursor]? = current.lines[current.state.cursor]? := by
        rw [currents.lines, currents.state.cursor]
      cases here : current.lines[current.state.cursor]? with
      | none =>
          rw [here] at there
          simp only [emission, here, there, empty]
          refine .other ?_ ?_ (by intro text; split <;> simp)
          · simp only [contentLine?, here]
          · simp only [contentLine?, there]
      | some line =>
          rw [here] at there
          have called : call? options files callers.length other.state line =
              call? options files callers.length current.state line := by
            simp only [call?, active]
          simp only [emission, here, there, depth, called, ← active]
          by_cases plain : Directive.ofLine? line = none
          · cases isActive : current.state.isActive with
            | true =>
                obtain ⟨factors, last, alike, filled, filledVaried⟩ :=
                  Markers.apply_of_varies currents.state.markers line
                simp only [plain, if_true, filled, filledVaried]
                refine .content ?_ ?_ alike
                · simp [contentLine?, here, plain, isActive]
                · simp [contentLine?, there, plain, ← active, isActive]
            | false =>
                simp only [plain, if_true, if_neg Bool.false_ne_true]
                refine .other ?_ ?_ (by simp)
                · simp [contentLine?, here, isActive]
                · simp [contentLine?, there, ← active, isActive]
          · simp only [plain, if_false]
            refine .other ?_ ?_ (by intro text; split <;> simp)
            · simp [contentLine?, here, plain]
            · simp [contentLine?, there, plain]

theorem steps_alike (inStep : InStep options files text difference first second) :
    StepsAlike options files difference first second :=
  ⟨_, _, emits_alike inStep, outputs_advance options files first,
    outputs_advance options files second⟩

/-- Without a difference in the text of the marker the same is emitted. -/
theorem emission_eq_of_same_text (same : difference.text = difference.otherText)
    {emission varied : Emission} (alike : EmitsAlike options difference first second emission varied) :
    emission = varied := by
  cases alike with
  | content _ _ alike =>
      rw [same] at alike
      rw [Markers.fill_of_cut_alike alike]
  | other => rfl

theorem outputs_eq_of_same_text (same : difference.text = difference.otherText)
    (unmentioned : Unmentioned options files text difference.name)
    (inStep : InStep options files text difference first second)
    (outputs : first.outputs = second.outputs) (count : Nat) :
    (first.after options files count).outputs = (second.after options files count).outputs := by
  induction count generalizing first second with
  | zero => exact outputs
  | succ count ih =>
      apply ih (in_step_advance unmentioned inStep)
      rw [outputs_advance, outputs_advance, outputs,
        emission_eq_of_same_text same (emits_alike inStep)]

/-- Two machines are finished after a number of steps that is enough for both. -/
theorem finished_together (options : Options) (files : Files) (bindings varied : Variables)
    (markers variedMarkers : Markers) (text : String) :
    ∃ count,
      (start options bindings markers text).after options files count =
        finished ((Setting.top options files).overText bindings markers text) ∧
      (start options varied variedMarkers text).after options files count =
        finished ((Setting.top options files).overText varied variedMarkers text) := by
  obtain ⟨first, firstEnds⟩ := (stops_within_bounds options files bindings markers text).1
  obtain ⟨second, secondEnds⟩ := (stops_within_bounds options files varied variedMarkers text).1
  refine ⟨first + second, ?_, ?_⟩
  · rw [after_add, firstEnds, after_finished]
  · rw [Nat.add_comm, after_add, secondEnds, after_finished]

end Machine

end Run

namespace Preprocessor

open Run

/-- Starting from variables that differ in the value of one name, which no directive that may be read
mentions, two runs handle the same lines in the same order, at every step with the same blocks, loops
and diagnostics. With each step both put out the content line at which they are, or neither puts out a
line. Where both do, the line falls into the same gaps and markers, the gaps stay, and all markers have
the same text in both but for the one of that name. Where markers do not take their texts from the
variables, the outputs are the same. -/
theorem unmentioned_variable_never_steers (options : Options) (files : Files)
    (bindings varied : Variables) (substitution : Substitution) (text name : String)
    (names : bindings.names = varied.names)
    (others : ∀ other, other ≠ name → bindings.get? other = varied.get? other)
    (unmentioned : Unmentioned options files text name) :
    let machine (bindings : Variables) := Machine.start options bindings
      (Markers.ofSubstitution substitution bindings options.opening options.closing) text
    let difference := Difference.ofVariables options bindings varied name
    let first := finalState options files bindings substitution text
    let second := finalState options files varied substitution text
    (∀ count,
      Machine.InStep options files text difference
        ((machine bindings).after options files count) ((machine varied).after options files count) ∧
      Machine.StepsAlike options files difference
        ((machine bindings).after options files count)
        ((machine varied).after options files count)) ∧
    (∃ count, (machine bindings).after options files count = .finished first ∧
      (machine varied).after options files count = .finished second) ∧
    State.InStep difference first second ∧
    (substitution.isFromVariables = false → first.emitted = second.emitted) := by
  intro machine difference first second
  have varies : NameMap.Varies name difference.value difference.otherValue bindings varied := by
    refine NameMap.varies_of_get names others ?_ ?_ <;>
    · intro value found
      simp only [difference, Difference.ofVariables, found, Option.getD_some]
  have started := @Machine.in_step_start options files difference text _ _ _ _ varies
    (Markers.varies_of_substitution substitution varies options.opening options.closing)
  have quiet : Unmentioned options files text difference.name := unmentioned
  have inStep := Machine.in_step_after quiet started
  obtain ⟨count, firstEnds, secondEnds⟩ := Machine.finished_together options files bindings varied
    (Markers.ofSubstitution substitution bindings options.opening options.closing)
    (Markers.ofSubstitution substitution varied options.opening options.closing) text
  have ended := inStep count
  rw [firstEnds, secondEnds] at ended
  refine ⟨fun count => ⟨inStep count, Machine.steps_alike (inStep count)⟩,
    ⟨count, firstEnds, secondEnds⟩, ?_, fun fixed => ?_⟩
  · cases ended with
    | finished states => exact states
  · -- The tables are one and the same, so they vary in no text, whatever the two values are.
    let plain : Difference := { difference with text := "", otherText := "" }
    have unvaried : Markers.Varies name plain.marker "" ""
        (Markers.ofSubstitution substitution bindings options.opening options.closing)
        (Markers.ofSubstitution substitution varied options.opening options.closing) := by
      rw [Markers.of_fixed_substitution fixed varied bindings]
      exact { Markers.varies_of_substitution substitution
          (NameMap.varies_refl name default default bindings) options.opening options.closing with
        entries := NameMap.varies_refl _ _ _ _ }
    have plainQuiet : Unmentioned options files text plain.name := unmentioned
    have outputs := Machine.outputs_eq_of_same_text rfl plainQuiet
      (@Machine.in_step_start options files plain text _ _ _ _ varies unvaried) rfl count
    rw [firstEnds, secondEnds] at outputs
    exact (List.cons.inj outputs).1

/-- A file with a condition that it does not open, which a loop includes. -/
def listingFiles : Files := fun path =>
  if path = "part" then .regular (.ok "[%x%]\n#ENDIF\n") else .unreadable .notFound

theorem may_read_listing {inner : String}
    (read : MayRead Options.default listingFiles "#FOR i IN 1 2\n%i%: %x%\n#INCLUDE part\n#ENDFOR"
      inner) :
    inner = "#FOR i IN 1 2\n%i%: %x%\n#INCLUDE part\n#ENDFOR" ∨ inner = "[%x%]\n#ENDIF" := by
  induction read with
  | itself => exact Or.inl rfl
  | @included outer path content _ named found ih =>
      have paths : path = "part" := by
        rcases ih with rfl | rfl
        · have one : includedPaths Options.default.sourceFolder
              "#FOR i IN 1 2\n%i%: %x%\n#INCLUDE part\n#ENDFOR" = ["part"] := by decide +kernel
          rw [one] at named
          exact List.mem_singleton.mp named
        · have none : includedPaths Options.default.sourceFolder "[%x%]\n#ENDIF" = [] := by
            decide +kernel
          rw [none] at named
          exact absurd named List.not_mem_nil
      rw [paths, listingFiles, if_pos rfl] at found
      obtain rfl : "[%x%]\n#ENDIF\n" = content := by
        injection found with contents
        injection contents
      exact Or.inr (by decide +kernel)

/-- The value of the variable is seen in the loop and in the file, and steers neither. -/
theorem unmentioned_variable_never_steers_looped :
    let text := "#FOR i IN 1 2\n%i%: %x%\n#INCLUDE part\n#ENDFOR"
    let bindings : Variables := NameMap.empty.insert "x" (.text "a")
    let varied : Variables := NameMap.empty.insert "x" (.integer 0)
    let difference := Difference.ofVariables Options.default bindings varied "x"
    let machine (bindings : Variables) :=
      (Machine.start Options.default bindings (Markers.ofSubstitution .fromVariables bindings
        Options.default.opening Options.default.closing) text).after Options.default listingFiles 1
    let first := finalState Options.default listingFiles bindings .fromVariables text
    let second := finalState Options.default listingFiles varied .fromVariables text
    (machine bindings).contentLine?.map Prod.fst = some "%i%: %x%" ∧
      Machine.StepsAlike Options.default listingFiles difference (machine bindings)
        (machine varied) ∧
      first.emitted = #["1: a", "[a]", "2: a", "[a]"] ∧
      second.emitted = #["1: 0", "[0]", "2: 0", "[0]"] ∧
      second.diagnostics =
        #[⟨some "part", 2, .unmatched .endIf .onlyIf⟩, ⟨some "part", 2, .unmatched .endIf .onlyIf⟩] ∧
      State.InStep difference first second := by
  intro text bindings varied difference machine first second
  have unmentioned : Unmentioned Options.default listingFiles text "x" := by
    intro inner read
    rcases may_read_listing read with rfl | rfl <;> decide +kernel
  have others : ∀ other, other ≠ "x" → bindings.get? other = varied.get? other := by
    intro other apart
    rw [NameMap.get_insert, NameMap.get_insert, if_neg apart.symm, if_neg apart.symm]
  obtain ⟨alike, -, inStep, -⟩ := unmentioned_variable_never_steers Options.default listingFiles
    bindings varied .fromVariables text "x" rfl others unmentioned
  have facts : (machine bindings).contentLine?.map Prod.fst = some "%i%: %x%" ∧
      first.emitted = #["1: a", "[a]", "2: a", "[a]"] ∧
      second.emitted = #["1: 0", "[0]", "2: 0", "[0]"] ∧
      first.diagnostics =
        #[⟨some "part", 2, .unmatched .endIf .onlyIf⟩,
          ⟨some "part", 2, .unmatched .endIf .onlyIf⟩] := by decide +kernel
  obtain ⟨atContent, firstEmitted, secondEmitted, diagnostics⟩ := facts
  exact ⟨atContent, (alike 1).2, firstEmitted, secondEmitted,
    inStep.diagnostics.symm.trans diagnostics, inStep⟩

end Preprocessor

end LineTemplate

import LineTemplate.Run.State
import LineTemplate.Options

/-!
What one line does to the state of a run. Content goes into the output when the state is active.
A directive changes the state or fails, and a failure becomes a diagnostic of its line. A step moves
the cursor to the next line, or starts a pass of a loop, of which there are only so many.
-/

namespace LineTemplate.Run

/-- What a finished run leaves behind. -/
structure Outcome where
  output : String
  diagnostics : Array Diagnostic

/-- The run over an included file: its path and text, and the variables and markers to start from. -/
abbrev Inclusion := String → String → Variables → Markers → Outcome

/-- What stays the same throughout a run. -/
structure Setting where
  options : Options
  files : Files
  /-- The included file that the run is about. -/
  file : Option String
  /-- How files are included from here. At the deepest level none are. -/
  inclusion : Option Inclusion

namespace Setting

/-- The text a content line puts into the output. -/
def content (setting : Setting) (markers : Markers) (line : String) : String :=
  let text := markers.apply line
  if setting.options.trimsLines then String.ofList (Text.trimEnd text.toList) else text

/-- The name in the argument, which may be written in quotes. -/
def fileName (argument : String) : String :=
  let characters := argument.toList
  String.ofList (Text.trim ((Text.unquote? characters).getD characters))

/-- Runs over the file that an argument names. A line feed at its end does not start a line. -/
def includeFile (setting : Setting) (state : State) (argument : String) :
    Except DirectiveError Outcome :=
  let name := fileName argument
  let path := joinPath setting.options.sourceFolder name
  if name.isEmpty then .error (.malformed .insertFile .missingFile)
  else if !(setting.files path).isRegular then .error (.noSuchFile path)
  else
    match setting.inclusion with
    | none => .error (.includeDepth setting.options.maximalIncludeDepth)
    | some inclusion =>
        match (setting.files path).read with
        | .error error => .error (.unreadable path error)
        | .ok text =>
            .ok (inclusion path (Text.withoutFinalFeed text) state.bindings state.markers)

end Setting

namespace State

def withBlocks (state : State) (changed : Block.Stack × Except DirectiveError α) :
    State × Except DirectiveError Unit :=
  ({ state with blocks := changed.1 }, changed.2.map fun _ => ())

def withLoops (state : State) (loops : Loop.Stack) : State :=
  { state with loops }

def assign (state : State) (argument : String) : State × Except DirectiveError Unit :=
  match state.assignment argument with
  | .ok (name, value) => (state.bind name value, .ok ())
  | .error error => (state, .error error)

/-- The whole output of an included file is one element of the output. -/
def insert (state : State) (outcome : Outcome) : State :=
  { state with
    emitted := state.emitted.push outcome.output
    diagnostics := state.diagnostics ++ outcome.diagnostics }

def includeFile (setting : Setting) (state : State) (argument : String) :
    State × Except DirectiveError Unit :=
  match setting.includeFile state argument with
  | .ok outcome => (state.insert outcome, .ok ())
  | .error error => (state, .error error)

/-- Opens a loop whose body starts at the cursor. A loop that cannot run is inert. -/
def openLoop (state : State) (line : String) (number : Nat) :
    State × Except DirectiveError Unit :=
  if state.isActive then
    match Loop.Clause.ofLine line state.loops.limit with
    | .error error => (state.withLoops (state.loops.pushInert number), .error error)
    | .ok clause =>
        match state.loops.push clause state.cursor number with
        | (loops, .error error) => (state.withLoops loops, .error error)
        | (loops, .ok pass) =>
            ((state.withLoops loops).bind pass.name (pass.current?.getD default), .ok ())
  else (state.withLoops (state.loops.pushInert number), .ok ())

def finishLoop (state : State) : State × Except DirectiveError Unit :=
  match state.loops.finish with
  | (loops, .error error) => (state.withLoops loops, .error error)
  | (loops, .ok .done) => (state.withLoops loops, .ok ())
  | (loops, .ok (.rewind cursor name value)) =>
      ({ (state.withLoops loops).bind name value with cursor }, .ok ())

/-- The effect of a directive, with the cursor already behind its line. -/
def perform (setting : Setting) (directive : Directive) (line : String) (number : Nat)
    (state : State) : State × Except DirectiveError Unit :=
  match directive with
  | .onlyIf =>
      state.withBlocks (state.blocks.openConditional number (state.condition .onlyIf line))
  | .elseIf => state.withBlocks (state.blocks.alternative (state.condition .elseIf line))
  | .otherwise => state.withBlocks state.blocks.otherwise
  | .endIf => state.withBlocks state.blocks.endConditional
  | .switch => state.withBlocks (state.blocks.openSelection number (state.discriminant line))
  | .case => state.withBlocks (state.blocks.case ((Line.words line).tail.map Value.infer))
  | .default => state.withBlocks state.blocks.default
  | .endSwitch => state.withBlocks state.blocks.endSelection
  | .set => if state.isActive then state.assign (Line.argument line) else (state, .ok ())
  | .insertFile =>
      if state.isActive then state.includeFile setting (Line.argument line) else (state, .ok ())
  | .loop => state.openLoop line number
  | .endLoop => state.finishLoop

/-- Handles the line at the cursor. -/
def step (setting : Setting) (line : String) (state : State) : State :=
  let number := state.cursor + 1
  let moved := state.advance
  match Directive.ofLine? line with
  | none => if moved.isActive then moved.emit (setting.content moved.markers line) else moved
  | some directive =>
      match perform setting directive line number moved with
      | (after, .ok ()) => after
      | (after, .error error) => after.record { file := setting.file, line := number, error }

/-- The second state is at the same line with no more passes left, or has fewer passes left. -/
def Spends (before after : State) : Prop :=
  after.loops.passesLeft < before.loops.passesLeft ∨
    after.loops.passesLeft ≤ before.loops.passesLeft ∧ after.cursor = before.cursor

theorem spends_of_same {before after : State} (loops : after.loops = before.loops)
    (cursor : after.cursor = before.cursor) : Spends before after :=
  Or.inr ⟨Nat.le_of_eq (by rw [loops]), cursor⟩

theorem spends_assign (state : State) (argument : String) :
    Spends state (state.assign argument).1 := by
  unfold assign
  split <;> exact spends_of_same rfl rfl

theorem spends_include_file (setting : Setting) (state : State) (argument : String) :
    Spends state (state.includeFile setting argument).1 := by
  unfold includeFile
  split <;> exact spends_of_same rfl rfl

theorem spends_open_loop (state : State) (line : String) (number : Nat) :
    Spends state (state.openLoop line number).1 := by
  unfold openLoop
  split
  · split
    · exact Or.inr ⟨Nat.le_refl _, rfl⟩
    · next clause _ =>
        have pushed := state.loops.passes_left_push clause state.cursor number
        split <;> next opened =>
          rw [opened] at pushed
          exact Or.inr ⟨pushed, rfl⟩
  · exact Or.inr ⟨Nat.le_refl _, rfl⟩

theorem spends_finish_loop (state : State) : Spends state state.finishLoop.1 := by
  unfold finishLoop
  have finished := state.loops.passes_left_finish
  split
  · next ended =>
      rw [ended] at finished
      exact Or.inr ⟨finished, rfl⟩
  · next ended =>
      rw [ended] at finished
      exact Or.inr ⟨finished, rfl⟩
  · next ended => exact Or.inl (Loop.Stack.passes_left_of_rewind ended)

theorem spends_perform (setting : Setting) (directive : Directive) (line : String) (number : Nat)
    (state : State) : Spends state (perform setting directive line number state).1 := by
  have same : Spends state state := spends_of_same rfl rfl
  cases directive <;> simp only [perform]
  case set =>
    split
    · exact spends_assign state _
    · exact same
  case insertFile =>
    split
    · exact spends_include_file setting state _
    · exact same
  case loop => exact spends_open_loop state line number
  case endLoop => exact spends_finish_loop state
  all_goals exact spends_of_same rfl rfl

theorem spends_step (setting : Setting) (line : String) (state : State) :
    Spends state.advance (state.step setting line) := by
  unfold step
  simp only
  split
  · split <;> exact spends_of_same rfl rfl
  · next directive _ =>
      have performed := spends_perform setting directive line (state.cursor + 1) state.advance
      split
      · next done =>
          rw [done] at performed
          exact performed
      · next failed =>
          rw [failed] at performed
          exact performed

/-- An upper bound for the steps that a text of so many lines still takes: the rest of the text, and
the whole text for each pass that may still be started. -/
def stepsLeft (state : State) (size : Nat) : Nat :=
  state.loops.passesLeft * size + (size - state.cursor)

theorem steps_left_step (setting : Setting) (line : String) (state : State) (size : Nat)
    (inside : state.cursor < size) :
    (state.step setting line).stepsLeft size < state.stepsLeft size := by
  have moved : state.advance.cursor = state.cursor + 1 := rfl
  have passes : state.advance.loops = state.loops := rfl
  unfold stepsLeft
  rcases spends_step setting line state with fewer | ⟨less, same⟩
  · rw [passes] at fewer
    have scaled := Nat.mul_le_mul_right size fewer
    rw [Nat.succ_mul] at scaled
    omega
  · rw [passes] at less
    have scaled := Nat.mul_le_mul_right size less
    omega

/-- A text takes at most as many steps as it has lines, times one more than the limit of passes. -/
theorem steps_left_start (bindings : Variables) (markers : Markers) (maximalPasses size : Nat) :
    (start bindings markers maximalPasses).stepsLeft size = size * (maximalPasses + 1) := by
  simp [stepsLeft, start, Loop.Stack.new, Loop.Stack.passesLeft, Nat.mul_add, Nat.mul_comm]

end State

end LineTemplate.Run

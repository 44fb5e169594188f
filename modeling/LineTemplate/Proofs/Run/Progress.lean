import LineTemplate.Proofs.Run.Failure
import LineTemplate.Run

/-!
The progress of a run: what it has bound, emitted and reported so far. A state of a run is its
progress together with the open blocks, the open loops and a place in the text. For each kind of
line, this module says what handling it makes of these parts. A line is live when all blocks and
loops around it are; one that is not leaves the progress as it is.
-/

namespace LineTemplate.Run

/-- All that a run changes, apart from its open blocks and loops and its place in the text. -/
structure Progress where
  bindings : Variables
  markers : Markers
  emitted : Array String
  diagnostics : Array Diagnostic
  passes : Nat

namespace Progress

def start (bindings : Variables) (markers : Markers) : Progress :=
  { bindings, markers, emitted := #[], diagnostics := #[], passes := 0 }

/-- The state of a run that has come this far, with the given blocks and loops open. -/
def state (progress : Progress) (limit : Nat) (blocks : Block.Stack) (loops : List Loop.Frame)
    (cursor : Nat) : State :=
  { bindings := progress.bindings
    pattern := Expression.NamePattern.ofVariables progress.bindings
    markers := progress.markers
    blocks
    loops := { frames := loops, passesStarted := progress.passes, limit }
    emitted := progress.emitted
    diagnostics := progress.diagnostics
    cursor }

/-- The variables and markers, with nothing open around them. -/
def view (progress : Progress) : State :=
  progress.state 0 [] [] 0

/-- The text of a content line is emitted once markers were searched for in the line. -/
def emit (progress : Progress) (text : String) : Progress :=
  { progress with
    markers := progress.markers.searched
    emitted := progress.emitted.push text }

def record (setting : Setting) (number : Nat) (error : DirectiveError) (progress : Progress) :
    Progress :=
  { progress with
    diagnostics := progress.diagnostics.push { file := setting.file, line := number, error } }

def bind (progress : Progress) (name : String) (value : Value) : Progress :=
  { progress with
    bindings := progress.bindings.insert name value
    markers := progress.markers.bind name value }

def insert (progress : Progress) (outcome : Outcome) : Progress :=
  { progress with
    emitted := progress.emitted.push outcome.output
    diagnostics := progress.diagnostics ++ outcome.diagnostics }

def startPass (name : String) (progress : Progress) (value : Value) : Progress :=
  { progress.bind name value with passes := progress.passes + 1 }

/-- Records the failure if there is one. -/
def settle {Answer : Type} (setting : Setting) (number : Nat)
    (result : Except DirectiveError Answer) (progress : Progress) : Progress :=
  match result with
  | .ok _ => progress
  | .error error => progress.record setting number error

/-- Whether a condition holds. One that fails is recorded and does not hold. -/
def test (setting : Setting) (directive : Directive) (line : String) (number : Nat)
    (progress : Progress) : Bool × Progress :=
  let answer := progress.view.holds directive (Line.argument line)
  (Block.isYes answer, progress.settle setting number answer)

/-- The value that a selection compares with. One that fails is recorded and is the empty text. -/
def discriminant (setting : Setting) (line : String) (number : Nat) (progress : Progress) :
    Value × Progress :=
  let answer := progress.view.discriminant line ()
  (answer.toOption.getD (.text ""), progress.settle setting number answer)

def assign (setting : Setting) (line : String) (number : Nat) (progress : Progress) : Progress :=
  match progress.view.assignment (Line.argument line) with
  | .ok (name, value) => progress.bind name value
  | .error error => progress.record setting number error

def includeFile (setting : Setting) (line : String) (number : Nat) (progress : Progress) :
    Progress :=
  match setting.includeFile progress.view (Line.argument line) with
  | .ok outcome => progress.insert outcome
  | .error error => progress.record setting number error

variable {setting : Setting} {progress : Progress} {limit cursor : Nat} {blocks outer : Block.Stack}
  {loops : List Loop.Frame} {line : String}

/-- The values that a case lists. -/
def caseValues (line : String) : List Value :=
  (Line.words line).tail.map Value.infer

/-- No loop around is inert. -/
def runs (loops : List Loop.Frame) : Bool :=
  loops.all fun frame => !frame.isInert

def isLive (blocks : Block.Stack) (loops : List Loop.Frame) : Bool :=
  blocks.isActive && runs loops

theorem state_is_active (progress : Progress) :
    (progress.state limit blocks loops cursor).isActive = isLive blocks loops := rfl

theorem state_bind (progress : Progress) (name : String) (value : Value) :
    (progress.state limit blocks loops cursor).bind name value =
      (progress.bind name value).state limit blocks loops cursor := by
  have current : ((progress.state limit blocks loops cursor).bind name value).pattern =
      Expression.NamePattern.ofVariables
        ((progress.state limit blocks loops cursor).bind name value).bindings :=
    State.pattern_bind name value rfl
  unfold State.bind at current ⊢
  simp only [state, bind] at current ⊢
  rw [current]

theorem step_of_plain (plain : Directive.ofLine? line = none) :
    (progress.state limit blocks loops cursor).step setting line =
      (if isLive blocks loops then progress.emit (setting.content progress.markers line)
      else progress).state limit blocks loops (cursor + 1) := by
  simp only [State.step, plain]
  change (if isLive blocks loops then _ else _) = _
  split <;> rfl

theorem step_of_success {directive : Directive} {after : State}
    (spelled : Directive.ofLine? line = some directive)
    (performed :
      State.perform setting directive line (cursor + 1)
        (progress.state limit blocks loops (cursor + 1)) = (after, .ok ())) :
    (progress.state limit blocks loops cursor).step setting line = after := by
  have moved : (progress.state limit blocks loops cursor).advance =
      progress.state limit blocks loops (cursor + 1) := rfl
  have place : (progress.state limit blocks loops cursor).cursor = cursor := rfl
  rw [State.step_of_spelled spelled]
  simp only [moved, place, performed, State.settle]

theorem step_of_failure {directive : Directive} {error : DirectiveError} {place : Nat}
    {inside : Block.Stack} {around : List Loop.Frame}
    (spelled : Directive.ofLine? line = some directive)
    (performed :
      State.perform setting directive line (cursor + 1)
        (progress.state limit blocks loops (cursor + 1)) =
          (progress.state limit inside around place, .error error)) :
    (progress.state limit blocks loops cursor).step setting line =
      (progress.record setting (cursor + 1) error).state limit inside around place := by
  have moved : (progress.state limit blocks loops cursor).advance =
      progress.state limit blocks loops (cursor + 1) := rfl
  have here : (progress.state limit blocks loops cursor).cursor = cursor := rfl
  rw [State.step_of_spelled spelled]
  simp only [moved, here, performed, State.settle]
  rfl

theorem assignment_state (text : String) :
    (progress.state limit blocks loops cursor).assignment text = progress.view.assignment text := by
  simp only [State.assignment, State.evaluate, view, state]

theorem include_file_state (argument : String) :
    setting.includeFile (progress.state limit blocks loops cursor) argument =
      setting.includeFile progress.view argument := rfl

theorem step_assignment (spelled : Directive.ofLine? line = some .set) :
    (progress.state limit blocks loops cursor).step setting line =
      (if isLive blocks loops then progress.assign setting line (cursor + 1)
      else progress).state limit blocks loops (cursor + 1) := by
  cases live : isLive blocks loops with
  | false =>
      apply step_of_success spelled
      simp only [State.perform, state_is_active, live]
      rfl
  | true =>
      simp only [if_true, assign]
      cases read : progress.view.assignment (Line.argument line) with
      | error error =>
          apply step_of_failure spelled
          simp only [State.perform, state_is_active, live, State.assign, assignment_state, read,
            if_true]
      | ok found =>
          apply step_of_success spelled
          simp only [State.perform, state_is_active, live, State.assign, assignment_state, read,
            if_true, state_bind]

theorem step_insertion (spelled : Directive.ofLine? line = some .insertFile) :
    (progress.state limit blocks loops cursor).step setting line =
      (if isLive blocks loops then progress.includeFile setting line (cursor + 1)
      else progress).state limit blocks loops (cursor + 1) := by
  cases live : isLive blocks loops with
  | false =>
      apply step_of_success spelled
      simp only [State.perform, state_is_active, live]
      rfl
  | true =>
      rw [if_pos rfl]
      unfold includeFile
      cases read : setting.includeFile progress.view (Line.argument line) with
      | error error =>
          apply step_of_failure spelled
          simp only [State.perform, state_is_active, live, State.includeFile, include_file_state,
            read, if_true]
      | ok outcome =>
          apply step_of_success spelled
          simp only [State.perform, state_is_active, live, State.includeFile, include_file_state,
            read, if_true]
          rfl

theorem holds_state (directive : Directive) (text : String) :
    (progress.state limit blocks loops cursor).holds directive text =
      progress.view.holds directive text := by
  simp only [State.holds, State.evaluate, view, state]

theorem condition_state (directive : Directive) (line : String) :
    (progress.state limit blocks loops cursor).condition directive line () =
      if runs loops then progress.view.holds directive (Line.argument line) else .ok false := by
  change (if runs loops then (progress.state limit blocks loops cursor).holds _ _ else _) = _
  rw [holds_state]

theorem discriminant_state (line : String) :
    (progress.state limit blocks loops cursor).discriminant line () =
      if runs loops then progress.view.discriminant line () else .ok (.text "") := by
  have outside : progress.view.loops.isActive = true := rfl
  have around : (progress.state limit blocks loops cursor).loops.isActive = runs loops := rfl
  have same : (progress.state limit blocks loops cursor).bindings = progress.view.bindings := rfl
  rw [State.discriminant, State.discriminant, outside, around, same, if_pos rfl]

theorem live_parts (live : isLive blocks loops = true) :
    blocks.isActive = true ∧ runs loops = true :=
  Bool.and_eq_true_iff.mp live

theorem dead_parts (dead : isLive blocks loops = false) :
    blocks.isActive = false ∨ runs loops = false :=
  Bool.and_eq_false_iff.mp dead

/-- The state after a directive that only changes the blocks, or fails. -/
theorem step_of_blocks {Answer : Type} {directive : Directive}
    {changed : Block.Stack × Except DirectiveError Answer}
    (spelled : Directive.ofLine? line = some directive)
    (performed :
      State.perform setting directive line (cursor + 1)
        (progress.state limit blocks loops (cursor + 1)) =
          (progress.state limit blocks loops (cursor + 1)).withBlocks changed) :
    (progress.state limit blocks loops cursor).step setting line =
      (progress.settle setting (cursor + 1) changed.2).state limit changed.1 loops
        (cursor + 1) := by
  obtain ⟨inside, result⟩ := changed
  cases result with
  | ok answer => exact step_of_success spelled performed
  | error error => exact step_of_failure spelled performed

theorem settle_map {Answer : Type} (number : Nat) (result : Except DirectiveError Answer) :
    progress.settle setting number (result.map fun _ => ()) =
      progress.settle setting number result := by
  cases result <;> rfl

theorem step_conditional (live : isLive blocks loops = true)
    (spelled : Directive.ofLine? line = some .onlyIf) :
    (progress.state limit blocks loops cursor).step setting line =
      let (holds, tested) := progress.test setting .onlyIf line (cursor + 1)
      tested.state limit
        ({ kind := .conditional .first, live := holds, taken := holds, openedAt := cursor + 1 } ::
          blocks) loops (cursor + 1) := by
  obtain ⟨active, running⟩ := live_parts live
  rw [step_of_blocks spelled rfl]
  change (progress.settle _ _ (Block.Stack.openConditional blocks _ _).2).state _
    (Block.Stack.openConditional blocks _ _).1 _ _ = _
  rw [Block.Stack.open_conditional_of_active active, condition_state, if_pos running, settle_map]
  rfl

/-- A frame that no later branch can make live, as it was taken or a loop around it is inert. -/
def Spent (loops : List Loop.Frame) (frame : Block.Frame) : Prop :=
  frame.taken = true ∨ runs loops = false

theorem step_conditional_dead (setting : Setting) (progress : Progress) (limit cursor : Nat)
    (dead : isLive blocks loops = false) (spelled : Directive.ofLine? line = some .onlyIf) :
    ∃ frame : Block.Frame,
      (progress.state limit blocks loops cursor).step setting line =
          progress.state limit (frame :: blocks) loops (cursor + 1) ∧
        Block.Stack.isOpenConditional frame = true ∧ frame.live = false ∧ Spent loops frame := by
  let question := (progress.state limit blocks loops (cursor + 1)).condition .onlyIf line
  have stepped : (progress.state limit blocks loops cursor).step setting line =
      (progress.settle setting (cursor + 1) (blocks.openConditional (cursor + 1) question).2).state
        limit (blocks.openConditional (cursor + 1) question).1 loops (cursor + 1) :=
    step_of_blocks spelled rfl
  have answer : question () = if runs loops then _ else _ := condition_state .onlyIf line
  cases active : blocks.isActive with
  | false =>
      rw [Block.Stack.open_conditional_of_inactive active] at stepped
      exact ⟨_, stepped, rfl, rfl, Or.inl rfl⟩
  | true =>
      have inert : runs loops = false := by simpa [active] using dead_parts dead
      rw [Block.Stack.open_conditional_of_active active, answer, inert] at stepped
      exact ⟨_, stepped, rfl, rfl, Or.inr inert⟩

theorem step_alternative {frame : Block.Frame} (running : runs loops = true)
    (isOpen : Block.Stack.isOpenConditional frame = true) (untaken : frame.taken = false)
    (spelled : Directive.ofLine? line = some .elseIf) :
    (progress.state limit (frame :: outer) loops cursor).step setting line =
      let (holds, tested) := progress.test setting .elseIf line (cursor + 1)
      tested.state limit
        ({ frame with kind := .conditional .alternative, live := holds, taken := holds } :: outer)
        loops (cursor + 1) := by
  rw [step_of_blocks spelled rfl]
  change (progress.settle _ _ (Block.Stack.alternative (frame :: outer) _).2).state _
    (Block.Stack.alternative (frame :: outer) _).1 _ _ = _
  rw [Block.Stack.alternative_of_open outer isOpen untaken, condition_state, if_pos running,
    settle_map]
  rfl

theorem step_alternative_spent (setting : Setting) (progress : Progress) (limit cursor : Nat)
    (outer : Block.Stack) {frame : Block.Frame} (spent : Spent loops frame)
    (isOpen : Block.Stack.isOpenConditional frame = true)
    (spelled : Directive.ofLine? line = some .elseIf) :
    ∃ moved : Block.Frame,
      (progress.state limit (frame :: outer) loops cursor).step setting line =
          progress.state limit (moved :: outer) loops (cursor + 1) ∧
        Block.Stack.isOpenConditional moved = true ∧ moved.live = false ∧ Spent loops moved := by
  let blocks : Block.Stack := frame :: outer
  let question := (progress.state limit blocks loops (cursor + 1)).condition .elseIf line
  have stepped : (progress.state limit blocks loops cursor).step setting line =
      (progress.settle setting (cursor + 1) (blocks.alternative question).2).state limit
        (blocks.alternative question).1 loops (cursor + 1) :=
    step_of_blocks spelled rfl
  have answer : question () = if runs loops then _ else _ := condition_state .elseIf line
  cases taken : frame.taken with
  | true =>
      rw [Block.Stack.alternative_of_taken outer isOpen taken] at stepped
      exact ⟨_, stepped, rfl, rfl, Or.inl taken⟩
  | false =>
      have inert : runs loops = false := by simpa [Spent, taken] using spent
      rw [Block.Stack.alternative_of_open outer isOpen taken, answer, inert] at stepped
      exact ⟨_, stepped, rfl, rfl, Or.inr inert⟩

theorem step_otherwise {frame : Block.Frame}
    (isOpen : Block.Stack.isOpenConditional frame = true)
    (spelled : Directive.ofLine? line = some .otherwise) :
    (progress.state limit (frame :: outer) loops cursor).step setting line =
      progress.state limit
        ({ frame with kind := .conditional .last, live := !frame.taken, taken := true } :: outer)
        loops (cursor + 1) := by
  rw [step_of_blocks spelled rfl]
  change (progress.settle _ _ (Block.Stack.otherwise (frame :: outer)).2).state _
    (Block.Stack.otherwise (frame :: outer)).1 _ _ = _
  rw [Block.Stack.otherwise_of_open outer isOpen]
  rfl

theorem step_end_conditional (frame : Block.Frame)
    (spelled : Directive.ofLine? line = some .endIf) :
    (progress.state limit (frame :: outer) loops cursor).step setting line =
      progress.state limit outer loops (cursor + 1) :=
  step_of_blocks spelled rfl

theorem step_selection (live : isLive blocks loops = true)
    (spelled : Directive.ofLine? line = some .switch) :
    (progress.state limit blocks loops cursor).step setting line =
      let (value, asked) := progress.discriminant setting line (cursor + 1)
      asked.state limit
        ({ kind := .selection value, live := false, taken := false, openedAt := cursor + 1 } ::
          blocks) loops (cursor + 1) := by
  obtain ⟨active, running⟩ := live_parts live
  rw [step_of_blocks spelled rfl]
  change (progress.settle _ _ (Block.Stack.openSelection blocks _ _).2).state _
    (Block.Stack.openSelection blocks _ _).1 _ _ = _
  rw [Block.Stack.open_selection_of_active active, discriminant_state, if_pos running, settle_map]
  rfl

theorem step_selection_dead (setting : Setting) (progress : Progress) (limit cursor : Nat)
    (dead : isLive blocks loops = false) (spelled : Directive.ofLine? line = some .switch) :
    ∃ (frame : Block.Frame) (value : Value),
      (progress.state limit blocks loops cursor).step setting line =
          progress.state limit (frame :: blocks) loops (cursor + 1) ∧
        frame.kind = .selection value ∧ frame.live = false ∧ Spent loops frame := by
  let question := (progress.state limit blocks loops (cursor + 1)).discriminant line
  have stepped : (progress.state limit blocks loops cursor).step setting line =
      (progress.settle setting (cursor + 1) (blocks.openSelection (cursor + 1) question).2).state
        limit (blocks.openSelection (cursor + 1) question).1 loops (cursor + 1) :=
    step_of_blocks spelled rfl
  have answer : question () = if runs loops then _ else _ := discriminant_state line
  cases active : blocks.isActive with
  | false =>
      rw [Block.Stack.open_selection_of_inactive active] at stepped
      exact ⟨_, _, stepped, rfl, rfl, Or.inl rfl⟩
  | true =>
      have inert : runs loops = false := by simpa [active] using dead_parts dead
      rw [Block.Stack.open_selection_of_active active, answer, inert] at stepped
      exact ⟨_, _, stepped, rfl, rfl, Or.inr inert⟩

theorem step_case {frame : Block.Frame} {value : Value} (selects : frame.kind = .selection value)
    (spelled : Directive.ofLine? line = some .case) :
    (progress.state limit (frame :: outer) loops cursor).step setting line =
      let fires := (caseValues line).any value.looselyEquals
      progress.state limit
        ({ frame with live := !frame.taken && fires, taken := frame.taken || fires } :: outer)
        loops (cursor + 1) := by
  rw [step_of_blocks spelled rfl]
  change (progress.settle _ _ (Block.Stack.case (frame :: outer) _).2).state _
    (Block.Stack.case (frame :: outer) _).1 _ _ = _
  rw [Block.Stack.case_of_selection outer selects]
  rfl

theorem step_default {frame : Block.Frame} {value : Value} (selects : frame.kind = .selection value)
    (spelled : Directive.ofLine? line = some .default) :
    (progress.state limit (frame :: outer) loops cursor).step setting line =
      progress.state limit ({ frame with live := !frame.taken, taken := true } :: outer) loops
        (cursor + 1) := by
  rw [step_of_blocks spelled rfl]
  change (progress.settle _ _ (Block.Stack.default (frame :: outer)).2).state _
    (Block.Stack.default (frame :: outer)).1 _ _ = _
  rw [Block.Stack.default_of_selection outer selects]
  rfl

theorem step_end_selection {frame : Block.Frame} {value : Value}
    (selects : frame.kind = .selection value)
    (spelled : Directive.ofLine? line = some .endSwitch) :
    (progress.state limit (frame :: outer) loops cursor).step setting line =
      progress.state limit outer loops (cursor + 1) := by
  rw [step_of_blocks spelled rfl]
  change (progress.settle _ _ (Block.Stack.endSelection (frame :: outer)).2).state _
    (Block.Stack.endSelection (frame :: outer)).1 _ _ = _
  rw [Block.Stack.end_selection_of_selection outer selects]
  rfl

theorem step_loop_dead (dead : isLive blocks loops = false)
    (spelled : Directive.ofLine? line = some .loop) :
    (progress.state limit blocks loops cursor).step setting line =
      progress.state limit blocks (⟨cursor + 1, none⟩ :: loops) (cursor + 1) := by
  apply step_of_success spelled
  simp only [State.perform, State.openLoop, state_is_active, dead]
  rfl

theorem step_loop_failed {error : DirectiveError} (live : isLive blocks loops = true)
    (spelled : Directive.ofLine? line = some .loop)
    (failed : Loop.Clause.ofLine line limit = .error error) :
    (progress.state limit blocks loops cursor).step setting line =
      (progress.record setting (cursor + 1) error).state limit blocks
        (⟨cursor + 1, none⟩ :: loops) (cursor + 1) := by
  have read : Loop.Clause.ofLine line
      (progress.state limit blocks loops (cursor + 1)).loops.limit = .error error := failed
  apply step_of_failure spelled
  simp only [State.perform, State.openLoop, state_is_active, live, read, if_true]
  rfl

theorem step_loop {clause : Loop.Clause} (live : isLive blocks loops = true)
    (spelled : Directive.ofLine? line = some .loop)
    (read : Loop.Clause.ofLine line limit = .ok clause) (room : progress.passes < limit) :
    (progress.state limit blocks loops cursor).step setting line =
      (progress.startPass clause.name (clause.values[0]?.getD default)).state limit blocks
        (⟨cursor + 1, some ⟨clause.name, clause.values, cursor + 1, 0⟩⟩ :: loops)
        (cursor + 1) := by
  have found : Loop.Clause.ofLine line
      (progress.state limit blocks loops (cursor + 1)).loops.limit = .ok clause := read
  have left : (progress.state limit blocks loops (cursor + 1)).loops.passesStarted <
      (progress.state limit blocks loops (cursor + 1)).loops.limit := room
  apply step_of_success spelled
  simp only [State.perform, State.openLoop, state_is_active, live, found, if_true,
    Loop.Stack.push, left]
  exact congrArg (·, Except.ok ())
    (state_bind { progress with passes := progress.passes + 1 } _ _)

theorem step_end_loop_inert {frame : Loop.Frame} (inert : frame.isInert = true)
    (spelled : Directive.ofLine? line = some .endLoop) :
    (progress.state limit blocks (frame :: loops) cursor).step setting line =
      progress.state limit blocks loops (cursor + 1) := by
  have idle : frame.pass = none := Option.isNone_iff_eq_none.mp inert
  apply step_of_success spelled
  simp only [State.perform, State.finishLoop, Loop.Stack.finish, state, idle]
  rfl

theorem step_end_loop_done {opened : Nat} {pass : Loop.Pass}
    (last : pass.values[pass.index + 1]? = none)
    (spelled : Directive.ofLine? line = some .endLoop) :
    (progress.state limit blocks (⟨opened, some pass⟩ :: loops) cursor).step setting line =
      progress.state limit blocks loops (cursor + 1) := by
  apply step_of_success spelled
  simp only [State.perform, State.finishLoop, Loop.Stack.finish, state, Loop.Pass.current?, last]
  rfl

theorem step_end_loop_rewind {opened : Nat} {pass : Loop.Pass} {value : Value}
    (following : pass.values[pass.index + 1]? = some value) (room : progress.passes < limit)
    (spelled : Directive.ofLine? line = some .endLoop) :
    (progress.state limit blocks (⟨opened, some pass⟩ :: loops) cursor).step setting line =
      (progress.startPass pass.name value).state limit blocks
        (⟨opened, some { pass with index := pass.index + 1 }⟩ :: loops) pass.start := by
  apply step_of_success spelled
  have finished : Loop.Stack.finish
      (progress.state limit blocks (⟨opened, some pass⟩ :: loops) (cursor + 1)).loops =
        (⟨⟨opened, some { pass with index := pass.index + 1 }⟩ :: loops, progress.passes + 1, limit⟩,
          .ok (.rewind pass.start pass.name value)) := by
    simp only [Loop.Stack.finish, state, Loop.Pass.current?, following, room, if_true]
  simp only [State.perform, State.finishLoop, finished]
  let frames : List Loop.Frame :=
    ⟨opened, some { pass with index := pass.index + 1 }⟩ :: loops
  let counted : Progress := { progress with passes := progress.passes + 1 }
  have bound : (counted.state limit blocks frames (cursor + 1)).bind pass.name value =
      (counted.bind pass.name value).state limit blocks frames (cursor + 1) := state_bind counted _ _
  exact congrArg (fun state : State => ({ state with cursor := pass.start }, Except.ok ())) bound

end Progress

end LineTemplate.Run

import LineTemplate.Proofs.Loop.Clause
import LineTemplate.Proofs.Loop.Operations
import LineTemplate.Proofs.Run.Visits

/-!
Where the open loops of a run stand in its text. A loop opens at the line that was just passed,
behind all loops that are open, and the only way back is to the start of the innermost one. So
however the lines that open and close are mixed, the open loops stand one behind the other in front
of the cursor, and going back leaves all but the innermost as they are.
-/

namespace LineTemplate

namespace Loop

/-- A loop that a line of the text opened. It runs from the line after that one, at one of its
values. -/
structure Frame.Anchored (lines : Array String) (frame : Frame) : Prop where
  numbered : 1 ≤ frame.openedAt
  opened : ∃ line, lines[frame.openedAt - 1]? = some line ∧ Directive.ofLine? line = some .loop
  running : ∀ pass, frame.pass = some pass →
    pass.start = frame.openedAt ∧ pass.index < pass.values.size

/-- Loops that stand in front of the cursor, each behind the ones around it. -/
structure Anchored (lines : Array String) (cursor : Nat) (frames : List Frame) : Prop where
  ordered : frames.Pairwise fun inner outer => outer.openedAt < inner.openedAt
  behind : ∀ frame ∈ frames, frame.openedAt ≤ cursor
  anchored : ∀ frame ∈ frames, frame.Anchored lines

variable {lines : Array String} {cursor further : Nat} {frame : Frame} {outer : List Frame}

theorem anchored_nil (lines : Array String) (cursor : Nat) : Anchored lines cursor [] := by
  constructor <;> simp

theorem anchored_cons :
    Anchored lines cursor (frame :: outer) ↔
      (∀ around ∈ outer, around.openedAt < frame.openedAt) ∧ frame.openedAt ≤ cursor ∧
        frame.Anchored lines ∧ Anchored lines cursor outer := by
  constructor
  · rintro ⟨ordered, behind, anchored⟩
    rw [List.pairwise_cons] at ordered
    rw [List.forall_mem_cons] at behind anchored
    exact ⟨ordered.1, behind.1, anchored.1, ordered.2, behind.2, anchored.2⟩
  · rintro ⟨around, near, self, ordered, behind, anchored⟩
    exact ⟨List.pairwise_cons.mpr ⟨around, ordered⟩, List.forall_mem_cons.mpr ⟨near, behind⟩,
      List.forall_mem_cons.mpr ⟨self, anchored⟩⟩

theorem anchored_of_le (anchored : Anchored lines cursor outer) (later : cursor ≤ further) :
    Anchored lines further outer :=
  ⟨anchored.ordered, fun around member => Nat.le_trans (anchored.behind around member) later,
    anchored.anchored⟩

/-- A loop at the next line stands behind all that are open. -/
theorem anchored_open (anchored : Anchored lines cursor outer) (here : frame.openedAt = cursor + 1)
    (self : frame.Anchored lines) : Anchored lines (cursor + 1) (frame :: outer) := by
  refine anchored_cons.mpr ⟨?_, Nat.le_of_eq here, self, anchored_of_le anchored (Nat.le_succ _)⟩
  intro around member
  have near := anchored.behind around member
  omega

/-- The loops around the innermost stand before the start of its body. -/
theorem anchored_back {openedAt : Nat} {pass : Pass} {value : Value}
    (anchored : Anchored lines cursor (⟨openedAt, some pass⟩ :: outer))
    (following : pass.values[pass.index + 1]? = some value) :
    Anchored lines pass.start (⟨openedAt, some pass.next⟩ :: outer) := by
  obtain ⟨around, _, self, rest⟩ := anchored_cons.mp anchored
  have start : pass.start = openedAt := (self.running pass rfl).1
  rw [start]
  refine anchored_cons.mpr ⟨around, Nat.le_refl _, ⟨self.numbered, self.opened, ?_⟩, ?_⟩
  · intro next is
    obtain rfl := Option.some.inj is
    exact ⟨start, (Array.getElem?_eq_some_iff.mp following).1⟩
  · exact ⟨rest.ordered, fun frame member => Nat.le_of_lt (around frame member), rest.anchored⟩

end Loop

namespace Run

namespace State

/-- What a line can do to the open loops and to the cursor. -/
inductive Moves (line : String) (state : State) : State → Prop where
  | on {after : State} (loops : after.loops = state.loops)
      (cursor : after.cursor = state.cursor + 1) : Moves line state after
  | opens {after : State} {pass : Option Loop.Pass}
      (spelled : Directive.ofLine? line = some .loop)
      (frames : after.loops.frames = ⟨state.cursor + 1, pass⟩ :: state.loops.frames)
      (starts : ∀ running, pass = some running →
        running.start = state.cursor + 1 ∧ running.index < running.values.size)
      (cursor : after.cursor = state.cursor + 1) : Moves line state after
  | closes {after : State} {frame : Loop.Frame}
      (frames : state.loops.frames = frame :: after.loops.frames)
      (cursor : after.cursor = state.cursor + 1) : Moves line state after
  | back {after : State} {openedAt : Nat} {pass : Loop.Pass} {outer : List Loop.Frame}
      {value : Value} (spelled : Directive.ofLine? line = some .endLoop)
      (before : state.loops.frames = ⟨openedAt, some pass⟩ :: outer)
      (following : pass.values[pass.index + 1]? = some value)
      (frames : after.loops.frames = ⟨openedAt, some pass.next⟩ :: outer)
      (cursor : after.cursor = pass.start) : Moves line state after

variable {setting : Setting} {line : String} {state after : State}

theorem moves_settle (number : Nat) (result : Except DirectiveError Unit)
    (moves : state.Moves line after) : state.Moves line (after.settle setting number result) := by
  cases result with
  | ok => exact moves
  | error error =>
      cases moves with
      | on loops cursor => exact .on loops cursor
      | opens spelled frames starts cursor => exact .opens spelled frames starts cursor
      | closes frames cursor => exact .closes frames cursor
      | back spelled before following frames cursor =>
          exact .back spelled before following frames cursor

theorem moves_assign (argument : String) : state.Moves line (state.advance.assign argument).1 := by
  unfold assign
  split <;> exact .on rfl rfl

theorem moves_include_file (argument : String) :
    state.Moves line (state.advance.includeFile setting argument).1 := by
  unfold includeFile
  split <;> exact .on rfl rfl

theorem moves_open_loop (spelled : Directive.ofLine? line = some .loop) :
    state.Moves line (state.advance.openLoop line (state.cursor + 1)).1 := by
  have inert : ∀ after : State, after.loops = state.loops.pushInert (state.cursor + 1) →
      after.cursor = state.cursor + 1 → state.Moves line after := fun after loops cursor =>
    .opens spelled (congrArg Loop.Stack.frames loops) (fun _ none => by cases none) cursor
  unfold openLoop
  split
  · split
    · exact inert _ rfl rfl
    · next clause read =>
        by_cases room : state.advance.loops.passesStarted < state.advance.loops.limit
        · rw [Loop.Stack.push_of_room room]
          refine .opens spelled rfl ?_ rfl
          intro running is
          obtain rfl := Option.some.inj is
          exact ⟨rfl, Loop.Clause.values_nonempty read⟩
        · rw [Loop.Stack.push_of_spent (Nat.not_lt.mp room)]
          exact inert _ rfl rfl
  · exact inert _ rfl rfl

theorem moves_finish_loop (spelled : Directive.ofLine? line = some .endLoop) :
    state.Moves line state.advance.finishLoop.1 := by
  unfold finishLoop
  have finishes := state.loops.finishes
  change state.loops.Finishes state.advance.loops.finish at finishes
  generalize state.advance.loops.finish = finished at finishes
  cases finishes with
  | unmatched => exact .on rfl rfl
  | inert stands => exact .closes stands rfl
  | last stands => exact .closes stands rfl
  | next stands following => exact .back spelled stands following rfl rfl
  | spent stands => exact .closes stands rfl

theorem moves_step (setting : Setting) (line : String) (state : State) :
    state.Moves line (state.step setting line) := by
  cases spelled : Directive.ofLine? line with
  | none =>
      simp only [step, spelled]
      split <;> exact .on rfl rfl
  | some directive =>
      rw [step_of_spelled spelled]
      apply moves_settle
      cases directive with
      | loop => exact moves_open_loop spelled
      | endLoop => exact moves_finish_loop spelled
      | set =>
          simp only [perform]
          split
          · exact moves_assign _
          · exact .on rfl rfl
      | insertFile =>
          simp only [perform]
          split
          · exact moves_include_file _
          · exact .on rfl rfl
      | onlyIf | elseIf | otherwise | endIf | switch | case | default | endSwitch =>
          exact .on rfl rfl

theorem anchored_step {lines : Array String}
    (anchored : Loop.Anchored lines state.cursor state.loops.frames)
    (here : lines[state.cursor]? = some line) (moves : state.Moves line after) :
    Loop.Anchored lines after.cursor after.loops.frames := by
  cases moves with
  | on loops cursor =>
      rw [loops, cursor]
      exact Loop.anchored_of_le anchored (Nat.le_succ _)
  | opens spelled frames starts cursor =>
      rw [frames, cursor]
      exact Loop.anchored_open anchored rfl ⟨Nat.le_add_left _ _, ⟨line, here, spelled⟩, starts⟩
  | closes frames cursor =>
      rw [frames] at anchored
      rw [cursor]
      exact Loop.anchored_of_le (Loop.anchored_cons.mp anchored).2.2.2 (Nat.le_succ _)
  | back spelled before following frames cursor =>
      rw [before] at anchored
      rw [frames, cursor]
      exact Loop.anchored_back anchored following

end State

end Run

namespace Job

open Run

variable {job : Job} {visit : Visit}

theorem moves_handle (job : Job) (visit : Visit) (line : String) :
    visit.state.Moves line (job.handle visit line).state := by
  simp only [handle]
  exact State.moves_step (job.setting visit) line visit.state

theorem anchored_of_visits (visited : job.Visits visit) :
    Loop.Anchored visit.lines visit.state.cursor visit.state.loops.frames := by
  induction visited with
  | start => exact Loop.anchored_nil _ _
  | @handle before line _ here ih =>
      simp only [handle]
      exact State.anchored_step ih here (State.moves_step (job.setting before) line before.state)
  | enter => exact Loop.anchored_nil _ _

/-- In every state on the way, the open loops stand at loop lines in front of the cursor, each
behind the ones around it, and those that run are at one of their values. A line after which the run
does not go on with the next one ends a pass of the innermost loop: the run goes back to the start of
its body, and the loops around it stay as they are. -/
theorem rewinds_stay_inside (visited : job.Visits visit) :
    let state := visit.state
    state.loops.frames.Pairwise (fun inner outer => outer.openedAt < inner.openedAt) ∧
    (∀ frame ∈ state.loops.frames,
      1 ≤ frame.openedAt ∧ frame.openedAt ≤ state.cursor ∧
      (∃ line, visit.lines[frame.openedAt - 1]? = some line ∧
        Directive.ofLine? line = some .loop) ∧
      ∀ pass, frame.pass = some pass →
        pass.start = frame.openedAt ∧ pass.index < pass.values.size) ∧
    ∀ line, visit.lines[state.cursor]? = some line →
      let after := (job.handle visit line).state
      after.cursor = state.cursor + 1 ∨
        Directive.ofLine? line = some .endLoop ∧
          ∃ openedAt pass outer,
            state.loops.frames = ⟨openedAt, some pass⟩ :: outer ∧
            after.cursor = pass.start ∧ pass.start ≤ state.cursor ∧
            after.loops.frames = ⟨openedAt, some pass.next⟩ :: outer := by
  intro state
  have anchored : Loop.Anchored visit.lines state.cursor state.loops.frames :=
    anchored_of_visits visited
  refine ⟨anchored.ordered, ?_, ?_⟩
  · intro frame member
    have self := anchored.anchored frame member
    exact ⟨self.numbered, anchored.behind frame member, self.opened, self.running⟩
  · intro line here after
    have moves : state.Moves line after := moves_handle job visit line
    clear_value after
    cases moves with
    | on loops cursor => exact Or.inl cursor
    | opens spelled frames starts cursor => exact Or.inl cursor
    | closes frames cursor => exact Or.inl cursor
    | @back openedAt pass outer _ spelled before following frames cursor =>
        rw [before] at anchored
        obtain ⟨_, near, self, _⟩ := Loop.anchored_cons.mp anchored
        have start : pass.start = openedAt := (self.running pass rfl).1
        exact Or.inr ⟨spelled, openedAt, pass, outer, before, cursor, start ▸ near, frames⟩

/-- A condition that ends inside a loop that starts inside the condition. -/
def crossedJob : Job :=
  { options := Options.default
    files := fun _ => .unreadable .notFound
    bindings := NameMap.empty
    substitution := .off
    text := "#FOR x IN 1 2\n#IF x == 1\n#FOR y IN 3 4\n#ENDIF\n#ENDFOR\n#ENDFOR" }

/-- The end of the inner loop goes back behind its line, which is inside the condition. -/
theorem rewinds_stay_inside_crossed :
    let job := crossedJob
    let inOuter := job.handle job.start "#FOR x IN 1 2"
    let inInner := job.handle (job.handle inOuter "#IF x == 1") "#FOR y IN 3 4"
    let visit := job.handle inInner "#ENDIF"
    let after := (job.handle visit "#ENDFOR").state
    job.Visits visit ∧ visit.state.cursor = 4 ∧
      visit.state.loops.frames.map (·.openedAt) = [3, 1] ∧ after.cursor = 3 ∧
      ∃ openedAt pass outer,
        visit.state.loops.frames = ⟨openedAt, some pass⟩ :: outer ∧ after.cursor = pass.start ∧
        pass.start ≤ visit.state.cursor ∧
        after.loops.frames = ⟨openedAt, some pass.next⟩ :: outer := by
  intro job inOuter inInner visit after
  have opened : job.Visits inOuter := Visits.start.handle (by decide +kernel)
  have nested : job.Visits inInner :=
    (opened.handle (by decide +kernel)).handle (by decide +kernel)
  have visited : job.Visits visit := nested.handle (by decide +kernel)
  have facts : visit.lines[visit.state.cursor]? = some "#ENDFOR" ∧ visit.state.cursor = 4 ∧
      visit.state.loops.frames.map (·.openedAt) = [3, 1] ∧ after.cursor = 3 := by decide +kernel
  obtain ⟨ends, here, frames, goesBack⟩ := facts
  refine ⟨visited, here, frames, goesBack, ?_⟩
  rcases (rewinds_stay_inside visited).2.2 "#ENDFOR" ends with on | ⟨_, back⟩
  · have goesOn : after.cursor = visit.state.cursor + 1 := on
    rw [goesBack, here] at goesOn
    exact absurd goesOn (by decide)
  · exact back

end Job

end LineTemplate

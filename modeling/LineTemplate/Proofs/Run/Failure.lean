import LineTemplate.Proofs.Block.Operations
import LineTemplate.Run.Step

/-!
Directives that fail. A failure leaves the variables, the output, the diagnostics and the cursor as
they were. The blocks and loops it leaves depend on the directive: one that opens a block or a loop
opens it all the same, so that its end finds something to close, and one that was to start a further
pass closes its loop instead.
-/

namespace LineTemplate.Run

/-- No more than the open blocks and loops may differ. -/
structure State.Untouched (before after : State) : Prop where
  bindings : after.bindings = before.bindings
  pattern : after.pattern = before.pattern
  markers : after.markers = before.markers
  emitted : after.emitted = before.emitted
  diagnostics : after.diagnostics = before.diagnostics
  cursor : after.cursor = before.cursor

/-- The ways in which a directive can fail, each with its error and the blocks and loops it leaves.
The question of a condition is answered here as if it had been answered with no. -/
inductive Failure (setting : Setting) (line : String) (number : Nat) (state : State) :
    Directive → DirectiveError → Block.Stack → Loop.Stack → Prop where
  | unmatched (directive opener : Directive) :
      Failure setting line number state directive (.unmatched directive opener)
        state.blocks state.loops
  | assignment {error : DirectiveError} (active : state.isActive = true)
      (refused : state.assignment (Line.argument line) = .error error) :
      Failure setting line number state .set error state.blocks state.loops
  | inclusion {error : DirectiveError} (active : state.isActive = true)
      (refused : setting.includeFile state (Line.argument line) = .error error) :
      Failure setting line number state .insertFile error state.blocks state.loops
  | condition {error : DirectiveError} (active : state.isActive = true)
      (refused : state.holds .onlyIf (Line.argument line) = .error error) :
      Failure setting line number state .onlyIf error
        (state.blocks.openConditional number fun _ => .ok false).1 state.loops
  | alternative {error : DirectiveError} (asks : state.blocks.consults .elseIf = true)
      (running : state.loops.isActive = true)
      (refused : state.holds .elseIf (Line.argument line) = .error error) :
      Failure setting line number state .elseIf error
        (state.blocks.alternative fun _ => .ok false).1 state.loops
  | selection (active : state.isActive = true) :
      Failure setting line number state .switch (.malformed .switch .missingVariable)
        ({ kind := .selection (.text ""), live := false, taken := false, openedAt := number } ::
          state.blocks) state.loops
  | clause {error : DirectiveError} (active : state.isActive = true)
      (refused : Loop.Clause.ofLine line state.loops.limit = .error error) :
      Failure setting line number state .loop error state.blocks (state.loops.pushInert number)
  | firstPass (active : state.isActive = true)
      (spent : state.loops.limit ≤ state.loops.passesStarted) :
      Failure setting line number state .loop (.passLimit state.loops.limit) state.blocks
        (state.loops.pushInert number)
  | furtherPass {innermost : Loop.Frame} {outer : List Loop.Frame}
      (stands : state.loops.frames = innermost :: outer)
      (spent : state.loops.limit ≤ state.loops.passesStarted) :
      Failure setting line number state .endLoop (.passLimit state.loops.limit) state.blocks
        { state.loops with frames := outer }

namespace State

variable {setting : Setting} {directive : Directive} {line argument : String} {number : Nat}
  {state after : State} {error : DirectiveError}

/-- Records the failure of the line with the given number, if it failed. -/
def settle (setting : Setting) (number : Nat) (result : Except DirectiveError Unit)
    (state : State) : State :=
  match result with
  | .ok () => state
  | .error error => state.record { file := setting.file, line := number, error }

theorem step_of_spelled (spelled : Directive.ofLine? line = some directive) :
    state.step setting line =
      let performed := perform setting directive line (state.cursor + 1) state.advance
      performed.1.settle setting (state.cursor + 1) performed.2 := by
  simp only [step, spelled]
  rcases perform setting directive line (state.cursor + 1) state.advance with ⟨after, _ | error⟩ <;>
    rfl

theorem emitted_settle (number : Nat) (result : Except DirectiveError Unit) (state : State) :
    (state.settle setting number result).emitted = state.emitted := by
  cases result <;> rfl

theorem untouched_refl (state : State) : Untouched state state := ⟨rfl, rfl, rfl, rfl, rfl, rfl⟩

theorem untouched_with_blocks {Answer : Type} (state : State)
    (changed : Block.Stack × Except DirectiveError Answer) :
    Untouched state (state.withBlocks changed).1 := ⟨rfl, rfl, rfl, rfl, rfl, rfl⟩

theorem untouched_with_loops (state : State) (loops : Loop.Stack) :
    Untouched state (state.withLoops loops) := ⟨rfl, rfl, rfl, rfl, rfl, rfl⟩

theorem with_blocks_failed {Answer : Type} {changed : Block.Stack × Except DirectiveError Answer}
    (failed : state.withBlocks changed = (after, .error error)) :
    changed.2 = .error error ∧ after.blocks = changed.1 ∧ after.loops = state.loops := by
  obtain ⟨blocks, result⟩ := changed
  cases result with
  | ok answer => cases failed
  | error reason =>
      cases failed
      exact ⟨rfl, rfl, rfl⟩

theorem assign_failed (failed : state.assign argument = (after, .error error)) :
    state.assignment argument = .error error ∧ after = state := by
  unfold assign at failed
  split at failed
  · cases failed
  · next refused =>
      cases failed
      exact ⟨refused, rfl⟩

theorem include_file_failed (failed : state.includeFile setting argument = (after, .error error)) :
    setting.includeFile state argument = .error error ∧ after = state := by
  unfold includeFile at failed
  split at failed
  · cases failed
  · next refused =>
      cases failed
      exact ⟨refused, rfl⟩

theorem open_loop_failed (failed : state.openLoop line number = (after, .error error)) :
    state.isActive = true ∧ after = state.withLoops (state.loops.pushInert number) ∧
      (Loop.Clause.ofLine line state.loops.limit = .error error ∨
        state.loops.limit ≤ state.loops.passesStarted ∧ error = .passLimit state.loops.limit) := by
  unfold openLoop at failed
  split at failed
  · next active =>
      refine ⟨active, ?_⟩
      split at failed
      · next refused =>
          cases failed
          exact ⟨rfl, Or.inl refused⟩
      · next clause _ =>
          unfold Loop.Stack.push at failed
          by_cases room : state.loops.passesStarted < state.loops.limit
          · rw [if_pos room] at failed
            cases failed
          · rw [if_neg room] at failed
            cases failed
            exact ⟨rfl, Or.inr ⟨Nat.not_lt.mp room, rfl⟩⟩
  · cases failed

theorem finish_loop_failed (failed : state.finishLoop = (after, .error error)) :
    error = .unmatched .endLoop .loop ∧ after = state ∨
      ∃ innermost outer, state.loops.frames = innermost :: outer ∧
        state.loops.limit ≤ state.loops.passesStarted ∧ error = .passLimit state.loops.limit ∧
        after = state.withLoops { state.loops with frames := outer } := by
  unfold finishLoop Loop.Stack.finish at failed
  cases stands : state.loops.frames with
  | nil =>
      simp only [stands] at failed
      cases failed
      exact Or.inl ⟨rfl, rfl⟩
  | cons innermost outer =>
      simp only [stands] at failed
      cases running : innermost.pass with
      | none =>
          simp only [running] at failed
          cases failed
      | some pass =>
          simp only [running] at failed
          split at failed
          · next ended =>
              split at ended
              · cases ended
              · next value _ =>
                  by_cases room : state.loops.passesStarted < state.loops.limit
                  · rw [if_pos room] at ended
                    cases ended
                  · rw [if_neg room] at ended
                    cases ended
                    cases failed
                    exact Or.inr ⟨innermost, outer, rfl, Nat.not_lt.mp room, rfl, rfl⟩
          · cases failed
          · cases failed

theorem condition_failed (failed : state.condition directive line () = .error error) :
    state.loops.isActive = true ∧ state.holds directive (Line.argument line) = .error error := by
  unfold condition at failed
  split at failed
  · next running => exact ⟨running, failed⟩
  · cases failed

theorem discriminant_failed (failed : state.discriminant line () = .error error) :
    state.loops.isActive = true ∧ error = .malformed .switch .missingVariable := by
  unfold discriminant at failed
  split at failed
  · next running =>
      refine ⟨running, ?_⟩
      simp only at failed
      split at failed
      · cases failed
        rfl
      · cases failed
  · cases failed

theorem is_active_of_parts (active : state.blocks.isActive = true)
    (running : state.loops.isActive = true) : state.isActive = true :=
  Bool.and_eq_true_iff.mpr ⟨active, running⟩

/-- A failure strikes before anything but the blocks and loops is changed. -/
theorem untouched_of_failed
    (failed : perform setting directive line number state = (after, .error error)) :
    Untouched state after := by
  have blocks {Answer : Type} {changed : Block.Stack × Except DirectiveError Answer}
      (same : state.withBlocks changed = (after, .error error)) : Untouched state after := by
    have left : (state.withBlocks changed).1 = after := congrArg Prod.fst same
    rw [← left]
    exact untouched_with_blocks state changed
  cases directive with
  | set =>
      simp only [perform] at failed
      split at failed
      · rw [(assign_failed failed).2]
        exact untouched_refl state
      · cases failed
  | insertFile =>
      simp only [perform] at failed
      split at failed
      · rw [(include_file_failed failed).2]
        exact untouched_refl state
      · cases failed
  | loop =>
      rw [(open_loop_failed failed).2.1]
      exact untouched_with_loops state _
  | endLoop =>
      rcases finish_loop_failed failed with ⟨_, rfl⟩ | ⟨_, _, _, _, _, rfl⟩
      · exact untouched_refl after
      · exact untouched_with_loops state _
  | onlyIf | elseIf | otherwise | endIf | switch | case | default | endSwitch => exact blocks failed

theorem failure_of_failed
    (failed : perform setting directive line number state = (after, .error error)) :
    Failure setting line number state directive error after.blocks after.loops := by
  -- Five directives on blocks fail in one way only, which leaves everything as it was.
  have rejected {Answer : Type} {opener : Directive}
      {changed : Block.Stack × Except DirectiveError Answer}
      (only : Block.Stack.OnlyUnmatched state.blocks directive opener changed)
      (same : state.withBlocks changed = (after, .error error)) :
      Failure setting line number state directive error after.blocks after.loops := by
    obtain ⟨refused, blocks, loops⟩ := with_blocks_failed same
    obtain ⟨rfl, kept⟩ := only error refused
    rw [blocks, loops, kept]
    exact .unmatched directive opener
  cases directive with
  | onlyIf =>
      obtain ⟨refused, blocks, loops⟩ := with_blocks_failed failed
      obtain ⟨active, asked, opened⟩ := Block.Stack.open_conditional_failed refused
      obtain ⟨running, unknown⟩ := condition_failed asked
      rw [blocks, loops, opened]
      exact .condition (is_active_of_parts active running) unknown
  | elseIf =>
      obtain ⟨refused, blocks, loops⟩ := with_blocks_failed failed
      rcases Block.Stack.alternative_failed refused with ⟨rfl, kept⟩ | ⟨asks, asked, moved⟩
      · rw [blocks, loops, kept]
        exact .unmatched .elseIf .onlyIf
      · obtain ⟨running, unknown⟩ := condition_failed asked
        rw [blocks, loops, moved]
        exact .alternative asks running unknown
  | otherwise => exact rejected state.blocks.otherwise_only_unmatched failed
  | endIf => exact rejected state.blocks.end_conditional_only_unmatched failed
  | switch =>
      obtain ⟨refused, blocks, loops⟩ := with_blocks_failed failed
      obtain ⟨active, asked, opened⟩ := Block.Stack.open_selection_failed refused
      obtain ⟨running, rfl⟩ := discriminant_failed asked
      rw [blocks, loops, opened]
      exact .selection (is_active_of_parts active running)
  | case => exact rejected (state.blocks.case_only_unmatched _) failed
  | default => exact rejected state.blocks.default_only_unmatched failed
  | endSwitch => exact rejected state.blocks.end_selection_only_unmatched failed
  | set =>
      simp only [perform] at failed
      split at failed
      · next active =>
          obtain ⟨refused, rfl⟩ := assign_failed failed
          exact .assignment active refused
      · cases failed
  | insertFile =>
      simp only [perform] at failed
      split at failed
      · next active =>
          obtain ⟨refused, rfl⟩ := include_file_failed failed
          exact .inclusion active refused
      · cases failed
  | loop =>
      obtain ⟨active, rfl, unread | ⟨spent, rfl⟩⟩ := open_loop_failed failed
      · exact .clause active unread
      · exact .firstPass active spent
  | endLoop =>
      rcases finish_loop_failed failed with ⟨rfl, rfl⟩ | ⟨innermost, outer, stands, spent, rfl, rfl⟩
      · exact .unmatched .endLoop .loop
      · exact .furtherPass stands spent

/-- A directive that fails leaves all but the blocks and loops as it was, and of these it changes
no more than the way in which it fails tells. -/
theorem failed_directive_leaves_state
    (failed : perform setting directive line number state = (after, .error error)) :
    Untouched state after ∧
      Failure setting line number state directive error after.blocks after.loops :=
  ⟨untouched_of_failed failed, failure_of_failed failed⟩

/-- The end of a loop for which no pass is left, and a further branch that lacks its condition. -/
theorem failed_directive_leaves_state_spent :
    let outer : Loop.Frame := ⟨2, some ⟨"row", #[.integer 1, .integer 2], 2, 0⟩⟩
    let inner : Loop.Frame := ⟨3, some ⟨"column", #[.text "a", .text "b"], 3, 0⟩⟩
    let state : State :=
      { start NameMap.empty Markers.disabled 2 with
        blocks := [⟨.conditional .first, false, false, 1⟩]
        loops := ⟨[inner, outer], 2, 2⟩
        emitted := #["above"]
        cursor := 5 }
    let closed : State := { state with loops := ⟨[outer], 2, 2⟩ }
    let moved : State := { state with blocks := [⟨.conditional .alternative, false, false, 1⟩] }
    let missing : DirectiveError := .malformed .elseIf .missingCondition
    ∀ setting : Setting,
      perform setting .endLoop "#ENDFOR" 5 state = (closed, .error (.passLimit 2)) ∧
        Failure setting "#ENDFOR" 5 state .endLoop (.passLimit 2) closed.blocks closed.loops ∧
      perform setting .elseIf "#ELSEIF" 5 state = (moved, .error missing) ∧
        Untouched state moved := by
  intro outer inner state closed moved missing setting
  have spent : perform setting .endLoop "#ENDFOR" 5 state = (closed, .error (.passLimit 2)) := rfl
  have unnamed : Line.argument "#ELSEIF" = "" := by decide +kernel
  have asked : state.condition .elseIf "#ELSEIF" () = .error missing := by
    have running : state.loops.isActive = true := rfl
    simp [condition, running, holds, unnamed, missing]
  have refused : perform setting .elseIf "#ELSEIF" 5 state = (moved, .error missing) := by
    have stands : state.blocks = [⟨.conditional .first, false, false, 1⟩] := rfl
    rw [perform, stands, Block.Stack.alternative_of_open [] rfl rfl, asked]
    rfl
  exact ⟨spent, (failed_directive_leaves_state spent).2, refused,
    (failed_directive_leaves_state refused).1⟩

end State

end LineTemplate.Run

import LineTemplate.Preprocessor
import LineTemplate.Proofs.Block.Nesting
import LineTemplate.Proofs.Run.Positions

/-!
Which lines are out of place, and which blocks are never closed, is a matter of the directives alone.
The blocks that are open in a run have an outline, and what a line makes of the outline, and whether
it is rejected, depends on nothing else: not on conditions, values or what is active. Over a whole
text without loops and inclusions the run reports what the bracket check reports.
-/

namespace LineTemplate

/-- Errors about the nesting of blocks and loops. -/
def DirectiveError.isStructural : DirectiveError → Bool
  | unmatched .. | unclosed .. => true
  | _ => false

/-- The diagnostics about the nesting of blocks and loops, in order. -/
def structuralDiagnostics (diagnostics : Array Diagnostic) : List Diagnostic :=
  diagnostics.toList.filter fun diagnostic => diagnostic.error.isStructural

/-- The structural error that came of it, if one did. -/
def rejection? {Answer : Type} : Except DirectiveError Answer → Option DirectiveError
  | .ok _ => none
  | .error error => if error.isStructural then some error else none

theorem rejection_map {Answer Result : Type} (result : Except DirectiveError Answer)
    (change : Answer → Result) : rejection? (result.map change) = rejection? result := by
  cases result <;> rfl

namespace Block

def Kind.enclosure : Kind → Enclosure
  | .conditional .last => .lastBranch
  | .conditional _ => .branches
  | .selection _ => .cases

def Frame.outline (frame : Frame) : Outline :=
  { enclosure := frame.kind.enclosure, openedAt := frame.openedAt }

theorem opener_of_outline (frame : Frame) :
    frame.outline.opening = { directive := frame.opener, line := frame.openedAt } := by
  obtain ⟨kind, live, taken, opened⟩ := frame
  cases kind with
  | conditional branch => cases branch <;> rfl
  | selection discriminant => rfl

namespace Stack

def outlines (blocks : Stack) : List Outline :=
  blocks.map Frame.outline

theorem openings_of_outlines (blocks : Stack) :
    blocks.openings = blocks.outlines.reverse.map Outline.opening := by
  simp only [openings, outlines, ← List.map_reverse, List.map_map, Function.comp_def,
    opener_of_outline]

/-- What was done to the blocks shows in their outlines as what follows from the directive. -/
structure Shows {Answer : Type} (followed : List Outline × Option DirectiveError)
    (performed : Stack × Except DirectiveError Answer) : Prop where
  outlines : performed.1.outlines = followed.1
  rejection : rejection? performed.2 = followed.2

variable {number : Nat} {blocks : Stack}

theorem shows_open_conditional {condition : Question Bool}
    (plain : rejection? (condition ()) = none) :
    Shows (follow number .onlyIf blocks.outlines) (blocks.openConditional number condition) := by
  cases active : blocks.isActive with
  | true =>
      rw [open_conditional_of_active active]
      exact ⟨rfl, (rejection_map _ _).trans plain⟩
  | false =>
      rw [open_conditional_of_inactive active]
      exact ⟨rfl, rfl⟩

theorem shows_open_selection {discriminant : Question Value}
    (plain : rejection? (discriminant ()) = none) :
    Shows (follow number .switch blocks.outlines) (blocks.openSelection number discriminant) := by
  cases active : blocks.isActive with
  | true =>
      rw [open_selection_of_active active]
      exact ⟨rfl, (rejection_map _ _).trans plain⟩
  | false =>
      rw [open_selection_of_inactive active]
      exact ⟨rfl, rfl⟩

theorem outline_of_open {frame : Frame} (isOpen : isOpenConditional frame = true) :
    frame.outline = ⟨.branches, frame.openedAt⟩ := by
  obtain ⟨kind, live, taken, opened⟩ := frame
  cases kind with
  | conditional branch =>
      cases branch with
      | first | alternative => rfl
      | last => cases isOpen
  | selection discriminant => cases isOpen

theorem outline_of_selection {frame : Frame} {discriminant : Value}
    (selects : frame.kind = .selection discriminant) :
    frame.outline = ⟨.cases, frame.openedAt⟩ := by
  rw [Frame.outline, selects]
  rfl

/-- What a frame that is not open for a branch admits instead. -/
theorem outline_of_closed {frame : Frame} (closed : isOpenConditional frame = false) :
    frame.outline = ⟨.lastBranch, frame.openedAt⟩ ∨ frame.outline = ⟨.cases, frame.openedAt⟩ := by
  obtain ⟨kind, live, taken, opened⟩ := frame
  cases kind with
  | conditional branch =>
      cases branch with
      | first | alternative => cases closed
      | last => exact Or.inl rfl
  | selection discriminant => exact Or.inr rfl

theorem outline_of_conditional {frame : Frame} {branch : Branch}
    (branches : frame.kind = .conditional branch) :
    frame.outline = ⟨.branches, frame.openedAt⟩ ∨
      frame.outline = ⟨.lastBranch, frame.openedAt⟩ := by
  rw [Frame.outline, branches]
  cases branch with
  | first | alternative => exact Or.inl rfl
  | last => exact Or.inr rfl

theorem outlines_cons (frame : Frame) (outer : Stack) :
    outlines (frame :: outer) = frame.outline :: outer.outlines := rfl

/-- A directive that is out of place is rejected by both. -/
theorem shows_unmatched {Answer : Type} {directive opener : Directive}
    (rejected : follow number directive blocks.outlines =
      (blocks.outlines, some (.unmatched directive opener))) :
    Shows (follow number directive blocks.outlines)
      (blocks, (.error (.unmatched directive opener) : Except DirectiveError Answer)) := by
  rw [rejected]
  exact ⟨rfl, rfl⟩

theorem shows_alternative {condition : Question Bool} (plain : rejection? (condition ()) = none) :
    Shows (follow number .elseIf blocks.outlines) (blocks.alternative condition) := by
  cases blocks with
  | nil => exact shows_unmatched rfl
  | cons frame outer =>
      cases isOpen : isOpenConditional frame with
      | false =>
          rw [alternative_of_closed outer isOpen]
          apply shows_unmatched
          rw [outlines_cons]
          rcases outline_of_closed isOpen with shape | shape <;> rw [shape] <;> rfl
      | true =>
          rw [outlines_cons, outline_of_open isOpen]
          cases taken : frame.taken with
          | true =>
              rw [alternative_of_taken outer isOpen taken]
              exact ⟨rfl, rfl⟩
          | false =>
              rw [alternative_of_open outer isOpen taken]
              exact ⟨rfl, (rejection_map _ _).trans plain⟩

theorem shows_otherwise :
    Shows (follow number .otherwise blocks.outlines) blocks.otherwise := by
  cases blocks with
  | nil => exact shows_unmatched rfl
  | cons frame outer =>
      cases isOpen : isOpenConditional frame with
      | false =>
          rw [otherwise_of_closed outer isOpen]
          apply shows_unmatched
          rw [outlines_cons]
          rcases outline_of_closed isOpen with shape | shape <;> rw [shape] <;> rfl
      | true =>
          rw [outlines_cons, outline_of_open isOpen, otherwise_of_open outer isOpen]
          exact ⟨rfl, rfl⟩

theorem shows_end_conditional :
    Shows (follow number .endIf blocks.outlines) blocks.endConditional := by
  cases blocks with
  | nil => exact shows_unmatched rfl
  | cons frame outer => exact ⟨rfl, rfl⟩

theorem shows_case (values : List Value) :
    Shows (follow number .case blocks.outlines) (blocks.case values) := by
  cases blocks with
  | nil => exact shows_unmatched rfl
  | cons frame outer =>
      cases kind : frame.kind with
      | conditional branch =>
          rw [case_of_conditional outer kind]
          apply shows_unmatched
          rw [outlines_cons]
          rcases outline_of_conditional kind with shape | shape <;> rw [shape] <;> rfl
      | selection discriminant =>
          have outline := outline_of_selection kind
          rw [outlines_cons, outline, case_of_selection outer kind]
          exact ⟨congrArg (· :: outlines outer) outline, rfl⟩

theorem shows_default : Shows (follow number .default blocks.outlines) blocks.default := by
  cases blocks with
  | nil => exact shows_unmatched rfl
  | cons frame outer =>
      cases kind : frame.kind with
      | conditional branch =>
          rw [default_of_conditional outer kind]
          apply shows_unmatched
          rw [outlines_cons]
          rcases outline_of_conditional kind with shape | shape <;> rw [shape] <;> rfl
      | selection discriminant =>
          have outline := outline_of_selection kind
          rw [outlines_cons, outline, default_of_selection outer kind]
          exact ⟨congrArg (· :: outlines outer) outline, rfl⟩

theorem shows_end_selection :
    Shows (follow number .endSwitch blocks.outlines) blocks.endSelection := by
  cases blocks with
  | nil => exact shows_unmatched rfl
  | cons frame outer =>
      cases kind : frame.kind with
      | conditional branch =>
          rw [end_selection_of_conditional outer kind]
          apply shows_unmatched
          rw [outlines_cons]
          rcases outline_of_conditional kind with shape | shape <;> rw [shape] <;> rfl
      | selection discriminant =>
          rw [outlines_cons, outline_of_selection kind, end_selection_of_selection outer kind]
          exact ⟨rfl, rfl⟩

end Stack

end Block

namespace Run

/-- The line neither opens nor closes a loop and includes no file. -/
def isPlain (line : String) : Bool :=
  match Directive.ofLine? line with
  | some .loop | some .endLoop | some .insertFile => false
  | _ => true

namespace State

open Block (follow nestingFaults)
open Block.Stack (Shows)

variable {setting : Setting} {directive : Directive} {line : String} {number : Nat} {state : State}

theorem evaluate_not_structural (directive : Directive) (text : String) :
    rejection? (state.evaluate directive text) = none := by
  unfold evaluate
  split <;> rfl

theorem condition_not_structural (directive : Directive) (line : String) :
    rejection? (state.condition directive line ()) = none := by
  unfold condition holds
  split
  · split
    · rfl
    · split
      · rfl
      · rw [rejection_map, evaluate_not_structural]
  · rfl

theorem discriminant_not_structural (line : String) :
    rejection? (state.discriminant line ()) = none := by
  unfold discriminant
  split
  · simp only
    split <;> rfl
  · rfl

theorem assign_not_structural (state : State) (argument : String) :
    rejection? (state.assign argument).2 = none ∧ (state.assign argument).1.blocks = state.blocks ∧
      (state.assign argument).1.diagnostics = state.diagnostics := by
  have assigned : rejection? (state.assignment argument) = none := by
    unfold assignment
    split
    · rfl
    · simp only
      split
      · rfl
      · split
        · rfl
        · rw [rejection_map, evaluate_not_structural]
  unfold assign
  split
  · exact ⟨rfl, rfl, rfl⟩
  · next refused =>
      rw [refused] at assigned
      exact ⟨assigned, rfl, rfl⟩

/-- What a directive does shows in the outlines of the blocks. -/
structure ShowsIn (followed : List Block.Outline × Option DirectiveError) (before : State)
    (performed : State × Except DirectiveError Unit) : Prop where
  outlines : performed.1.blocks.outlines = followed.1
  rejection : rejection? performed.2 = followed.2
  diagnostics : performed.1.diagnostics = before.diagnostics

theorem shows_with_blocks {Answer : Type} {followed : List Block.Outline × Option DirectiveError}
    {changed : Block.Stack × Except DirectiveError Answer} (shows : Shows followed changed) :
    ShowsIn followed state (state.withBlocks changed) :=
  ⟨shows.outlines, (rejection_map _ _).trans shows.rejection, rfl⟩

theorem shows_perform (spelled : Directive.ofLine? line = some directive)
    (plain : isPlain line = true) :
    ShowsIn (follow number directive state.blocks.outlines) state
      (perform setting directive line number state) := by
  rw [isPlain, spelled] at plain
  cases directive with
  | onlyIf =>
      exact shows_with_blocks (Block.Stack.shows_open_conditional (condition_not_structural _ _))
  | elseIf => exact shows_with_blocks (Block.Stack.shows_alternative (condition_not_structural _ _))
  | otherwise => exact shows_with_blocks Block.Stack.shows_otherwise
  | endIf => exact shows_with_blocks Block.Stack.shows_end_conditional
  | switch =>
      exact shows_with_blocks (Block.Stack.shows_open_selection (discriminant_not_structural _))
  | case => exact shows_with_blocks (Block.Stack.shows_case _)
  | default => exact shows_with_blocks Block.Stack.shows_default
  | endSwitch => exact shows_with_blocks Block.Stack.shows_end_selection
  | set =>
      simp only [perform]
      split
      · obtain ⟨plain, blocks, diagnostics⟩ := state.assign_not_structural (Line.argument line)
        exact ⟨congrArg _ blocks, plain, diagnostics⟩
      · exact ⟨rfl, rfl, rfl⟩
  | insertFile | loop | endLoop => cases plain

theorem structural_append (first second : Array Diagnostic) :
    structuralDiagnostics (first ++ second) =
      structuralDiagnostics first ++ structuralDiagnostics second := by
  simp only [structuralDiagnostics, Array.toList_append, List.filter_append]

/-- Of a result that is recorded, only a rejection is structural. -/
theorem structural_settle (result : Except DirectiveError Unit) :
    structuralDiagnostics (state.settle setting number result).diagnostics =
      structuralDiagnostics state.diagnostics ++
        (rejection? result).toList.map fun error => { file := setting.file, line := number, error } := by
  cases result with
  | ok => exact (List.append_nil _).symm
  | error error =>
      change structuralDiagnostics (state.diagnostics ++ #[_]) = _
      rw [structural_append]
      cases structural : error.isStructural <;>
        simp [structuralDiagnostics, rejection?, structural]

theorem blocks_settle (result : Except DirectiveError Unit) :
    (state.settle setting number result).blocks = state.blocks := by
  cases result <;> rfl

/-- A plain line leads to the next one and opens no loop. -/
theorem plain_step (setting : Setting) (plain : isPlain line = true)
    (free : state.loops.frames = []) :
    (state.step setting line).loops.frames = [] ∧
      (state.step setting line).cursor = state.cursor + 1 := by
  cases moves_step setting line state with
  | on loops cursor =>
      rw [loops]
      exact ⟨free, cursor⟩
  | opens spelled => simp [isPlain, spelled] at plain
  | closes frames => simp [free] at frames
  | back spelled => simp [isPlain, spelled] at plain

/-- What was reported together with what the check finds in the lines from the next one on stays the
same from line to line. -/
theorem nesting_step (setting : Setting) (plain : isPlain line = true)
    (rest : List (Option Directive)) :
    structuralDiagnostics (state.step setting line).diagnostics ++
        nestingFaults setting.file (state.cursor + 1 + 1) (state.step setting line).blocks.outlines
          rest =
      structuralDiagnostics state.diagnostics ++
        nestingFaults setting.file (state.cursor + 1) state.blocks.outlines
          (Directive.ofLine? line :: rest) := by
  cases spelled : Directive.ofLine? line with
  | none =>
      simp only [step, spelled]
      split <;> rfl
  | some directive =>
      have shows :=
        @shows_perform setting directive line (state.cursor + 1) state.advance spelled plain
      rw [step_of_spelled spelled, Block.nesting_faults_of_directive, structural_settle,
        blocks_settle, shows.diagnostics, shows.rejection, shows.outlines, List.append_assoc]
      rfl

theorem structural_close (free : state.loops.frames = []) :
    structuralDiagnostics (state.close setting).diagnostics =
      structuralDiagnostics state.diagnostics ++
        nestingFaults setting.file number state.blocks.outlines [] := by
  have openings : state.openings = state.blocks.openings := by
    simp [State.openings, Loop.Stack.openings, free]
  rw [close_eq, structural_append, openings, Block.Stack.openings_of_outlines, nestingFaults,
    List.map_map]
  refine congrArg (structuralDiagnostics state.diagnostics ++ ·) ?_
  rw [structuralDiagnostics, List.filter_eq_self.mpr]
  · rfl
  · intro diagnostic member
    obtain ⟨outline, _, rfl⟩ := List.mem_map.mp member
    rfl

/-- Over plain lines the run reports what the check finds in them. -/
theorem nesting_over_lines (setting : Setting) (lines : Array String) (state : State)
    (plain : ∀ line ∈ lines, isPlain line = true) (free : state.loops.frames = []) :
    structuralDiagnostics ((state.overLines setting lines).close setting).diagnostics =
      structuralDiagnostics state.diagnostics ++
        nestingFaults setting.file (state.cursor + 1) state.blocks.outlines
          ((lines.toList.drop state.cursor).map Directive.ofLine?) := by
  fun_induction State.overLines setting lines state with
  | case1 state inside ih =>
      have plainHere := plain _ (Array.getElem_mem inside)
      have left : lines.toList.drop state.cursor =
          lines[state.cursor] :: lines.toList.drop (state.cursor + 1) :=
        List.drop_eq_getElem_cons inside
      rw [left, List.map_cons]
      -- The line alone matters from here on, not where it is found.
      generalize lines[state.cursor] = line at ih plainHere ⊢
      obtain ⟨stillFree, moved⟩ := plain_step setting plainHere free
      have further := ih stillFree
      rw [moved] at further
      exact further.trans (nesting_step setting plainHere _)
  | case2 state outside =>
      rw [List.drop_eq_nil_of_le (by simpa using Nat.not_lt.mp outside)]
      exact structural_close free

end State

end Run

namespace Preprocessor

open Run Block

/-- Whatever the variables, the options and the markers, the diagnostics about nesting for a text
without loops and inclusions are those that the check reads off the directives of its lines. There
are none exactly if the grammar derives the sequence of the directives. -/
theorem nesting_is_bracket_check (preprocessor : Preprocessor) (files : Files)
    (bindings : Variables) (substitution : Substitution) (text : String)
    (plain : ∀ line ∈ Text.splitLines text, isPlain line = true) :
    let kinds := (Text.splitLines text).map Directive.ofLine?
    let after := (preprocessor.process files bindings substitution (.text text)).2
    let reported := structuralDiagnostics after.diagnostics
    reported = nestingFaults none 1 [] kinds ∧ (reported = [] ↔ Derives .sequence kinds) := by
  intro kinds after reported
  have checked : reported = nestingFaults none 1 [] kinds := by
    change structuralDiagnostics
      (finalState preprocessor.options files bindings substitution text).diagnostics = _
    rw [finalState, Setting.overText, State.nesting_over_lines _ _ _ (by simpa using plain) rfl]
    rfl
  exact ⟨checked, checked ▸ no_faults_iff_derives⟩

/-- A text with a branch behind the last one of its condition, a condition that closes a selection,
and a case of no selection. The value of the condition does not matter, nor that the selection is
suppressed. -/
theorem nesting_is_bracket_check_misnested :
    let text := "#IF 0\n#ELSE\n#ELSE\n#ENDIF\n#IF 0\n#SWITCH\n#ENDIF\n#CASE 1"
    let kinds := (Text.splitLines text).map Directive.ofLine?
    let after := (new.process (fun _ => .unreadable .notFound) NameMap.empty .off (.text text)).2
    let reported := structuralDiagnostics after.diagnostics
    reported = [⟨none, 3, .unmatched .otherwise .onlyIf⟩, ⟨none, 8, .unmatched .case .switch⟩,
      ⟨none, 5, .unclosed .onlyIf 5⟩] ∧ ¬ Derives .sequence kinds := by
  intro text kinds after reported
  have plain : ∀ line ∈ Text.splitLines text, isPlain line = true := by decide +kernel
  have checked : nestingFaults none 1 [] kinds =
      [⟨none, 3, .unmatched .otherwise .onlyIf⟩, ⟨none, 8, .unmatched .case .switch⟩,
        ⟨none, 5, .unclosed .onlyIf 5⟩] := by decide +kernel
  obtain ⟨same, derived⟩ :=
    nesting_is_bracket_check new (fun _ => .unreadable .notFound) NameMap.empty .off text plain
  have found := same.trans checked
  refine ⟨found, fun derives => ?_⟩
  have nothing := derived.mpr derives
  rw [found] at nothing
  cases nothing

end Preprocessor

end LineTemplate

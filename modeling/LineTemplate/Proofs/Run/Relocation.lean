import LineTemplate.Proofs.Run.Inclusion
import LineTemplate.Proofs.Run.Positions

/-!
A run does the same further down in a text. Blocks, loops and diagnostics remember lines by their
numbers, counted from the top, and all of these grow by the number of lines in front. What a line
does is otherwise the same, so a state that is moved down and the state itself stay in step.
-/

namespace LineTemplate

/-- The error as it reads with so many more lines in front. Only one error names a line. -/
def DirectiveError.moved (lines : Nat) : DirectiveError → DirectiveError
  | unclosed opener line => unclosed opener (line + lines)
  | error => error

/-- The diagnostic as it reads with so many more lines in front of the source. Lines of an included
file are counted from its own top. -/
def Diagnostic.moved (lines : Nat) (diagnostic : Diagnostic) : Diagnostic :=
  match diagnostic.file with
  | some _ => diagnostic
  | none =>
      { diagnostic with line := diagnostic.line + lines, error := diagnostic.error.moved lines }

theorem Diagnostic.moved_of_included {diagnostic : Diagnostic} (included : diagnostic.file ≠ none)
    (lines : Nat) : diagnostic.moved lines = diagnostic := by
  obtain ⟨file, line, error⟩ := diagnostic
  cases file with
  | none => exact absurd rfl included
  | some path => rfl

/-- An error of the result, if it is one, reads the same wherever the line stands. -/
def NamesNoLine {Answer : Type} : Except DirectiveError Answer → Prop
  | .ok _ => True
  | .error error => ∀ lines, error.moved lines = error

section NamesNoLine

variable {Answer Result : Type} {result first : Except DirectiveError Answer}
  {rest : Answer → Except DirectiveError Result}

theorem moved_of_failed {error : DirectiveError} (placeless : NamesNoLine result)
    (failed : result = .error error) (lines : Nat) : error.moved lines = error := by
  rw [failed] at placeless
  exact placeless lines

theorem names_no_line_bind (front : NamesNoLine first) (back : ∀ value, NamesNoLine (rest value)) :
    NamesNoLine (first >>= rest) := by
  cases first with
  | error error => exact front
  | ok value => exact back value

theorem names_no_line_map (change : Answer → Result) (placeless : NamesNoLine result) :
    NamesNoLine (result.map change) := by
  cases result with
  | error error => exact placeless
  | ok value => trivial

theorem names_no_line_check {refused : Prop} [Decidable refused] {failure : DirectiveError}
    {following : Except DirectiveError Result} (fault : ∀ lines, failure.moved lines = failure)
    (back : NamesNoLine following) : NamesNoLine (if refused then throw failure else following) := by
  by_cases refusal : refused
  · rw [if_pos refusal]
    exact fault
  · rw [if_neg refusal]
    exact back

end NamesNoLine

namespace Block

def Frame.moved (lines : Nat) (frame : Frame) : Frame :=
  { frame with openedAt := frame.openedAt + lines }

namespace Stack

def moved (lines : Nat) (blocks : Stack) : Stack :=
  blocks.map (Frame.moved lines)

theorem is_active_moved (lines : Nat) (blocks : Stack) :
    (blocks.moved lines).isActive = blocks.isActive := by
  simp only [isActive, moved, List.all_map, Function.comp_def, Frame.moved]

/-- The second change leaves what the first leaves, moved down, and answers alike. -/
structure MovesAlong {Answer : Type} (lines : Nat)
    (changed further : Stack × Except DirectiveError Answer) : Prop where
  blocks : further.1 = changed.1.moved lines
  answer : further.2.map (fun _ => ()) = changed.2.map (fun _ => ())

variable {lines number : Nat} {blocks : Stack}

theorem moved_open_conditional (condition : Question Bool) :
    MovesAlong lines (blocks.openConditional number condition)
      ((blocks.moved lines).openConditional (number + lines) condition) := by
  have same := is_active_moved lines blocks
  cases active : blocks.isActive with
  | true =>
      rw [open_conditional_of_active active, open_conditional_of_active (same.trans active)]
      exact ⟨rfl, rfl⟩
  | false =>
      rw [open_conditional_of_inactive active, open_conditional_of_inactive (same.trans active)]
      exact ⟨rfl, rfl⟩

theorem moved_open_selection (discriminant : Question Value) :
    MovesAlong lines (blocks.openSelection number discriminant)
      ((blocks.moved lines).openSelection (number + lines) discriminant) := by
  have same := is_active_moved lines blocks
  cases active : blocks.isActive with
  | true =>
      rw [open_selection_of_active active, open_selection_of_active (same.trans active)]
      exact ⟨rfl, rfl⟩
  | false =>
      rw [open_selection_of_inactive active, open_selection_of_inactive (same.trans active)]
      exact ⟨rfl, rfl⟩

theorem moved_alternative (condition : Question Bool) :
    MovesAlong lines (blocks.alternative condition)
      ((blocks.moved lines).alternative condition) := by
  cases blocks with
  | nil => exact ⟨rfl, rfl⟩
  | cons frame outer =>
      change MovesAlong lines _ (alternative (frame.moved lines :: moved lines outer) condition)
      cases isOpen : isOpenConditional frame with
      | false =>
          rw [alternative_of_closed outer isOpen,
            @alternative_of_closed (frame.moved lines) _ isOpen]
          exact ⟨rfl, rfl⟩
      | true =>
          cases taken : frame.taken with
          | true =>
              rw [alternative_of_taken outer isOpen taken,
                @alternative_of_taken (frame.moved lines) _ isOpen taken]
              exact ⟨rfl, rfl⟩
          | false =>
              rw [alternative_of_open outer isOpen taken,
                @alternative_of_open (frame.moved lines) _ isOpen taken]
              exact ⟨rfl, rfl⟩

theorem moved_otherwise :
    MovesAlong lines blocks.otherwise (blocks.moved lines).otherwise := by
  cases blocks with
  | nil => exact ⟨rfl, rfl⟩
  | cons frame outer =>
      change MovesAlong lines _ (otherwise (frame.moved lines :: moved lines outer))
      cases isOpen : isOpenConditional frame with
      | false =>
          rw [otherwise_of_closed outer isOpen, @otherwise_of_closed (frame.moved lines) _ isOpen]
          exact ⟨rfl, rfl⟩
      | true =>
          rw [otherwise_of_open outer isOpen, @otherwise_of_open (frame.moved lines) _ isOpen]
          exact ⟨rfl, rfl⟩

theorem moved_end_conditional :
    MovesAlong lines blocks.endConditional (blocks.moved lines).endConditional := by
  cases blocks with
  | nil => exact ⟨rfl, rfl⟩
  | cons frame outer => exact ⟨rfl, rfl⟩

theorem moved_case (values : List Value) :
    MovesAlong lines (blocks.case values) ((blocks.moved lines).case values) := by
  cases blocks with
  | nil => exact ⟨rfl, rfl⟩
  | cons frame outer =>
      change MovesAlong lines _ (case (frame.moved lines :: moved lines outer) values)
      cases kind : frame.kind with
      | conditional branch =>
          rw [case_of_conditional outer kind,
            @case_of_conditional (frame.moved lines) _ _ kind]
          exact ⟨rfl, rfl⟩
      | selection discriminant =>
          rw [case_of_selection outer kind,
            @case_of_selection (frame.moved lines) _ _ kind]
          exact ⟨rfl, rfl⟩

theorem moved_default : MovesAlong lines blocks.default (blocks.moved lines).default := by
  cases blocks with
  | nil => exact ⟨rfl, rfl⟩
  | cons frame outer =>
      change MovesAlong lines _ (default (frame.moved lines :: moved lines outer))
      cases kind : frame.kind with
      | conditional branch =>
          rw [default_of_conditional outer kind,
            @default_of_conditional (frame.moved lines) _ _ kind]
          exact ⟨rfl, rfl⟩
      | selection discriminant =>
          rw [default_of_selection outer kind,
            @default_of_selection (frame.moved lines) _ _ kind]
          exact ⟨rfl, rfl⟩

theorem moved_end_selection :
    MovesAlong lines blocks.endSelection (blocks.moved lines).endSelection := by
  cases blocks with
  | nil => exact ⟨rfl, rfl⟩
  | cons frame outer =>
      change MovesAlong lines _ (endSelection (frame.moved lines :: moved lines outer))
      cases kind : frame.kind with
      | conditional branch =>
          rw [end_selection_of_conditional outer kind,
            @end_selection_of_conditional (frame.moved lines) _ _ kind]
          exact ⟨rfl, rfl⟩
      | selection discriminant =>
          rw [end_selection_of_selection outer kind,
            @end_selection_of_selection (frame.moved lines) _ _ kind]
          exact ⟨rfl, rfl⟩

end Stack

end Block

namespace Loop

def Pass.moved (lines : Nat) (pass : Pass) : Pass :=
  { pass with start := pass.start + lines }

def Frame.moved (lines : Nat) (frame : Frame) : Frame :=
  { openedAt := frame.openedAt + lines, pass := frame.pass.map (Pass.moved lines) }

def Ending.moved (lines : Nat) : Ending → Ending
  | rewind cursor name value => rewind (cursor + lines) name value
  | done => done

namespace Stack

def moved (lines : Nat) (stack : Stack) : Stack :=
  { stack with frames := stack.frames.map (Frame.moved lines) }

variable {lines number start : Nat} {stack : Stack}

theorem is_active_moved (lines : Nat) (stack : Stack) :
    (stack.moved lines).isActive = stack.isActive := by
  simp only [isActive, moved, List.all_map, Function.comp_def, Frame.moved, Frame.isInert,
    Option.isNone_map]

theorem moved_push (clause : Clause) :
    (stack.moved lines).push clause (start + lines) (number + lines) =
      ((stack.push clause start number).1.moved lines,
        (stack.push clause start number).2.map (Pass.moved lines)) := by
  by_cases room : stack.passesStarted < stack.limit
  · rw [push_of_room room, @push_of_room (stack.moved lines) room]
    rfl
  · have spent := Nat.not_lt.mp room
    rw [push_of_spent spent, @push_of_spent (stack.moved lines) spent]
    rfl

theorem moved_finish :
    (stack.moved lines).finish =
      (stack.finish.1.moved lines, stack.finish.2.map (Ending.moved lines)) := by
  have finishes := stack.finishes
  generalize stack.finish = finished at finishes
  have further {frame : Frame} {outer : List Frame} (stands : stack.frames = frame :: outer) :
      (stack.moved lines).frames = frame.moved lines :: outer.map (Frame.moved lines) :=
    congrArg (List.map (Frame.moved lines)) stands
  cases finishes with
  | unmatched empty => exact finish_of_nothing_open (congrArg (List.map _) empty)
  | inert stands => exact finish_of_inert (further stands)
  | last stands last => exact finish_of_last (further stands) last
  | next stands following room => exact finish_of_next (further stands) following room
  | spent stands following spent => exact finish_of_spent (further stands) following spent

end Stack

theorem read_number_names_no_line (number : RangeNumber) (lexeme : Option Line.Lexeme) :
    NamesNoLine (readNumber number lexeme) := by
  unfold readNumber
  split
  · exact fun _ => rfl
  · split
    · trivial
    · trivial
    · exact fun _ => rfl

theorem check_direction_names_no_line (isZero pointsAway : Bool) :
    NamesNoLine (checkDirection isZero pointsAway) := by
  unfold checkDirection
  split
  · exact fun _ => rfl
  · split
    · exact fun _ => rfl
    · trivial

theorem integer_range_names_no_line (start last step : Int) (limit : Nat) :
    NamesNoLine (integerRange start last step limit) :=
  names_no_line_bind (check_direction_names_no_line _ _) fun _ =>
    names_no_line_check (fun _ => rfl) trivial

theorem real_range_names_no_line (start last step : Float) (places limit : Nat) :
    NamesNoLine (realRange start last step places limit) := by
  refine names_no_line_bind (check_direction_names_no_line _ _) fun _ => ?_
  split
  · exact fun _ => rfl
  · exact names_no_line_check (fun _ => rfl) trivial

namespace Range

theorem of_lexemes_names_no_line (lexemes : List Line.Lexeme) : NamesNoLine (ofLexemes lexemes) := by
  refine names_no_line_bind (read_number_names_no_line _ _) fun start => ?_
  refine names_no_line_check (fun _ => rfl) ?_
  refine names_no_line_bind (read_number_names_no_line _ _) fun last => ?_
  simp only
  split
  · split
    · exact fun _ => rfl
    · trivial
  · split
    · refine names_no_line_bind (names_no_line_map some (read_number_names_no_line _ _)) fun step => ?_
      split
      · exact fun _ => rfl
      · trivial
    · exact fun _ => rfl

theorem values_names_no_line (range : Range) (limit : Nat) : NamesNoLine (range.values limit) := by
  unfold values
  split
  · exact integer_range_names_no_line _ _ _ _
  · exact integer_range_names_no_line _ _ _ _
  · exact real_range_names_no_line _ _ _ _ _

end Range

namespace Clause

theorem read_name_names_no_line (lexeme : Option Line.Lexeme) : NamesNoLine (readName lexeme) := by
  unfold readName
  split
  · exact fun _ => rfl
  · split
    · trivial
    · exact fun _ => rfl

theorem read_values_names_no_line (form : Option Line.Lexeme) (rest : List Line.Lexeme)
    (limit : Nat) : NamesNoLine (readValues form rest limit) := by
  unfold readValues listedValues
  split
  · exact fun _ => rfl
  · split
    · simp only
      split
      · exact fun _ => rfl
      · trivial
    · split
      · exact names_no_line_bind (Range.of_lexemes_names_no_line _) fun range =>
          range.values_names_no_line limit
      · exact fun _ => rfl

theorem of_line_names_no_line (line : String) (limit : Nat) : NamesNoLine (ofLine line limit) := by
  refine names_no_line_check (fun _ => rfl) ?_
  refine names_no_line_bind (read_name_names_no_line _) fun name => ?_
  refine names_no_line_bind (read_values_names_no_line _ _ _) fun values => ?_
  exact names_no_line_check (fun _ => rfl) trivial

end Clause

end Loop

namespace Run

/-- Inclusions report lines of included files only. -/
def Setting.TagsIncluded (setting : Setting) : Prop :=
  ∀ inclusion, setting.inclusion = some inclusion →
    ∀ (path text : String) (bindings : Variables) (markers : Markers),
      ∀ diagnostic ∈ (inclusion path text bindings markers).diagnostics, diagnostic.file ≠ none

/-- What a run leaves of the lines in front: how many there are, what they put into the output and
what they reported. -/
structure Preceding where
  lines : Nat
  emitted : Array String
  diagnostics : Array Diagnostic

namespace State

/-- The state as it is behind other lines. -/
def behind (front : Preceding) (state : State) : State :=
  { state with
    blocks := state.blocks.moved front.lines
    loops := state.loops.moved front.lines
    emitted := front.emitted ++ state.emitted
    diagnostics := front.diagnostics ++ state.diagnostics.map (Diagnostic.moved front.lines)
    cursor := state.cursor + front.lines }

/-- What a directive leaves, behind other lines. -/
def leftBehind (front : Preceding) (left : State × Except DirectiveError Unit) :
    State × Except DirectiveError Unit :=
  (left.1.behind front, left.2)

variable {front : Preceding} {setting : Setting} {directive : Directive} {line argument : String}
  {number : Nat} {state after : State} {error : DirectiveError}

theorem is_active_behind (front : Preceding) (state : State) :
    (state.behind front).isActive = state.isActive := by
  rw [isActive, isActive]
  exact congrArg₂ (· && ·) (Block.Stack.is_active_moved _ _) (Loop.Stack.is_active_moved _ _)

theorem condition_behind (front : Preceding) (state : State) (directive : Directive)
    (line : String) :
    (state.behind front).condition directive line = state.condition directive line := by
  have running : (state.behind front).loops.isActive = state.loops.isActive :=
    Loop.Stack.is_active_moved _ _
  funext asked
  simp only [condition, running]
  simp only [holds, evaluate, behind]

theorem discriminant_behind (front : Preceding) (state : State) (line : String) :
    (state.behind front).discriminant line = state.discriminant line := by
  have running : (state.behind front).loops.isActive = state.loops.isActive :=
    Loop.Stack.is_active_moved _ _
  funext asked
  simp only [discriminant, running]
  rfl

theorem with_blocks_behind {Answer : Type}
    {changed further : Block.Stack × Except DirectiveError Answer}
    (moves : Block.Stack.MovesAlong front.lines changed further) :
    (state.behind front).withBlocks further = leftBehind front (state.withBlocks changed) :=
  Prod.ext (congrArg (fun blocks => { state.behind front with blocks }) moves.blocks) moves.answer

theorem assign_behind (front : Preceding) (state : State) (argument : String) :
    (state.behind front).assign argument = leftBehind front (state.assign argument) := by
  have same : (state.behind front).assignment argument = state.assignment argument := by
    simp only [assignment, evaluate, behind]
  rw [assign, assign, same]
  cases state.assignment argument <;> rfl

theorem insert_behind {outcome : Outcome}
    (tagged : ∀ diagnostic ∈ outcome.diagnostics, diagnostic.file ≠ none) :
    (state.behind front).insert outcome = (state.insert outcome).behind front := by
  have kept : outcome.diagnostics.map (Diagnostic.moved front.lines) = outcome.diagnostics := by
    conv_rhs => rw [← Array.map_id outcome.diagnostics]
    exact Array.map_congr_left fun diagnostic member =>
      Diagnostic.moved_of_included (tagged diagnostic member) front.lines
  simp only [insert, behind, Array.push_append, Array.map_append, kept, Array.append_assoc]

/-- The outcome of an inclusion is that of a run over the included file. -/
theorem tagged_of_included {outcome : Outcome} (tags : setting.TagsIncluded)
    (included : setting.includeFile state argument = .ok outcome) :
    ∀ diagnostic ∈ outcome.diagnostics, diagnostic.file ≠ none := by
  unfold Setting.includeFile at included
  simp only at included
  split at included
  · cases included
  · split at included
    · cases included
    · split at included
      · cases included
      · next inclusion ready =>
          split at included
          · cases included
          · obtain rfl := Except.ok.inj included
            exact tags inclusion ready _ _ _ _

theorem include_file_behind (tags : setting.TagsIncluded) (argument : String) :
    (state.behind front).includeFile setting argument =
      leftBehind front (state.includeFile setting argument) := by
  have same : setting.includeFile (state.behind front) argument =
      setting.includeFile state argument := rfl
  rw [includeFile, includeFile, same]
  cases included : setting.includeFile state argument with
  | error error => rfl
  | ok outcome => exact Prod.ext (insert_behind (tagged_of_included tags included)) rfl

theorem open_loop_behind (front : Preceding) (state : State) (line : String) (number : Nat) :
    (state.behind front).openLoop line (number + front.lines) =
      leftBehind front (state.openLoop line number) := by
  have limit : (state.behind front).loops.limit = state.loops.limit := rfl
  rw [openLoop, openLoop, is_active_behind, limit]
  cases state.isActive with
  | false => rfl
  | true =>
      cases Loop.Clause.ofLine line state.loops.limit with
      | error error => rfl
      | ok clause =>
          have pushed := @Loop.Stack.moved_push front.lines number state.cursor state.loops clause
          change (state.behind front).loops.push clause (state.behind front).cursor
            (number + front.lines) = _ at pushed
          simp only [if_true, pushed]
          rcases state.loops.push clause state.cursor number with ⟨loops, error | pass⟩ <;> rfl

theorem finish_loop_behind (front : Preceding) (state : State) :
    (state.behind front).finishLoop = leftBehind front state.finishLoop := by
  have finished : (state.behind front).loops.finish = _ :=
    @Loop.Stack.moved_finish front.lines state.loops
  rw [finishLoop, finishLoop, finished]
  rcases state.loops.finish with ⟨loops, error | ⟨cursor, name, value⟩ | _⟩ <;> rfl

theorem perform_behind (tags : setting.TagsIncluded) (directive : Directive) (line : String)
    (number : Nat) (state : State) :
    perform setting directive line (number + front.lines) (state.behind front) =
      leftBehind front (perform setting directive line number state) := by
  cases directive with
  | onlyIf =>
      simp only [perform, condition_behind]
      exact with_blocks_behind (Block.Stack.moved_open_conditional _)
  | elseIf =>
      simp only [perform, condition_behind]
      exact with_blocks_behind (Block.Stack.moved_alternative _)
  | otherwise => exact with_blocks_behind Block.Stack.moved_otherwise
  | endIf => exact with_blocks_behind Block.Stack.moved_end_conditional
  | switch =>
      simp only [perform, discriminant_behind]
      exact with_blocks_behind (Block.Stack.moved_open_selection _)
  | case => exact with_blocks_behind (Block.Stack.moved_case _)
  | default => exact with_blocks_behind Block.Stack.moved_default
  | endSwitch => exact with_blocks_behind Block.Stack.moved_end_selection
  | set =>
      simp only [perform, is_active_behind]
      split
      · exact assign_behind front state _
      · rfl
  | insertFile =>
      simp only [perform, is_active_behind]
      split
      · exact include_file_behind tags _
      · rfl
  | loop => exact open_loop_behind front state line number
  | endLoop => exact finish_loop_behind front state

theorem evaluate_names_no_line (state : State) (directive : Directive) (text : String) :
    NamesNoLine (state.evaluate directive text) := by
  unfold evaluate
  split
  · trivial
  · exact fun _ => rfl

theorem holds_names_no_line (state : State) (directive : Directive) (text : String) :
    NamesNoLine (state.holds directive text) := by
  unfold holds
  split
  · exact fun _ => rfl
  · split
    · trivial
    · exact names_no_line_map _ (evaluate_names_no_line _ _ _)

theorem assignment_names_no_line (state : State) (text : String) :
    NamesNoLine (state.assignment text) := by
  unfold assignment
  split
  · exact fun _ => rfl
  · simp only
    split
    · exact fun _ => rfl
    · split
      · exact fun _ => rfl
      · exact names_no_line_map _ (evaluate_names_no_line _ _ _)

theorem include_file_names_no_line (setting : Setting) (state : State) (argument : String) :
    NamesNoLine (setting.includeFile state argument) := by
  unfold Setting.includeFile
  simp only
  split
  · exact fun _ => rfl
  · split
    · exact fun _ => rfl
    · split
      · exact fun _ => rfl
      · split
        · exact fun _ => rfl
        · trivial

/-- No directive fails with an error that names a line: that is for the end of the text. -/
theorem perform_names_no_line (setting : Setting) (directive : Directive) (line : String)
    (number : Nat) (state : State) :
    NamesNoLine (perform setting directive line number state).2 := by
  cases left : perform setting directive line number state with
  | mk after result =>
      cases result with
      | ok => trivial
      | error error =>
          have failure := failure_of_failed left
          generalize after.blocks = blocks, after.loops = loops at failure
          cases failure with
          | unmatched | selection | firstPass | furtherPass => exact fun _ => rfl
          | assignment _ refused => exact moved_of_failed (assignment_names_no_line _ _) refused
          | inclusion _ refused => exact moved_of_failed (include_file_names_no_line _ _ _) refused
          | condition _ refused | alternative _ _ refused =>
              exact moved_of_failed (holds_names_no_line _ _ _) refused
          | clause _ refused => exact moved_of_failed (Loop.Clause.of_line_names_no_line _ _) refused

theorem settle_behind {result : Except DirectiveError Unit} (own : setting.file = none)
    (placeless : NamesNoLine result) (number : Nat) (state : State) :
    (state.behind front).settle setting (number + front.lines) result =
      (state.settle setting number result).behind front := by
  cases result with
  | ok => rfl
  | error error =>
      simp only [settle, record, behind, own, Array.map_push, Array.append_push, Diagnostic.moved,
        placeless front.lines]

theorem emit_behind (front : Preceding) (state : State) (text : String) :
    (state.behind front).emit text = (state.emit text).behind front := by
  simp only [emit, behind, Array.push_append]

/-- A line does the same behind other lines. -/
theorem step_behind (own : setting.file = none) (tags : setting.TagsIncluded) (front : Preceding)
    (line : String) (state : State) :
    (state.behind front).step setting line = (state.step setting line).behind front := by
  have number : (state.behind front).cursor + 1 = state.cursor + 1 + front.lines :=
    Nat.add_right_comm state.cursor front.lines 1
  have advanced : (state.behind front).advance = state.advance.behind front :=
    congrArg (fun cursor => { state.behind front with cursor }) number
  cases spelled : Directive.ofLine? line with
  | none =>
      simp only [step, spelled, advanced, is_active_behind]
      split
      · exact emit_behind front state.advance _
      · rfl
  | some directive =>
      rw [step_of_spelled spelled, step_of_spelled spelled, number, advanced, perform_behind tags]
      exact settle_behind own (perform_names_no_line _ _ _ _ _) _ _

end State

end Run

end LineTemplate

import LineTemplate.Proofs.Block.Suppression
import LineTemplate.Proofs.Run.Visits

/-!
Suppressed lines. As long as a dead branch or an inert loop encloses the next line, in whatever way
the lines are nested, a line that does not end a loop changes no more than the blocks and loops. It
asks for no file and for no condition, with one exception: a further condition of the innermost
block, if that block is all that is dead. Such a line, or one without the block that it belongs to,
may be reported.
-/

namespace LineTemplate

namespace Run

/-- The line is a further condition of the innermost block, which may still have a branch taken and
stands on live blocks, in loops that all run. -/
structure State.Awaits (state : State) (line : String) : Prop where
  spelled : Directive.ofLine? line = some .elseIf
  running : state.loops.isActive = true
  stands : ∃ frame outer, state.blocks = frame :: outer ∧
    Block.Stack.isOpenConditional frame = true ∧ frame.taken = false ∧
    Block.Stack.isActive outer = true

namespace State

variable {setting : Setting} {directive : Directive} {line : String} {number : Nat}
  {state : State} {error : DirectiveError} {blocks : Block.Stack} {loops : Loop.Stack}

section Asking

variable {Effect : Type → Type} [Applicative Effect]

/-- The effect of a directive whose condition is had in this way. In a suppressed loop it is false and
not looked at. -/
def performAsking (setting : Setting) (condition : Effect (Except DirectiveError Bool))
    (directive : Directive) (line : String) (number : Nat) (state : State) :
    Effect (State × Except DirectiveError Unit) :=
  let question := if state.loops.isActive then condition else pure (.ok false)
  match directive with
  | .onlyIf => state.blocks.askConditional number question <&> state.withBlocks
  | .elseIf => state.blocks.askAlternative question <&> state.withBlocks
  | other => pure (perform setting other line number state)

/-- Handles the line if its condition is had in this way. -/
def stepAsking (setting : Setting) (condition : Effect (Except DirectiveError Bool)) (line : String)
    (state : State) : Effect State :=
  match Directive.ofLine? line with
  | none => pure (state.step setting line)
  | some directive =>
      let number := state.cursor + 1
      performAsking setting condition directive line number state.advance <&> fun performed =>
        performed.1.settle setting number performed.2

end Asking

theorem holds_advance (text : String) :
    state.advance.holds directive text = state.holds directive text := by
  simp only [holds, evaluate, advance]

/-- Where the condition is a function that is called when it is asked for, a directive has its own
effect. -/
theorem perform_asking_holds :
    @performAsking (ReaderM Unit) _ setting (fun _ => state.holds directive (Line.argument line))
      directive line number state () = perform setting directive line number state := by
  have question : (if state.loops.isActive then fun _ => state.holds directive (Line.argument line)
      else pure (.ok false) : ReaderM Unit _) = state.condition directive line := by
    funext asked
    rw [condition]
    split <;> rfl
  cases directive <;> (simp only [performAsking, question]; rfl)

theorem step_asking_holds (spelled : Directive.ofLine? line = some directive) :
    @stepAsking (ReaderM Unit) _ setting (fun _ => state.holds directive (Line.argument line)) line
      state () = state.step setting line := by
  rw [step_of_spelled spelled, ← perform_asking_holds, holds_advance, stepAsking, spelled]
  rfl

theorem condition_of_inert (inert : state.loops.isActive = false) (directive : Directive) :
    state.condition directive line = fun _ => .ok false := by
  funext asked
  simp only [condition, inert, Bool.false_eq_true, if_false]

section Inactive

variable (inactive : state.isActive = false)

include inactive

theorem untouched_of_inactive (further : directive ≠ .endLoop) :
    Untouched state (perform setting directive line number state).1 := by
  cases directive with
  | set | insertFile =>
      simp only [perform, inactive, Bool.false_eq_true, if_false]
      exact untouched_refl state
  | loop =>
      simp only [perform, openLoop, inactive, Bool.false_eq_true, if_false]
      exact untouched_with_loops state _
  | endLoop => exact absurd rfl further
  | onlyIf | elseIf | otherwise | endIf | switch | case | default | endSwitch =>
      exact untouched_with_blocks state _

theorem perform_of_files (files : Files) (inclusion : Option Inclusion) :
    perform { setting with files, inclusion } directive line number state =
      perform setting directive line number state := by
  cases directive with
  | insertFile => simp only [perform, inactive, Bool.false_eq_true, if_false]
  | _ => rfl

/-- Without a block that consults its condition, a directive does not ask for it. -/
theorem perform_asking_of_idle {Effect : Type → Type} [Applicative Effect] [LawfulApplicative Effect]
    (condition : Effect (Except DirectiveError Bool))
    (idle : directive = .elseIf → state.loops.isActive = true →
      state.blocks.consults .elseIf = false) :
    performAsking setting condition directive line number state =
      pure (perform setting directive line number state) := by
  -- An inert loop answers for the condition; otherwise the state is inactive because of a dead block.
  cases running : state.loops.isActive with
  | false =>
      have skipped (asked : Directive) : state.condition asked line = fun _ => .ok false :=
        condition_of_inert running asked
      cases directive with
      | onlyIf =>
          simp only [performAsking, perform, skipped, running, Bool.false_eq_true, if_false,
            Block.Stack.ask_conditional_eq, Functor.mapRev, map_pure, ite_self]
      | elseIf =>
          simp only [performAsking, perform, skipped, running, Bool.false_eq_true, if_false,
            Block.Stack.ask_alternative_eq, Functor.mapRev, map_pure, ite_self]
      | _ => rfl
  | true =>
      cases directive with
      | onlyIf =>
          have dead : state.blocks.isActive = false := by simpa [isActive, running] using inactive
          simp only [performAsking, perform]
          rw [Block.Stack.ask_conditional_eq, Block.Stack.consults, dead, if_neg Bool.false_ne_true,
            state.blocks.open_conditional_of_not_consults number (state.condition .onlyIf line) _ dead]
          exact map_pure _ _
      | elseIf =>
          simp only [performAsking, perform]
          rw [Block.Stack.ask_alternative_eq, idle rfl running, if_neg Bool.false_ne_true,
            state.blocks.alternative_of_not_consults (state.condition .elseIf line) _
              (idle rfl running)]
          exact map_pure _ _
      | _ => rfl

/-- Of the ways to fail only two are left. -/
theorem failure_of_inactive (further : directive ≠ .endLoop)
    (failure : Failure setting line number state directive error blocks loops) :
    (∃ opener, error = .unmatched directive opener) ∨
      directive = .elseIf ∧ state.blocks.consults .elseIf = true ∧
        state.loops.isActive = true ∧ state.holds .elseIf (Line.argument line) = .error error := by
  cases failure with
  | unmatched _ opener => exact Or.inl ⟨opener, rfl⟩
  | alternative asks running refused => exact Or.inr ⟨rfl, asks, running, refused⟩
  | furtherPass => exact absurd rfl further
  | assignment active | inclusion active | condition active | selection active | clause active
  | firstPass active =>
      rw [inactive] at active
      cases active

end Inactive

theorem suppresses_perform (suppresses : state.blocks.Suppresses) :
    (perform setting directive line number state).1.blocks.Suppresses := by
  cases directive with
  | onlyIf =>
      exact Block.suppresses_apply suppresses
        (.openConditional number (state.condition .onlyIf line))
  | elseIf => exact Block.suppresses_apply suppresses (.alternative (state.condition .elseIf line))
  | otherwise => exact Block.suppresses_apply suppresses .otherwise
  | endIf => exact Block.suppresses_apply suppresses .endConditional
  | switch =>
      exact Block.suppresses_apply suppresses (.openSelection number (state.discriminant line))
  | case =>
      exact Block.suppresses_apply suppresses (.case ((Line.words line).tail.map Value.infer))
  | default => exact Block.suppresses_apply suppresses .default
  | endSwitch => exact Block.suppresses_apply suppresses .endSelection
  | set =>
      simp only [perform, assign]
      split
      · split <;> exact suppresses
      · exact suppresses
  | insertFile =>
      simp only [perform, includeFile]
      split
      · split <;> exact suppresses
      · exact suppresses
  | loop =>
      simp only [perform, openLoop]
      split
      · split
        · exact suppresses
        · split <;> exact suppresses
      · exact suppresses
  | endLoop =>
      simp only [perform, finishLoop]
      split <;> exact suppresses

theorem suppresses_step (suppresses : state.blocks.Suppresses) :
    (state.step setting line).blocks.Suppresses := by
  cases spelled : Directive.ofLine? line with
  | none =>
      simp only [step, spelled]
      split <;> exact suppresses
  | some directive =>
      have performed : (perform setting directive line (state.cursor + 1)
          state.advance).1.blocks.Suppresses := suppresses_perform suppresses
      rw [step_of_spelled spelled]
      simp only [settle]
      split <;> exact performed

/-- A condition that is asked for has live blocks around its own. -/
theorem awaits_of_consults (suppresses : state.blocks.Suppresses)
    (spelled : Directive.ofLine? line = some .elseIf) (running : state.loops.isActive = true)
    (asks : state.blocks.consults .elseIf = true) : state.Awaits line := by
  cases stands : state.blocks with
  | nil =>
      rw [stands] at asks
      cases asks
  | cons frame outer =>
      rw [stands] at suppresses asks
      exact ⟨spelled, running, frame, outer, stands, suppresses.active_of_consults asks⟩

/-- The same but for the blocks, the loops and the diagnostics. -/
structure Unaffected (before after : State) : Prop extends SameScope before after where
  emitted : after.emitted = before.emitted
  cursor : after.cursor = before.cursor

theorem unaffected_of_settle {before : State} (same : Untouched before state)
    (result : Except DirectiveError Unit) :
    Unaffected before (state.settle setting number result) := by
  cases result <;>
    exact ⟨⟨same.bindings, same.pattern, same.markers⟩, same.emitted, same.cursor⟩

/-- The line moves the cursor on and changes the blocks and loops at most. It asks for no file, and for
a condition only if one is awaited, and is reported only if it is out of place or that condition
fails. -/
structure Ignores (setting : Setting) (line : String) (state : State) : Prop where
  unaffected : Unaffected state.advance (state.step setting line)
  files (files : Files) (inclusion : Option Inclusion) :
    state.step { setting with files, inclusion } line = state.step setting line
  conditions {Effect : Type → Type} [Applicative Effect] [LawfulApplicative Effect]
    (condition : Effect (Except DirectiveError Bool)) (settled : ¬state.Awaits line) :
    state.stepAsking setting condition line = pure (state.step setting line)
  diagnostics :
    (state.step setting line).diagnostics = state.diagnostics ∨
      ∃ error,
        (state.step setting line).diagnostics =
            state.diagnostics.push { file := setting.file, line := state.cursor + 1, error } ∧
          ((∃ directive opener,
              Directive.ofLine? line = some directive ∧ error = .unmatched directive opener) ∨
            state.Awaits line ∧ state.holds .elseIf (Line.argument line) = .error error)

theorem ignores_content (inactive : state.isActive = false)
    (plain : Directive.ofLine? line = none) : state.Ignores setting line := by
  have passed (setting : Setting) : state.step setting line = state.advance := by
    have moved : state.advance.isActive = false := inactive
    simp only [step, plain, moved, Bool.false_eq_true, if_false]
  constructor
  case unaffected =>
    rw [passed]
    exact ⟨⟨rfl, rfl, rfl⟩, rfl, rfl⟩
  case files =>
    intro files inclusion
    rw [passed, passed]
  case conditions =>
    intro Effect _ _ condition _
    rw [stepAsking, plain]
  case diagnostics =>
    rw [passed]
    exact Or.inl rfl

theorem ignores_directive (suppresses : state.blocks.Suppresses) (inactive : state.isActive = false)
    (spelled : Directive.ofLine? line = some directive) (further : directive ≠ .endLoop) :
    state.Ignores setting line := by
  have moved : state.advance.isActive = false := inactive
  have same : Untouched state.advance
      (perform setting directive line (state.cursor + 1) state.advance).1 :=
    untouched_of_inactive moved further
  constructor
  case unaffected =>
    rw [step_of_spelled spelled]
    exact unaffected_of_settle same _
  case files =>
    intro files inclusion
    rw [step_of_spelled spelled, step_of_spelled spelled, perform_of_files moved]
    rfl
  case conditions =>
    intro Effect _ _ condition settled
    have idle : directive = .elseIf → state.advance.loops.isActive = true →
        state.advance.blocks.consults .elseIf = false := by
      rintro rfl running
      cases asks : state.blocks.consults .elseIf with
      | false => exact asks
      | true => exact absurd (awaits_of_consults suppresses spelled running asks) settled
    rw [step_of_spelled spelled, stepAsking, spelled]
    simp only [perform_asking_of_idle moved condition idle]
    exact map_pure _ _
  case diagnostics =>
    rw [step_of_spelled spelled]
    cases performed : perform setting directive line (state.cursor + 1) state.advance with
    | mk after result =>
        rw [performed] at same
        have recorded : after.diagnostics = state.diagnostics := same.diagnostics
        cases result with
        | ok done => exact Or.inl recorded
        | error error =>
            refine Or.inr ⟨error, by rw [← recorded]; rfl, ?_⟩
            rcases failure_of_inactive moved further (failure_of_failed performed) with
              ⟨opener, unmatched⟩ | ⟨rfl, asks, running, refused⟩
            · exact Or.inl ⟨directive, opener, spelled, unmatched⟩
            · rw [holds_advance] at refused
              exact Or.inr ⟨awaits_of_consults suppresses spelled running asks, refused⟩

end State

end Run

namespace Job

open Run

variable {job : Job} {visit : Visit} {line : String}

theorem suppresses_of_visits (visited : job.Visits visit) : visit.state.blocks.Suppresses := by
  induction visited with
  | start => exact .empty
  | handle _ _ ih =>
      simp only [handle]
      exact State.suppresses_step ih
  | enter => exact .empty

/-- In every state on the way that is not active, a line that does not end a loop is ignored. -/
theorem inactive_line_is_ignored (visited : job.Visits visit)
    (inactive : visit.state.isActive = false) (further : Directive.ofLine? line ≠ some .endLoop) :
    visit.state.Ignores (job.setting visit) line := by
  cases spelled : Directive.ofLine? line with
  | none => exact State.ignores_content inactive spelled
  | some directive =>
      refine State.ignores_directive (suppresses_of_visits visited) inactive spelled ?_
      rintro rfl
      exact further spelled

/-- A loop that is opened in a dead branch and still open when the block is closed. -/
def misnestedJob : Job :=
  { options := Options.default
    files := fun _ => .unreadable .notFound
    bindings := NameMap.empty
    substitution := .fromVariables
    text := "#IF 0\n#FOR i IN 1 2\n#ENDIF\n#IF 1 / 0\n#ENDIF\n#ENDFOR" }

/-- Behind the block the loop alone suppresses a condition that would fail. In the block the further
condition is awaited, and fails. -/
theorem inactive_line_is_ignored_misnested :
    let job := misnestedJob
    let inBlock := job.handle job.start "#IF 0"
    let inLoop := job.handle (job.handle inBlock "#FOR i IN 1 2") "#ENDIF"
    job.Visits inLoop ∧ inLoop.state.blocks = [] ∧ inLoop.state.isActive = false ∧
      inLoop.state.Ignores (job.setting inLoop) "#IF 1 / 0" ∧
      (inLoop.state.step (job.setting inLoop) "#IF 1 / 0").diagnostics = #[] ∧
      inBlock.state.Ignores (job.setting inBlock) "#ELSEIF 1 / 0" ∧
      (inBlock.state.step (job.setting inBlock) "#ELSEIF 1 / 0").diagnostics =
        #[⟨none, 2, .evaluation .elseIf (.arithmetic .divisionByZero)⟩] := by
  intro job inBlock inLoop
  have opened : job.Visits inBlock := Visits.start.handle (by decide +kernel)
  have visited : job.Visits inLoop :=
    (opened.handle (by decide +kernel)).handle (by decide +kernel)
  have inert : inLoop.state.isActive = false := by decide +kernel
  exact ⟨visited, by decide +kernel, inert,
    inactive_line_is_ignored visited inert (by decide +kernel), by decide +kernel,
    inactive_line_is_ignored opened (by decide +kernel) (by decide +kernel), by decide +kernel⟩

end Job

end LineTemplate

import LineTemplate.Proofs.Markers
import LineTemplate.Proofs.Run.Binding
import LineTemplate.Proofs.Run.Termination

/-!
The matcher that is kept with the markers cannot be seen from outside. Runs that start alike but for
the matcher stay alike, line by line and through the files they include, and have the same outcome.
-/

namespace LineTemplate

theorem Markers.bind_unsearched (markers : Markers) (name : String) (value : Value) :
    (markers.bind name value).unsearched = (markers.unsearched.bind name value).unsearched := by
  unfold bind unsearched
  split <;> rfl

namespace Run

/-- Inclusions do not depend on whether lines were searched before. -/
def Setting.IgnoresCache (setting : Setting) : Prop :=
  ∀ inclusion, setting.inclusion = some inclusion →
    ∀ (path text : String) (bindings : Variables) (markers : Markers), markers.Coherent →
      inclusion path text bindings markers = inclusion path text bindings markers.unsearched

namespace State

def unsearched (state : State) : State :=
  { state with markers := state.markers.unsearched }

variable {setting : Setting} {line argument : String} {number : Nat} {state first second : State}

theorem unsearched_bind (state : State) (name : String) (value : Value) :
    (state.bind name value).unsearched = (state.unsearched.bind name value).unsearched :=
  congrArg (fun markers => { state.bind name value with markers })
    (Markers.bind_unsearched state.markers name value)

/-- What a directive leaves, without the matcher. -/
def forget (left : State × Except DirectiveError Unit) : State × Except DirectiveError Unit :=
  (left.1.unsearched, left.2)

theorem forget_assign (state : State) (argument : String) :
    forget (state.assign argument) = forget (state.unsearched.assign argument) := by
  have same : state.unsearched.assignment argument = state.assignment argument := by
    simp only [assignment, evaluate, unsearched]
  rw [assign, assign, same]
  cases state.assignment argument with
  | error error => rfl
  | ok found => exact Prod.ext (unsearched_bind state found.1 found.2) rfl

theorem forget_include_file (ignores : setting.IgnoresCache) (coherent : state.markers.Coherent)
    (argument : String) :
    forget (state.includeFile setting argument) =
      forget (state.unsearched.includeFile setting argument) := by
  have same : setting.includeFile state.unsearched argument =
      setting.includeFile state argument := by
    simp only [Setting.includeFile]
    cases ready : setting.inclusion with
    | none => rfl
    | some inclusion =>
        simp only [ignores inclusion ready _ _ state.bindings state.markers coherent]
        rfl
  rw [includeFile, includeFile, same]
  cases setting.includeFile state argument <;> rfl

theorem forget_open_loop (state : State) (line : String) (number : Nat) :
    forget (state.openLoop line number) = forget (state.unsearched.openLoop line number) := by
  have active : state.unsearched.isActive = state.isActive := rfl
  have loops : state.unsearched.loops = state.loops := rfl
  have cursor : state.unsearched.cursor = state.cursor := rfl
  rw [openLoop, openLoop, active, loops, cursor]
  cases state.isActive with
  | false => rfl
  | true =>
      cases Loop.Clause.ofLine line state.loops.limit with
      | error error => rfl
      | ok clause =>
          simp only [if_true]
          rcases state.loops.push clause state.cursor number with ⟨after, error | pass⟩
          · rfl
          · exact Prod.ext (unsearched_bind (state.withLoops after) _ _) rfl

theorem forget_finish_loop (state : State) :
    forget state.finishLoop = forget state.unsearched.finishLoop := by
  have loops : state.unsearched.loops = state.loops := rfl
  rw [finishLoop, finishLoop, loops]
  rcases state.loops.finish with ⟨after, error | ⟨cursor, name, value⟩ | _⟩
  · rfl
  · exact Prod.ext (congrArg (fun bound : State => { bound with cursor })
      (unsearched_bind (state.withLoops after) name value)) rfl
  · rfl

theorem condition_unsearched (state : State) (directive : Directive) (line : String) :
    state.unsearched.condition directive line = state.condition directive line := by
  funext asked
  simp only [condition, holds, evaluate, unsearched]
  rfl

theorem discriminant_unsearched (state : State) (line : String) :
    state.unsearched.discriminant line = state.discriminant line := by
  funext asked
  simp only [discriminant, unsearched]
  rfl

theorem forget_with_blocks {Answer : Type} (state : State)
    (changed : Block.Stack × Except DirectiveError Answer) :
    forget (state.withBlocks changed) = forget (state.unsearched.withBlocks changed) :=
  rfl

theorem forget_perform (ignores : setting.IgnoresCache) (coherent : state.markers.Coherent)
    (directive : Directive) (line : String) (number : Nat) :
    forget (perform setting directive line number state) =
      forget (perform setting directive line number state.unsearched) := by
  cases directive with
  | set =>
      simp only [perform]
      change forget (if state.isActive then _ else _) = forget (if state.isActive then _ else _)
      split
      · exact forget_assign state _
      · rfl
  | insertFile =>
      simp only [perform]
      change forget (if state.isActive then _ else _) = forget (if state.isActive then _ else _)
      split
      · exact forget_include_file ignores coherent _
      · rfl
  | loop => exact forget_open_loop state line number
  | endLoop => exact forget_finish_loop state
  | onlyIf | elseIf =>
      simp only [perform, condition_unsearched]
      exact forget_with_blocks state _
  | switch =>
      simp only [perform, discriminant_unsearched]
      exact forget_with_blocks state _
  | otherwise | endIf | case | default | endSwitch => exact forget_with_blocks state _

theorem unsearched_settle (number : Nat) (left : State × Except DirectiveError Unit) :
    (left.1.settle setting number left.2).unsearched =
      (forget left).1.settle setting number (forget left).2 := by
  obtain ⟨state, result⟩ := left
  cases result with
  | ok => rfl
  | error error => simp only [forget, settle, record, unsearched]

theorem content_unsearched (coherent : state.markers.Coherent) (line : String) :
    setting.content state.unsearched.markers line = setting.content state.markers line := by
  have same : state.unsearched.markers.apply line = state.markers.apply line :=
    (Markers.apply_of_coherent coherent line).symm
  simp only [Setting.content, same]

theorem unsearched_emit (state : State) (text : String) :
    (state.emit text).unsearched = (state.unsearched.emit text).unsearched := by
  have same : state.markers.searched.unsearched = state.markers.unsearched.searched.unsearched := by
    rw [Markers.unsearched_searched, Markers.unsearched_searched]
    rfl
  exact congrArg (fun markers => { state.emit text with markers }) same

/-- A line does the same whether lines were searched before or not. -/
theorem unsearched_step (ignores : setting.IgnoresCache) (coherent : state.markers.Coherent)
    (line : String) :
    (state.step setting line).unsearched = (state.unsearched.step setting line).unsearched := by
  have moved : state.unsearched.advance = state.advance.unsearched := rfl
  have active : state.advance.unsearched.isActive = state.advance.isActive := rfl
  have cursor : state.unsearched.cursor = state.cursor := rfl
  have same : state.advance.markers.Coherent := coherent
  cases spelled : Directive.ofLine? line with
  | none =>
      simp only [step, spelled, moved, active, content_unsearched same]
      split
      · exact unsearched_emit state.advance _
      · rfl
  | some directive =>
      rw [step_of_spelled spelled, step_of_spelled spelled, cursor, moved]
      simp only [unsearched_settle]
      rw [forget_perform ignores same]

theorem coherent_step (coherent : state.markers.Coherent) (setting : Setting) (line : String) :
    (state.step setting line).markers.Coherent := by
  rcases scope_of_step setting line state with binds | ⟨_, searches⟩
  · rw [binds.markers]
    cases state.bound? line with
    | none => exact coherent
    | some entry => exact Markers.coherent_bind coherent entry.1 entry.2
  · rw [searches.markers]
    exact Markers.coherent_searched coherent

/-- States that differ in the matcher alone, if at all. -/
structure Alike (first second : State) : Prop where
  firstCoherent : first.markers.Coherent
  secondCoherent : second.markers.Coherent
  same : first.unsearched = second.unsearched

theorem Alike.cursor (alike : Alike first second) : first.cursor = second.cursor := by
  have same : first.unsearched.cursor = second.unsearched.cursor := by rw [alike.same]
  exact same

theorem alike_step (ignores : setting.IgnoresCache) (alike : Alike first second) (line : String) :
    Alike (first.step setting line) (second.step setting line) := by
  refine ⟨coherent_step alike.firstCoherent setting line,
    coherent_step alike.secondCoherent setting line, ?_⟩
  rw [unsearched_step ignores alike.firstCoherent, unsearched_step ignores alike.secondCoherent,
    alike.same]

theorem alike_over_lines (ignores : setting.IgnoresCache) (lines : Array String)
    (alike : Alike first second) :
    Alike (first.overLines setting lines) (second.overLines setting lines) := by
  fun_induction State.overLines setting lines first generalizing second with
  | case1 first inside ih =>
      have here : lines[second.cursor]? = some lines[first.cursor] := by
        rw [← alike.cursor]
        exact Array.getElem?_eq_getElem inside
      rw [over_lines_of_line here]
      exact ih (alike_step ignores alike lines[first.cursor])
  | case2 first outside =>
      rw [alike.cursor] at outside
      rw [over_lines_of_outside (Nat.not_lt.mp outside)]
      exact alike

theorem unsearched_close (setting : Setting) (state : State) :
    (state.close setting).unsearched = state.unsearched.close setting := by
  have openings : state.unsearched.openings = state.openings := rfl
  rw [close, close, openings]
  generalize state.openings = left
  clear openings
  induction left generalizing state with
  | nil => rfl
  | cons opening rest ih =>
      rw [List.foldl_cons, List.foldl_cons]
      exact ih (state.record _)

theorem outcome_of_alike (setting : Setting) (alike : Alike first second) :
    setting.outcome (first.close setting) = setting.outcome (second.close setting) := by
  have closed : (first.close setting).unsearched = (second.close setting).unsearched := by
    rw [unsearched_close, unsearched_close, alike.same]
  have same : setting.outcome (first.close setting).unsearched =
      setting.outcome (second.close setting).unsearched := by rw [closed]
  exact same

end State

/-- Tables that differ in the matcher alone lead to the same outcome. -/
theorem Setting.outcome_of_unsearched {setting : Setting} {first second : Markers}
    (ignores : setting.IgnoresCache) (firstCoherent : first.Coherent)
    (secondCoherent : second.Coherent) (same : first.unsearched = second.unsearched)
    (bindings : Variables) (text : String) :
    setting.outcome (setting.overText bindings first text) =
      setting.outcome (setting.overText bindings second text) := by
  apply State.outcome_of_alike
  apply State.alike_over_lines ignores
  refine ⟨firstCoherent, secondCoherent, ?_⟩
  simp only [State.unsearched, State.start, same]

theorem inclusion_ignores_cache (options : Options) (files : Files) (file : Option String)
    (levels : Nat) :
    Setting.IgnoresCache
      { options, files, file, inclusion := inclusionWithin options files levels } := by
  induction levels generalizing file with
  | zero =>
      intro inclusion none
      cases none
  | succ levels ih =>
      intro inclusion ready path text bindings markers coherent
      obtain rfl := Option.some.inj ready
      have fresh : markers.unsearched.Coherent := Markers.coherent_of_unsearched rfl
      exact Setting.outcome_of_unsearched (ih (some path)) coherent fresh rfl bindings text

theorem at_depth_ignores_cache (options : Options) (files : Files) (depth : Nat)
    (file : Option String) : (Setting.atDepth options files depth file).IgnoresCache :=
  inclusion_ignores_cache options files file _

end Run

end LineTemplate

import LineTemplate.Proofs.Markers
import LineTemplate.Proofs.Run.Visits

/-!
What a run derives from its variables is never out of date. In every state that a preprocessor passes
through, in included files too, the pattern of names is the one of the present variables, the matcher
that is kept is the one of the present markers, and the markers are what the substitution and the
bindings so far make of them.
-/

namespace LineTemplate

/-- What the markers hold once names were bound: nothing, the variables as they are now, or the given
items overwritten by the bindings in order. -/
def Substitution.Fills (substitution : Substitution) (bindings : Variables)
    (bound : List (String × Value)) (markers : Markers) : Prop :=
  match substitution with
  | .off => markers = Markers.disabled
  | .fromVariables => markers.Shows bindings
  | .table items => markers.Shows (items.insertAll bound)

namespace Substitution

variable {substitution : Substitution} {bindings : Variables} {bound : List (String × Value)}
  {markers : Markers}

theorem fills_at_first (substitution : Substitution) (bindings : Variables)
    (opening closing : String) :
    substitution.Fills bindings []
      (Markers.ofSubstitution substitution bindings opening closing) := by
  cases substitution with
  | off => rfl
  | fromVariables => exact Markers.shows_of_variables bindings opening closing
  | table items => exact Markers.shows_of_table items bindings opening closing

theorem fills_bind (fills : substitution.Fills bindings bound markers) (name : String)
    (value : Value) :
    substitution.Fills (bindings.insert name value) (bound ++ [(name, value)])
      (markers.bind name value) := by
  cases substitution with
  | off =>
      rw [show markers = Markers.disabled from fills]
      rfl
  | fromVariables => exact Markers.shows_bind fills name value
  | table items =>
      have shows : markers.Shows (items.insertAll bound) := fills
      change Markers.Shows _ (items.insertAll (bound ++ [(name, value)]))
      rw [NameMap.insert_all_snoc]
      exact Markers.shows_bind shows name value

theorem fills_searched (fills : substitution.Fills bindings bound markers) :
    substitution.Fills bindings bound markers.searched := by
  cases substitution with
  | off =>
      rw [show markers = Markers.disabled from fills]
      rfl
  | fromVariables => exact Markers.shows_searched fills
  | table items => exact Markers.shows_searched fills

end Substitution

namespace Job

open Run

/-- All that is derived in the state fits the variables and the bindings that led to it. -/
structure Current (job : Job) (state : State) (bound : List (String × Value)) : Prop where
  pattern : state.pattern = Expression.NamePattern.ofVariables state.bindings
  coherent : state.markers.Coherent
  fills : job.substitution.Fills state.bindings bound state.markers
  bindings : state.bindings = job.bindings.insertAll bound

variable {job : Job} {state after : State} {bound : List (String × Value)}

theorem current_of_scope (current : job.Current state bound) (same : state.SameScope after) :
    job.Current after bound := by
  constructor
  · rw [same.pattern, same.bindings]
    exact current.pattern
  · rw [same.markers]
    exact current.coherent
  · rw [same.bindings, same.markers]
    exact current.fills
  · rw [same.bindings]
    exact current.bindings

theorem current_bind (current : job.Current state bound) (name : String) (value : Value) :
    job.Current (state.bind name value) (bound ++ [(name, value)]) := by
  constructor
  · exact State.pattern_bind name value current.pattern
  · exact Markers.coherent_bind current.coherent name value
  · exact Substitution.fills_bind current.fills name value
  · rw [NameMap.insert_all_snoc, ← current.bindings]
    rfl

theorem current_bind_any (current : job.Current state bound) (binding : Option (String × Value)) :
    job.Current (state.bindAny binding) (bound ++ binding.toList) := by
  cases binding with
  | none =>
      rw [Option.toList_none, List.append_nil]
      exact current
  | some entry => exact current_bind current entry.1 entry.2

theorem current_searched (current : job.Current state bound) :
    job.Current { state with markers := state.markers.searched } bound :=
  ⟨current.pattern, Markers.coherent_searched current.coherent,
    Substitution.fills_searched current.fills, current.bindings⟩

theorem current_step (current : job.Current state bound) (setting : Setting) (line : String) :
    job.Current (state.step setting line) (bound ++ (state.bound? line).toList) := by
  rcases State.scope_of_step setting line state with binds | ⟨unbound, searches⟩
  · exact current_of_scope (current_bind_any current (state.bound? line)) binds
  · rw [unbound, Option.toList_none, List.append_nil]
    exact current_of_scope (current_searched current) searches

/-- An included file starts with what was current where it is included. -/
theorem current_start (current : job.Current state bound) (maximalPasses : Nat) :
    job.Current (State.start state.bindings state.markers maximalPasses) bound :=
  ⟨rfl, current.coherent, current.fills, current.bindings⟩

theorem current_at_first (job : Job) : job.Current job.start.state job.start.bound :=
  ⟨rfl, Markers.coherent_of_substitution _ _ _ _, Substitution.fills_at_first _ _ _ _, rfl⟩

theorem current_of_visits {visit : Visit} (visited : job.Visits visit) :
    job.Current visit.state visit.bound := by
  induction visited with
  | start => exact current_at_first job
  | @handle before line _ _ ih =>
      simp only [handle]
      exact current_step ih (job.setting before) line
  | enter _ _ _ ih => exact current_start ih _

/-- In every state on the way, expressions are evaluated with the present variables, each line is
searched for the present markers, whatever was searched before, and the markers hold what the kind of
substitution asks for. -/
theorem derived_state_is_current {visit : Visit} (visited : job.Visits visit) :
    let state := visit.state
    (state.pattern = Expression.NamePattern.ofVariables state.bindings ∧
      ∀ text, Expression.evaluateWith state.pattern state.bindings text =
        Expression.evaluate state.bindings text) ∧
    ((∀ matcher, state.markers.compiled = some matcher → matcher = state.markers.compile) ∧
      ∀ (searches : Nat) (line : String),
        (Markers.searched^[searches] state.markers).apply line =
          state.markers.unsearched.apply line) ∧
    (job.substitution = .off → state.markers.entries = NameMap.empty) ∧
    (job.substitution = .fromVariables →
      state.markers.entries = Markers.texts state.bindings) ∧
    (∀ items, job.substitution = .table items →
      state.markers.entries = Markers.texts (items.insertAll visit.bound)) ∧
    state.bindings = job.bindings.insertAll visit.bound := by
  intro state
  have current : job.Current state visit.bound := current_of_visits visited
  have fills := current.fills
  refine ⟨⟨current.pattern, ?_⟩, ⟨current.coherent, Markers.apply_of_searched current.coherent⟩,
    ?_, ?_, ?_, current.bindings⟩
  · intro text
    rw [current.pattern]
    rfl
  · intro off
    rw [off] at fills
    rw [show state.markers = Markers.disabled from fills]
    rfl
  · intro fromVariables
    rw [fromVariables] at fills
    exact fills.entries
  · intro items table
    rw [table] at fills
    exact fills.entries

/-- A loop over a file that assigns to the name of the loop, with items of the same name. -/
def shadowingJob : Job :=
  { options := Options.default
    files := fun path =>
      if path = "part" then .regular (.ok "#SET x = x + 1\n%x%") else .unreadable .notFound
    bindings := NameMap.ofList [("x", .integer 1)]
    substitution := .table (NameMap.ofList [("x", .text "a")])
    text := "%x%\n#FOR x IN 4 5\n#INCLUDE part\n#ENDFOR" }

/-- The first line is searched for the item, and the last line of the file for what the file
assigned. -/
theorem derived_state_is_current_shadowed :
    let job := shadowingJob
    let inLoop := job.handle (job.handle job.start "%x%") "#FOR x IN 4 5"
    let inFile := job.enter inLoop "part" "#SET x = x + 1\n%x%"
    let visit := job.handle (job.handle inFile "#SET x = x + 1") "%x%"
    job.Visits visit ∧ inLoop.state.emitted = #["a"] ∧ visit.state.emitted = #["5"] ∧
      visit.bound = [("x", .integer 4), ("x", .integer 5)] ∧
      visit.state.markers.compiled.isSome = true ∧
      (∀ matcher, visit.state.markers.compiled = some matcher →
        matcher = visit.state.markers.compile) ∧
      ∀ items, job.substitution = .table items →
        visit.state.markers.entries = Markers.texts (items.insertAll visit.bound) := by
  intro job inLoop inFile visit
  have opened : job.Visits inLoop :=
    (Visits.start.handle (by decide +kernel)).handle (by decide +kernel)
  have includes : inLoop.lines[inLoop.state.cursor]? = some "#INCLUDE part" := by decide +kernel
  have entered : job.Visits inFile := opened.enter includes (by decide +kernel)
  have visited : job.Visits visit :=
    (entered.handle (by decide +kernel)).handle (by decide +kernel)
  have current := derived_state_is_current visited
  exact ⟨visited, by decide +kernel, by decide +kernel, by decide +kernel, by decide +kernel,
    current.2.1.1, current.2.2.2.2.1⟩

end Job

end LineTemplate

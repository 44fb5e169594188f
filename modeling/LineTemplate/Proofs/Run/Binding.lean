import LineTemplate.Proofs.Run.Failure

/-!
The names that a run binds. Only an assignment, the start of a loop and a further pass of one give a
name a value, at most one for each line. Nothing else changes the variables or the pattern of names,
and the markers change with them, or keep a matcher once a line was searched.
-/

namespace LineTemplate.Run.State

/-- The name that a directive binds and its value, if it binds one. -/
def boundBy? (state : State) (line : String) : Directive → Option (String × Value)
  | .set => if state.isActive then (state.assignment (Line.argument line)).toOption else none
  | .loop =>
      if state.isActive ∧ state.loops.passesStarted < state.loops.limit then
        (Loop.Clause.ofLine line state.loops.limit).toOption.map fun clause =>
          (clause.name, clause.values[0]?.getD default)
      else none
  | .endLoop =>
      match state.loops.finish.2 with
      | .ok (.rewind _ name value) => some (name, value)
      | _ => none
  | _ => none

def bound? (state : State) (line : String) : Option (String × Value) :=
  (Directive.ofLine? line).bind (state.boundBy? line)

def bindAny (state : State) : Option (String × Value) → State
  | none => state
  | some (name, value) => state.bind name value

/-- The same variables, with what is derived from them. -/
structure SameScope (before after : State) : Prop where
  bindings : after.bindings = before.bindings
  pattern : after.pattern = before.pattern
  markers : after.markers = before.markers

variable {setting : Setting} {line argument : String} {number : Nat} {state : State}

theorem scope_of_assign :
    SameScope (state.bindAny (state.assignment argument).toOption) (state.assign argument).1 := by
  unfold assign
  cases state.assignment argument with
  | ok found => exact ⟨rfl, rfl, rfl⟩
  | error error => exact ⟨rfl, rfl, rfl⟩

theorem scope_of_include_file : SameScope state (state.includeFile setting argument).1 := by
  unfold includeFile
  split <;> exact ⟨rfl, rfl, rfl⟩

theorem scope_of_open_loop :
    SameScope (state.bindAny (state.boundBy? line .loop)) (state.openLoop line number).1 := by
  unfold openLoop boundBy? Loop.Stack.push
  cases active : state.isActive with
  | false => exact ⟨rfl, rfl, rfl⟩
  | true =>
      cases Loop.Clause.ofLine line state.loops.limit with
      | error error =>
          simp only [true_and, Except.toOption, Option.map_none, ite_self]
          exact ⟨rfl, rfl, rfl⟩
      | ok clause =>
          by_cases room : state.loops.passesStarted < state.loops.limit
          · simp only [room, if_true, and_self]
            exact ⟨rfl, rfl, rfl⟩
          · simp only [room, if_false, and_false]
            exact ⟨rfl, rfl, rfl⟩

theorem scope_of_finish_loop :
    SameScope (state.bindAny (state.boundBy? line .endLoop)) state.finishLoop.1 := by
  unfold finishLoop boundBy?
  rcases state.loops.finish with ⟨loops, error | ⟨cursor, name, value⟩ | _⟩ <;> exact ⟨rfl, rfl, rfl⟩

theorem scope_of_perform (setting : Setting) (directive : Directive) (line : String) (number : Nat)
    (state : State) :
    SameScope (state.bindAny (state.boundBy? line directive))
      (perform setting directive line number state).1 := by
  cases directive with
  | set =>
      simp only [perform, boundBy?]
      split
      · exact scope_of_assign
      · exact ⟨rfl, rfl, rfl⟩
  | insertFile =>
      simp only [perform]
      split
      · exact scope_of_include_file
      · exact ⟨rfl, rfl, rfl⟩
  | loop => exact scope_of_open_loop
  | endLoop => exact scope_of_finish_loop
  | onlyIf | elseIf | otherwise | endIf | switch | case | default | endSwitch =>
      exact ⟨rfl, rfl, rfl⟩

theorem scope_of_settle (number : Nat) (result : Except DirectiveError Unit) :
    SameScope state (state.settle setting number result) := by
  cases result <;> exact ⟨rfl, rfl, rfl⟩

theorem scope_of_advance (bound : Option (String × Value)) :
    SameScope (state.bindAny bound) (state.advance.bindAny bound) := by
  cases bound <;> exact ⟨rfl, rfl, rfl⟩

theorem assignment_advance (text : String) :
    state.advance.assignment text = state.assignment text := by
  simp only [assignment, evaluate, advance]

theorem bound_by_advance (directive : Directive) :
    state.advance.boundBy? line directive = state.boundBy? line directive := by
  cases directive with
  | set =>
      simp only [boundBy?, assignment_advance]
      rfl
  | _ => rfl

theorem SameScope.trans {before between after : State} (first : SameScope before between)
    (second : SameScope between after) : SameScope before after :=
  ⟨second.bindings.trans first.bindings, second.pattern.trans first.pattern,
    second.markers.trans first.markers⟩

/-- A line binds at most one name, and a line that is searched for markers binds none. -/
theorem scope_of_step (setting : Setting) (line : String) (state : State) :
    SameScope (state.bindAny (state.bound? line)) (state.step setting line) ∨
      state.bound? line = none ∧
        SameScope { state with markers := state.markers.searched } (state.step setting line) := by
  cases spelled : Directive.ofLine? line with
  | none =>
      have unbound : state.bound? line = none := by rw [bound?, spelled, Option.bind_none]
      rw [unbound]
      simp only [step, spelled]
      split
      · exact Or.inr ⟨trivial, rfl, rfl, rfl⟩
      · exact Or.inl ⟨rfl, rfl, rfl⟩
  | some directive =>
      have performed :=
        scope_of_perform setting directive line (state.cursor + 1) state.advance
      rw [bound_by_advance] at performed
      rw [bound?, spelled, Option.bind_some, step_of_spelled spelled]
      exact Or.inl (((scope_of_advance _).trans performed).trans (scope_of_settle _ _))

end LineTemplate.Run.State

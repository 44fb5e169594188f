import LineTemplate.Loop.Stack

/-!
What each operation does to the open loops, as one equation for each way it can go. An operation
opens a loop, or moves on or closes the innermost one; the loops further out stay as they are.
-/

namespace LineTemplate.Loop

/-- The pass with which a loop over the values of a clause begins. -/
def Clause.firstPass (clause : Clause) (start : Nat) : Pass :=
  { name := clause.name, values := clause.values, start, index := 0 }

def Pass.next (pass : Pass) : Pass :=
  { pass with index := pass.index + 1 }

namespace Stack

variable {stack : Stack}

theorem push_of_room (room : stack.passesStarted < stack.limit) (clause : Clause)
    (start line : Nat) :
    stack.push clause start line =
      ({ stack with
          frames := ⟨line, some (clause.firstPass start)⟩ :: stack.frames
          passesStarted := stack.passesStarted + 1 }, .ok (clause.firstPass start)) := by
  rw [push, if_pos room]
  rfl

theorem push_of_spent (spent : stack.limit ≤ stack.passesStarted) (clause : Clause)
    (start line : Nat) :
    stack.push clause start line = (stack.pushInert line, .error (.passLimit stack.limit)) := by
  rw [push, if_neg (Nat.not_lt.mpr spent)]

theorem finish_of_nothing_open (empty : stack.frames = []) :
    stack.finish = (stack, .error (.unmatched .endLoop .loop)) := by
  simp only [finish, empty]

variable {openedAt : Nat} {pass : Pass} {outer : List Frame} {value : Value}

theorem finish_of_inert (stands : stack.frames = ⟨openedAt, none⟩ :: outer) :
    stack.finish = ({ stack with frames := outer }, .ok .done) := by
  simp only [finish, stands]

theorem finish_of_last (stands : stack.frames = ⟨openedAt, some pass⟩ :: outer)
    (last : pass.values[pass.index + 1]? = none) :
    stack.finish = ({ stack with frames := outer }, .ok .done) := by
  simp only [finish, stands, Pass.current?, last]

theorem finish_of_next (stands : stack.frames = ⟨openedAt, some pass⟩ :: outer)
    (following : pass.values[pass.index + 1]? = some value)
    (room : stack.passesStarted < stack.limit) :
    stack.finish =
      ({ stack with
          frames := ⟨openedAt, some pass.next⟩ :: outer
          passesStarted := stack.passesStarted + 1 },
        .ok (.rewind pass.start pass.name value)) := by
  simp only [finish, stands, Pass.current?, following, if_pos room]
  rfl

theorem finish_of_spent (stands : stack.frames = ⟨openedAt, some pass⟩ :: outer)
    (following : pass.values[pass.index + 1]? = some value)
    (spent : stack.limit ≤ stack.passesStarted) :
    stack.finish = ({ stack with frames := outer }, .error (.passLimit stack.limit)) := by
  simp only [finish, stands, Pass.current?, following, if_neg (Nat.not_lt.mpr spent)]

/-- The ways in which the end of a loop can go, with the stack and the answer it leaves. -/
inductive Finishes (stack : Stack) : Stack × Except DirectiveError Ending → Prop where
  | unmatched (empty : stack.frames = []) :
      Finishes stack (stack, .error (.unmatched .endLoop .loop))
  | inert {openedAt : Nat} {outer : List Frame}
      (stands : stack.frames = ⟨openedAt, none⟩ :: outer) :
      Finishes stack ({ stack with frames := outer }, .ok .done)
  | last {openedAt : Nat} {pass : Pass} {outer : List Frame}
      (stands : stack.frames = ⟨openedAt, some pass⟩ :: outer)
      (last : pass.values[pass.index + 1]? = none) :
      Finishes stack ({ stack with frames := outer }, .ok .done)
  | next {openedAt : Nat} {pass : Pass} {outer : List Frame} {value : Value}
      (stands : stack.frames = ⟨openedAt, some pass⟩ :: outer)
      (following : pass.values[pass.index + 1]? = some value)
      (room : stack.passesStarted < stack.limit) :
      Finishes stack
        ({ stack with
            frames := ⟨openedAt, some pass.next⟩ :: outer
            passesStarted := stack.passesStarted + 1 },
          .ok (.rewind pass.start pass.name value))
  | spent {openedAt : Nat} {pass : Pass} {outer : List Frame} {value : Value}
      (stands : stack.frames = ⟨openedAt, some pass⟩ :: outer)
      (following : pass.values[pass.index + 1]? = some value)
      (spent : stack.limit ≤ stack.passesStarted) :
      Finishes stack ({ stack with frames := outer }, .error (.passLimit stack.limit))

theorem finishes (stack : Stack) : Finishes stack stack.finish := by
  cases stands : stack.frames with
  | nil =>
      rw [finish_of_nothing_open stands]
      exact .unmatched stands
  | cons frame outer =>
      obtain ⟨openedAt, running⟩ := frame
      cases running with
      | none =>
          rw [finish_of_inert stands]
          exact .inert stands
      | some pass =>
          cases following : pass.values[pass.index + 1]? with
          | none =>
              rw [finish_of_last stands following]
              exact .last stands following
          | some value =>
              by_cases room : stack.passesStarted < stack.limit
              · rw [finish_of_next stands following room]
                exact .next stands following room
              · rw [finish_of_spent stands following (Nat.not_lt.mp room)]
                exact .spent stands following (Nat.not_lt.mp room)

end Stack

end LineTemplate.Loop

import LineTemplate.Loop.Clause

/-!
The open loops of a run. A loop owns no lines: it remembers where its body starts, and at its end
asks to continue there as long as values are left. All loops together may start a limited number of
passes. A loop that must not run is inert, and what it encloses is suppressed.
-/

namespace LineTemplate.Loop

/-- A running loop at one of its values. -/
structure Pass where
  name : String
  values : Array Value
  /-- Index of the first line of the body. -/
  start : Nat
  index : Nat
  deriving DecidableEq

def Pass.current? (pass : Pass) : Option Value :=
  pass.values[pass.index]?

/-- An open loop; without a pass it is inert. -/
structure Frame where
  openedAt : Nat
  pass : Option Pass
  deriving DecidableEq

def Frame.isInert (frame : Frame) : Bool :=
  frame.pass.isNone

/-- Frames are innermost first. -/
structure Stack where
  frames : List Frame
  passesStarted : Nat
  limit : Nat
  deriving DecidableEq

/-- What the end of a loop asks for. -/
inductive Ending where
  | rewind (cursor : Nat) (name : String) (value : Value)
  | done
  deriving DecidableEq

namespace Stack

def new (limit : Nat) : Stack :=
  { frames := [], passesStarted := 0, limit }

def depth (stack : Stack) : Nat :=
  stack.frames.length

def isEmpty (stack : Stack) : Bool :=
  stack.frames.isEmpty

def isActive (stack : Stack) : Bool :=
  stack.frames.all fun frame => !frame.isInert

def pushInert (stack : Stack) (line : Nat) : Stack :=
  { stack with frames := ⟨line, none⟩ :: stack.frames }

theorem is_active_push_inert (stack : Stack) (line : Nat) :
    (stack.pushInert line).isActive = false := by
  simp [pushInert, isActive, Frame.isInert]

/-- Opens a loop at its first value, or an inert one when no pass may be started any more. -/
def push (stack : Stack) (clause : Clause) (start line : Nat) :
    Stack × Except DirectiveError Pass :=
  if stack.passesStarted < stack.limit then
    let pass := { name := clause.name, values := clause.values, start, index := 0 }
    ({ stack with
        frames := ⟨line, some pass⟩ :: stack.frames
        passesStarted := stack.passesStarted + 1 }, .ok pass)
  else (stack.pushInert line, .error (.passLimit stack.limit))

/-- Moves the innermost loop to its next value, and closes it when there is none or no pass may be
started any more. -/
def finish (stack : Stack) : Stack × Except DirectiveError Ending :=
  match stack.frames with
  | [] => (stack, .error (.unmatched .endLoop .loop))
  | frame :: outer =>
      match frame.pass with
      | none => ({ stack with frames := outer }, .ok .done)
      | some pass =>
          let next := { pass with index := pass.index + 1 }
          match next.current? with
          | none => ({ stack with frames := outer }, .ok .done)
          | some value =>
              if stack.passesStarted < stack.limit then
                ({ stack with
                    frames := { frame with pass := some next } :: outer
                    passesStarted := stack.passesStarted + 1 },
                  .ok (.rewind pass.start pass.name value))
              else ({ stack with frames := outer }, .error (.passLimit stack.limit))

/-- What opened the loops that are still open, outermost first. -/
def openings (stack : Stack) : List Opening :=
  stack.frames.reverse.map fun frame => { directive := .loop, line := frame.openedAt }

def passesLeft (stack : Stack) : Nat :=
  stack.limit - stack.passesStarted

theorem passes_left_push (stack : Stack) (clause : Clause) (start line : Nat) :
    (stack.push clause start line).1.passesLeft ≤ stack.passesLeft := by
  unfold push
  split
  · simp only [passesLeft]
    omega
  · exact Nat.le_refl _

theorem passes_left_finish (stack : Stack) : stack.finish.1.passesLeft ≤ stack.passesLeft := by
  unfold finish
  split
  · exact Nat.le_refl _
  · split
    · exact Nat.le_refl _
    · simp only
      split
      · exact Nat.le_refl _
      · split
        · simp only [passesLeft]
          omega
        · exact Nat.le_refl _

/-- Going back to the start of a body costs a pass. -/
theorem passes_left_of_rewind {stack after : Stack} {cursor : Nat} {name : String} {value : Value}
    (rewinds : stack.finish = (after, .ok (.rewind cursor name value))) :
    after.passesLeft < stack.passesLeft := by
  unfold finish at rewinds
  split at rewinds
  · simp at rewinds
  · split at rewinds
    · simp at rewinds
    · simp only at rewinds
      split at rewinds
      · simp at rewinds
      · split at rewinds
        · next room =>
            obtain ⟨rfl, _⟩ := Prod.mk.inj rewinds
            simp only [passesLeft]
            omega
        · simp at rewinds

end Stack

end LineTemplate.Loop

import LineTemplate.Proofs.Loop.Operations
import Mathlib.Algebra.BigOperators.Group.List.Basic
import Mathlib.Algebra.Order.Ring.Nat

/-!
Passes and their limit. Whatever is asked of the loops in whatever order, the counter tells how many
passes were started and stays within the limit, and the passes that the open loops have begun are
among those counted. A loop that was opened goes through its values in order, one at each of its
ends, whatever is opened and closed inside it, until no value or no pass is left.
-/

namespace LineTemplate.Loop

inductive Operation where
  | push (clause : Clause) (start line : Nat)
  | pushInert (line : Nat)
  | finish

inductive Answer where
  | pushed (result : Except DirectiveError Pass)
  | inert
  | finished (result : Except DirectiveError Ending)

namespace Answer

/-- A loop was opened at its first value. -/
def opens : Answer → Bool
  | pushed (.ok _) => true
  | _ => false

/-- A loop was sent back to the start of its body. -/
def rewinds : Answer → Bool
  | finished (.ok (.rewind ..)) => true
  | _ => false

end Answer

/-- How many passes the loop has begun. -/
def Frame.passesBegun (frame : Frame) : Nat :=
  match frame.pass with
  | some pass => pass.index + 1
  | none => 0

namespace Stack

def apply (stack : Stack) : Operation → Stack × Answer
  | .push clause start line =>
      let (after, result) := stack.push clause start line
      (after, .pushed result)
  | .pushInert line => (stack.pushInert line, .inert)
  | .finish =>
      let (after, result) := stack.finish
      (after, .finished result)

def after (stack : Stack) : List Operation → Stack
  | [] => stack
  | operation :: rest => (stack.apply operation).1.after rest

def answers (stack : Stack) : List Operation → List Answer
  | [] => []
  | operation :: rest =>
      (stack.apply operation).2 :: (stack.apply operation).1.answers rest

/-- Passes that the open loops have begun, the finished ones among them included. -/
def passesBegun (stack : Stack) : Nat :=
  (stack.frames.map Frame.passesBegun).sum

/-- What the operation answers if it is the end of the innermost loop and so many are open. -/
def endingAt (depth : Nat) (stack : Stack) : Operation → List (Except DirectiveError Ending)
  | .finish => if stack.depth = depth then [stack.finish.2] else []
  | _ => []

/-- What is answered by the ends that meet so many open loops. While there are never fewer, these are
the ends of one and the same loop. -/
def endings (depth : Nat) (stack : Stack) : List Operation → List (Except DirectiveError Ending)
  | [] => []
  | operation :: rest =>
      stack.endingAt depth operation ++ (stack.apply operation).1.endings depth rest

/-- There are never fewer loops open. -/
def Keeps (depth : Nat) (stack : Stack) : List Operation → Prop
  | [] => depth ≤ stack.depth
  | operation :: rest => depth ≤ stack.depth ∧ (stack.apply operation).1.Keeps depth rest

instance Keeps.decidable (depth : Nat) :
    (stack : Stack) → (operations : List Operation) → Decidable (stack.Keeps depth operations)
  | stack, [] => inferInstanceAs (Decidable (depth ≤ stack.depth))
  | stack, operation :: rest =>
      have := Keeps.decidable depth (stack.apply operation).1 rest
      inferInstanceAs (Decidable (depth ≤ stack.depth ∧ _))

variable {stack : Stack} {limit : Nat}

section Counting

/-- The counter tells the passes of all loops, and no more than the limit. -/
structure Counted (limit : Nat) (stack : Stack) : Prop where
  limited : stack.limit = limit
  within : stack.passesStarted ≤ limit
  begun : stack.passesBegun ≤ stack.passesStarted

theorem counted_new (limit : Nat) : Counted limit (new limit) :=
  ⟨rfl, Nat.zero_le _, Nat.le_refl 0⟩

theorem passes_begun_of_frames {frame : Frame} {outer : List Frame}
    (stands : stack.frames = frame :: outer) :
    stack.passesBegun = frame.passesBegun + (outer.map Frame.passesBegun).sum := by
  simp only [passesBegun, stands, List.map_cons, List.sum_cons]

/-- Closing the innermost loop leaves no more passes begun. -/
theorem counted_of_closed {frame : Frame} {outer : List Frame} (counted : Counted limit stack)
    (stands : stack.frames = frame :: outer) :
    Counted limit { stack with frames := outer } := by
  have begun := counted.begun
  rw [passes_begun_of_frames stands] at begun
  exact ⟨counted.limited, counted.within, Nat.le_of_add_left_le begun⟩

theorem counted_push (counted : Counted limit stack) (clause : Clause) (start line : Nat) :
    Counted limit (stack.push clause start line).1 := by
  have limited := counted.limited
  have within := counted.within
  have begun := counted.begun
  by_cases room : stack.passesStarted < stack.limit
  · rw [push_of_room room]
    refine ⟨limited, limited ▸ room, ?_⟩
    rw [passes_begun_of_frames rfl]
    simp only [Frame.passesBegun, Clause.firstPass, passesBegun] at begun ⊢
    omega
  · rw [push_of_spent (Nat.not_lt.mp room)]
    refine ⟨limited, within, ?_⟩
    rw [passes_begun_of_frames rfl, Frame.passesBegun, Nat.zero_add]
    exact begun

theorem counted_finish (counted : Counted limit stack) : Counted limit stack.finish.1 := by
  have finishes := stack.finishes
  generalize stack.finish = finished at finishes ⊢
  cases finishes with
  | unmatched => exact counted
  | inert stands => exact counted_of_closed counted stands
  | last stands => exact counted_of_closed counted stands
  | spent stands => exact counted_of_closed counted stands
  | next stands _ room =>
      have begun := counted.begun
      rw [passes_begun_of_frames stands] at begun
      refine ⟨counted.limited, counted.limited ▸ room, ?_⟩
      rw [passes_begun_of_frames rfl]
      simp only [Frame.passesBegun, Pass.next] at begun ⊢
      omega

theorem counted_apply (counted : Counted limit stack) (operation : Operation) :
    Counted limit (stack.apply operation).1 := by
  cases operation with
  | push clause start line => exact counted_push counted clause start line
  | pushInert line =>
      refine ⟨counted.limited, counted.within, ?_⟩
      rw [apply, passes_begun_of_frames rfl, Frame.passesBegun, Nat.zero_add]
      exact counted.begun
  | finish => exact counted_finish counted

theorem counted_after (counted : Counted limit stack) (operations : List Operation) :
    Counted limit (stack.after operations) := by
  induction operations generalizing stack with
  | nil => exact counted
  | cons operation rest ih => exact ih (counted_apply counted operation)

/-- An operation counts a pass exactly when it opens a loop or sends one back. -/
theorem passes_started_apply (stack : Stack) (operation : Operation) :
    (stack.apply operation).1.passesStarted =
      stack.passesStarted + [(stack.apply operation).2].countP Answer.opens +
        [(stack.apply operation).2].countP Answer.rewinds := by
  cases operation with
  | push clause start line =>
      by_cases room : stack.passesStarted < stack.limit
      · simp only [apply, push_of_room room]
        rfl
      · simp only [apply, push_of_spent (Nat.not_lt.mp room)]
        rfl
  | pushInert line => rfl
  | finish =>
      have finishes := stack.finishes
      simp only [apply]
      generalize stack.finish = finished at finishes ⊢
      cases finishes <;> rfl

theorem passes_started_after (stack : Stack) (operations : List Operation) :
    (stack.after operations).passesStarted =
      stack.passesStarted + (stack.answers operations).countP Answer.opens +
        (stack.answers operations).countP Answer.rewinds := by
  induction operations generalizing stack with
  | nil => rfl
  | cons operation rest ih =>
      have counts := passes_started_apply stack operation
      have split (holds : Answer → Bool) :
          (stack.answers (operation :: rest)).countP holds =
            [(stack.apply operation).2].countP holds +
              ((stack.apply operation).1.answers rest).countP holds := by
        rw [answers, ← List.singleton_append, List.countP_append]
      rw [after, ih, counts, split, split]
      omega

end Counting

section Life

variable {openedAt : Nat} {pass : Pass} {above outer : List Frame} {operation : Operation}

theorem depth_of_frames (stands : stack.frames = above ++ ⟨openedAt, some pass⟩ :: outer) :
    stack.depth = above.length + (outer.length + 1) := by
  rw [depth, stands, List.length_append, List.length_cons]

/-- What lies below the innermost loop stays as it is. -/
theorem apply_keeps_outer {top : Frame} {below : List Frame}
    (stands : stack.frames = top :: below) (operation : Operation) :
    ∃ front, (stack.apply operation).1.frames = front ++ below := by
  cases operation with
  | push clause start line =>
      by_cases room : stack.passesStarted < stack.limit
      · exact ⟨[⟨line, some (clause.firstPass start)⟩, top], by
          simp only [apply, push_of_room room, stands, List.cons_append, List.nil_append]⟩
      · exact ⟨[⟨line, none⟩, top], by
          simp only [apply, push_of_spent (Nat.not_lt.mp room), pushInert, stands,
            List.cons_append, List.nil_append]⟩
  | pushInert line =>
      exact ⟨[⟨line, none⟩, top], by
        simp only [apply, pushInert, stands, List.cons_append, List.nil_append]⟩
  | finish =>
      have finishes := stack.finishes
      simp only [apply]
      generalize stack.finish = finished at finishes ⊢
      cases finishes with
      | unmatched empty =>
          rw [empty] at stands
          cases stands
      | inert found | last found | spent found =>
          rw [found] at stands
          cases stands
          exact ⟨[], rfl⟩
      | next found =>
          rw [found] at stands
          cases stands
          exact ⟨[_], rfl⟩

/-- What the end of a running loop answers when it goes on with the value. -/
def rewindTo (pass : Pass) (value : Value) : Except DirectiveError Ending :=
  .ok (.rewind pass.start pass.name value)

/-- As long as a running loop stays open, an operation leaves it alone or moves it to its next
value. -/
theorem running_loop_apply (stands : stack.frames = above ++ ⟨openedAt, some pass⟩ :: outer)
    (kept : outer.length + 1 ≤ (stack.apply operation).1.depth) :
    (stack.endingAt (outer.length + 1) operation = [] ∧
      ∃ front, (stack.apply operation).1.frames = front ++ ⟨openedAt, some pass⟩ :: outer) ∨
    ∃ value, pass.values[pass.index + 1]? = some value ∧
      stack.endingAt (outer.length + 1) operation = [rewindTo pass value] ∧
      (stack.apply operation).1.frames = [] ++ ⟨openedAt, some pass.next⟩ :: outer := by
  have count := depth_of_frames stands
  cases above with
  | cons top above =>
      have elsewhere : stack.endingAt (outer.length + 1) operation = [] := by
        cases operation with
        | finish =>
            rw [List.length_cons] at count
            rw [endingAt, if_neg (by omega)]
        | _ => rfl
      obtain ⟨front, frames⟩ := apply_keeps_outer stands operation
      exact Or.inl ⟨elsewhere, front ++ above, by rw [frames, List.append_assoc]; rfl⟩
  | nil =>
      rw [List.length_nil, Nat.zero_add] at count
      cases operation with
      | push clause start line =>
          obtain ⟨front, frames⟩ : ∃ front : List Frame,
              (stack.push clause start line).1.frames = front ++ stack.frames := by
            by_cases room : stack.passesStarted < stack.limit
            · exact ⟨[⟨line, some (clause.firstPass start)⟩], by rw [push_of_room room]; rfl⟩
            · exact ⟨[⟨line, none⟩], by rw [push_of_spent (Nat.not_lt.mp room)]; rfl⟩
          rw [stands] at frames
          exact Or.inl ⟨rfl, front, frames⟩
      | pushInert line =>
          refine Or.inl ⟨rfl, [⟨line, none⟩], ?_⟩
          rw [apply, pushInert, stands]
          rfl
      | finish =>
          have finishes := stack.finishes
          simp only [endingAt, if_pos count]
          simp only [apply, depth] at kept ⊢
          generalize stack.finish = finished at finishes kept ⊢
          cases finishes with
          | unmatched empty =>
              rw [empty] at stands
              cases stands
          | inert found =>
              rw [found] at stands
              cases stands
          | last found | spent found =>
              rw [found] at stands
              cases stands
              simp only at kept
              omega
          | next found following =>
              rw [found] at stands
              cases stands
              exact Or.inr ⟨_, following, rfl, rfl⟩

/-- The values of a pass after the one it is at. -/
def valuesLeft (pass : Pass) : List Value :=
  pass.values.toList.drop (pass.index + 1)

theorem values_left_of_next {value : Value}
    (following : pass.values[pass.index + 1]? = some value) :
    valuesLeft pass = value :: valuesLeft pass.next := by
  obtain ⟨inside, found⟩ := Array.getElem?_eq_some_iff.mp following
  rw [valuesLeft, List.drop_eq_getElem_cons (by simpa using inside), Array.getElem_toList, found]
  rfl

/-- As long as a running loop stays open, its ends take it through its values one by one. -/
theorem running_loop_after (operations : List Operation)
    (stands : stack.frames = above ++ ⟨openedAt, some pass⟩ :: outer)
    (keeps : stack.Keeps (outer.length + 1) operations) :
    let ended := stack.endings (outer.length + 1) operations
    ended = ((valuesLeft pass).take ended.length).map (rewindTo pass) ∧
      ∃ front, (stack.after operations).frames =
        front ++ ⟨openedAt, some { pass with index := pass.index + ended.length }⟩ :: outer := by
  induction operations generalizing stack pass above with
  | nil => exact ⟨rfl, above, stands⟩
  | cons operation rest ih =>
      obtain ⟨_, keeps⟩ := keeps
      have kept : outer.length + 1 ≤ (stack.apply operation).1.depth := by
        cases rest with
        | nil => exact keeps
        | cons => exact keeps.1
      simp only [endings, after]
      rcases running_loop_apply stands kept with
        ⟨silent, front, frames⟩ | ⟨value, following, answer, frames⟩
      · rw [silent, List.nil_append]
        exact ih frames keeps
      · obtain ⟨ended, front, opened⟩ := ih frames keeps
        rw [answer, List.singleton_append, values_left_of_next following, List.length_cons,
          List.take_succ_cons, List.map_cons]
        refine ⟨congrArg (rewindTo pass value :: ·) ended, front, ?_⟩
        rw [opened, Pass.next, Nat.add_right_comm]
        rfl

end Life

/-- The end of the innermost loop, when it is at the given pass. -/
theorem finish_of_running {openedAt : Nat} {pass : Pass} {outer : List Frame}
    (stands : stack.frames = ⟨openedAt, some pass⟩ :: outer) (limited : stack.limit = limit)
    (within : stack.passesStarted ≤ limit) :
    stack.finish =
      match pass.values[pass.index + 1]? with
      | none => ({ stack with frames := outer }, .ok .done)
      | some value =>
          if stack.passesStarted = limit then
            ({ stack with frames := outer }, .error (.passLimit limit))
          else
            ({ stack with
                frames := ⟨openedAt, some pass.next⟩ :: outer
                passesStarted := stack.passesStarted + 1 },
              rewindTo pass value) := by
  subst limited
  cases following : pass.values[pass.index + 1]? with
  | none => exact finish_of_last stands following
  | some value =>
      by_cases spent : stack.passesStarted = stack.limit
      · rw [finish_of_spent stands following (Nat.le_of_eq spent.symm)]
        simp only [if_pos spent]
      · rw [finish_of_next stands following (by omega)]
        simp only [if_neg spent]
        rfl

/-- No loop is opened just when the counter has reached the limit. -/
theorem push_fails_iff (counted : Counted limit stack) (clause : Clause) (start line : Nat) :
    (∃ error, (stack.push clause start line).2 = .error error) ↔ stack.passesStarted = limit := by
  have limited := counted.limited
  have within := counted.within
  constructor
  · rintro ⟨error, failed⟩
    by_contra unspent
    rw [push_of_room (by omega)] at failed
    cases failed
  · intro spent
    exact ⟨_, by rw [push_of_spent (by omega)]⟩

/-- The end of a loop reports the limit just when a value is left and no pass is. -/
theorem finish_reports_limit_iff (counted : Counted limit stack) (bound : Nat) :
    stack.finish.2 = .error (.passLimit bound) ↔
      bound = limit ∧ stack.passesStarted = limit ∧
        ∃ openedAt pass outer, stack.frames = ⟨openedAt, some pass⟩ :: outer ∧
          pass.index + 1 < pass.values.size := by
  have limited := counted.limited
  have within := counted.within
  constructor
  · intro failed
    have finishes := stack.finishes
    generalize stack.finish = finished at finishes failed
    cases finishes with
    | spent stands following spent =>
        cases failed
        obtain ⟨inside, _⟩ := Array.getElem?_eq_some_iff.mp following
        exact ⟨limited, by omega, _, _, _, stands, inside⟩
    | _ => cases failed
  · rintro ⟨rfl, spent, openedAt, pass, outer, stands, inside⟩
    rw [finish_of_running stands limited within, Array.getElem?_eq_getElem inside]
    simp only [if_pos spent]

/-- A loop that was just opened goes through its values as long as it stays open, and its next end is
that of the pass it is at by then. -/
theorem opened_loop_after {opened : Stack} {clause : Clause} {start line : Nat} {outer : List Frame}
    (counted : Counted limit opened)
    (frames : opened.frames = ⟨line, some (clause.firstPass start)⟩ :: outer)
    (later : List Operation) (keeps : opened.Keeps opened.depth later) :
    let ended := opened.endings opened.depth later
    let now := opened.after later
    let first := clause.firstPass start
    ended = (clause.values.toList.tail.take ended.length).map (rewindTo first) ∧
    (now.depth = opened.depth →
      now.finish =
        match clause.values[ended.length + 1]? with
        | none => ({ now with frames := outer }, .ok .done)
        | some value =>
            if now.passesStarted = limit then
              ({ now with frames := outer }, .error (.passLimit limit))
            else
              ({ now with
                  frames := ⟨line, some { first with index := ended.length + 1 }⟩ :: outer
                  passesStarted := now.passesStarted + 1 },
                rewindTo first value)) := by
  intro ended now first
  have alone : opened.frames = [] ++ ⟨line, some first⟩ :: outer := frames
  have depth : opened.depth = outer.length + 1 := by
    rw [Stack.depth, frames, List.length_cons]
  rw [depth] at keeps
  obtain ⟨taken, front, stands⟩ := running_loop_after later alone keeps
  rw [← depth] at taken stands
  have left : valuesLeft first = clause.values.toList.tail := by
    rw [← List.drop_one]
    rfl
  rw [left] at taken
  refine ⟨taken, ?_⟩
  intro innermost
  have countedNow : Counted limit now := counted_after counted later
  have nothingInside : front = [] := by
    have count : now.depth = front.length + (outer.length + 1) := depth_of_frames stands
    rw [depth] at innermost
    exact List.length_eq_zero_iff.mp (by omega)
  rw [nothingInside, List.nil_append] at stands
  have finished := finish_of_running stands countedNow.limited countedNow.within
  simp only [first, Pass.next, Clause.firstPass, Nat.zero_add] at finished
  exact finished

/-- Passes and their limit are exact after any operations. The counter tells the loops opened and
the rewinds. No loop can be opened exactly when the counter has reached the limit. A loop that was
opened is sent back to each further value in order, until it is closed for want of values or of
passes; only in the latter case the limit is reported. -/
theorem passes_and_limit_are_exact (limit : Nat) (operations : List Operation) :
    let stack := (new limit).after operations
    let answers := (new limit).answers operations
    (stack.passesStarted = answers.countP Answer.opens + answers.countP Answer.rewinds ∧
      stack.passesStarted ≤ limit ∧ stack.passesBegun ≤ stack.passesStarted) ∧
    (∀ (clause : Clause) (start line : Nat),
      ((∃ error, (stack.push clause start line).2 = .error error) ↔ stack.passesStarted = limit) ∧
      (stack.passesStarted = limit →
        stack.push clause start line =
          ({ stack with frames := ⟨line, none⟩ :: stack.frames }, .error (.passLimit limit)))) ∧
    (∀ bound, stack.finish.2 = .error (.passLimit bound) ↔
      bound = limit ∧ stack.passesStarted = limit ∧
        ∃ openedAt pass outer, stack.frames = ⟨openedAt, some pass⟩ :: outer ∧
          pass.index + 1 < pass.values.size) ∧
    (∀ (clause : Clause) (start line : Nat), stack.passesStarted < limit →
      let opened := (stack.push clause start line).1
      opened.frames = ⟨line, some (clause.firstPass start)⟩ :: stack.frames ∧
      ∀ later, opened.Keeps opened.depth later →
        let ended := opened.endings opened.depth later
        let now := opened.after later
        let first := clause.firstPass start
        ended = (clause.values.toList.tail.take ended.length).map (rewindTo first) ∧
        (now.depth = opened.depth →
          now.finish =
            match clause.values[ended.length + 1]? with
            | none => ({ now with frames := stack.frames }, .ok .done)
            | some value =>
                if now.passesStarted = limit then
                  ({ now with frames := stack.frames }, .error (.passLimit limit))
                else
                  ({ now with
                      frames :=
                        ⟨line, some { first with index := ended.length + 1 }⟩ :: stack.frames
                      passesStarted := now.passesStarted + 1 },
                    rewindTo first value))) := by
  intro stack answers
  have counted : Counted limit stack := counted_after (counted_new limit) operations
  have limited := counted.limited
  refine ⟨⟨?_, counted.within, counted.begun⟩, ?_, finish_reports_limit_iff counted, ?_⟩
  · have counts := passes_started_after (new limit) operations
    rwa [show (new limit).passesStarted = 0 from rfl, Nat.zero_add] at counts
  · intro clause start line
    refine ⟨push_fails_iff counted clause start line, ?_⟩
    intro spent
    rw [push_of_spent (by omega), pushInert, limited]
  · intro clause start line room opened
    have frames : opened.frames = ⟨line, some (clause.firstPass start)⟩ :: stack.frames := by
      simp only [opened, push_of_room (limited ▸ room : stack.passesStarted < stack.limit)]
    exact ⟨frames, opened_loop_after (counted_push counted clause start line) frames⟩

/-- A loop with another inside it that uses up all passes but one: the outer loop reaches its second
value, and its third is one pass too many. -/
theorem passes_and_limit_are_exact_nested :
    let rows : Clause := ⟨"row", #[.integer 1, .integer 2, .integer 3]⟩
    let columns : Clause := ⟨"column", #[.text "a", .text "b"]⟩
    let opened := ((new 4).push rows 1 1).1
    let later := [Operation.push columns 2 2, .finish, .finish, .finish]
    let now := opened.after later
    (new 4).passesStarted < 4 ∧ opened.Keeps opened.depth later ∧
      opened.endings opened.depth later = [rewindTo (rows.firstPass 1) (.integer 2)] ∧
      now.passesStarted = 4 ∧ now.depth = opened.depth ∧
      now.finish = ({ now with frames := [] }, .error (.passLimit 4)) := by
  intro rows columns opened later now
  have room : (new 4).passesStarted < 4 := by decide
  have keeps : opened.Keeps opened.depth later := by decide
  have life := ((passes_and_limit_are_exact 4 []).2.2.2 rows 1 1 room).2 later keeps
  exact ⟨room, keeps, life.1, rfl, rfl, life.2 rfl⟩

end Stack

end LineTemplate.Loop

import LineTemplate.Run

/-!
Runs line by line. A run over a text is the sequence of states between its lines, with the number
of lines handled on the way. All such sequences from a state are initial pieces of one, which the
bound on the steps makes finite.
-/

namespace LineTemplate.Run

/-- Handling so many lines in a row takes the first state to the second. -/
inductive Handles (setting : Setting) (lines : Array String) : Nat → State → State → Prop where
  | stay (state : State) : Handles setting lines 0 state state
  | next {count : Nat} {before after : State} (inside : before.cursor < lines.size)
      (rest : Handles setting lines count (before.step setting lines[before.cursor]) after) :
      Handles setting lines (count + 1) before after

variable {setting : Setting} {lines : Array String}

theorem handles_append {first second : Nat} {before middle after : State}
    (front : Handles setting lines first before middle)
    (back : Handles setting lines second middle after) :
    Handles setting lines (first + second) before after := by
  induction front with
  | stay => rwa [Nat.zero_add]
  | next inside _ ih =>
      rw [Nat.add_right_comm]
      exact .next inside (ih back)

/-- What was handled and what is still left stay within what was left at first. -/
theorem handles_steps_left {count : Nat} {before after : State}
    (handled : Handles setting lines count before after) :
    count + after.stepsLeft lines.size ≤ before.stepsLeft lines.size := by
  induction handled with
  | stay => omega
  | @next _ before _ inside _ ih =>
      have less := before.steps_left_step setting lines[before.cursor] lines.size inside
      omega

theorem handles_over_lines (setting : Setting) (lines : Array String) (state : State) :
    ∃ count, Handles setting lines count state (state.overLines setting lines) := by
  fun_induction State.overLines setting lines state with
  | case1 state inside ih =>
      obtain ⟨count, handled⟩ := ih
      exact ⟨count + 1, .next inside handled⟩
  | case2 state outside => exact ⟨0, .stay state⟩

theorem over_lines_of_outside {state : State} (outside : lines.size ≤ state.cursor) :
    state.overLines setting lines = state := by
  rw [State.overLines, dif_neg (Nat.not_lt.mpr outside)]

theorem over_lines_of_inside {state : State} (inside : state.cursor < lines.size) :
    state.overLines setting lines =
      (state.step setting lines[state.cursor]).overLines setting lines := by
  rw [State.overLines, dif_pos inside]

theorem over_lines_of_line {state : State} {line : String}
    (here : lines[state.cursor]? = some line) :
    state.overLines setting lines = (state.step setting line).overLines setting lines := by
  obtain ⟨inside, found⟩ := Array.getElem?_eq_some_iff.mp here
  rw [over_lines_of_inside inside, found]

theorem over_lines_outside (setting : Setting) (lines : Array String) (state : State) :
    lines.size ≤ (state.overLines setting lines).cursor := by
  fun_induction State.overLines setting lines state with
  | case1 state inside ih => exact ih
  | case2 state outside => exact Nat.not_lt.mp outside

/-- A run may be picked up at any state on its way. -/
theorem over_lines_of_handles {count : Nat} {before after : State}
    (handled : Handles setting lines count before after) :
    before.overLines setting lines = after.overLines setting lines := by
  induction handled with
  | stay => rfl
  | next inside _ ih => rw [over_lines_of_inside inside, ih]

/-- What is reported of a block or loop that is never closed. -/
def Setting.unclosed (setting : Setting) (opening : Opening) : Diagnostic :=
  { file := setting.file, line := opening.line, error := opening.error }

/-- At the end of a text only diagnostics are added, one for each opening in order. -/
theorem close_eq (setting : Setting) (state : State) :
    state.close setting =
      { state with
        diagnostics := state.diagnostics ++ (state.openings.map setting.unclosed).toArray } := by
  have recorded (left : List Opening) (state : State) :
      left.foldl (fun closed opening => closed.record (setting.unclosed opening)) state =
        { state with diagnostics := state.diagnostics ++ (left.map setting.unclosed).toArray } := by
    induction left generalizing state with
    | nil => simp
    | cons opening rest ih =>
        rw [List.foldl_cons, ih]
        simp [State.record]
  exact recorded state.openings state

theorem close_of_nothing_open {state : State} (setting : Setting) (blocks : state.blocks = [])
    (loops : state.loops.frames = []) : state.close setting = state := by
  simp only [State.close, State.openings, Block.Stack.openings, Loop.Stack.openings, blocks, loops]
  rfl

/-- Handling some lines takes the first state to the second. -/
def Reaches (setting : Setting) (lines : Array String) (before after : State) : Prop :=
  ∃ count, Handles setting lines count before after

theorem reaches_refl (state : State) : Reaches setting lines state state :=
  ⟨0, .stay state⟩

theorem reaches_trans {before middle after : State} (front : Reaches setting lines before middle)
    (back : Reaches setting lines middle after) : Reaches setting lines before after := by
  obtain ⟨first, front⟩ := front
  obtain ⟨second, back⟩ := back
  exact ⟨first + second, handles_append front back⟩

/-- The segment stands in the lines, its first line at the given index. -/
def Stands (lines : Array String) : Nat → List String → Prop
  | _, [] => True
  | index, line :: rest => lines[index]? = some line ∧ Stands lines (index + 1) rest

theorem stands_append (front back : List String) (index : Nat) :
    Stands lines index (front ++ back) ↔
      Stands lines index front ∧ Stands lines (index + front.length) back := by
  induction front generalizing index with
  | nil => simp [Stands]
  | cons line rest ih =>
      have place : index + 1 + rest.length = index + (rest.length + 1) := by omega
      simp only [List.cons_append, Stands, List.length_cons, ih, place, and_assoc]

theorem stands_drop (lines : Array String) (index : Nat) :
    Stands lines index (lines.toList.drop index) := by
  cases rest : lines.toList.drop index with
  | nil => trivial
  | cons line following =>
      have tail : lines.toList.drop (index + 1) = following := by
        rw [← List.tail_drop, rest, List.tail_cons]
      refine ⟨?_, tail ▸ stands_drop lines (index + 1)⟩
      rw [← Array.getElem?_toList, ← List.head?_drop, rest, List.head?_cons]
termination_by lines.size - index
decreasing_by
  have longer : 0 < (lines.toList.drop index).length := by simp [rest]
  rw [List.length_drop, Array.length_toList] at longer
  omega

theorem reaches_step {before after : State} {line : String}
    (stands : lines[before.cursor]? = some line)
    (rest : Reaches setting lines (before.step setting line) after) :
    Reaches setting lines before after := by
  obtain ⟨inside, found⟩ := Array.getElem?_eq_some_iff.mp stands
  obtain ⟨count, handled⟩ := rest
  exact ⟨count + 1, .next inside (found ▸ handled)⟩

end LineTemplate.Run

import LineTemplate.Preprocessor
import LineTemplate.Proofs.Run.Binding
import LineTemplate.Proofs.Run.Termination

/-!
The states that a preprocessor passes through, between the lines of the source and between the lines
of the files that it includes, to any depth. The state in which a source ends is one of them, and so
are those of each run whose outcome a line inserts.
-/

namespace LineTemplate

/-- All that a preprocessor is given. -/
structure Job where
  options : Options
  files : Files
  bindings : Variables
  substitution : Substitution
  text : String

namespace Run

/-- A run between two lines of its text. The bindings in order lead to it from the start of the whole:
a run over an included file goes on from those of the run that includes it. -/
structure Visit where
  depth : Nat
  file : Option String
  lines : Array String
  state : State
  bound : List (String × Value)

end Run

namespace Job

open Run

def setting (job : Job) (visit : Visit) : Setting :=
  .atDepth job.options job.files visit.depth visit.file

def start (job : Job) : Visit :=
  let markers :=
    Markers.ofSubstitution job.substitution job.bindings job.options.opening job.options.closing
  { depth := 0
    file := none
    lines := (Text.splitLines job.text).toArray
    state := State.start job.bindings markers job.options.maximalPasses
    bound := [] }

/-- The same run behind the line. -/
def handle (job : Job) (visit : Visit) (line : String) : Visit :=
  { visit with
    state := visit.state.step (job.setting visit) line
    bound := visit.bound ++ (visit.state.bound? line).toList }

section Handle

variable (job : Job) (visit : Visit) (line : String)

theorem depth_handle : (job.handle visit line).depth = visit.depth := by
  simp only [handle]

theorem file_handle : (job.handle visit line).file = visit.file := by
  simp only [handle]

theorem lines_handle : (job.handle visit line).lines = visit.lines := by
  simp only [handle]

theorem state_handle :
    (job.handle visit line).state =
      visit.state.step (.atDepth job.options job.files visit.depth visit.file) line := by
  simp only [handle, setting]

end Handle

/-- The run over a file that the run includes, before its first line. -/
def enter (job : Job) (visit : Visit) (path text : String) : Visit :=
  { depth := visit.depth + 1
    file := some path
    lines := (Text.splitLines text).toArray
    state := State.start visit.state.bindings visit.state.markers job.options.maximalPasses
    bound := visit.bound }

inductive Visits (job : Job) : Visit → Prop where
  | start : Visits job job.start
  | handle {visit : Visit} {line : String} (visited : Visits job visit)
      (here : visit.lines[visit.state.cursor]? = some line) : Visits job (job.handle visit line)
  | enter {visit : Visit} {line path text : String} (visited : Visits job visit)
      (here : visit.lines[visit.state.cursor]? = some line)
      (called : call? job.options job.files visit.depth visit.state line = some (path, text)) :
      Visits job (job.enter visit path text)

variable {job : Job}

theorem visits_of_handles {depth count : Nat} {file : Option String} {lines : Array String}
    {before after : State} {bound : List (String × Value)}
    (handled : Handles (.atDepth job.options job.files depth file) lines count before after)
    (visited : job.Visits ⟨depth, file, lines, before, bound⟩) :
    ∃ further, job.Visits ⟨depth, file, lines, after, further⟩ := by
  induction handled generalizing bound with
  | stay state => exact ⟨bound, visited⟩
  | next inside rest ih => exact ih (visited.handle (Array.getElem?_eq_getElem inside))

/-- A run behind the last line of its text. -/
structure Ends (job : Job) (last : Visit) : Prop where
  visited : job.Visits last
  behind : last.lines.size ≤ last.state.cursor

/-- A run that is visited is visited at the end of its text. -/
theorem ends_over_lines {visit : Visit} (visited : job.Visits visit) :
    ∃ bound, job.Ends
      { visit with state := visit.state.overLines (job.setting visit) visit.lines, bound } := by
  obtain ⟨count, handled⟩ := handles_over_lines (job.setting visit) visit.lines visit.state
  obtain ⟨bound, further⟩ := visits_of_handles handled visited
  exact ⟨bound, further, over_lines_outside _ _ _⟩

/-- A source ends in a state that is visited, except that what is open is reported. -/
theorem final_state_visited (job : Job) :
    ∃ last, job.Ends last ∧ last.depth = 0 ∧ last.file = none ∧
      Preprocessor.finalState job.options job.files job.bindings job.substitution job.text =
        last.state.close (job.setting last) := by
  obtain ⟨bound, ends⟩ := ends_over_lines (Visits.start : job.Visits job.start)
  exact ⟨_, ends, rfl, rfl, rfl⟩

/-- So does a file that a line includes: the line inserts the outcome of such a state. -/
theorem inserted_state_visited {visit : Visit} {line path text : String}
    (visited : job.Visits visit) (here : visit.lines[visit.state.cursor]? = some line)
    (called : call? job.options job.files visit.depth visit.state line = some (path, text)) :
    ∃ last, job.Ends last ∧ last.depth = visit.depth + 1 ∧ last.file = some path ∧
      (job.handle visit line).state =
        visit.state.advance.insert
          ((job.setting last).outcome (last.state.close (job.setting last))) := by
  obtain ⟨bound, ends⟩ := ends_over_lines (visited.enter here called)
  refine ⟨_, ends, rfl, rfl, ?_⟩
  simp only [handle, setting, enter, step_of_call called, Setting.overText, at_depth_options]

end Job

end LineTemplate

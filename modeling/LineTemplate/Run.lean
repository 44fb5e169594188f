import LineTemplate.Run.Step

/-!
Runs over whole texts. A run handles the line at its cursor until the cursor is behind the last
line, and then reports what is still open. Every run ends: a step either moves on by one line or
starts one of a limited number of passes.
-/

namespace LineTemplate.Run

/-- Handles lines until there is none at the cursor. -/
def State.overLines (setting : Setting) (lines : Array String) (state : State) : State :=
  if _inside : state.cursor < lines.size then
    State.overLines setting lines (state.step setting lines[state.cursor])
  else state
termination_by state.stepsLeft lines.size
decreasing_by exact state.steps_left_step setting _ lines.size _inside

/-- Reports each block and loop that is still open, at the line that opened it. -/
def State.close (setting : Setting) (state : State) : State :=
  state.openings.foldl
    (fun closed opening =>
      closed.record { file := setting.file, line := opening.line, error := opening.error })
    state

/-- The state at the end of a text. -/
def Setting.overText (setting : Setting) (bindings : Variables) (markers : Markers)
    (text : String) : State :=
  let start := State.start bindings markers setting.options.maximalPasses
  (start.overLines setting (Text.splitLines text).toArray).close setting

def Setting.outcome (setting : Setting) (state : State) : Outcome :=
  { output := String.intercalate setting.options.lineEnding.text state.emitted.toList
    diagnostics := state.diagnostics }

/-- How files are included when so many levels of inclusion are left. -/
def inclusionWithin (options : Options) (files : Files) : Nat → Option Inclusion
  | 0 => none
  | levels + 1 =>
      some fun path text bindings markers =>
        let setting : Setting :=
          { options, files, file := some path, inclusion := inclusionWithin options files levels }
        setting.outcome (setting.overText bindings markers text)

/-- The setting of a run that is not an inclusion. -/
def Setting.top (options : Options) (files : Files) : Setting :=
  { options
    files
    file := none
    inclusion := inclusionWithin options files options.maximalIncludeDepth }

end LineTemplate.Run

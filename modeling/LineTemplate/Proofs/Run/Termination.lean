import LineTemplate.Proofs.Run.Handling

/-!
Every run ends. A run and the runs it includes are one machine here: a row of runs under way, of
which the first handles a line at a time, starts a further run at a line that includes a file, and
hands its outcome to the next run in the row when its text is done. Files may include each other or
themselves. The machine nevertheless stops with what the run over the text yields: the row never
gets longer than the limit of inclusions allows, and each run in it handles its text at most once
more than there may be passes of loops.
-/

namespace LineTemplate.Run

/-- A run under way, between two lines of its text. -/
structure Activation where
  file : Option String
  lines : Array String
  state : State
  handled : Nat

inductive Machine where
  /-- The callers, innermost first, wait for the current run. -/
  | running (current : Activation) (callers : List Activation)
  | finished (state : State)

namespace Activation

def start (options : Options) (file : Option String) (bindings : Variables) (markers : Markers)
    (text : String) : Activation :=
  { file
    lines := (Text.splitLines text).toArray
    state := State.start bindings markers options.maximalPasses
    handled := 0 }

def proceed (activation : Activation) (state : State) : Activation :=
  { activation with state, handled := activation.handled + 1 }

def receive (activation : Activation) (outcome : Outcome) : Activation :=
  { activation with state := activation.state.insert outcome }

end Activation

/-- The path and text of the file that a line includes, if it starts a run at this depth. -/
def call? (options : Options) (files : Files) (depth : Nat) (state : State) (line : String) :
    Option (String × String) :=
  let name := Setting.fileName (Line.argument line)
  let path := joinPath options.sourceFolder name
  if Directive.ofLine? line = some .insertFile ∧ state.isActive ∧ !name.isEmpty ∧
      depth < options.maximalIncludeDepth then
    match files path with
    | .regular (.ok text) => some (path, Text.withoutFinalFeed text)
    | _ => none
  else none

/-- The setting in which the machine handles a line. It starts runs by itself, so an inclusion is
only there to tell that one may be started. -/
def lineSetting (options : Options) (files : Files) (depth : Nat) (file : Option String) : Setting :=
  { options
    files
    file
    inclusion :=
      if depth < options.maximalIncludeDepth then
        some fun _ _ _ _ => { output := "", diagnostics := #[] }
      else none }

namespace Machine

def start (options : Options) (bindings : Variables) (markers : Markers) (text : String) :
    Machine :=
  .running (.start options none bindings markers text) []

def advance (options : Options) (files : Files) : Machine → Machine
  | .finished state => .finished state
  | .running current callers =>
      let setting := lineSetting options files callers.length current.file
      match current.lines[current.state.cursor]? with
      | some line =>
          match call? options files callers.length current.state line with
          | some (path, text) =>
              .running
                (.start options (some path) current.state.bindings current.state.markers text)
                (current.proceed current.state.advance :: callers)
          | none => .running (current.proceed (current.state.step setting line)) callers
      | none =>
          let closed := current.state.close setting
          match callers with
          | [] => .finished closed
          | caller :: outer => .running (caller.receive (setting.outcome closed)) outer

def after (options : Options) (files : Files) : Nat → Machine → Machine
  | 0, machine => machine
  | count + 1, machine => after options files count (machine.advance options files)

/-- The runs under way, innermost first. -/
def runs : Machine → List Activation
  | .running current callers => current :: callers
  | .finished _ => []

end Machine

variable {options : Options} {files : Files} {depth : Nat} {file : Option String} {state : State}
  {line : String}

/-- The setting of a run at the given depth of inclusion. -/
def Setting.atDepth (options : Options) (files : Files) (depth : Nat) (file : Option String) :
    Setting :=
  { options, files, file,
    inclusion := inclusionWithin options files (options.maximalIncludeDepth - depth) }

theorem at_depth_options : (Setting.atDepth options files depth file).options = options := rfl

theorem top_eq_at_depth : Setting.top options files = .atDepth options files 0 none := rfl

theorem inclusion_of_deepest (deepest : options.maximalIncludeDepth ≤ depth) :
    (Setting.atDepth options files depth file).inclusion = none := by
  simp only [Setting.atDepth, Nat.sub_eq_zero_of_le deepest, inclusionWithin]

theorem inclusion_of_lt (above : depth < options.maximalIncludeDepth) :
    (Setting.atDepth options files depth file).inclusion =
      some fun path text bindings markers =>
        let setting := Setting.atDepth options files (depth + 1) (some path)
        setting.outcome (setting.overText bindings markers text) := by
  have levels : options.maximalIncludeDepth - depth =
      options.maximalIncludeDepth - (depth + 1) + 1 := by omega
  simp only [Setting.atDepth, levels, inclusionWithin]

theorem include_file_of_readable {setting : Setting} {inclusion : Inclusion} {argument text : String}
    (named : (Setting.fileName argument).isEmpty = false)
    (found : setting.files (joinPath setting.options.sourceFolder (Setting.fileName argument)) =
      .regular (.ok text))
    (ready : setting.inclusion = some inclusion) :
    setting.includeFile state argument =
      .ok (inclusion (joinPath setting.options.sourceFolder (Setting.fileName argument))
        (Text.withoutFinalFeed text) state.bindings state.markers) := by
  simp [Setting.includeFile, named, found, ready, FileEntry.isRegular, FileEntry.read]

theorem include_file_of_unreadable {setting : Setting} {inclusion : Inclusion} {argument : String}
    {error : FileError} (named : (Setting.fileName argument).isEmpty = false)
    (found : setting.files (joinPath setting.options.sourceFolder (Setting.fileName argument)) =
      .regular (.error error))
    (ready : setting.inclusion = some inclusion) :
    setting.includeFile state argument =
      .error (.unreadable (joinPath setting.options.sourceFolder (Setting.fileName argument))
        error) := by
  simp [Setting.includeFile, named, found, ready, FileEntry.isRegular, FileEntry.read]

/-- A line that starts no run needs no inclusion. -/
theorem include_file_of_no_call (spelled : Directive.ofLine? line = some .insertFile)
    (active : state.isActive = true) (idle : call? options files depth state line = none) :
    (Setting.atDepth options files depth file).includeFile state (Line.argument line) =
      (lineSetting options files depth file).includeFile state (Line.argument line) := by
  by_cases above : depth < options.maximalIncludeDepth
  · cases named : (Setting.fileName (Line.argument line)).isEmpty with
    | true => simp only [Setting.includeFile, named, if_true]
    | false =>
        cases found : files (joinPath options.sourceFolder
            (Setting.fileName (Line.argument line))) with
        | unreadable error =>
            simp [Setting.includeFile, Setting.atDepth, lineSetting, named, found,
              FileEntry.isRegular]
        | regular content =>
            cases content with
            | error error =>
                have ready : (lineSetting options files depth file).inclusion =
                    some fun _ _ _ _ => { output := "", diagnostics := #[] } := if_pos above
                exact (include_file_of_unreadable named found (inclusion_of_lt above)).trans
                  (include_file_of_unreadable named found ready).symm
            | ok text => simp [call?, spelled, active, above, named, found] at idle
  · have deepest : (Setting.atDepth options files depth file).inclusion = none :=
      inclusion_of_deepest (Nat.not_lt.mp above)
    simp only [Setting.includeFile, deepest, lineSetting, if_neg above]
    rfl

theorem step_of_no_call (idle : call? options files depth state line = none) :
    state.step (.atDepth options files depth file) line =
      state.step (lineSetting options files depth file) line := by
  cases read : Directive.ofLine? line with
  | none => simp only [State.step, read]; rfl
  | some directive =>
      have same : State.perform (.atDepth options files depth file) directive line
          (state.cursor + 1) state.advance =
            State.perform (lineSetting options files depth file) directive line
              (state.cursor + 1) state.advance := by
        cases directive
        case insertFile =>
          simp only [State.perform, State.includeFile]
          split
          · next active => rw [include_file_of_no_call read active idle]
          · rfl
        all_goals rfl
      simp only [State.step, read, same]
      rfl

theorem depth_lt_of_call {entry : String × String}
    (called : call? options files depth state line = some entry) :
    depth < options.maximalIncludeDepth := by
  simp only [call?] at called
  split at called
  · next starts => exact starts.2.2.2
  · simp at called

theorem found_of_call {path text : String}
    (called : call? options files depth state line = some (path, text)) :
    ∃ content, files path = .regular (.ok content) ∧ text = Text.withoutFinalFeed content := by
  simp only [call?] at called
  split at called
  · split at called
    · next content found =>
        obtain ⟨rfl, rfl⟩ := Prod.mk.inj (Option.some.inj called)
        exact ⟨content, found, rfl⟩
    · simp at called
  · simp at called

theorem step_of_call {path text : String}
    (called : call? options files depth state line = some (path, text)) :
    state.step (.atDepth options files depth file) line =
      state.advance.insert
        ((Setting.atDepth options files (depth + 1) (some path)).outcome
          ((Setting.atDepth options files (depth + 1) (some path)).overText state.bindings
            state.markers text)) := by
  have above := depth_lt_of_call called
  simp only [call?] at called
  split at called
  · next starts =>
      obtain ⟨spelled, active, named, _⟩ := starts
      rw [Bool.not_eq_true'] at named
      have moved : state.advance.isActive = true := active
      split at called
      · next found =>
          obtain ⟨rfl, rfl⟩ := Prod.mk.inj (Option.some.inj called)
          have included : (Setting.atDepth options files depth file).includeFile state.advance
              (Line.argument line) = _ :=
            include_file_of_readable named found (inclusion_of_lt above)
          simp only [State.step, spelled, State.perform, moved, if_true, State.includeFile, included]
          rfl
      · simp at called
  · simp at called

namespace Machine

variable {current : Activation} {callers : List Activation}

theorem after_add (first second : Nat) (machine : Machine) :
    machine.after options files (first + second) =
      (machine.after options files first).after options files second := by
  induction first generalizing machine with
  | zero => rw [Nat.zero_add]; rfl
  | succ first ih =>
      rw [Nat.add_right_comm]
      exact ih (machine.advance options files)

theorem advance_of_no_call (here : current.lines[current.state.cursor]? = some line)
    (idle : call? options files callers.length current.state line = none) :
    (running current callers).advance options files =
      running (current.proceed
        (current.state.step (.atDepth options files callers.length current.file) line))
        callers := by
  simp only [advance, here, idle, step_of_no_call idle]

theorem advance_of_call {path text : String}
    (here : current.lines[current.state.cursor]? = some line)
    (called : call? options files callers.length current.state line = some (path, text)) :
    (running current callers).advance options files =
      running (.start options (some path) current.state.bindings current.state.markers text)
        (current.proceed current.state.advance :: callers) := by
  simp only [advance, here, called]

theorem advance_of_outside {caller : Activation}
    (outside : current.lines.size ≤ current.state.cursor) :
    (running current (caller :: callers)).advance options files =
      running (caller.receive
        ((Setting.atDepth options files (callers.length + 1) current.file).outcome
          (current.state.close (.atDepth options files (callers.length + 1) current.file))))
        callers := by
  simp only [advance, Array.getElem?_eq_none outside]
  rfl

theorem advance_of_last (outside : current.lines.size ≤ current.state.cursor) :
    (running current []).advance options files =
      finished (current.state.close (.atDepth options files 0 current.file)) := by
  simp only [advance, Array.getElem?_eq_none outside]
  rfl

/-- The current run gets to the end of its text, with its callers as they were. -/
def Ends (options : Options) (files : Files) (current : Activation) (callers : List Activation) :
    Prop :=
  ∃ count handled, (running current callers).after options files count =
    running
      { current with
        state := current.state.overLines (.atDepth options files callers.length current.file)
          current.lines
        handled }
      callers

/-- The current run gets behind the line at its cursor, with its callers as they were. -/
def Passes (options : Options) (files : Files) (current : Activation) (callers : List Activation)
    (line : String) : Prop :=
  ∃ count, (running current callers).after options files count =
    running
      (current.proceed
        (current.state.step (.atDepth options files callers.length current.file) line)) callers

theorem ends_of_outside (outside : current.lines.size ≤ current.state.cursor) :
    Ends options files current callers := by
  refine ⟨0, current.handled, ?_⟩
  rw [over_lines_of_outside outside]
  rfl

theorem ends_of_passes (here : current.lines[current.state.cursor]? = some line)
    (passes : Passes options files current callers line)
    (ends : Ends options files
      (current.proceed
        (current.state.step (.atDepth options files callers.length current.file) line)) callers) :
    Ends options files current callers := by
  obtain ⟨first, passes⟩ := passes
  obtain ⟨rest, handled, ends⟩ := ends
  refine ⟨first + rest, handled, ?_⟩
  rw [after_add, passes, ends, over_lines_of_line here]
  simp only [Activation.proceed]

theorem passes_of_call {path text : String}
    (here : current.lines[current.state.cursor]? = some line)
    (called : call? options files callers.length current.state line = some (path, text))
    (ends : Ends options files
      (.start options (some path) current.state.bindings current.state.markers text)
      (current.proceed current.state.advance :: callers)) :
    Passes options files current callers line := by
  obtain ⟨count, handled, ends⟩ := ends
  refine ⟨count + 1 + 1, ?_⟩
  rw [after, advance_of_call here called, after_add, ends, step_of_call called, after, after,
    advance_of_outside (over_lines_outside _ _ _)]
  simp only [Activation.proceed, Activation.receive, Activation.start, Setting.overText,
    List.length_cons, at_depth_options]

/-- Starting a run uses up a level of inclusion; handling a line uses up one of the steps that the
text still takes. -/
theorem ends_always (options : Options) (files : Files) (current : Activation)
    (callers : List Activation) : Ends options files current callers := by
  cases here : current.lines[current.state.cursor]? with
  | none => exact ends_of_outside (Array.getElem?_eq_none_iff.mp here)
  | some line =>
      have inside := (Array.getElem?_eq_some_iff.mp here).1
      have fewer := current.state.steps_left_step
        (.atDepth options files callers.length current.file) line current.lines.size inside
      refine ends_of_passes here ?_ (ends_always options files _ callers)
      cases called : call? options files callers.length current.state line with
      | none => exact ⟨1, by rw [after, after, advance_of_no_call here called]⟩
      | some entry =>
          obtain ⟨path, text⟩ := entry
          have above := depth_lt_of_call called
          exact passes_of_call here called (ends_always options files _ _)
termination_by (options.maximalIncludeDepth - callers.length, current.state.stepsLeft current.lines.size)
decreasing_by
  · exact Prod.Lex.left _ _ (by simp only [List.length_cons]; omega)
  · simp only [Activation.proceed]
    exact Prod.Lex.right _ fewer

end Machine

theorem State.steps_left_advance {size : Nat} (state : State) (inside : state.cursor < size) :
    state.advance.stepsLeft size < state.stepsLeft size := by
  simp only [stepsLeft, advance]
  omega

namespace Activation

/-- What was handled and what is still left fit into the bound on the steps of the text. -/
def Within (options : Options) (activation : Activation) : Prop :=
  activation.handled + activation.state.stepsLeft activation.lines.size ≤
    activation.lines.size * (options.maximalPasses + 1)

theorem within_start (path : Option String) (bindings : Variables) (markers : Markers)
    (text : String) : (start options path bindings markers text).Within options := by
  have steps := State.steps_left_start bindings markers options.maximalPasses
    (Text.splitLines text).toArray.size
  simp only [Within, start, steps, Nat.zero_add, Nat.le_refl]

theorem within_proceed {activation : Activation} {after : State}
    (fewer : after.stepsLeft activation.lines.size <
      activation.state.stepsLeft activation.lines.size)
    (within : activation.Within options) : (activation.proceed after).Within options := by
  simp only [Within, proceed] at within ⊢
  omega

theorem within_receive {activation : Activation} (outcome : Outcome)
    (within : activation.Within options) : (activation.receive outcome).Within options :=
  within

end Activation

namespace Machine

/-- Few enough runs are under way, and each is within the bound on its steps. -/
def Bounded (options : Options) (machine : Machine) : Prop :=
  machine.runs.length ≤ options.maximalIncludeDepth + 1 ∧
    ∀ run ∈ machine.runs, run.Within options

theorem bounded_start (options : Options) (bindings : Variables) (markers : Markers)
    (text : String) : (start options bindings markers text).Bounded options := by
  refine ⟨Nat.le_add_left 1 _, ?_⟩
  intro run member
  rw [List.mem_singleton.mp member]
  exact Activation.within_start none bindings markers text

theorem bounded_advance {machine : Machine} (bounded : machine.Bounded options) :
    (machine.advance options files).Bounded options := by
  cases machine with
  | finished state => exact bounded
  | running current callers =>
      obtain ⟨few, within⟩ := bounded
      simp only [runs, List.length_cons, List.forall_mem_cons] at few within
      obtain ⟨withinCurrent, withinCallers⟩ := within
      cases here : current.lines[current.state.cursor]? with
      | some line =>
          have inside := (Array.getElem?_eq_some_iff.mp here).1
          cases called : call? options files callers.length current.state line with
          | some entry =>
              obtain ⟨path, text⟩ := entry
              have above := depth_lt_of_call called
              have fewer := current.state.steps_left_advance inside
              rw [advance_of_call here called]
              refine ⟨by simp only [runs, List.length_cons]; omega, ?_⟩
              simp only [runs, List.forall_mem_cons]
              exact ⟨Activation.within_start _ _ _ _,
                Activation.within_proceed fewer withinCurrent, withinCallers⟩
          | none =>
              have fewer := current.state.steps_left_step
                (.atDepth options files callers.length current.file) line _ inside
              rw [advance_of_no_call here called]
              refine ⟨few, ?_⟩
              simp only [runs, List.forall_mem_cons]
              exact ⟨Activation.within_proceed fewer withinCurrent, withinCallers⟩
      | none =>
          have outside := Array.getElem?_eq_none_iff.mp here
          cases callers with
          | nil =>
              rw [advance_of_last outside]
              exact ⟨Nat.zero_le _, fun run member => absurd member (List.not_mem_nil)⟩
          | cons caller outer =>
              rw [advance_of_outside outside]
              simp only [List.length_cons, List.forall_mem_cons] at few withinCallers
              refine ⟨by simp only [runs, List.length_cons]; omega, ?_⟩
              simp only [runs, List.forall_mem_cons]
              exact ⟨Activation.within_receive _ withinCallers.1, withinCallers.2⟩

theorem bounded_after {machine : Machine} (bounded : machine.Bounded options) (count : Nat) :
    (machine.after options files count).Bounded options := by
  induction count generalizing machine with
  | zero => exact bounded
  | succ count ih => exact ih (bounded_advance bounded)

/-- The machine stops, with what the run over the text yields. On the way there are never more runs
than the limit of inclusions allows, so none starts at a greater depth, and no run handles more
lines than its text has times one more than the limit of passes. -/
theorem stops_within_bounds (options : Options) (files : Files) (bindings : Variables)
    (markers : Markers) (text : String) :
    (∃ count, (start options bindings markers text).after options files count =
        finished ((Setting.top options files).overText bindings markers text)) ∧
      ∀ count,
        let under := ((start options bindings markers text).after options files count).runs
        under.length ≤ options.maximalIncludeDepth + 1 ∧
          ∀ run ∈ under, run.handled ≤ run.lines.size * (options.maximalPasses + 1) := by
  constructor
  · obtain ⟨count, handled, ended⟩ :=
      ends_always options files (.start options none bindings markers text) []
    refine ⟨count + 1, ?_⟩
    rw [after_add, start, ended, after, after, advance_of_last (over_lines_outside _ _ _),
      top_eq_at_depth]
    simp only [Activation.start, Setting.overText, List.length_nil, at_depth_options]
  · intro count
    obtain ⟨few, within⟩ :=
      bounded_after (bounded_start options bindings markers text) count
    exact ⟨few, fun run member => Nat.le_of_add_right_le (within run member)⟩

end Machine

end LineTemplate.Run

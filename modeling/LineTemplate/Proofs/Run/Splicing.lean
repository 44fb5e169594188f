import LineTemplate.Proofs.Run.Inclusion

/-!
The lines that a run puts into the output. The output of an included file goes into that of the run
around it as one piece, but a piece that was joined from lines is joined with what stands around it
as these lines are. So the output of a run is joined from one list of lines, in which those of each
included file stand in place of the line that includes it. Only a file without any line for the
output is not spliced: its piece is the empty text, which is joined as an empty line.
-/

namespace LineTemplate

/-- Joined with the separator, the two lists give the same text, whatever stands around them. -/
def JoinAlike (separator : String) (first second : List String) : Prop :=
  ∀ above below : List String,
    String.intercalate separator (above ++ first ++ below) =
      String.intercalate separator (above ++ second ++ below)

section Joining

variable {separator : String} {first second third fourth : List String}

theorem join_alike_refl (separator : String) (lines : List String) :
    JoinAlike separator lines lines :=
  fun _ _ => rfl

theorem join_alike_trans (front : JoinAlike separator first second)
    (back : JoinAlike separator second third) : JoinAlike separator first third :=
  fun above below => (front above below).trans (back above below)

theorem join_alike_append (front : JoinAlike separator first second)
    (back : JoinAlike separator third fourth) :
    JoinAlike separator (first ++ third) (second ++ fourth) := by
  intro above below
  have inFront := front above (third ++ below)
  have behind := back (above ++ second) below
  simp only [List.append_assoc] at inFront behind ⊢
  exact inFront.trans behind

theorem join_of_join_alike (alike : JoinAlike separator first second) :
    String.intercalate separator first = String.intercalate separator second := by
  simpa using alike [] []

/-- Lines that were joined already are joined with what stands around them as the lines are. -/
theorem join_alike_of_joined (nonempty : first ≠ []) :
    JoinAlike separator [String.intercalate separator first] first := by
  have inFront (below : List String) :
      String.intercalate separator (String.intercalate separator first :: below) =
        String.intercalate separator (first ++ below) := by
    cases below with
    | nil => rw [String.intercalate_singleton, List.append_nil]
    | cons line rest =>
        rw [String.intercalate_cons_cons,
          String.intercalate_append_of_ne_nil nonempty (List.cons_ne_nil line rest)]
  intro above below
  rw [List.append_assoc, List.append_assoc, List.singleton_append]
  -- Only lines that stand above put a separator in front.
  cases above with
  | nil => exact inFront below
  | cons line rest =>
      have apart : first ++ below ≠ [] := by simp [nonempty]
      rw [String.intercalate_append_of_ne_nil (List.cons_ne_nil line rest) apart,
        String.intercalate_append_of_ne_nil (List.cons_ne_nil line rest) (List.cons_ne_nil _ below),
        inFront below]

end Joining

namespace Run

/-- What stands for the lines of an included file in the lines of the run that includes it. -/
def spliced (lines : List String) : List String :=
  if lines.isEmpty then [""] else lines

theorem spliced_of_nonempty {lines : List String} (nonempty : lines ≠ []) :
    spliced lines = lines := by
  simp [spliced, nonempty]

theorem spliced_not_empty (lines : List String) : spliced lines ≠ [] := by
  cases lines with
  | nil => exact List.cons_ne_nil "" []
  | cons line rest => exact List.cons_ne_nil line rest

theorem join_alike_spliced (separator : String) (lines : List String) :
    JoinAlike separator [String.intercalate separator lines] (spliced lines) := by
  cases lines with
  | nil => exact join_alike_refl separator [""]
  | cons line rest => exact join_alike_of_joined (List.cons_ne_nil line rest)

/-- The lines for the output of a run over an included file. -/
abbrev Expansion := String → String → Variables → Markers → List String

namespace State

/-- What a content line puts into the output. -/
def contentLine? (setting : Setting) (line : String) (state : State) : Option String :=
  if Directive.ofLine? line = none ∧ state.isActive then
    some (setting.content state.markers line)
  else none

/-- The lines that the line at the cursor puts into the output. -/
def linesOf (setting : Setting) (depth : Nat) (expansion : Expansion) (line : String)
    (state : State) : List String :=
  (call? setting.options setting.files depth state line).elim
    (state.contentLine? setting line).toList
    fun entry => spliced (expansion entry.1 entry.2 state.bindings state.markers)

/-- The lines that the rest of a text puts into the output. -/
def outputLines (setting : Setting) (depth : Nat) (expansion : Expansion) (lines : Array String)
    (state : State) : List String :=
  if _inside : state.cursor < lines.size then
    state.linesOf setting depth expansion lines[state.cursor] ++
      outputLines setting depth expansion lines (state.step setting lines[state.cursor])
  else []
termination_by state.stepsLeft lines.size
decreasing_by exact state.steps_left_step setting _ lines.size _inside

end State

/-- How included files are expanded at the given depth. -/
def expansionBelow (options : Options) (files : Files) (depth : Nat) : Expansion :=
  fun path text bindings markers =>
    if _above : depth < options.maximalIncludeDepth then
      (State.start bindings markers options.maximalPasses).outputLines
        (.atDepth options files (depth + 1) (some path)) (depth + 1)
        (expansionBelow options files (depth + 1)) (Text.splitLines text).toArray
    else []
termination_by options.maximalIncludeDepth - depth

namespace State

/-- The lines that the rest of a text puts into the output, those of each included file in place of
the line that includes it. -/
def linesFrom (options : Options) (files : Files) (depth : Nat) (file : Option String)
    (lines : Array String) (state : State) : List String :=
  state.outputLines (.atDepth options files depth file) depth (expansionBelow options files depth)
    lines

/-- The lines that a text puts into the output of a run that starts with it. -/
def textLines (options : Options) (files : Files) (depth : Nat) (file : Option String)
    (bindings : Variables) (markers : Markers) (text : String) : List String :=
  (start bindings markers options.maximalPasses).linesFrom options files depth file
    (Text.splitLines text).toArray

variable {options : Options} {files : Files} {depth : Nat} {file : Option String}
  {lines : Array String} {line : String} {state : State}

theorem lines_from_of_outside (outside : lines.size ≤ state.cursor) :
    state.linesFrom options files depth file lines = [] := by
  rw [linesFrom, outputLines, dif_neg (Nat.not_lt.mpr outside)]

theorem lines_from_of_idle (here : lines[state.cursor]? = some line)
    (idle : call? options files depth state line = none) :
    state.linesFrom options files depth file lines =
      (state.contentLine? (.atDepth options files depth file) line).toList ++
        (state.step (.atDepth options files depth file) line).linesFrom options files depth file
          lines := by
  obtain ⟨inside, rfl⟩ := Array.getElem?_eq_some_iff.mp here
  rw [linesFrom, outputLines, dif_pos inside, linesOf]
  simp only [Setting.atDepth, idle, Option.elim]
  rfl

theorem lines_from_of_call (file : Option String) {path text : String}
    (here : lines[state.cursor]? = some line)
    (called : call? options files depth state line = some (path, text)) :
    state.linesFrom options files depth file lines =
      spliced (textLines options files (depth + 1) (some path) state.bindings state.markers text) ++
        (state.step (.atDepth options files depth file) line).linesFrom options files depth file
          lines := by
  obtain ⟨inside, rfl⟩ := Array.getElem?_eq_some_iff.mp here
  rw [linesFrom, outputLines, dif_pos inside, linesOf]
  simp only [Setting.atDepth, called, Option.elim]
  rw [expansionBelow, dif_pos (depth_lt_of_call called)]
  rfl

/-- A line that starts no run puts itself into the output or nothing. -/
theorem emitted_of_idle (idle : call? options files depth state line = none) :
    (state.step (.atDepth options files depth file) line).emitted.toList =
      state.emitted.toList ++
        (state.contentLine? (.atDepth options files depth file) line).toList := by
  cases spelled : Directive.ofLine? line with
  | none =>
      have moved : state.advance.isActive = state.isActive := rfl
      simp only [step, contentLine?, spelled, moved, true_and]
      split
      · simp [emit, advance]
      · simp [advance]
  | some directive =>
      have kept := (output_of_perform file spelled idle (state.cursor + 1)).1
      rw [step_of_spelled spelled, emitted_settle, kept]
      simp [contentLine?, spelled]

theorem emitted_over_text (bindings : Variables) (markers : Markers) (text : String) :
    ((Setting.atDepth options files depth file).overText bindings markers text).emitted =
      ((start bindings markers options.maximalPasses).overLines (.atDepth options files depth file)
        (Text.splitLines text).toArray).emitted := by
  rw [Setting.overText, close_eq]
  rfl

/-- A line that includes a file emits one piece. -/
theorem emitted_of_call (file : Option String) {path text : String}
    (called : call? options files depth state line = some (path, text)) :
    (state.step (.atDepth options files depth file) line).emitted.toList =
      state.emitted.toList ++
        [String.intercalate options.lineEnding.text
          ((Setting.atDepth options files (depth + 1) (some path)).overText state.bindings
            state.markers text).emitted.toList] := by
  rw [step_of_call called]
  simp only [insert, Setting.outcome, at_depth_options, advance, Array.toList_push]

/-- A run emits further pieces exactly if there are further lines for its output. -/
theorem emitted_over_lines (options : Options) (files : Files) (depth : Nat) (file : Option String)
    (lines : Array String) (state : State) :
    ∃ pieces,
      (state.overLines (.atDepth options files depth file) lines).emitted.toList =
        state.emitted.toList ++ pieces ∧
      (pieces = [] ↔ state.linesFrom options files depth file lines = []) := by
  fun_induction State.overLines (.atDepth options files depth file) lines state with
  | case1 state inside ih =>
      obtain ⟨pieces, emitted, none⟩ := ih
      have here : lines[state.cursor]? = some lines[state.cursor] :=
        Array.getElem?_eq_getElem inside
      cases called : call? options files depth state lines[state.cursor] with
      | none =>
          refine ⟨(state.contentLine? (.atDepth options files depth file)
            lines[state.cursor]).toList ++ pieces, ?_, ?_⟩
          · refine emitted.trans ?_
            rw [emitted_of_idle called, List.append_assoc]
          · rw [lines_from_of_idle here called, List.append_eq_nil_iff, List.append_eq_nil_iff,
              none]
      | some entry =>
          obtain ⟨path, text⟩ := entry
          -- There is a piece even where the run over the file emits nothing.
          have one := emitted_of_call file called
          generalize String.intercalate _ _ = piece at one
          refine ⟨[piece] ++ pieces, emitted.trans ?_, ?_⟩
          · rw [one, List.append_assoc]
          · rw [lines_from_of_call file here called]
            simp [spliced_not_empty]
  | case2 state outside =>
      refine ⟨[], (List.append_nil _).symm, ?_⟩
      simp [lines_from_of_outside (Nat.not_lt.mp outside)]

/-- A text that emits nothing has no line for the output. -/
theorem text_lines_eq_nil_iff {bindings : Variables} {markers : Markers} {text : String} :
    textLines options files depth file bindings markers text = [] ↔
      ((Setting.atDepth options files depth file).overText bindings markers text).emitted =
        #[] := by
  obtain ⟨pieces, emitted, none⟩ := emitted_over_lines options files depth file
    (Text.splitLines text).toArray (start bindings markers options.maximalPasses)
  have only : ((Setting.atDepth options files depth file).overText bindings markers
      text).emitted.toList = pieces := by
    rw [emitted_over_text, emitted]
    rfl
  rw [textLines, ← none, ← only, Array.toList_eq_nil_iff]

/-- The piece that an included file puts into the output is joined as the lines of its run are. -/
theorem join_alike_of_call (file : Option String) {path text : String}
    (called : call? options files depth state line = some (path, text))
    (inner : JoinAlike options.lineEnding.text
      ((start state.bindings state.markers options.maximalPasses).overLines
        (.atDepth options files (depth + 1) (some path))
        (Text.splitLines text).toArray).emitted.toList
      (textLines options files (depth + 1) (some path) state.bindings state.markers text)) :
    JoinAlike options.lineEnding.text
      (state.step (.atDepth options files depth file) line).emitted.toList
      (state.emitted.toList ++
        spliced (textLines options files (depth + 1) (some path) state.bindings state.markers
          text)) := by
  rw [emitted_of_call file called, emitted_over_text, join_of_join_alike inner]
  exact join_alike_append (join_alike_refl _ _) (join_alike_spliced _ _)

/-- The pieces that a run puts into the output are joined as the lines of the text and of the files
it includes. Expanding a line that includes a file uses up a level of inclusion; handling a line
uses up one of the steps that the text still takes. -/
theorem join_alike_over_lines (options : Options) (files : Files) (depth : Nat)
    (file : Option String) (lines : Array String) (state : State) :
    JoinAlike options.lineEnding.text
      (state.overLines (.atDepth options files depth file) lines).emitted.toList
      (state.emitted.toList ++ state.linesFrom options files depth file lines) := by
  cases here : lines[state.cursor]? with
  | none =>
      have outside := Array.getElem?_eq_none_iff.mp here
      rw [over_lines_of_outside outside, lines_from_of_outside outside, List.append_nil]
      exact join_alike_refl _ _
  | some line =>
      have inside := (Array.getElem?_eq_some_iff.mp here).1
      have fewer := state.steps_left_step (.atDepth options files depth file) line lines.size inside
      have rest := join_alike_over_lines options files depth file lines
        (state.step (.atDepth options files depth file) line)
      rw [over_lines_of_line here]
      refine join_alike_trans rest ?_
      cases called : call? options files depth state line with
      | none =>
          rw [lines_from_of_idle here called, ← List.append_assoc, ← emitted_of_idle called]
          exact join_alike_refl _ _
      | some entry =>
          obtain ⟨path, text⟩ := entry
          have above := depth_lt_of_call called
          rw [lines_from_of_call file here called, ← List.append_assoc]
          refine join_alike_append ?_ (join_alike_refl _ _)
          exact join_alike_of_call file called (join_alike_over_lines options files (depth + 1)
            (some path) (Text.splitLines text).toArray
            (start state.bindings state.markers options.maximalPasses))
termination_by (options.maximalIncludeDepth - depth, state.stepsLeft lines.size)
decreasing_by
  · exact Prod.Lex.right _ fewer
  · exact Prod.Lex.left _ _ (by omega)

/-- A line that includes a file adds what is joined as the lines of the file. -/
theorem join_alike_step_of_call (file : Option String) {path text : String}
    (called : call? options files depth state line = some (path, text)) :
    JoinAlike options.lineEnding.text
      (state.step (.atDepth options files depth file) line).emitted.toList
      (state.emitted.toList ++
        spliced (textLines options files (depth + 1) (some path) state.bindings state.markers
          text)) :=
  join_alike_of_call file called (join_alike_over_lines options files (depth + 1) (some path)
    (Text.splitLines text).toArray (start state.bindings state.markers options.maximalPasses))

/-- What a run over a text emits is joined as the lines that the text puts into the output. -/
theorem join_alike_over_text (bindings : Variables) (markers : Markers) (text : String) :
    JoinAlike options.lineEnding.text
      ((Setting.atDepth options files depth file).overText bindings markers text).emitted.toList
      (textLines options files depth file bindings markers text) := by
  rw [emitted_over_text]
  exact join_alike_over_lines options files depth file (Text.splitLines text).toArray
    (start bindings markers options.maximalPasses)

end State

end Run

namespace Job

open Run

/-- In every active state, a line that names a file that can be read splices the lines of the file:
what is emitted behind it is joined as what was emitted before it and these lines, and so is the
output of the run, with the lines of the rest of its text. A file over which nothing is emitted is
the exception. It adds an empty line. -/
theorem included_lines_are_spliced (job : Job) (visit : Visit) {line content : String}
    (active : visit.state.isActive = true) (spelled : Directive.ofLine? line = some .insertFile)
    (named : (Setting.fileName (Line.argument line)).isEmpty = false)
    (above : visit.depth < job.options.maximalIncludeDepth)
    (found : job.files
      (joinPath job.options.sourceFolder (Setting.fileName (Line.argument line))) =
        .regular (.ok content)) :
    let state := visit.state
    let path := joinPath job.options.sourceFolder (Setting.fileName (Line.argument line))
    let text := Text.withoutFinalFeed content
    let setting := Setting.atDepth job.options job.files (visit.depth + 1) (some path)
    let ran := setting.overText state.bindings state.markers text
    let ending := job.options.lineEnding.text
    let inner := State.textLines job.options job.files (visit.depth + 1) (some path) state.bindings
      state.markers text
    let after := (job.handle visit line).state
    JoinAlike ending ran.emitted.toList inner ∧
    (ran.emitted ≠ #[] →
      JoinAlike ending after.emitted.toList (state.emitted.toList ++ inner) ∧
      (visit.lines[state.cursor]? = some line →
        JoinAlike ending (state.overLines (job.setting visit) visit.lines).emitted.toList
          (state.emitted.toList ++ inner ++
            after.linesFrom job.options job.files visit.depth visit.file visit.lines))) ∧
    (ran.emitted = #[] → inner = [] ∧ after.emitted = state.emitted.push "") := by
  intro state path text setting ran ending inner after
  have called : call? job.options job.files visit.depth state line = some (path, text) := by
    simp [call?, spelled, state, active, named, above, found, path, text]
  have handled : after =
      state.step (.atDepth job.options job.files visit.depth visit.file) line :=
    state_handle job visit line
  have none : inner = [] ↔ ran.emitted = #[] := State.text_lines_eq_nil_iff
  refine ⟨State.join_alike_over_text _ _ _, fun emits => ?_, fun silent => ?_⟩
  · have kept : spliced inner = inner := spliced_of_nonempty (mt none.mp emits)
    have emitted := State.join_alike_step_of_call visit.file called
    rw [← handled] at emitted
    refine ⟨kept ▸ emitted, fun here => ?_⟩
    have lines := State.lines_from_of_call visit.file here called
    have whole := State.join_alike_over_lines job.options job.files visit.depth visit.file
      visit.lines state
    rw [lines, ← handled, ← List.append_assoc] at whole
    exact kept ▸ whole
  · have output : (setting.outcome ran).output = "" := by
      simp only [Setting.outcome, silent, String.intercalate_nil]
    refine ⟨none.mpr silent, ?_⟩
    rw [handled, step_of_call called, State.insert, output]
    rfl

/-- A file that includes another one, in which a loop puts out more lines than are written. -/
def nestedFilesJob : Job :=
  { options := { Options.default with lineEnding := .windows }
    files := fun path =>
      if path = "outer" then .regular (.ok "<\n#INCLUDE inner\n>\n")
      else if path = "inner" then .regular (.ok "#FOR i IN 1 2\n%i%\n#ENDFOR\n")
      else .unreadable .notFound
    bindings := NameMap.empty
    substitution := .fromVariables
    text := "a\n#INCLUDE outer\nb" }

/-- The two pieces of the output, one of them for the file, are joined as five lines. -/
theorem included_lines_are_spliced_nested :
    let job := nestedFilesJob
    let visit := job.handle job.start "a"
    let line := "#INCLUDE outer"
    let path := joinPath job.options.sourceFolder (Setting.fileName (Line.argument line))
    let text := Text.withoutFinalFeed "<\n#INCLUDE inner\n>\n"
    let setting := Setting.atDepth job.options job.files (visit.depth + 1) (some path)
    let ran := setting.overText visit.state.bindings visit.state.markers text
    let inner := State.textLines job.options job.files (visit.depth + 1) (some path)
      visit.state.bindings visit.state.markers text
    job.Visits visit ∧ ran.emitted = #["<", "1\r\n2", ">"] ∧ inner = ["<", "1", "2", ">"] ∧
      (job.handle visit line).state.emitted = #["a", "<\r\n1\r\n2\r\n>"] ∧
      JoinAlike "\r\n" (job.handle visit line).state.emitted.toList
        (visit.state.emitted.toList ++ inner) ∧
      JoinAlike "\r\n"
        (visit.state.overLines (job.setting visit) visit.lines).emitted.toList
        (visit.state.emitted.toList ++ inner ++
          (job.handle visit line).state.linesFrom job.options job.files visit.depth visit.file
            visit.lines) := by
  intro job visit line path text setting ran inner
  have visited : job.Visits visit := Visits.start.handle (by decide +kernel)
  have facts : visit.state.isActive = true ∧ ran.emitted = #["<", "1\r\n2", ">"] ∧
      inner = ["<", "1", "2", ">"] ∧
      (job.handle visit line).state.emitted = #["a", "<\r\n1\r\n2\r\n>"] := by decide +kernel
  obtain ⟨active, pieces, lines, emitted⟩ := facts
  have here : visit.lines[visit.state.cursor]? = some line := by decide +kernel
  have spelled : Directive.ofLine? line = some .insertFile := by decide +kernel
  have named : (Setting.fileName (Line.argument line)).isEmpty = false := by decide +kernel
  have above : visit.depth < job.options.maximalIncludeDepth := by decide +kernel
  have isOuter : path = "outer" := by decide +kernel
  have found : job.files path = .regular (.ok "<\n#INCLUDE inner\n>\n") := by
    rw [isOuter]
    rfl
  have emits : ran.emitted ≠ #[] := by
    rw [pieces]
    decide
  obtain ⟨_, shown, _⟩ := included_lines_are_spliced job visit active spelled named above found
  exact ⟨visited, pieces, lines, emitted, (shown emits).1, (shown emits).2 here⟩

/-- A file without any line for the output. -/
def silentFileJob : Job :=
  { options := Options.default
    files := fun path =>
      if path = "part" then .regular (.ok "#SET x = 1") else .unreadable .notFound
    bindings := NameMap.empty
    substitution := .off
    text := "a\n#INCLUDE part\nb" }

/-- The run over the file emits nothing, and there is an empty line in its place. -/
theorem silent_file_adds_line :
    let job := silentFileJob
    let visit := job.handle job.start "a"
    let line := "#INCLUDE part"
    let setting := Setting.atDepth job.options job.files (visit.depth + 1) (some "part")
    let ran := setting.overText visit.state.bindings visit.state.markers "#SET x = 1"
    let after := (job.handle visit line).state
    job.Visits visit ∧ visit.state.isActive = true ∧ ran.emitted = #[] ∧ ran.diagnostics = #[] ∧
      visit.state.emitted = #["a"] ∧ after.emitted = #["a", ""] ∧
      String.intercalate "\n" after.emitted.toList ≠
        String.intercalate "\n" (visit.state.emitted.toList ++ ran.emitted.toList) ∧
      ((Setting.top job.options job.files).outcome
        (Preprocessor.finalState job.options job.files job.bindings job.substitution
          job.text)).output = "a\n\nb" := by
  intro job visit line setting ran after
  have visited : job.Visits visit := Visits.start.handle (by decide +kernel)
  exact ⟨visited, by decide +kernel⟩

end Job

end LineTemplate

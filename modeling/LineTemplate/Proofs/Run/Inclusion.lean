import LineTemplate.Proofs.Run.Cache
import LineTemplate.Proofs.Run.Derived

/-!
Including a file is a run of its own. It starts with the variables as they are and with markers made
from them anew, and leaves nothing behind but its output, as one piece, and its diagnostics. It sees
neither the blocks and loops that are open around it nor how many passes they have left.
-/

namespace LineTemplate

theorem FileEntry.regular_of_read {entry : FileEntry} {text : String}
    (read : entry.read = .ok text) : entry = .regular (.ok text) := by
  cases entry with
  | regular content => exact congrArg regular read
  | unreadable error => cases read

namespace Run

variable {options : Options} {files : Files} {depth : Nat} {file : Option String} {line : String}
  {state : State}

/-- Only a line that starts a run can include a file. -/
theorem call_of_included {outcome : Outcome} (spelled : Directive.ofLine? line = some .insertFile)
    (active : state.isActive = true)
    (included : (Setting.atDepth options files depth file).includeFile state (Line.argument line) =
      .ok outcome) : call? options files depth state line ≠ none := by
  simp only [Setting.includeFile] at included
  split at included
  · cases included
  · next named =>
      split at included
      · cases included
      · split at included
        · cases included
        · next ready =>
            have above : depth < options.maximalIncludeDepth := by
              refine Nat.lt_of_not_le fun deepest => ?_
              rw [inclusion_of_deepest deepest] at ready
              cases ready
            split at included
            · cases included
            · next text read =>
                have found : files (joinPath options.sourceFolder
                    (Setting.fileName (Line.argument line))) = .regular (.ok text) :=
                  FileEntry.regular_of_read read
                simp [call?, spelled, active, named, above, found]

namespace State

/-- A directive that starts no run leaves the output and the diagnostics as they are. -/
theorem output_of_perform (file : Option String) {directive : Directive}
    (spelled : Directive.ofLine? line = some directive)
    (idle : call? options files depth state line = none) (number : Nat) :
    let after := (perform (.atDepth options files depth file) directive line number
      state.advance).1
    after.emitted = state.emitted ∧ after.diagnostics = state.diagnostics := by
  cases directive with
  | set =>
      simp only [perform]
      split
      · unfold assign
        split <;> exact ⟨rfl, rfl⟩
      · exact ⟨rfl, rfl⟩
  | insertFile =>
      simp only [perform]
      split
      · next active =>
          cases included : (Setting.atDepth options files depth file).includeFile state.advance
              (Line.argument line) with
          | ok outcome => exact absurd idle (call_of_included spelled active included)
          | error error =>
              simp only [includeFile, included]
              exact ⟨rfl, rfl⟩
      · exact ⟨rfl, rfl⟩
  | loop =>
      simp only [perform, openLoop]
      split
      · split
        · exact ⟨rfl, rfl⟩
        · split <;> exact ⟨rfl, rfl⟩
      · exact ⟨rfl, rfl⟩
  | endLoop =>
      simp only [perform, finishLoop]
      split <;> exact ⟨rfl, rfl⟩
  | onlyIf | elseIf | otherwise | endIf | switch | case | default | endSwitch => exact ⟨rfl, rfl⟩

/-- A line that starts no run records its failure, if it is a directive that fails, and nothing
else. -/
theorem records_failure (file : Option String)
    (idle : call? options files depth state line = none) :
    (state.step (.atDepth options files depth file) line).diagnostics = state.diagnostics ∨
      ∃ directive error, Directive.ofLine? line = some directive ∧
        (perform (.atDepth options files depth file) directive line (state.cursor + 1)
          state.advance).2 = .error error ∧
        (state.step (.atDepth options files depth file) line).diagnostics =
          state.diagnostics.push { file, line := state.cursor + 1, error } := by
  cases spelled : Directive.ofLine? line with
  | none =>
      refine Or.inl ?_
      simp only [step, spelled]
      split <;> rfl
  | some directive =>
      rw [step_of_spelled spelled]
      have kept := (output_of_perform file spelled idle (state.cursor + 1)).2
      cases left : perform (.atDepth options files depth file) directive line (state.cursor + 1)
          state.advance with
      | mk after result =>
          rw [left] at kept
          cases result with
          | ok => exact Or.inl kept
          | error error =>
              let failure : Diagnostic := { file, line := state.cursor + 1, error }
              exact Or.inr ⟨directive, error, rfl, congrArg Prod.snd left,
                congrArg (·.push failure) kept⟩

/-- A line that starts no run records one diagnostic at most, which names the file of the line. -/
theorem records_own (idle : call? options files depth state line = none) :
    ∃ own : Option Diagnostic,
      (state.step (.atDepth options files depth file) line).diagnostics =
        state.diagnostics ++ own.toArray ∧
      ∀ diagnostic ∈ own, diagnostic.file = file ∧ diagnostic.line = state.cursor + 1 := by
  rcases records_failure file idle with same | ⟨_, error, _, _, recorded⟩
  · exact ⟨none, same.trans (Array.append_empty).symm, by simp⟩
  · refine ⟨some ⟨file, state.cursor + 1, error⟩, recorded, ?_⟩
    rintro _ ⟨rfl⟩
    exact ⟨rfl, rfl⟩

/-- What is reported at the end of a text names the file of the text. -/
theorem closes_own (setting : Setting) (state : State) :
    ∃ own : Array Diagnostic, (state.close setting).diagnostics = state.diagnostics ++ own ∧
      ∀ diagnostic ∈ own, diagnostic.file = setting.file := by
  rw [close]
  generalize state.openings = left
  induction left generalizing state with
  | nil =>
      refine ⟨#[], (Array.append_empty).symm, ?_⟩
      intro diagnostic member
      exact absurd member (Array.not_mem_empty diagnostic)
  | cons opening rest ih =>
      let first : Diagnostic :=
        { file := setting.file, line := opening.line, error := opening.error }
      obtain ⟨own, recorded, named⟩ := ih (state.record first)
      refine ⟨#[first] ++ own, ?_, ?_⟩
      · rw [List.foldl_cons, recorded, ← Array.append_assoc]
        rfl
      · intro diagnostic member
        rcases Array.mem_append.mp member with isFirst | further
        · rw [Array.mem_singleton.mp isFirst]
        · exact named diagnostic further

end State

end Run

namespace Job

open Run

variable {job : Job} {visit : Visit} {line : String}

theorem delimited_of_visits (mode : job.substitution = .fromVariables)
    (visited : job.Visits visit) :
    visit.state.markers.Delimited job.options.opening job.options.closing := by
  induction visited with
  | start =>
      simp only [start, State.start, mode]
      exact Markers.delimited_of_variables _ _ _
  | @handle before line _ _ ih =>
      simp only [handle]
      rcases State.scope_of_step (job.setting before) line before.state with binds | ⟨_, searches⟩
      · rw [binds.markers]
        cases before.state.bound? line with
        | none => exact ih
        | some entry => exact Markers.delimited_bind ih entry.1 entry.2
      · rw [searches.markers]
        exact Markers.delimited_searched ih
  | enter _ _ _ ih => exact ih

/-- The markers of a state are those made anew from its variables, apart from the matcher. -/
theorem unsearched_of_visits (mode : job.substitution = .off ∨ job.substitution = .fromVariables)
    (visited : job.Visits visit) :
    visit.state.markers.unsearched =
      (Markers.ofSubstitution job.substitution visit.state.bindings job.options.opening
        job.options.closing).unsearched := by
  have fills := (current_of_visits visited).fills
  rcases mode with off | fromVariables
  · rw [off] at fills ⊢
    rw [show visit.state.markers = Markers.disabled from fills]
    rfl
  · have delimited := delimited_of_visits fromVariables visited
    rw [fromVariables] at fills ⊢
    exact Markers.unsearched_of_shows fills (Markers.shows_of_variables _ _ _) delimited
      (Markers.delimited_of_variables _ _ _)

/-- In every active state on the way, with markers made from the variables or none at all, a line
that names a file that can be read inserts the output of a run over the file as one piece, and the
diagnostics of that run, and changes nothing else. The run is the one that starts with the variables
as they are, and with markers made from them anew. A line of the file that includes none itself
records diagnostics that name the file, and so does its end. -/
theorem inclusion_is_fresh_run {line content : String} (visited : job.Visits visit)
    (mode : job.substitution = .off ∨ job.substitution = .fromVariables)
    (active : visit.state.isActive = true) (spelled : Directive.ofLine? line = some .insertFile)
    (named : (Setting.fileName (Line.argument line)).isEmpty = false)
    (above : visit.depth < job.options.maximalIncludeDepth)
    (found : job.files
      (joinPath job.options.sourceFolder (Setting.fileName (Line.argument line))) =
        .regular (.ok content)) :
    let state := visit.state
    let path := joinPath job.options.sourceFolder (Setting.fileName (Line.argument line))
    let setting := Setting.atDepth job.options job.files (visit.depth + 1) (some path)
    let markers := Markers.ofSubstitution job.substitution state.bindings job.options.opening
      job.options.closing
    let ran := setting.overText state.bindings markers (Text.withoutFinalFeed content)
    (job.handle visit line).state =
      { state with
        cursor := state.cursor + 1
        emitted := state.emitted.push (setting.outcome ran).output
        diagnostics := state.diagnostics ++ ran.diagnostics } ∧
    (∀ (before : State) (inner : String),
      call? job.options job.files (visit.depth + 1) before inner = none →
        ∃ own : Option Diagnostic,
          (before.step setting inner).diagnostics = before.diagnostics ++ own.toArray ∧
          ∀ diagnostic ∈ own,
            diagnostic.file = some path ∧ diagnostic.line = before.cursor + 1) ∧
    ∀ last : State, ∃ own : Array Diagnostic,
      (last.close setting).diagnostics = last.diagnostics ++ own ∧
      ∀ diagnostic ∈ own, diagnostic.file = some path := by
  intro state path setting markers ran
  refine ⟨?_, fun before inner idle => State.records_own idle, State.closes_own setting⟩
  have called : call? job.options job.files visit.depth state line =
      some (path, Text.withoutFinalFeed content) := by
    simp [call?, spelled, state, active, named, above, found, path]
  have coherent : state.markers.Coherent := (current_of_visits visited).coherent
  have fresh : markers.Coherent := Markers.coherent_of_substitution _ _ _ _
  have same : setting.outcome (setting.overText state.bindings state.markers
      (Text.withoutFinalFeed content)) = setting.outcome ran :=
    Setting.outcome_of_unsearched (at_depth_ignores_cache _ _ _ _) coherent fresh
      (unsearched_of_visits mode visited) _ _
  have stepped : state.step (job.setting visit) line =
      state.advance.insert (setting.outcome (setting.overText state.bindings state.markers
        (Text.withoutFinalFeed content))) := step_of_call called
  rw [same] at stepped
  simp only [handle]
  exact stepped

/-- A file that closes a condition which it did not open, included in a loop and a condition. -/
def strayEndJob : Job :=
  { options := Options.default
    files := fun path =>
      if path = "part" then .regular (.ok "<%i%>\n#ENDIF\n") else .unreadable .notFound
    bindings := NameMap.empty
    substitution := .fromVariables
    text := "#FOR i IN 5 6\n#IF 1\n%i%\n#INCLUDE part\n#ENDIF\n#ENDFOR" }

/-- The end in the file does not meet the condition around it. A matcher is kept for the line above,
but the run over the file would be the same without. -/
theorem inclusion_is_fresh_run_stray_end :
    let job := strayEndJob
    let inLoop := job.handle (job.handle job.start "#FOR i IN 5 6") "#IF 1"
    let visit := job.handle inLoop "%i%"
    let line := "#INCLUDE part"
    let path := joinPath job.options.sourceFolder (Setting.fileName (Line.argument line))
    let setting := Setting.atDepth job.options job.files (visit.depth + 1) (some path)
    let markers := Markers.ofSubstitution job.substitution visit.state.bindings
      job.options.opening job.options.closing
    let ran := setting.overText visit.state.bindings markers
      (Text.withoutFinalFeed "<%i%>\n#ENDIF\n")
    job.Visits visit ∧ visit.state.markers.compiled.isSome = true ∧
      (setting.outcome ran).output = "<5>" ∧
      ran.diagnostics = #[⟨some "part", 2, .unmatched .endIf .onlyIf⟩] ∧
      (job.handle visit line).state =
        { visit.state with
          cursor := visit.state.cursor + 1
          emitted := visit.state.emitted.push (setting.outcome ran).output
          diagnostics := visit.state.diagnostics ++ ran.diagnostics } := by
  intro job inLoop visit line path setting markers ran
  have opened : job.Visits inLoop :=
    (Visits.start.handle (by decide +kernel)).handle (by decide +kernel)
  have visited : job.Visits visit := opened.handle (by decide +kernel)
  have facts : visit.state.isActive = true ∧ visit.state.markers.compiled.isSome = true ∧
      (setting.outcome ran).output = "<5>" ∧
      ran.diagnostics = #[⟨some "part", 2, .unmatched .endIf .onlyIf⟩] := by decide +kernel
  obtain ⟨active, kept, output, diagnostics⟩ := facts
  have spelled : Directive.ofLine? line = some .insertFile := by decide +kernel
  have named : (Setting.fileName (Line.argument line)).isEmpty = false := by decide +kernel
  have above : visit.depth < job.options.maximalIncludeDepth := by decide +kernel
  have isPart : path = "part" := by decide +kernel
  have found : job.files path = .regular (.ok "<%i%>\n#ENDIF\n") := by
    rw [isPart]
    rfl
  exact ⟨visited, kept, output, diagnostics,
    (inclusion_is_fresh_run visited (Or.inr rfl) active spelled named above found).1⟩

end Job

end LineTemplate

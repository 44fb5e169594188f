import LineTemplate.Proofs.Run.Nesting
import LineTemplate.Proofs.Run.Relocation

/-!
Where diagnostics point. What is reported on the way is a failure of the line that was just passed,
which is a directive, or comes from a run over an included file. What is reported at the end are the
blocks and loops that are still open, at the directives that opened them. So every diagnostic of a
source points at a directive, of the source or of a file that was included.
-/

namespace LineTemplate

/-- The line with this number, counted from 1, is a directive. -/
structure DirectiveAt (lines : Array String) (number : Nat) : Prop where
  numbered : 1 ≤ number
  within : number ≤ lines.size
  spelled : ∃ line, lines[number - 1]? = some line ∧ (Directive.ofLine? line).isSome = true

/-- The line that the opening names is the directive that it names. -/
structure Opening.StandsIn (lines : Array String) (opening : Opening) : Prop where
  numbered : 1 ≤ opening.line
  spelled : ∃ line, lines[opening.line - 1]? = some line ∧
    Directive.ofLine? line = some opening.directive

theorem directive_at_next {lines : Array String} {cursor : Nat} {line : String}
    (here : lines[cursor]? = some line) (spelled : (Directive.ofLine? line).isSome = true) :
    DirectiveAt lines (cursor + 1) :=
  ⟨Nat.le_add_left _ _, (Array.getElem?_eq_some_iff.mp here).1, line, here, spelled⟩

theorem Opening.stands_next {lines : Array String} {cursor : Nat} {line : String}
    (opening : Opening) (here : lines[cursor]? = some line) (number : opening.line = cursor + 1)
    (spelled : Directive.ofLine? line = some opening.directive) : opening.StandsIn lines := by
  refine ⟨by omega, line, ?_, spelled⟩
  rw [number, Nat.add_sub_cancel]
  exact here

theorem Opening.StandsIn.directive_at {lines : Array String} {opening : Opening}
    (stands : opening.StandsIn lines) : DirectiveAt lines opening.line := by
  obtain ⟨numbered, line, here, spelled⟩ := stands
  have inside := (Array.getElem?_eq_some_iff.mp here).1
  exact ⟨numbered, by omega, line, here, by rw [spelled, Option.isSome_some]⟩

/-- Errors of blocks and loops that are never closed. -/
def DirectiveError.isUnclosed : DirectiveError → Bool
  | unclosed .. => true
  | _ => false

/-- An error that names no line is not about something that is never closed. -/
theorem DirectiveError.not_unclosed_of_placeless {error : DirectiveError}
    (placeless : ∀ lines, error.moved lines = error) : error.isUnclosed = false := by
  cases error with
  | unclosed opener line =>
      have shifted := placeless 1
      simp only [moved, unclosed.injEq] at shifted
      omega
  | _ => rfl

namespace Block

/-- A line closes the innermost block, opens one itself, or leaves what opened the blocks. -/
theorem openings_of_follow (number : Nat) (directive : Directive) (around : List Outline) :
    let before := around.map Outline.opening
    let after := (follow number directive around).1.map Outline.opening
    after = before ∨ after = { directive, line := number } :: before ∨ after = before.tail := by
  fun_cases follow number directive around <;> simp [Outline.opening, Enclosure.opener]

theorem Stack.mem_openings {blocks : Stack} {opening : Opening} :
    opening ∈ blocks.openings ↔ opening ∈ blocks.outlines.map Outline.opening := by
  simp only [openings_of_outlines, List.mem_map, List.mem_reverse]

end Block

namespace Run

namespace State

open Block (follow)

variable {setting : Setting} {directive : Directive} {line : String} {number : Nat} {state : State}

/-- What becomes of the outlines of the blocks depends on the directive alone. -/
theorem outlines_perform (spelled : Directive.ofLine? line = some directive) :
    (perform setting directive line number state).1.blocks.outlines =
      (follow number directive state.blocks.outlines).1 := by
  cases plain : isPlain line with
  | true => exact (shows_perform spelled plain).outlines
  | false =>
      -- Loops and inclusions leave the blocks as they are.
      rw [isPlain, spelled] at plain
      cases directive with
      | insertFile =>
          simp only [perform, includeFile]
          split
          · split <;> rfl
          · rfl
      | loop =>
          simp only [perform, openLoop]
          split
          · split
            · rfl
            · split <;> rfl
          · rfl
      | endLoop =>
          simp only [perform, finishLoop]
          split <;> rfl
      | _ => cases plain

/-- A block that is open behind a line was open before it, or the line opened it. -/
theorem openings_step (setting : Setting) (line : String) (state : State) :
    ∀ opening ∈ (state.step setting line).blocks.openings,
      opening ∈ state.blocks.openings ∨
        Directive.ofLine? line = some opening.directive ∧ opening.line = state.cursor + 1 := by
  intro opening member
  cases spelled : Directive.ofLine? line with
  | none =>
      have same : (state.step setting line).blocks = state.blocks := by
        simp only [step, spelled]
        split <;> rfl
      exact Or.inl (same ▸ member)
  | some directive =>
      rw [Block.Stack.mem_openings, step_of_spelled spelled, blocks_settle,
        outlines_perform spelled] at member
      rw [Block.Stack.mem_openings]
      rcases Block.openings_of_follow (state.cursor + 1) directive state.blocks.outlines with
        same | opened | closed
      · exact Or.inl (same ▸ member)
      · rw [show state.advance.blocks = state.blocks from rfl, opened] at member
        rcases List.mem_cons.mp member with rfl | earlier
        · exact Or.inr ⟨rfl, rfl⟩
        · exact Or.inl earlier
      · rw [show state.advance.blocks = state.blocks from rfl, closed] at member
        exact Or.inl (List.mem_of_mem_tail member)

end State

/-- What a run reports on the way: that a line failed, or all that a run over an included file
reports to its end. -/
inductive Report where
  | failure (diagnostic : Diagnostic)
  | inclusion (diagnostics : Array Diagnostic)

def Report.diagnostics : Report → List Diagnostic
  | failure diagnostic => [diagnostic]
  | inclusion diagnostics => diagnostics.toList

end Run

namespace Job

open Run

variable {job : Job} {visit last : Visit}

/-- All that a run reports, once what is still open at its end is reported. -/
def reported (job : Job) (last : Visit) : Array Diagnostic :=
  (last.state.close (job.setting last)).diagnostics

/-- A report that fits the run: a failure of a directive of its text, or what another run reports,
over a file at the next level of inclusion. -/
inductive Reports (job : Job) (visit : Visit) : Report → Prop where
  | failure {diagnostic : Diagnostic} (file : diagnostic.file = visit.file)
      (placed : DirectiveAt visit.lines diagnostic.line)
      (passing : diagnostic.error.isUnclosed = false) : Reports job visit (.failure diagnostic)
  | inclusion {last : Visit} {path : String} (ends : job.Ends last)
      (deeper : last.depth = visit.depth + 1) (file : last.file = some path) :
      Reports job visit (.inclusion (job.reported last))

theorem openings_stand_of_visits (visited : job.Visits visit) :
    ∀ opening ∈ visit.state.openings, opening.StandsIn visit.lines := by
  have blocks : ∀ opening ∈ visit.state.blocks.openings, opening.StandsIn visit.lines := by
    induction visited with
    | start | enter =>
        intro opening member
        exact absurd member List.not_mem_nil
    | @handle before line _ here ih =>
        intro opening member
        rw [state_handle] at member
        rw [lines_handle]
        rcases State.openings_step _ line before.state opening member with
          earlier | ⟨spelled, number⟩
        · exact ih opening earlier
        · exact opening.stands_next here number spelled
  intro opening member
  rcases List.mem_append.mp member with ofBlock | ofLoop
  · exact blocks opening ofBlock
  · obtain ⟨frame, among, rfl⟩ := List.mem_map.mp ofLoop
    have anchored := (anchored_of_visits visited).anchored frame (List.mem_reverse.mp among)
    exact ⟨anchored.numbered, anchored.opened⟩

/-- Behind a line the run is the same but for its state, which no report is about. -/
theorem reports_handle {line : String} {report : Report} (reports : job.Reports visit report) :
    job.Reports (job.handle visit line) report := by
  cases reports with
  | failure file placed passing =>
      rw [← file_handle job visit line] at file
      rw [← lines_handle job visit line] at placed
      exact .failure file placed passing
  | inclusion ends deeper file =>
      rw [← depth_handle job visit line] at deeper
      exact .inclusion ends deeper file

/-- A line adds one report that fits the run, if it adds anything. -/
theorem report_of_handle {line : String} (visited : job.Visits visit)
    (here : visit.lines[visit.state.cursor]? = some line) :
    (job.handle visit line).state.diagnostics = visit.state.diagnostics ∨
      ∃ report, job.Reports visit report ∧
        (job.handle visit line).state.diagnostics.toList =
          visit.state.diagnostics.toList ++ report.diagnostics := by
  cases called : call? job.options job.files visit.depth visit.state line with
  | none =>
      rw [state_handle]
      refine (State.records_failure visit.file called).imp_right ?_
      rintro ⟨directive, error, spelled, failed, recorded⟩
      let diagnostic : Diagnostic := { file := visit.file, line := visit.state.cursor + 1, error }
      have placed : DirectiveAt visit.lines diagnostic.line :=
        directive_at_next here (by rw [spelled, Option.isSome_some])
      have passing : error.isUnclosed = false :=
        DirectiveError.not_unclosed_of_placeless
          (moved_of_failed (State.perform_names_no_line _ directive line _ _) failed)
      refine ⟨.failure diagnostic, .failure rfl placed passing, ?_⟩
      rw [recorded, Array.toList_push]
      rfl
  | some entry =>
      obtain ⟨path, text⟩ := entry
      obtain ⟨last, ends, deeper, file, inserted⟩ := inserted_state_visited visited here called
      refine Or.inr ⟨.inclusion (job.reported last), .inclusion ends deeper file, ?_⟩
      rw [inserted]
      exact Array.toList_append

/-- What was recorded so far is made of reports that fit the run. -/
theorem reports_of_visits (visited : job.Visits visit) :
    ∃ reports : List Report, (∀ report ∈ reports, job.Reports visit report) ∧
      visit.state.diagnostics.toList = reports.flatMap Report.diagnostics := by
  induction visited with
  | start | enter => exact ⟨[], by simp, rfl⟩
  | @handle before line visited here ih =>
      obtain ⟨reports, fit, recorded⟩ := ih
      have still : ∀ report ∈ reports, job.Reports (job.handle before line) report :=
        fun report among => reports_handle (fit report among)
      rcases report_of_handle visited here with same | ⟨report, fits, further⟩
      · exact ⟨reports, still, by rw [same, recorded]⟩
      · refine ⟨reports ++ [report], ?_, ?_⟩
        · intro one among
          rcases List.mem_append.mp among with earlier | now
          · exact still one earlier
          · rw [List.mem_singleton.mp now]
            exact reports_handle fits
        · rw [further, recorded, List.flatMap_append, List.flatMap_singleton]

/-- At its end a run reports what was recorded on the way, and then what is still open. -/
theorem reported_eq (job : Job) (last : Visit) :
    (job.reported last).toList =
      last.state.diagnostics.toList ++ last.state.openings.map (job.setting last).unclosed := by
  rw [reported, close_eq]
  exact Array.toList_append

theorem depth_le_of_visits (visited : job.Visits visit) :
    visit.depth ≤ job.options.maximalIncludeDepth := by
  induction visited with
  | start => exact Nat.zero_le _
  | handle _ _ ih =>
      rw [depth_handle]
      exact ih
  | enter _ _ called => exact depth_lt_of_call called

/-- Each diagnostic points at a directive of a text that is visited. Those of an included run lie
one level deeper, of which there are only so many. -/
theorem located_of_ends (job : Job) (last : Visit) (ends : job.Ends last) :
    ∀ diagnostic ∈ (job.reported last).toList,
      ∃ visit, job.Visits visit ∧ diagnostic.file = visit.file ∧
        DirectiveAt visit.lines diagnostic.line := by
  obtain ⟨reports, fit, recorded⟩ := reports_of_visits ends.visited
  intro diagnostic member
  rw [reported_eq, recorded] at member
  rcases List.mem_append.mp member with onTheWay | atTheEnd
  · obtain ⟨report, among, inside⟩ := List.mem_flatMap.mp onTheWay
    cases fit report among with
    | failure file placed _ =>
        obtain rfl := List.mem_singleton.mp inside
        exact ⟨last, ends.visited, file, placed⟩
    | @inclusion inner _ ended deeper =>
        have within := depth_le_of_visits ended.visited
        exact located_of_ends job inner ended diagnostic inside
  · obtain ⟨opening, among, rfl⟩ := List.mem_map.mp atTheEnd
    have stands := openings_stand_of_visits ends.visited opening among
    exact ⟨last, ends.visited, rfl, stands.directive_at⟩
termination_by job.options.maximalIncludeDepth - last.depth

/-- A run is about the source itself, or about a file that a line includes. -/
theorem origin_of_visits (visited : job.Visits visit) :
    visit.file = none ∧ visit.lines = (Text.splitLines job.text).toArray ∨
      ∃ caller line path text, job.Visits caller ∧
        caller.lines[caller.state.cursor]? = some line ∧
        call? job.options job.files caller.depth caller.state line = some (path, text) ∧
        visit.file = some path ∧ visit.lines = (Text.splitLines text).toArray := by
  induction visited with
  | start => exact Or.inl ⟨rfl, rfl⟩
  | handle _ _ ih =>
      rw [file_handle, lines_handle]
      exact ih
  | enter visited here called => exact Or.inr ⟨_, _, _, _, visited, here, called, rfl, rfl⟩

/-- A diagnostic that names no file is about the source itself. -/
theorem placed_in_source (ends : job.Ends last) {diagnostic : Diagnostic}
    (member : diagnostic ∈ job.reported last) (unnamed : diagnostic.file = none) :
    DirectiveAt (Text.splitLines job.text).toArray diagnostic.line := by
  obtain ⟨visit, visited, file, placed⟩ :=
    located_of_ends job last ends diagnostic (Array.mem_toList_iff.mpr member)
  rcases origin_of_visits visited with ⟨_, lines⟩ | ⟨_, _, path, _, _, _, _, named, _⟩
  · rwa [lines] at placed
  · rw [unnamed, named] at file
    cases file

/-- A diagnostic that names a file is about one that a line included. -/
theorem placed_in_file (ends : job.Ends last) {diagnostic : Diagnostic} {path : String}
    (member : diagnostic ∈ job.reported last) (names : diagnostic.file = some path) :
    ∃ caller line content, job.Visits caller ∧
      caller.lines[caller.state.cursor]? = some line ∧
      call? job.options job.files caller.depth caller.state line =
        some (path, Text.withoutFinalFeed content) ∧
      job.files path = .regular (.ok content) ∧
      DirectiveAt (Text.splitLines (Text.withoutFinalFeed content)).toArray diagnostic.line := by
  obtain ⟨visit, visited, file, placed⟩ :=
    located_of_ends job last ends diagnostic (Array.mem_toList_iff.mpr member)
  rw [names] at file
  rcases origin_of_visits visited with
    ⟨none, _⟩ | ⟨caller, line, _, _, before, here, called, named, lines⟩
  · rw [none] at file
    cases file
  · rw [named] at file
    obtain rfl := Option.some.inj file
    obtain ⟨content, found, rfl⟩ := found_of_call called
    rw [lines] at placed
    exact ⟨caller, line, content, before, here, called, found, placed⟩

/-- What a run reports: first what happened on the way, then the blocks and then the loops that are
still open. -/
theorem reported_in_order (ends : job.Ends last) :
    ∃ reports : List Report, (∀ report ∈ reports, job.Reports last report) ∧
      (job.reported last).toList =
        reports.flatMap Report.diagnostics ++
        (last.state.blocks.reverse.map fun frame =>
          ⟨last.file, frame.openedAt, .unclosed frame.opener frame.openedAt⟩) ++
        last.state.loops.frames.reverse.map fun frame =>
          ⟨last.file, frame.openedAt, .unclosed .loop frame.openedAt⟩ := by
  obtain ⟨reports, fit, recorded⟩ := reports_of_visits ends.visited
  refine ⟨reports, fit, ?_⟩
  rw [reported_eq, recorded, State.openings, List.map_append, List.append_assoc]
  simp only [Block.Stack.openings, Loop.Stack.openings, List.map_map]
  rfl

end Job

namespace Preprocessor

open Run

/-- Every diagnostic of a text points at a directive: one that names no file at a line of the text,
and one that names a file at a line of that file, which a line on the way included. The diagnostics
are what a run over the text reports, and every run reports what happened on the way, about lines of
its own or as the reports of runs over included files, and behind all that the blocks and then the
loops that are still open, outermost first. -/
theorem diagnostics_point_at_directives (preprocessor : Preprocessor) (files : Files)
    (bindings : Variables) (substitution : Substitution) (text : String) :
    let job : Job := { options := preprocessor.options, files, bindings, substitution, text }
    let diagnostics :=
      (preprocessor.process files bindings substitution (.text text)).2.diagnostics
    (∀ diagnostic ∈ diagnostics, diagnostic.file = none →
      DirectiveAt (Text.splitLines text).toArray diagnostic.line) ∧
    (∀ diagnostic ∈ diagnostics, ∀ path, diagnostic.file = some path →
      ∃ caller line content, job.Visits caller ∧
        caller.lines[caller.state.cursor]? = some line ∧
        call? job.options files caller.depth caller.state line =
          some (path, Text.withoutFinalFeed content) ∧
        files path = .regular (.ok content) ∧
        DirectiveAt (Text.splitLines (Text.withoutFinalFeed content)).toArray diagnostic.line) ∧
    (∃ last, job.Ends last ∧ last.depth = 0 ∧ last.file = none ∧
      diagnostics = job.reported last) ∧
    ∀ last, job.Ends last →
      ∃ reports : List Report, (∀ report ∈ reports, job.Reports last report) ∧
        (job.reported last).toList =
          reports.flatMap Report.diagnostics ++
          (last.state.blocks.reverse.map fun frame =>
            ⟨last.file, frame.openedAt, .unclosed frame.opener frame.openedAt⟩) ++
          last.state.loops.frames.reverse.map fun frame =>
            ⟨last.file, frame.openedAt, .unclosed .loop frame.openedAt⟩ := by
  intro job diagnostics
  obtain ⟨last, ends, outermost, source, final⟩ := Job.final_state_visited job
  have whole : diagnostics = job.reported last := congrArg State.diagnostics final
  refine ⟨?_, ?_, ⟨last, ends, outermost, source, whole⟩, fun last => Job.reported_in_order⟩
  · intro diagnostic member unnamed
    rw [whole] at member
    exact Job.placed_in_source ends member unnamed
  · intro diagnostic member path names
    rw [whole] at member
    exact Job.placed_in_file ends member names

/-- A file that closes a condition which it did not open and leaves a selection open. -/
def misnestedFiles : Files :=
  fun path =>
    if path = "part" then .regular (.ok "x\n#ENDIF\n#SWITCH x\n") else .unreadable .notFound

/-- The text leaves a loop and a condition in it open. What the file reports stands first. -/
theorem diagnostics_point_at_directives_misnested :
    let text := "#FOR i IN 1 2\n#INCLUDE part\n#IF i"
    let job : Job :=
      { options := new.options, files := misnestedFiles, bindings := NameMap.empty
        substitution := .off, text }
    let diagnostics := (new.process misnestedFiles NameMap.empty .off (.text text)).2.diagnostics
    diagnostics =
      #[⟨some "part", 2, .unmatched .endIf .onlyIf⟩, ⟨some "part", 3, .unclosed .switch 3⟩,
        ⟨none, 3, .unclosed .onlyIf 3⟩, ⟨none, 1, .unclosed .loop 1⟩] ∧
    DirectiveAt (Text.splitLines text).toArray 1 ∧
    (∃ caller line content, job.Visits caller ∧
      caller.lines[caller.state.cursor]? = some line ∧
      call? job.options misnestedFiles caller.depth caller.state line =
        some ("part", Text.withoutFinalFeed content) ∧
      misnestedFiles "part" = .regular (.ok content) ∧
      DirectiveAt (Text.splitLines (Text.withoutFinalFeed content)).toArray 3) ∧
    ∃ last, job.Ends last ∧ last.depth = 0 ∧ last.file = none ∧
      diagnostics = job.reported last := by
  intro text job diagnostics
  have shown : diagnostics =
      #[⟨some "part", 2, .unmatched .endIf .onlyIf⟩, ⟨some "part", 3, .unclosed .switch 3⟩,
        ⟨none, 3, .unclosed .onlyIf 3⟩, ⟨none, 1, .unclosed .loop 1⟩] := by decide +kernel
  obtain ⟨own, included, ends, _⟩ :=
    diagnostics_point_at_directives new misnestedFiles NameMap.empty .off text
  have loop : (⟨none, 1, .unclosed .loop 1⟩ : Diagnostic) ∈ diagnostics := by simp [shown]
  have selection : (⟨some "part", 3, .unclosed .switch 3⟩ : Diagnostic) ∈ diagnostics := by
    simp [shown]
  exact ⟨shown, own _ loop rfl, included _ selection "part" rfl, ends⟩

end Preprocessor

end LineTemplate

import LineTemplate.Proofs.Run.Relocation
import LineTemplate.Proofs.Text.Lines

/-!
Texts one below the other. When the upper text leaves nothing open, the run over both is the run over
the upper one and then a run over the lower one, from the variables, the markers and the number of
passes that the upper one left. The lower lines are counted on from the upper ones.
-/

namespace LineTemplate

namespace Run

variable {options : Options} {files : Files} {depth : Nat} {file : Option String} {path line : String}
  {setting : Setting} {state : State} {lines above below : Array String} {front : Preceding}

namespace State

/-- Upper lines are handled as if there were none below. -/
theorem over_lines_append_left (setting : Setting) (above below : Array String) (state : State) :
    state.overLines setting (above ++ below) =
      (state.overLines setting above).overLines setting (above ++ below) := by
  fun_induction State.overLines setting above state with
  | case1 state inside ih =>
      have here : (above ++ below)[state.cursor]? = some above[state.cursor] := by
        rw [Array.getElem?_append_left inside, Array.getElem?_eq_getElem inside]
      rw [over_lines_of_line here]
      exact ih
  | case2 state outside => rfl

/-- Lower lines are handled as if there were none above. -/
theorem over_lines_behind (own : setting.file = none) (tags : setting.TagsIncluded)
    (size : front.lines = above.size) (state : State) :
    (state.behind front).overLines setting (above ++ below) =
      (state.overLines setting below).behind front := by
  have cursor (state : State) : (state.behind front).cursor = above.size + state.cursor := by
    rw [← size]
    exact Nat.add_comm _ _
  fun_induction State.overLines setting below state with
  | case1 state inside ih =>
      have here : (above ++ below)[(state.behind front).cursor]? = some below[state.cursor] := by
        rw [cursor, Array.getElem?_append_right (Nat.le_add_right _ _), Nat.add_sub_cancel_left,
          Array.getElem?_eq_getElem inside]
      rw [over_lines_of_line here, step_behind own tags]
      exact ih
  | case2 state outside =>
      have behind : (above ++ below).size ≤ (state.behind front).cursor := by
        rw [cursor, Array.size_append]
        omega
      exact over_lines_of_outside behind

theorem close_behind (own : setting.file = none) (state : State) :
    (state.behind front).close setting = (state.close setting).behind front := by
  have blocks : (state.blocks.moved front.lines).openings =
      state.blocks.openings.map fun opening => { opening with line := opening.line + front.lines } := by
    simp only [Block.Stack.openings, Block.Stack.moved, ← List.map_reverse, List.map_map]
    rfl
  have loops : (state.loops.moved front.lines).openings =
      state.loops.openings.map fun opening => { opening with line := opening.line + front.lines } := by
    simp only [Loop.Stack.openings, Loop.Stack.moved, ← List.map_reverse, List.map_map]
    rfl
  have openings : (state.behind front).openings.map setting.unclosed =
      (state.openings.map setting.unclosed).map (Diagnostic.moved front.lines) := by
    change ((state.blocks.moved front.lines).openings ++
      (state.loops.moved front.lines).openings).map _ = _
    rw [blocks, loops, ← List.map_append, List.map_map, List.map_map]
    refine List.map_congr_left fun opening _ => ?_
    simp only [Function.comp_apply, Setting.unclosed, own]
    rfl
  rw [close_eq, close_eq, openings]
  simp only [behind, Array.map_append, List.map_toArray, Array.append_assoc]

/-- A line does not change how many passes the run may start. -/
theorem limit_step (setting : Setting) (line : String) (state : State) :
    (state.step setting line).loops.limit = state.loops.limit := by
  have settled (number : Nat) (performed : State × Except DirectiveError Unit) :
      (performed.1.settle setting number performed.2).loops = performed.1.loops := by
    rcases performed with ⟨after, _ | error⟩ <;> rfl
  cases spelled : Directive.ofLine? line with
  | none =>
      simp only [step, spelled]
      split <;> rfl
  | some directive =>
      rw [step_of_spelled spelled, settled]
      cases directive with
      | set =>
          simp only [perform, assign]
          split
          · split <;> rfl
          · rfl
      | insertFile =>
          simp only [perform, includeFile]
          split
          · split <;> rfl
          · rfl
      | loop =>
          simp only [perform, openLoop]
          split
          · split
            · rfl
            · by_cases room : state.advance.loops.passesStarted < state.advance.loops.limit
              · rw [Loop.Stack.push_of_room room]
                rfl
              · rw [Loop.Stack.push_of_spent (Nat.not_lt.mp room)]
                rfl
          · rfl
      | endLoop =>
          have finishes := state.loops.finishes
          change state.loops.Finishes state.advance.loops.finish at finishes
          simp only [perform, finishLoop]
          generalize state.advance.loops.finish = finished at finishes
          cases finishes <;> rfl
      | onlyIf | elseIf | otherwise | endIf | switch | case | default | endSwitch => rfl

/-- The start of a run over a text below the one that led to the state. -/
def resume (state : State) (maximalPasses : Nat) : State :=
  { start state.bindings state.markers maximalPasses with
    loops := { Loop.Stack.new maximalPasses with passesStarted := state.loops.passesStarted } }

end State

/-- The state at the end of a text, from the given start. -/
def Setting.overTextFrom (setting : Setting) (start : State) (text : String) : State :=
  (start.overLines setting (Text.splitLines text).toArray).close setting

/-- A line of an included file, or of one that it includes, reports lines of included files only. -/
theorem tagged_step {path : String} (line : String)
    (deeper : depth < options.maximalIncludeDepth →
      ∀ (path text : String) (bindings : Variables) (markers : Markers),
        ∀ diagnostic ∈ ((Setting.atDepth options files (depth + 1) (some path)).overText bindings
          markers text).diagnostics, diagnostic.file ≠ none)
    (tagged : ∀ diagnostic ∈ state.diagnostics, diagnostic.file ≠ none) :
    ∀ diagnostic ∈ (state.step (.atDepth options files depth (some path)) line).diagnostics,
      diagnostic.file ≠ none := by
  intro diagnostic member
  cases called : call? options files depth state line with
  | none =>
      obtain ⟨own, recorded, named⟩ := @State.records_own _ _ _ (some path) _ _ called
      rw [recorded] at member
      rcases Array.mem_append.mp member with before | here
      · exact tagged diagnostic before
      · rw [(named diagnostic (by simpa using here)).1]
        exact Option.some_ne_none path
  | some entry =>
      rw [step_of_call called] at member
      rcases Array.mem_append.mp member with before | inside
      · exact tagged diagnostic before
      · exact deeper (depth_lt_of_call called) _ _ _ _ diagnostic inside

/-- Each level of inclusion leaves fewer below it, so the claim for deeper runs may be used. -/
theorem tagged_over_text (options : Options) (files : Files) (depth : Nat) (path : String)
    (bindings : Variables) (markers : Markers) (text : String) :
    ∀ diagnostic ∈ ((Setting.atDepth options files depth (some path)).overText bindings markers
      text).diagnostics, diagnostic.file ≠ none := by
  have ran (state : State) (lines : Array String)
      (tagged : ∀ diagnostic ∈ state.diagnostics, diagnostic.file ≠ none) :
      ∀ diagnostic ∈ (state.overLines (.atDepth options files depth (some path)) lines).diagnostics,
        diagnostic.file ≠ none := by
    fun_induction State.overLines (.atDepth options files depth (some path)) lines state with
    | case1 state inside ih =>
        exact ih (tagged_step _
          (fun above path text bindings markers =>
            tagged_over_text options files (depth + 1) path bindings markers text) tagged)
    | case2 state outside => exact tagged
  intro diagnostic member
  obtain ⟨own, recorded, named⟩ := State.closes_own (.atDepth options files depth (some path))
    ((State.start bindings markers options.maximalPasses).overLines
      (.atDepth options files depth (some path)) (Text.splitLines text).toArray)
  rw [Setting.overText, at_depth_options, recorded] at member
  rcases Array.mem_append.mp member with before | closing
  · exact ran _ _ (fun diagnostic none => absurd none (Array.not_mem_empty diagnostic)) diagnostic
      before
  · rw [named diagnostic closing]
    exact Option.some_ne_none path
termination_by options.maximalIncludeDepth - depth

theorem at_depth_tags_included (options : Options) (files : Files) (depth : Nat)
    (file : Option String) : (Setting.atDepth options files depth file).TagsIncluded := by
  intro inclusion ready path text bindings markers
  by_cases above : depth < options.maximalIncludeDepth
  · rw [inclusion_of_lt above] at ready
    obtain rfl := Option.some.inj ready
    exact tagged_over_text options files (depth + 1) path bindings markers text
  · rw [inclusion_of_deepest (Nat.not_lt.mp above)] at ready
    cases ready

end Run

namespace Job

open Run

variable {job : Job} {visit : Visit}

theorem limit_of_visits (visited : job.Visits visit) :
    visit.state.loops.limit = job.options.maximalPasses := by
  induction visited with
  | start => rfl
  | handle visited here ih =>
      simp only [handle]
      rw [State.limit_step, ih]
  | enter => rfl

/-- No line leads beyond the line behind the last one. -/
theorem cursor_within_of_visits (visited : job.Visits visit) :
    visit.state.cursor ≤ visit.lines.size := by
  induction visited with
  | start => exact Nat.zero_le _
  | @handle before line visited here ih =>
      have inside := (Array.getElem?_eq_some_iff.mp here).1
      have anchored := anchored_of_visits visited
      have moves := moves_handle job before line
      have lines : (job.handle before line).lines = before.lines := by simp only [handle]
      rw [lines]
      generalize (job.handle before line).state = after at moves
      cases moves with
      | on _ cursor | opens _ _ _ cursor | closes _ cursor =>
          rw [cursor]
          exact inside
      | back _ stands _ _ cursor =>
          rw [stands] at anchored
          obtain ⟨_, near, self, _⟩ := Loop.anchored_cons.mp anchored
          rw [cursor, (self.running _ rfl).1]
          exact Nat.le_trans near ih
  | enter => exact Nat.zero_le _

end Job

namespace Run

/-- The run over a source ends right behind its last line, with the pattern of the names as they are
then and the limit it started with. -/
structure Ended (options : Options) (lines : Array String) (state : State) : Prop where
  cursor : state.cursor = lines.size
  pattern : state.pattern = Expression.NamePattern.ofVariables state.bindings
  limit : state.loops.limit = options.maximalPasses

theorem ended_over_lines (job : Job) :
    let lines := (Text.splitLines job.text).toArray
    Ended job.options lines
      (job.start.state.overLines (Setting.top job.options job.files) lines) := by
  intro lines
  obtain ⟨bound, visited, behind⟩ := Job.ends_over_lines (Job.Visits.start : job.Visits job.start)
  exact ⟨Nat.le_antisymm (Job.cursor_within_of_visits visited) behind,
    (Job.current_of_visits visited).pattern, Job.limit_of_visits visited⟩

/-- A state that ends an upper text and leaves nothing open is the start of a run over a lower one,
behind the upper lines. -/
theorem eq_resume_behind (ended : Ended options lines state) (blocks : state.blocks = [])
    (loops : state.loops.frames = []) :
    state = (state.resume options.maximalPasses).behind
      { lines := lines.size, emitted := state.emitted, diagnostics := state.diagnostics } := by
  obtain ⟨bindings, names, markers, frames, ⟨running, started, limit⟩, emitted, diagnostics, place⟩ :=
    state
  obtain ⟨cursor, pattern, limited⟩ := ended
  dsimp only at cursor pattern limited blocks loops
  subst cursor pattern limited blocks loops
  simp [State.resume, State.behind, State.start, Loop.Stack.new, Block.Stack.moved,
    Loop.Stack.moved]

end Run

namespace Preprocessor

open Run

/-- If a text leaves no block and no loop open, then a text below it is processed as if on its own,
from the variables, the markers and the number of passes that the upper text left. Its lines are
counted on from those of the upper text, also where the opener of an open block or loop is named;
lines of included files are not. -/
theorem sequential_composition (options : Options) (files : Files) (bindings : Variables)
    (substitution : Substitution) (above below : String)
    (blocks : (finalState options files bindings substitution above).blocks = [])
    (loops : (finalState options files bindings substitution above).loops.frames = []) :
    let upper := finalState options files bindings substitution above
    let lower := (Setting.top options files).overTextFrom (upper.resume options.maximalPasses) below
    let whole := finalState options files bindings substitution (above ++ "\n" ++ below)
    whole.emitted = upper.emitted ++ lower.emitted ∧ whole.bindings = lower.bindings ∧
      whole.diagnostics =
        upper.diagnostics ++
          lower.diagnostics.map (Diagnostic.moved (Text.splitLines above).length) := by
  intro upper lower whole
  let setting := Setting.top options files
  let job : Job := { options, files, bindings, substitution, text := above }
  let lines := (Text.splitLines above).toArray
  let further := (Text.splitLines below).toArray
  let last := job.start.state.overLines setting lines
  have closed : upper = last.close setting := rfl
  change upper.blocks = [] at blocks
  change upper.loops.frames = [] at loops
  rw [closed, close_eq] at blocks loops
  have same : upper = last := closed.trans (close_of_nothing_open setting blocks loops)
  let front : Preceding :=
    { lines := lines.size, emitted := last.emitted, diagnostics := last.diagnostics }
  have resumed : last = (last.resume options.maximalPasses).behind front :=
    eq_resume_behind (ended_over_lines job) blocks loops
  have tags : setting.TagsIncluded := at_depth_tags_included options files 0 none
  have all : (Text.splitLines (above ++ "\n" ++ below)).toArray = lines ++ further := by
    rw [Text.split_lines_append, ← List.append_toArray]
  have ran : whole = lower.behind front := calc
    whole = (job.start.state.overLines setting (lines ++ further)).close setting :=
      congrArg (fun lines => (job.start.state.overLines setting lines).close setting) all
    _ = (((last.resume options.maximalPasses).behind front).overLines setting
          (lines ++ further)).close setting := by
      rw [State.over_lines_append_left, ← resumed]
    _ = (((upper.resume options.maximalPasses).overLines setting further).close setting).behind
          front := by
      rw [State.over_lines_behind rfl tags rfl, State.close_behind rfl, same]
  rw [ran, same]
  refine ⟨rfl, rfl, ?_⟩
  rw [← List.size_toArray]
  rfl

/-- The upper text takes two of three passes and has an end that closes nothing. The lower text runs
out of passes and includes a file with a condition that is never closed, as it has one itself. -/
theorem sequential_composition_spent :
    let options := { Options.default with maximalPasses := 3 }
    let files : Files := fun path =>
      if path = "part" then .regular (.ok "#IF j") else .unreadable .notFound
    let above := "#FOR i IN 1 2\n#ENDIF\n<%i%>\n#ENDFOR"
    let below := "#FOR j IN 7 8\n%i%%j%\n#INCLUDE part\n#ENDFOR\n#IF i"
    let whole := finalState options files NameMap.empty .fromVariables (above ++ "\n" ++ below)
    whole.emitted = #["<1>", "<2>", "27", ""] ∧
      whole.bindings.entries = [("i", .integer 2), ("j", .integer 7)] ∧
      whole.diagnostics =
        #[⟨none, 2, .unmatched .endIf .onlyIf⟩, ⟨none, 2, .unmatched .endIf .onlyIf⟩,
          ⟨some "part", 1, .unclosed .onlyIf 1⟩, ⟨none, 8, .passLimit 3⟩,
          ⟨none, 9, .unclosed .onlyIf 9⟩] := by
  intro options files above below whole
  let upper := finalState options files NameMap.empty .fromVariables above
  let lower := (Setting.top options files).overTextFrom (upper.resume options.maximalPasses) below
  have ended : upper.blocks = [] ∧ upper.loops.frames = [] ∧ upper.emitted = #["<1>", "<2>"] ∧
      upper.diagnostics =
        #[⟨none, 2, .unmatched .endIf .onlyIf⟩, ⟨none, 2, .unmatched .endIf .onlyIf⟩] := by
    decide +kernel
  have resumed : lower.emitted = #["27", ""] ∧
      lower.bindings.entries = [("i", .integer 2), ("j", .integer 7)] ∧
      lower.diagnostics =
        #[⟨some "part", 1, .unclosed .onlyIf 1⟩, ⟨none, 4, .passLimit 3⟩,
          ⟨none, 5, .unclosed .onlyIf 5⟩] := by decide +kernel
  have four : (Text.splitLines above).length = 4 := by decide +kernel
  obtain ⟨blocks, loops, upperEmitted, upperDiagnostics⟩ := ended
  obtain ⟨lowerEmitted, lowerBindings, lowerDiagnostics⟩ := resumed
  obtain ⟨emitted, same, diagnostics⟩ : whole.emitted = upper.emitted ++ lower.emitted ∧
      whole.bindings = lower.bindings ∧ whole.diagnostics = upper.diagnostics ++
        lower.diagnostics.map (Diagnostic.moved (Text.splitLines above).length) :=
    sequential_composition options files NameMap.empty .fromVariables above below blocks loops
  rw [upperEmitted, lowerEmitted] at emitted
  rw [upperDiagnostics, lowerDiagnostics, four] at diagnostics
  refine ⟨emitted, (congrArg NameMap.entries same).trans lowerBindings, ?_⟩
  simpa [Diagnostic.moved, DirectiveError.moved] using diagnostics

end Preprocessor

end LineTemplate

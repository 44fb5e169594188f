import LineTemplate.Proofs.Template.Suppression

/-!
The machine over lines refines the recursion over trees. From a live place the machine walks through
the lines of a template and makes of the progress what running the template makes of it, as long as
all passes fit into the limit; blocks and loops around it stay as they were. What the recursion does
not look at the machine passes as suppressed lines. Over a whole text the two agree on the output,
the diagnostics and the variables.
-/

namespace LineTemplate

open Run Run.Progress

section Passes

variable {setting : Setting} {number : Nat}

theorem passes_settle {Answer : Type} (result : Except DirectiveError Answer)
    (progress : Progress) : (progress.settle setting number result).passes = progress.passes := by
  cases result <;> rfl

theorem passes_test (directive : Directive) (line : String) (progress : Progress) :
    (progress.test setting directive line number).2.passes = progress.passes := by
  simp only [Progress.test, passes_settle]

theorem passes_discriminant (line : String) (progress : Progress) :
    (progress.discriminant setting line number).2.passes = progress.passes := by
  simp only [Progress.discriminant, passes_settle]

theorem passes_assign (line : String) (progress : Progress) :
    (progress.assign setting line number).passes = progress.passes := by
  unfold Progress.assign
  split <;> rfl

theorem passes_include_file (line : String) (progress : Progress) :
    (progress.includeFile setting line number).passes = progress.passes := by
  unfold Progress.includeFile
  split <;> rfl

/-- Passes over a body that only adds passes add passes. -/
theorem passes_le_foldl {body : Progress → Progress}
    (grows : ∀ progress : Progress, progress.passes ≤ (body progress).passes) (name : String)
    (values : List Value) (progress : Progress) :
    progress.passes + values.length ≤
      (values.foldl (fun before value => body (before.startPass name value)) progress).passes := by
  induction values generalizing progress with
  | nil => exact Nat.le_refl _
  | cons value rest ih =>
      have here := grows (progress.startPass name value)
      have later := ih (body (progress.startPass name value))
      have started : (progress.startPass name value).passes = progress.passes + 1 := rfl
      simp only [List.foldl_cons, List.length_cons]
      omega

mutual

theorem Template.passes_le_run (template : Template) (number : Nat) (progress : Progress) :
    progress.passes ≤ (template.run setting number progress).passes := by
  cases template with
  | done => exact Nat.le_refl _
  | content line rest =>
      exact rest.passes_le_run (number + 1)
        (progress.emit (setting.content progress.markers line.text))
  | assignment line rest =>
      have later := rest.passes_le_run (number + 1) (progress.assign setting line.text number)
      rwa [passes_assign] at later
  | insertion line rest =>
      have later := rest.passes_le_run (number + 1) (progress.includeFile setting line.text number)
      rwa [passes_include_file] at later
  | conditional opener body others rest =>
      have tested : (progress.test setting .onlyIf opener.text number).2.passes = progress.passes :=
        passes_test .onlyIf opener.text progress
      simp only [Template.run]
      refine Nat.le_trans ?_ (rest.passes_le_run _ _)
      split
      · exact tested ▸ body.passes_le_run _ _
      · exact tested ▸ others.passes_le_run _ _
  | selection opener preamble cases rest =>
      have asked : (progress.discriminant setting opener.text number).2.passes = progress.passes :=
        passes_discriminant opener.text progress
      simp only [Template.run]
      refine Nat.le_trans ?_ (rest.passes_le_run _ _)
      exact asked ▸ cases.passes_le_run _ _ _
  | loop opener body closer rest =>
      simp only [Template.run]
      refine Nat.le_trans ?_ (rest.passes_le_run _ _)
      split
      · exact Nat.le_refl _
      · next clause _ =>
          have grown := passes_le_foldl (fun before => body.passes_le_run (number + 1) before)
            clause.name clause.passes progress
          omega

theorem Alternatives.passes_le_run (others : Alternatives) (number : Nat) (progress : Progress) :
    progress.passes ≤ (others.run setting number progress).passes := by
  cases others with
  | closed closer => exact Nat.le_refl _
  | last opener body closer => exact body.passes_le_run _ _
  | alternative opener body others =>
      have tested : (progress.test setting .elseIf opener.text number).2.passes = progress.passes :=
        passes_test .elseIf opener.text progress
      simp only [Alternatives.run]
      split
      · exact tested ▸ body.passes_le_run _ _
      · exact tested ▸ others.passes_le_run _ _

theorem Cases.passes_le_run (cases : Cases) (value : Value) (number : Nat) (progress : Progress) :
    progress.passes ≤ (cases.run setting value number progress).passes := by
  cases cases with
  | closed closer => exact Nat.le_refl _
  | case opener body others =>
      simp only [Cases.run]
      split
      · exact body.passes_le_run _ _
      · exact others.passes_le_run _ _ _
  | default opener body others => exact body.passes_le_run _ _

end

end Passes

theorem get_of_drop {values : Array Value} {index : Nat} {value : Value} {rest : List Value}
    (remaining : values.toList.drop index = value :: rest) :
    values[index]? = some value ∧ values.toList.drop (index + 1) = rest := by
  constructor
  · rw [← Array.getElem?_toList, ← List.head?_drop, remaining, List.head?_cons]
  · rw [← List.tail_drop, remaining, List.tail_cons]

variable {setting : Setting} {lines : Array String} {limit : Nat}

theorem is_live_cons {frame : Block.Frame} {outer : Block.Stack} {loops : List Loop.Frame}
    (alive : frame.live = true) (live : isLive outer loops = true) :
    isLive (frame :: outer) loops = true := by
  simpa [isLive, Block.Stack.isActive, alive] using live

theorem is_live_cons_running {blocks : Block.Stack} {loops : List Loop.Frame}
    (live : isLive blocks loops = true) (opened : Nat) (pass : Loop.Pass) :
    isLive blocks (⟨opened, some pass⟩ :: loops) = true := by
  simpa [isLive, runs, Loop.Frame.isInert] using live

/-- From the start of one pass of a loop to the end of the last: each pass crosses the body once. -/
theorem reaches_passes {body : Progress → Progress} {start finish : Nat} {blocks : Block.Stack}
    {loops : List Loop.Frame} {closer : DirectiveLine .endLoop} {opened : Nat}
    (grows : ∀ progress : Progress, progress.passes ≤ (body progress).passes)
    (crosses : ∀ (pass : Loop.Pass) (progress : Progress), (body progress).passes ≤ limit →
      Reaches setting lines (progress.state limit blocks (⟨opened, some pass⟩ :: loops) start)
        ((body progress).state limit blocks (⟨opened, some pass⟩ :: loops) finish))
    (atEnd : lines[finish]? = some closer.text) (name : String) (values : Array Value)
    (remaining : List Value) (index : Nat) (rest : values.toList.drop (index + 1) = remaining)
    (progress : Progress)
    (room : (remaining.foldl (fun before value => body (before.startPass name value))
      (body progress)).passes ≤ limit) :
    Reaches setting lines
      (progress.state limit blocks (⟨opened, some ⟨name, values, start, index⟩⟩ :: loops) start)
      ((remaining.foldl (fun before value => body (before.startPass name value))
        (body progress)).state limit blocks loops (finish + 1)) := by
  induction remaining generalizing index progress with
  | nil =>
      have ended : values[index + 1]? = none := by
        rw [List.drop_eq_nil_iff, Array.length_toList] at rest
        exact Array.getElem?_eq_none rest
      apply reaches_trans (crosses ⟨name, values, start, index⟩ progress room)
      apply reaches_step atEnd
      rw [step_end_loop_done ended closer.spelled]
      exact reaches_refl _
  | cons value following ih =>
      obtain ⟨found, later⟩ := get_of_drop rest
      have fits := Nat.le_trans
        (passes_le_foldl grows name (value :: following) (body progress)) room
      have free : (body progress).passes < limit := by
        simp only [List.length_cons] at fits
        omega
      apply reaches_trans (crosses ⟨name, values, start, index⟩ progress (Nat.le_of_lt free))
      apply reaches_step atEnd
      rw [step_end_loop_rewind found free closer.spelled]
      exact ih (index + 1) later ((body progress).startPass name value) room

mutual

theorem Template.reaches_run (limited : setting.options.maximalPasses = limit)
    (template : Template) {blocks : Block.Stack} {loops : List Loop.Frame} {cursor : Nat}
    {progress : Progress} (live : isLive blocks loops = true)
    (stands : Stands lines cursor template.lines)
    (room : (template.run setting (cursor + 1) progress).passes ≤ limit) :
    Reaches setting lines (progress.state limit blocks loops cursor)
      ((template.run setting (cursor + 1) progress).state limit blocks loops
        (cursor + template.lines.length)) := by
  cases template with
  | done => exact reaches_refl _
  | content line rest =>
      obtain ⟨here, following⟩ := stands
      apply reaches_step here
      rw [step_of_plain line.plain, if_pos live]
      refine reaches_at ?_ (rest.reaches_run limited live following room)
      simp only [Template.lines, List.length_cons]
      omega
  | assignment line rest =>
      obtain ⟨here, following⟩ := stands
      apply reaches_step here
      rw [step_assignment line.spelled, if_pos live]
      refine reaches_at ?_ (rest.reaches_run limited live following room)
      simp only [Template.lines, List.length_cons]
      omega
  | insertion line rest =>
      obtain ⟨here, following⟩ := stands
      apply reaches_step here
      rw [step_insertion line.spelled, if_pos live]
      refine reaches_at ?_ (rest.reaches_run limited live following room)
      simp only [Template.lines, List.length_cons]
      omega
  | conditional opener body others rest =>
      obtain ⟨here, inside⟩ := stands
      rw [stands_append, stands_append, List.length_append, ← Nat.add_assoc] at inside
      obtain ⟨⟨within, further⟩, following⟩ := inside
      have afterBody : cursor + 1 + 1 + body.lines.length = cursor + 1 + body.lines.length + 1 := by
        omega
      have afterBlock : cursor + 1 + body.lines.length + 1 + others.lines.length =
          cursor + 1 + body.lines.length + others.lines.length + 1 := by
        omega
      apply reaches_step here
      rw [step_conditional live opener.spelled]
      simp only [Template.run, afterBody, afterBlock] at room ⊢
      have fits := Nat.le_trans (rest.passes_le_run _ _) room
      refine reaches_trans ?_
        (reaches_at ?_ (rest.reaches_run limited live following room))
      · cases answer : progress.test setting .onlyIf opener.text (cursor + 1) with
        | mk holds tested =>
            cases holds with
            | true =>
                simp only [answer, if_true] at fits ⊢
                apply reaches_trans (body.reaches_run limited (is_live_cons rfl live) within fits)
                exact others.reaches_suppressed blocks rfl (Or.inl rfl) further
            | false =>
                simp only [answer] at fits ⊢
                apply reaches_trans (body.reaches_suppressed rfl within)
                exact others.reaches_run limited live rfl rfl further fits
      · simp only [Template.lines, List.length_cons, List.length_append]
        omega
  | selection opener preamble cases rest =>
      obtain ⟨here, inside⟩ := stands
      rw [stands_append, stands_append, List.length_append, ← Nat.add_assoc] at inside
      obtain ⟨⟨within, further⟩, following⟩ := inside
      have afterPreamble :
          cursor + 1 + 1 + preamble.lines.length = cursor + 1 + preamble.lines.length + 1 := by
        omega
      have afterBlock : cursor + 1 + preamble.lines.length + 1 + cases.lines.length =
          cursor + 1 + preamble.lines.length + cases.lines.length + 1 := by
        omega
      apply reaches_step here
      rw [step_selection live opener.spelled]
      simp only [Template.run, afterPreamble, afterBlock] at room ⊢
      have fits := Nat.le_trans (rest.passes_le_run _ _) room
      refine reaches_trans ?_
        (reaches_at ?_ (rest.reaches_run limited live following room))
      · apply reaches_trans (preamble.reaches_suppressed rfl within)
        exact cases.reaches_run limited live rfl rfl further fits
      · simp only [Template.lines, List.length_cons, List.length_append]
        omega
  | loop opener body closer rest =>
      obtain ⟨here, inside⟩ := stands
      rw [stands_append] at inside
      obtain ⟨within, atEnd, following⟩ := inside
      have afterBlock : cursor + 1 + 1 + body.lines.length + 1 =
          cursor + 1 + body.lines.length + 1 + 1 := by
        omega
      apply reaches_step here
      simp only [Template.run, limited, afterBlock] at room ⊢
      have fits := Nat.le_trans (rest.passes_le_run _ _) room
      refine reaches_trans ?_
        (reaches_at ?_ (rest.reaches_run limited live following room))
      · cases read : Loop.Clause.ofLine opener.text limit with
        | error error =>
            rw [step_loop_failed live opener.spelled read]
            apply reaches_trans
              (body.reaches_suppressed (is_live_cons_inert blocks (cursor + 1) loops) within)
            apply reaches_step atEnd
            rw [step_end_loop_inert rfl closer.spelled]
            exact reaches_refl _
        | ok clause =>
            simp only [read] at fits ⊢
            have grows : ∀ before : Progress,
                before.passes ≤ (body.run setting (cursor + 1 + 1) before).passes :=
              body.passes_le_run (cursor + 1 + 1)
            have free : progress.passes < limit := by
              have counted := passes_le_foldl grows clause.name clause.passes progress
              simp only [Loop.Clause.passes, List.length_cons] at counted fits
              omega
            rw [step_loop live opener.spelled read free]
            refine reaches_passes grows ?_ atEnd clause.name clause.values _ 0 rfl _ fits
            intro pass before within'
            exact body.reaches_run limited (is_live_cons_running live (cursor + 1) pass) within
              within'
      · simp only [Template.lines, List.length_cons, List.length_append]
        omega

/-- The branches of a conditional block after one whose condition does not hold. -/
theorem Alternatives.reaches_run (limited : setting.options.maximalPasses = limit)
    (others : Alternatives) {frame : Block.Frame} {outer : Block.Stack} {loops : List Loop.Frame}
    {cursor : Nat} {progress : Progress} (live : isLive outer loops = true)
    (isOpen : Block.Stack.isOpenConditional frame = true) (untaken : frame.taken = false)
    (stands : Stands lines cursor others.lines)
    (room : (others.run setting (cursor + 1) progress).passes ≤ limit) :
    Reaches setting lines (progress.state limit (frame :: outer) loops cursor)
      ((others.run setting (cursor + 1) progress).state limit outer loops
        (cursor + others.lines.length)) := by
  cases others with
  | closed closer =>
      apply reaches_step stands.1
      rw [step_end_conditional frame closer.spelled]
      exact reaches_refl _
  | last opener body closer =>
      obtain ⟨here, inside⟩ := stands
      rw [stands_append] at inside
      obtain ⟨within, atEnd, _⟩ := inside
      have chosen : (!frame.taken) = true := by rw [untaken, Bool.not_false]
      apply reaches_step here
      rw [step_otherwise isOpen opener.spelled]
      apply reaches_trans (body.reaches_run limited (is_live_cons chosen live) within room)
      apply reaches_step atEnd
      rw [step_end_conditional _ closer.spelled]
      refine reaches_at ?_ (reaches_refl _)
      simp only [Alternatives.lines, List.length_cons, List.length_append, List.length_nil]
      omega
  | alternative opener body others =>
      obtain ⟨here, inside⟩ := stands
      rw [stands_append] at inside
      obtain ⟨within, further⟩ := inside
      have afterBody : cursor + 1 + 1 + body.lines.length = cursor + 1 + body.lines.length + 1 := by
        omega
      have running := (live_parts live).2
      apply reaches_step here
      rw [step_alternative running isOpen untaken opener.spelled]
      simp only [Alternatives.run, afterBody] at room ⊢
      have place : cursor + (opener.text :: (body.lines ++ others.lines)).length =
          cursor + 1 + body.lines.length + others.lines.length := by
        simp only [List.length_cons, List.length_append]
        omega
      refine reaches_at place ?_
      cases answer : progress.test setting .elseIf opener.text (cursor + 1) with
      | mk holds tested =>
          cases holds with
          | true =>
              simp only [answer, if_true] at room ⊢
              apply reaches_trans (body.reaches_run limited (is_live_cons rfl live) within room)
              exact others.reaches_suppressed outer rfl (Or.inl rfl) further
          | false =>
              simp only [answer] at room ⊢
              apply reaches_trans (body.reaches_suppressed rfl within)
              exact others.reaches_run limited live rfl rfl further room

/-- The cases of a selection of which none was taken yet. -/
theorem Cases.reaches_run (limited : setting.options.maximalPasses = limit) (cases : Cases)
    {frame : Block.Frame} {value : Value} {outer : Block.Stack} {loops : List Loop.Frame}
    {cursor : Nat} {progress : Progress} (live : isLive outer loops = true)
    (selects : frame.kind = .selection value) (untaken : frame.taken = false)
    (stands : Stands lines cursor cases.lines)
    (room : (cases.run setting value (cursor + 1) progress).passes ≤ limit) :
    Reaches setting lines (progress.state limit (frame :: outer) loops cursor)
      ((cases.run setting value (cursor + 1) progress).state limit outer loops
        (cursor + cases.lines.length)) := by
  cases cases with
  | closed closer =>
      apply reaches_step stands.1
      rw [step_end_selection selects closer.spelled]
      exact reaches_refl _
  | case opener body others =>
      obtain ⟨here, inside⟩ := stands
      rw [stands_append] at inside
      obtain ⟨within, further⟩ := inside
      have afterBody : cursor + 1 + 1 + body.lines.length = cursor + 1 + body.lines.length + 1 := by
        omega
      have place : cursor + (opener.text :: (body.lines ++ others.lines)).length =
          cursor + 1 + body.lines.length + others.lines.length := by
        simp only [List.length_cons, List.length_append]
        omega
      apply reaches_step here
      rw [step_case selects opener.spelled]
      simp only [Cases.run, afterBody] at room ⊢
      refine reaches_at place ?_
      cases fires : (caseValues opener.text).any value.looselyEquals with
      | true =>
          simp only [fires, if_true] at room ⊢
          have chosen : (!frame.taken && true) = true := by rw [untaken]; rfl
          apply reaches_trans (body.reaches_run limited (is_live_cons chosen live) within room)
          exact others.reaches_suppressed outer selects (Or.inl (Bool.or_true _)) further
      | false =>
          simp only [fires] at room ⊢
          have hidden : isLive
              ({ frame with live := !frame.taken && false, taken := frame.taken || false } :: outer)
              loops = false := by
            simp [isLive, Block.Stack.isActive]
          apply reaches_trans (body.reaches_suppressed hidden within)
          exact others.reaches_run limited live selects (by simp [untaken]) further room
  | default opener body others =>
      obtain ⟨here, inside⟩ := stands
      rw [stands_append] at inside
      obtain ⟨within, further⟩ := inside
      have chosen : (!frame.taken) = true := by rw [untaken, Bool.not_false]
      have place : cursor + (opener.text :: (body.lines ++ others.lines)).length =
          cursor + 1 + body.lines.length + others.lines.length := by
        simp only [List.length_cons, List.length_append]
        omega
      apply reaches_step here
      rw [step_default selects opener.spelled]
      refine reaches_at place ?_
      apply reaches_trans (body.reaches_run limited (is_live_cons chosen live) within room)
      exact others.reaches_suppressed outer selects (Or.inl rfl) further

end

/-- A run over the lines of a template ends with the progress of running the template, and with
nothing open. -/
theorem over_text_of_lines {template : Template} {text : String} (setting : Setting)
    (bindings : Variables) (markers : Markers) (flat : Text.splitLines text = template.lines)
    (room : (template.run setting 1 (.start bindings markers)).passes ≤
      setting.options.maximalPasses) :
    setting.overText bindings markers text =
      (template.run setting 1 (.start bindings markers)).state setting.options.maximalPasses [] []
        template.lines.length := by
  have stands : Stands template.lines.toArray 0 template.lines :=
    stands_drop template.lines.toArray 0
  have live : isLive [] [] = true := rfl
  obtain ⟨count, handled⟩ := template.reaches_run rfl live stands room
  have size : template.lines.toArray.size ≤ 0 + template.lines.length :=
    Nat.le_of_eq (by rw [List.size_toArray, Nat.zero_add])
  have ends := (over_lines_of_handles handled).trans (over_lines_of_outside size)
  simp only [Nat.zero_add] at ends
  unfold Setting.overText
  rw [flat]
  change (State.overLines setting _ ((Progress.start bindings markers).state _ [] [] 0)).close _ = _
  rw [ends, close_of_nothing_open setting rfl rfl]

/-- A run over the lines of a template emits the lines, reports the diagnostics and binds the
variables that running the template does. -/
theorem over_text_refines_run {template : Template} {text : String} (setting : Setting)
    (bindings : Variables) (markers : Markers) (flat : Text.splitLines text = template.lines)
    (room : (template.run setting 1 (.start bindings markers)).passes ≤
      setting.options.maximalPasses) :
    let machine := setting.overText bindings markers text
    let evaluated := template.run setting 1 (.start bindings markers)
    machine.emitted = evaluated.emitted ∧ machine.diagnostics = evaluated.diagnostics ∧
      machine.bindings = evaluated.bindings := by
  rw [over_text_of_lines setting bindings markers flat room]
  exact ⟨rfl, rfl, rfl⟩

/-- A loop around a conditional block, whose first condition fails once, and a selection that includes
a file. -/
def countingTemplate : Template :=
  .loop ⟨"#FOR i FROM 1 TO 3", by decide +kernel⟩
    (.conditional ⟨"#IF i / (2 - i) > 0", by decide +kernel⟩
      (.content ⟨"below", by decide +kernel⟩ .done)
      (.alternative ⟨"#ELIF i < 3", by decide +kernel⟩
        (.content ⟨"at %i%", by decide +kernel⟩ .done)
        (.last ⟨"#ELSE", by decide +kernel⟩
          (.assignment ⟨"#SET n = i * 10", by decide +kernel⟩ .done)
          ⟨"#ENDIF", by decide +kernel⟩))
      .done)
    ⟨"#ENDFOR", by decide +kernel⟩
    (.selection ⟨"#SWITCH n", by decide +kernel⟩
      .done
      (.case ⟨"#CASE 10, 20", by decide +kernel⟩
        (.content ⟨"few", by decide +kernel⟩ .done)
        (.case ⟨"#CASE 30", by decide +kernel⟩
          (.insertion ⟨"#INCLUDE part", by decide +kernel⟩ .done)
          (.default ⟨"#DEFAULT", by decide +kernel⟩
            (.content ⟨"many", by decide +kernel⟩ .done)
            (.closed ⟨"#ENDSWITCH", by decide +kernel⟩))))
      (.content ⟨"then %n%", by decide +kernel⟩ .done))

def countingText : String :=
  "#FOR i FROM 1 TO 3\n#IF i / (2 - i) > 0\nbelow\n#ELIF i < 3\nat %i%\n#ELSE\n" ++
    "#SET n = i * 10\n#ENDIF\n#ENDFOR\n#SWITCH n\n#CASE 10, 20\nfew\n#CASE 30\n#INCLUDE part\n" ++
    "#DEFAULT\nmany\n#ENDSWITCH\nthen %n%"

/-- The included file has a line too many. -/
def countingSetting : Setting :=
  .top { Options.default with maximalPasses := 3 } fun path =>
    if path = "part" then .regular (.ok "all %n%\n#ENDIF") else .unreadable .notFound

def percentMarkers : Markers :=
  { enabled := true, opening := "%", closing := "%", entries := NameMap.empty }

theorem over_text_refines_run_counting :
    let emitted : Array String := #["below", "at 2", "all 30", "then 30"]
    let diagnostics : Array Diagnostic :=
      #[⟨none, 2, .evaluation .onlyIf (.arithmetic .divisionByZero)⟩,
        ⟨some "part", 2, .unmatched .endIf .onlyIf⟩]
    Text.splitLines countingText = countingTemplate.lines ∧
      (countingTemplate.run countingSetting 1 (.start NameMap.empty percentMarkers)).passes ≤
        countingSetting.options.maximalPasses ∧
      (countingSetting.overText NameMap.empty percentMarkers countingText).emitted = emitted ∧
      (countingSetting.overText NameMap.empty percentMarkers countingText).diagnostics =
        diagnostics := by
  intro emitted diagnostics
  have flat : Text.splitLines countingText = countingTemplate.lines := by decide +kernel
  have ran :
      let evaluated := countingTemplate.run countingSetting 1 (.start NameMap.empty percentMarkers)
      evaluated.passes ≤ countingSetting.options.maximalPasses ∧
        evaluated.emitted = emitted ∧ evaluated.diagnostics = diagnostics := by decide +kernel
  obtain ⟨room, sameEmitted, sameDiagnostics⟩ := ran
  have refines := over_text_refines_run countingSetting NameMap.empty percentMarkers flat room
  exact ⟨flat, room, refines.1.trans sameEmitted, refines.2.1.trans sameDiagnostics⟩

end LineTemplate

import LineTemplate.Proofs.Run.Splicing

/-!
What a step of the machine puts out. Each run under way has put out some texts. A step adds the text of
a content line to those of the innermost run, opens a run that has put out nothing, or closes one and
hands all that it has put out over to its caller, as one text; any other step adds nothing.
-/

namespace LineTemplate

/-- The characters as they are put out, without the blanks at their end if so asked. -/
def Options.finish (options : Options) (characters : List Char) : String :=
  String.ofList (if options.trimsLines then Text.trimEnd characters else characters)

namespace Run

theorem Setting.content_eq (setting : Setting) (markers : Markers) (line : String) :
    setting.content markers line = setting.options.finish (markers.apply line).toList := by
  unfold Setting.content Options.finish
  split
  · rfl
  · exact (String.ofList_toList).symm

inductive Emission where
  | nothing
  | content (text : String)
  | enter
  | leave

/-- What the runs have put out with what is emitted, innermost run first. -/
def Emission.onto (ending : String) : Emission → List (Array String) → List (Array String)
  | .content text, inner :: outer => inner.push text :: outer
  | .enter, outputs => #[] :: outputs
  | .leave, inner :: caller :: outer =>
      caller.push (String.intercalate ending inner.toList) :: outer
  | _, outputs => outputs

namespace Machine

/-- What each run under way has put out, innermost first. -/
def outputs : Machine → List (Array String)
  | .running current callers => (current :: callers).map fun run => run.state.emitted
  | .finished state => [state.emitted]

/-- The line at the cursor, if the next step puts it out, and the markers that are replaced in it. -/
def contentLine? : Machine → Option (String × Markers)
  | .running current _ =>
      match current.lines[current.state.cursor]? with
      | some line =>
          if Directive.ofLine? line = none ∧ current.state.isActive then
            some (line, current.state.markers)
          else none
      | none => none
  | .finished _ => none

/-- What the next step emits. -/
def emission (options : Options) (files : Files) : Machine → Emission
  | .running current callers =>
      match current.lines[current.state.cursor]? with
      | some line =>
          if Directive.ofLine? line = none then
            if current.state.isActive then
              .content (options.finish (current.state.markers.apply line).toList)
            else .nothing
          else if (call? options files callers.length current.state line).isSome then .enter
          else .nothing
      | none => if callers.isEmpty then .nothing else .leave
  | .finished _ => .nothing

variable {options : Options} {files : Files} {depth : Nat} {state : State} {line : String}
  {current : Activation} {callers : List Activation}

theorem no_call_of_content (plain : Directive.ofLine? line = none) :
    call? options files depth state line = none := by
  simp [call?, plain]

/-- What a line emits that opens no run. -/
theorem emission_of_idle (here : current.lines[current.state.cursor]? = some line)
    (idle : call? options files callers.length current.state line = none) :
    (running current callers).emission options files =
      (current.state.contentLine? (.atDepth options files callers.length current.file) line).elim
        .nothing .content := by
  simp only [emission, here, idle, State.contentLine?, Setting.content_eq, at_depth_options]
  cases Directive.ofLine? line <;> cases current.state.isActive <;> rfl

/-- A step puts out what it emits, and nothing else that was put out changes. -/
theorem outputs_advance (options : Options) (files : Files) (machine : Machine) :
    (machine.advance options files).outputs =
      (machine.emission options files).onto options.lineEnding.text machine.outputs := by
  cases machine with
  | finished state => rfl
  | running current callers =>
      cases here : current.lines[current.state.cursor]? with
      | none =>
          have outside := Array.getElem?_eq_none_iff.mp here
          cases callers with
          | nil =>
              rw [advance_of_last outside, close_eq]
              simp only [emission, here, outputs]
              rfl
          | cons caller rest =>
              rw [advance_of_outside outside, close_eq]
              simp only [emission, here]
              rfl
      | some line =>
          cases called : call? options files callers.length current.state line with
          | some entry =>
              obtain ⟨path, text⟩ := entry
              have isDirective : Directive.ofLine? line ≠ none := by
                intro plain
                rw [no_call_of_content plain] at called
                cases called
              rw [advance_of_call here called]
              simp only [emission, here, called, if_neg isDirective]
              rfl
          | none =>
              have emitted := @State.emitted_of_idle _ _ _ current.file _ _ called
              rw [advance_of_no_call here called, emission_of_idle here called]
              generalize State.contentLine? _ line current.state = content at emitted ⊢
              simp only [outputs, List.map_cons, Activation.proceed]
              cases content with
              | none =>
                  rw [Option.toList_none, List.append_nil, Array.toList_inj] at emitted
                  rw [emitted]
                  rfl
              | some text =>
                  rw [Option.toList_some, ← Array.toList_push, Array.toList_inj] at emitted
                  rw [emitted]
                  rfl

end Machine

end Run

end LineTemplate

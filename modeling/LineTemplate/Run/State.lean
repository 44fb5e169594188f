import LineTemplate.Block
import LineTemplate.Expression.Names
import LineTemplate.Loop.Stack
import LineTemplate.Markers

/-!
The state of a run over one text. The pattern of names and the markers are derived from the
variables and change only together with them, when a name is bound; searching a line for markers
changes no more than the matcher that is kept with them.
-/

namespace LineTemplate.Run

structure State where
  bindings : Variables
  /-- The names of the variables, ready to be found in expressions. -/
  pattern : Expression.NamePattern
  markers : Markers
  blocks : Block.Stack
  loops : Loop.Stack
  /-- What goes into the output, one element for each content line or included file. -/
  emitted : Array String
  diagnostics : Array Diagnostic
  /-- Index of the next line. -/
  cursor : Nat

namespace State

/-- The state before the first line. -/
def start (bindings : Variables) (markers : Markers) (maximalPasses : Nat) : State :=
  { bindings
    pattern := Expression.NamePattern.ofVariables bindings
    markers
    blocks := []
    loops := Loop.Stack.new maximalPasses
    emitted := #[]
    diagnostics := #[]
    cursor := 0 }

def isActive (state : State) : Bool :=
  state.blocks.isActive && state.loops.isActive

def advance (state : State) : State :=
  { state with cursor := state.cursor + 1 }

/-- Puts the text of a content line into the output, once markers were searched for in the line. -/
def emit (state : State) (text : String) : State :=
  { state with markers := state.markers.searched, emitted := state.emitted.push text }

def record (state : State) (diagnostic : Diagnostic) : State :=
  { state with diagnostics := state.diagnostics.push diagnostic }

/-- Gives a name its value. Only a new name changes which names there are. -/
def bind (state : State) (name : String) (value : Value) : State :=
  let bindings := state.bindings.insert name value
  let pattern :=
    if state.bindings.contains name then state.pattern
    else Expression.NamePattern.ofVariables bindings
  { state with bindings, pattern, markers := state.markers.bind name value }

def evaluate (state : State) (directive : Directive) (text : String) :
    Except DirectiveError Value :=
  match Expression.evaluateWith state.pattern state.bindings text with
  | .ok value => .ok value
  | .error error => .error (.evaluation directive error)

/-- A list of names asks whether one of them is set and true; any other text is an expression. -/
def holds (state : State) (directive : Directive) (text : String) : Except DirectiveError Bool :=
  if text.isEmpty then .error (.malformed directive .missingCondition)
  else
    match Expression.presence? state.bindings text with
    | some present => .ok present
    | none => (state.evaluate directive text).map Value.isTrue

/-- The condition of a line. In a suppressed loop it is false and not looked at. -/
def condition (state : State) (directive : Directive) (line : String) : Block.Question Bool :=
  fun _ =>
    if state.loops.isActive then state.holds directive (Line.argument line) else .ok false

/-- The value of the variable that a selection names, and zero for a name without a value. -/
def discriminant (state : State) (line : String) : Block.Question Value :=
  fun _ =>
    if state.loops.isActive then
      let name := (Line.words line)[1]?.getD ""
      if name.isEmpty then .error (.malformed .switch .missingVariable)
      else .ok ((state.bindings.lookup? name).getD (.integer 0))
    else .ok (.text "")

/-- Reads `name = expression`. -/
def assignment (state : State) (text : String) : Except DirectiveError (String × Value) :=
  match Text.splitOnce? (· == '=') text.toList with
  | none => .error (.malformed .set .missingAssignment)
  | some (left, right) =>
      let name := String.ofList (Text.trim left)
      if name.isEmpty then .error (.malformed .set .missingVariable)
      else if !isIdentifier name then .error (.malformed .set (.badVariable name))
      else (state.evaluate .set (String.ofList (Text.trim right))).map fun value => (name, value)

/-- What opened the blocks and loops that are still open: blocks before loops. -/
def openings (state : State) : List Opening :=
  state.blocks.openings ++ state.loops.openings

/-- The pattern of names stays that of the variables when a name is bound. -/
theorem pattern_bind {state : State} (name : String) (value : Value)
    (current : state.pattern = Expression.NamePattern.ofVariables state.bindings) :
    (state.bind name value).pattern =
      Expression.NamePattern.ofVariables (state.bind name value).bindings := by
  unfold bind
  simp only
  split
  · next known =>
      rw [current]
      unfold Expression.NamePattern.ofVariables
      rw [NameMap.names_insert_of_contains value known]
  · rfl

end State

end LineTemplate.Run

import LineTemplate.Text.Split
import LineTemplate.Variables

/-!
Definitions: a name and a value on a line, for the variables to start with. Blank lines and comments
are passed over, and a line that is no definition is reported and passed over.
-/

namespace LineTemplate

inductive DefinitionError where
  | missingName (text : String)
  | badName (name : String)
  deriving DecidableEq, Repr

def DefinitionError.message : DefinitionError → String
  | missingName text => s!"missing variable name in '{text}'"
  | badName name => s!"invalid variable name '{name}'"

/-- The name and the value of a trimmed text: before and after the first equals sign or, without
one, before and after the first blank. -/
def splitDefinition (characters : List Char) : List Char × List Char :=
  match Text.splitOnce? (· == '=') characters with
  | some (name, value) => (Text.trim name, Text.trim value)
  | none =>
      match Text.splitOnce? Text.isAsciiBlank characters with
      | some (name, value) => (name, Text.trim value)
      | none => (characters, [])

/-- Reads `name=value` or `name value`. -/
def readDefinition (text : String) : Except DefinitionError (String × Value) :=
  let trimmed := Text.trim text.toList
  let (left, right) := splitDefinition trimmed
  let name := String.ofList left
  if name.isEmpty then .error (.missingName (String.ofList trimmed))
  else if !isIdentifier name then .error (.badName name)
  else .ok (name, Value.infer (String.ofList right))

structure DefinitionFault where
  line : Nat
  error : DefinitionError
  deriving DecidableEq, Repr

def DefinitionFault.render (fault : DefinitionFault) : String :=
  s!"line {fault.line}: {fault.error.message}"

/-- What a text defines, and the faults of its lines in order. -/
structure Definitions where
  bindings : Variables
  faults : List DefinitionFault

namespace Definitions

def empty : Definitions :=
  { bindings := NameMap.empty, faults := [] }

def isComment (characters : List Char) : Bool :=
  characters.head?.any fun character => character == ';' || character == '#'

/-- Takes in one line. A later definition of a name replaces an earlier one. -/
def addLine (definitions : Definitions) (number : Nat) (line : String) : Definitions :=
  let trimmed := Text.trim line.toList
  if trimmed.isEmpty || isComment trimmed then definitions
  else
    match readDefinition (String.ofList trimmed) with
    | .ok (name, value) =>
        { definitions with bindings := definitions.bindings.insert name value }
    | .error error =>
        { definitions with faults := definitions.faults ++ [{ line := number, error }] }

/-- Takes in lines, the first of which has the given number. -/
def addLines (definitions : Definitions) : Nat → List String → Definitions
  | _, [] => definitions
  | number, line :: rest => (definitions.addLine number line).addLines (number + 1) rest

def ofText (text : String) : Definitions :=
  empty.addLines 1 (Text.splitLines text)

end Definitions

end LineTemplate

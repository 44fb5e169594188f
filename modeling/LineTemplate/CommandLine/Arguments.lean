import LineTemplate.Definitions

/-!
Arguments of the command: flags, parameters that take a value, and one input. An argument is read
at once but a parameter takes effect only when the next one is recognised, so what is wrong with its
value is reported then, and an argument that is not known is reported first.
-/

namespace LineTemplate.CommandLine

inductive Flag where
  | plain
  | trim
  | strict
  | verbose
  | help
  | version
  deriving DecidableEq, Repr

inductive Parameter where
  | define
  | definitionsFile
  | includeFolder
  | lineEnding
  | wrappers
  | output
  deriving DecidableEq, Repr

/-- What an argument that starts with a dash can name. -/
inductive Item where
  | flag (flag : Flag)
  | parameter (parameter : Parameter)
  deriving DecidableEq, Repr

namespace Item

def name : Item → String
  | flag .plain => "no-subst"
  | flag .trim => "trim"
  | flag .strict => "strict"
  | flag .verbose => "verbose"
  | flag .help => "help"
  | flag .version => "version"
  | parameter .define => "define"
  | parameter .definitionsFile => "defines"
  | parameter .includeFolder => "include-dir"
  | parameter .lineEnding => "line-ending"
  | parameter .wrappers => "wrappers"
  | parameter .output => "output"

def letter? : Item → Option Char
  | flag .verbose => some 'v'
  | flag .help => some 'h'
  | flag .version => some 'V'
  | parameter .define => some 'D'
  | parameter .definitionsFile => some 'd'
  | parameter .includeFolder => some 'I'
  | parameter .lineEnding => some 'l'
  | parameter .wrappers => some 'w'
  | parameter .output => some 'o'
  | _ => none

def all : List Item :=
  [flag .plain, flag .trim, flag .strict, flag .verbose, flag .help, flag .version,
    parameter .define, parameter .definitionsFile, parameter .includeFolder,
    parameter .lineEnding, parameter .wrappers, parameter .output]

theorem mem_all (item : Item) : item ∈ all := by
  rcases item with flag | parameter
  · cases flag <;> decide
  · cases parameter <;> decide

def ofName? (name : String) : Option Item :=
  all.find? fun item => item.name == name

def ofLetter? (letter : Char) : Option Item :=
  all.find? fun item => item.letter? == some letter

end Item

/-- Why arguments do not lead to a run. -/
inductive Stop where
  | help
  | version
  | missingInput
  | missingValue (parameter : Parameter)
  | emptyPath (parameter : Parameter)
  | badDefinition (error : DefinitionError)
  | repeated (item : Item)
  | unexpectedValue (flag : Flag)
  | unknown (argument : String)
  deriving DecidableEq, Repr

/-- Exit status of the command when it does not run. -/
def Stop.status : Stop → Nat
  | .help | .version => 0
  | _ => 1

structure Choices where
  definitions : List (String × Value)
  definitionsFile : Option String
  includeFolder : Option String
  lineEnding : Option String
  wrappers : Option String
  output : Option String
  plain : Bool
  trim : Bool
  strict : Bool
  verbose : Bool
  deriving DecidableEq

namespace Choices

def none : Choices :=
  { definitions := []
    definitionsFile := Option.none
    includeFolder := Option.none
    lineEnding := Option.none
    wrappers := Option.none
    output := Option.none
    plain := false
    trim := false
    strict := false
    verbose := false }

/-- Raises a flag, which may be given once. -/
def raise (choices : Choices) (flag : Flag) : Except Stop Choices :=
  match flag with
  | .plain =>
      if choices.plain then .error (.repeated (.flag flag)) else .ok { choices with plain := true }
  | .trim =>
      if choices.trim then .error (.repeated (.flag flag)) else .ok { choices with trim := true }
  | .strict =>
      if choices.strict then .error (.repeated (.flag flag))
      else .ok { choices with strict := true }
  | .verbose =>
      if choices.verbose then .error (.repeated (.flag flag))
      else .ok { choices with verbose := true }
  | .help => .error .help
  | .version => .error .version

/-- The value of a parameter that may be given once. -/
def once (parameter : Parameter) (given : Option String) (value : String) :
    Except Stop (Option String) :=
  if given.isSome then .error (.repeated (.parameter parameter)) else .ok (some value)

/-- A parameter of that kind has to name something. -/
def oncePath (parameter : Parameter) (given : Option String) (value : String) :
    Except Stop (Option String) := do
  let path ← once parameter given value
  if value.isEmpty then throw (.emptyPath parameter)
  return path

/-- Gives a parameter its value. All but definitions may be given once. -/
def assign (choices : Choices) (parameter : Parameter) (value : String) : Except Stop Choices :=
  match parameter with
  | .define =>
      match readDefinition value with
      | .ok definition => .ok { choices with definitions := choices.definitions ++ [definition] }
      | .error error => .error (.badDefinition error)
  | .definitionsFile => do
      return { choices with
        definitionsFile := ← oncePath parameter choices.definitionsFile value }
  | .includeFolder => do
      return { choices with includeFolder := ← oncePath parameter choices.includeFolder value }
  | .lineEnding => do
      return { choices with lineEnding := ← once parameter choices.lineEnding value }
  | .wrappers => do
      return { choices with wrappers := ← once parameter choices.wrappers value }
  | .output => do
      return { choices with output := ← oncePath parameter choices.output value }

end Choices

/-- A parameter that was named and has not taken effect yet. -/
structure Pending where
  parameter : Parameter
  value : Option String
  deriving DecidableEq

/-- What was read so far. After a double dash everything is an input. -/
structure Reading where
  choices : Choices
  pending : Option Pending
  input : Option String
  onlyInputs : Bool
  deriving DecidableEq

namespace Reading

def start : Reading :=
  { choices := Choices.none, pending := none, input := none, onlyInputs := false }

/-- Lets the pending parameter take effect. -/
def settle (reading : Reading) : Except Stop Reading :=
  match reading.pending with
  | none => .ok reading
  | some ⟨parameter, none⟩ => .error (.missingValue parameter)
  | some ⟨parameter, some value⟩ => do
      return { reading with choices := ← reading.choices.assign parameter value, pending := none }

def raise (reading : Reading) (flag : Flag) : Except Stop Reading := do
  let settled ← reading.settle
  return { settled with choices := ← settled.choices.raise flag }

/-- A value in the same argument as its parameter takes effect at once. -/
def assign (reading : Reading) (parameter : Parameter) (value : String) : Except Stop Reading := do
  let settled ← reading.settle
  return { settled with choices := ← settled.choices.assign parameter value }

/-- A parameter without a value in its argument waits for the next one. -/
def await (reading : Reading) (parameter : Parameter) : Except Stop Reading := do
  return { ← reading.settle with pending := some ⟨parameter, none⟩ }

/-- Reads letters behind one dash. What follows a parameter is its value. -/
def readLetters (reading : Reading) : List Char → Except Stop Reading
  | [] => .ok reading
  | letter :: rest =>
      match Item.ofLetter? letter with
      | none => .error (.unknown ("-" ++ letter.toString))
      | some (.flag flag) => do (← reading.raise flag).readLetters rest
      | some (.parameter parameter) =>
          match rest with
          | [] => reading.await parameter
          | '=' :: value => reading.assign parameter (String.ofList value)
          | value => reading.assign parameter (String.ofList value)

/-- Reads a name behind two dashes, and the value that an equals sign attaches to it. -/
def readName (reading : Reading) (name : String) (value : Option String) : Except Stop Reading :=
  match Item.ofName? name, value with
  | none, _ => .error (.unknown ("--" ++ name))
  | some (.flag flag), none => reading.raise flag
  | some (.flag flag), some _ => .error (.unexpectedValue flag)
  | some (.parameter parameter), none => reading.await parameter
  | some (.parameter parameter), some value => reading.assign parameter value

/-- Takes an argument as the input, of which there is one. -/
def readInput (reading : Reading) (argument : String) : Except Stop Reading :=
  match reading.input with
  | none => do return { ← reading.settle with input := some argument }
  | some _ => .error (.unknown argument)

/-- An argument that names nothing is the value that is waited for, or else the input. -/
def readPlain (reading : Reading) (argument : String) : Except Stop Reading :=
  match reading.pending with
  | some ⟨parameter, none⟩ =>
      .ok { reading with pending := some ⟨parameter, some argument⟩ }
  | _ => reading.readInput argument

def readArgument (reading : Reading) (argument : String) : Except Stop Reading :=
  if reading.onlyInputs then reading.readInput argument
  else
    match argument.toList with
    | ['-', '-'] => .ok { reading with onlyInputs := true }
    | '-' :: '-' :: long =>
        match Text.splitOnce? (· == '=') long with
        | some (name, value) => reading.readName (String.ofList name) (some (String.ofList value))
        | none => reading.readName (String.ofList long) none
    | '-' :: first :: rest => reading.readLetters (first :: rest)
    | _ => reading.readPlain argument

end Reading

structure Arguments where
  input : String
  choices : Choices
  deriving DecidableEq

namespace Arguments

/-- Arguments are read from left to right, and the first fault counts; that the input is missing is
seen last. -/
def ofList (arguments : List String) : Except Stop Arguments := do
  let reading ← (← arguments.foldlM Reading.readArgument Reading.start).settle
  match reading.input with
  | some input => return { input, choices := reading.choices }
  | none => throw .missingInput

end Arguments

end LineTemplate.CommandLine

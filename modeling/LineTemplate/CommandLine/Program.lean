import LineTemplate.CommandLine.Arguments
import LineTemplate.Files.Path
import LineTemplate.Files.Tree
import LineTemplate.Preprocessor

/-!
The command as a function: from arguments and what surrounds a run to the output, the messages and
the exit status. Definitions are read first, then the input; either may fail, and then there is no
output. Diagnostics of the input are messages and stop nothing.
-/

namespace LineTemplate.CommandLine

/-- What stands before and after a name in a marker, given as one text with a comma. -/
def splitWrappers (text : String) : String × Option String :=
  match Text.splitOnce? (· == ',') text.toList with
  | some (opening, closing) => (String.ofList opening, some (String.ofList closing))
  | none => (text, none)

namespace Arguments

def readsStandardInput (arguments : Arguments) : Bool :=
  arguments.input == "-"

/-- Files are included relative to the folder of the input unless another is given. -/
def sourceFolder (arguments : Arguments) : String :=
  match arguments.choices.includeFolder with
  | some folder => folder
  | none => if arguments.readsStandardInput then "" else folderOf arguments.input

/-- The options without the wrappers. -/
def options (arguments : Arguments) : Options :=
  { Options.default with
    lineEnding :=
      match arguments.choices.lineEnding with
      | some style => LineEnding.ofText style
      | none => Options.default.lineEnding
    sourceFolder := arguments.sourceFolder
    trimsLines := arguments.choices.trim }

def wrappedOptions (arguments : Arguments) : Options :=
  match arguments.choices.wrappers with
  | some text =>
      let (opening, closing) := splitWrappers text
      arguments.options.withWrappers opening closing
  | none => arguments.options

def substitution (arguments : Arguments) : Substitution :=
  if arguments.choices.plain then .off else .fromVariables

end Arguments

/-- Where the definitions lie that are used when none are named. -/
def definitionsPath (configurationFolder : String) : String :=
  joinPath configurationFolder "mpp/defines"

/-- The folder of configurations in a home folder. -/
def configurationFolder (home : String) : String :=
  joinPath home ".config"

/-- What the command finds when it starts. -/
structure Surroundings where
  files : Files
  standardInput : Except FileError String
  /-- The file of definitions that is used when none is named, and its path, if it is there. -/
  defaultDefinitions : Option (String × Except FileError String)

inductive Message where
  | unreadable (name : String) (error : FileError)
  | definition (path : String) (fault : DefinitionFault)
  | diagnostic (found : Diagnostic)

def Message.render : Message → String
  | unreadable name error => s!"mpp: {name}: {error.message}"
  | definition path fault => s!"mpp: {path}: {fault.render}"
  | diagnostic found => s!"mpp: {found.render}"

namespace Surroundings

/-- The file of definitions to read, with its path. -/
def definitionsSource (surroundings : Surroundings) (arguments : Arguments) :
    Option (String × Except FileError String) :=
  match arguments.choices.definitionsFile with
  | some path => some (path, (surroundings.files path).read)
  | none => surroundings.defaultDefinitions

/-- The variables to start with, and messages about definitions. Definitions in the arguments
replace those in the file. -/
def bindings (surroundings : Surroundings) (arguments : Arguments) :
    Except Message (List Message × Variables) :=
  match surroundings.definitionsSource arguments with
  | none => .ok ([], NameMap.ofList arguments.choices.definitions)
  | some (path, .error error) => .error (.unreadable path error)
  | some (path, .ok text) =>
      let definitions := Definitions.ofText text
      .ok (definitions.faults.map (Message.definition path),
        definitions.bindings.insertAll arguments.choices.definitions)

def input (surroundings : Surroundings) (arguments : Arguments) : Except Message String :=
  if arguments.readsStandardInput then
    match surroundings.standardInput with
    | .ok text => .ok text
    | .error error => .error (.unreadable "stdin" error)
  else
    match (surroundings.files arguments.input).read with
    | .ok text => .ok text
    | .error error => .error (.unreadable arguments.input error)

end Surroundings

/-- What a run of the command comes to. Without an output it has failed. -/
structure Report where
  messages : List Message
  output : Option String
  status : Nat

namespace Report

def failed (messages : List Message) (last : Message) : Report :=
  { messages := messages ++ [last], output := none, status := 1 }

/-- The report once its output could not be delivered. -/
def undelivered (report : Report) (path : String) (error : FileError) : Report :=
  failed report.messages (.unreadable path error)

end Report

/-- Processes the input. In strict mode diagnostics show in the exit status. -/
def execute (arguments : Arguments) (surroundings : Surroundings) : Report :=
  match surroundings.bindings arguments with
  | .error message => Report.failed [] message
  | .ok (messages, bindings) =>
      match surroundings.input arguments with
      | .error message => Report.failed messages message
      | .ok text =>
          let (output, after) :=
            (Preprocessor.ofOptions arguments.wrappedOptions).process surroundings.files bindings
              arguments.substitution (.text text)
          { messages := messages ++ after.diagnostics.toList.map Message.diagnostic
            output := some output
            status := if arguments.choices.strict && !after.diagnostics.isEmpty then 2 else 0 }

/-- Runs the command on files in memory. The output goes into the file named for it, and remains in
the report when there is none. -/
def executeIn (tree : FileTree) (arguments : Arguments) (surroundings : Surroundings) :
    Report × FileTree :=
  let report := execute arguments surroundings
  match report.output, arguments.choices.output with
  | some text, some path =>
      match tree.write path text with
      | .ok after => ({ report with output := none }, after)
      | .error error => (report.undelivered path error, tree)
  | _, _ => (report, tree)

end LineTemplate.CommandLine

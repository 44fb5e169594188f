import LineTemplate.CommandLine.Program
import LineTemplate.CommandLine.Usage
import LineTemplate.Run.Inclusions

/-!
The command itself. It reads what a run can ask for, lets the run take place as a function, and
delivers the output and the messages.
-/

namespace LineTemplate.CommandLine

/-- The number of a system error, which may come with either sign. -/
def errorNumber (code : UInt32) : UInt32 :=
  if code < 0x80000000 then code else 0 - code

def fileError : IO.Error → FileError
  | .noFileOrDirectory .. => .notFound
  | .inappropriateType _ code details =>
      match errorNumber code with
      | 20 => .notDirectory
      | 21 => .isDirectory
      | number => .other s!"{details} (os error {number})"
  | .permissionDenied _ code details => .other s!"{details} (os error {errorNumber code})"
  | error => .other (toString error)

def decode (bytes : ByteArray) : Except FileError String :=
  match String.fromUTF8? bytes with
  | some text => .ok text
  | none => .error .invalidText

def readFile (path : String) : IO FileEntry := do
  try
    return .regular (decode (← IO.FS.readBinFile path))
  catch error =>
    match fileError error with
    | .other message => return .regular (.error (.other message))
    | absent => return .unreadable absent

def writeFile (path text : String) : IO (Except FileError Unit) := do
  try
    IO.FS.writeFile path text
    return .ok ()
  catch error =>
    return .error (fileError error)

def readStandardInput : IO (Except FileError String) := do
  let stream ← IO.getStdin
  let mut bytes := ByteArray.empty
  repeat
    let chunk ← stream.read 65536
    if chunk.isEmpty then break
    bytes := bytes ++ chunk
  return decode bytes

/-- Files that were read, by their paths. -/
abbrev Loaded := List (String × FileEntry)

def Loaded.toFiles (loaded : Loaded) : Files := fun path =>
  match loaded.find? fun entry => entry.1 == path with
  | some (_, entry) => entry
  | none => .unreadable .notFound

/-- Reads the files that texts include, and those that these include, for so many levels. -/
def loadIncluded (sourceFolder : String) : Nat → List String → Loaded → IO Loaded
  | 0, _, loaded => return loaded
  | levels + 1, texts, loaded => do
      let paths := (texts.flatMap (Run.includedPaths sourceFolder)).eraseDups
      let fresh := paths.filter fun path => !loaded.any fun entry => entry.1 == path
      let entries ← fresh.mapM fun path => return (path, ← readFile path)
      let contents := entries.filterMap fun entry => entry.2.read.toOption
      loadIncluded sourceFolder levels contents (entries ++ loaded)

/-- The folder of configurations, if the environment tells it. -/
def configurationFolder? : IO (Option String) := do
  let explicit := (← IO.getEnv "XDG_CONFIG_HOME").filter fun folder => folder.startsWith "/"
  let home := (← IO.getEnv "HOME").filter fun folder => !folder.isEmpty
  return explicit.or (home.map configurationFolder)

/-- The definitions that are used when none are named. -/
def loadDefaultDefinitions : IO (Option (String × Except FileError String)) := do
  match (← configurationFolder?).map definitionsPath with
  | none => return none
  | some path =>
      match ← readFile path with
      | .regular content => return some (path, content)
      | .unreadable _ => return none

/-- What the command finds when it starts: the files named in the arguments, and those that its
input can include. -/
def loadSurroundings (arguments : Arguments) : IO Surroundings := do
  let standardInput ← if arguments.readsStandardInput then readStandardInput else pure (.ok "")
  let defaultDefinitions ← loadDefaultDefinitions
  let named := arguments.choices.definitionsFile.toList ++
    (if arguments.readsStandardInput then [] else [arguments.input])
  let loaded ← named.mapM fun path => return (path, ← readFile path)
  let surroundings : Surroundings :=
    { files := Loaded.toFiles loaded, standardInput, defaultDefinitions }
  let texts := (surroundings.input arguments).toOption.toList
  let levels := arguments.options.maximalIncludeDepth + 1
  let all ← loadIncluded arguments.sourceFolder levels texts loaded
  return { surroundings with files := Loaded.toFiles all }

/-- Puts the output where the arguments want it. -/
def deliver (arguments : Arguments) (report : Report) : IO Report := do
  match report.output, arguments.choices.output with
  | some text, some path =>
      match ← writeFile path text with
      | .ok () => return report
      | .error error => return report.undelivered path error
  | some text, none =>
      try
        let stream ← IO.getStdout
        stream.putStr text
        stream.flush
        return report
      catch error => return report.undelivered "stdout" (fileError error)
  | none, _ => return report

def run (arguments : Arguments) : IO UInt32 := do
  let report ← deliver arguments (execute arguments (← loadSurroundings arguments))
  for message in report.messages do
    IO.eprintln message.render
  return report.status.toUInt32

end LineTemplate.CommandLine

open LineTemplate.CommandLine in
def main (arguments : List String) : IO UInt32 := do
  match Arguments.ofList arguments with
  | .ok arguments => run arguments
  | .error stop =>
      if stop.status = 0 then IO.println stop.message else IO.eprintln stop.message
      return stop.status.toUInt32

import LineTemplate.Run.Step

/-!
The files that a text may include. What a line includes does not depend on variables, so the paths
can be read off the lines.
-/

namespace LineTemplate.Run

/-- The path that a line includes, if it names one. -/
def includedPath? (sourceFolder line : String) : Option String :=
  let name := Setting.fileName (Line.argument line)
  if Directive.ofLine? line = some .insertFile && !name.isEmpty then
    some (joinPath sourceFolder name)
  else none

/-- The paths that the lines of a text include, in order. -/
def includedPaths (sourceFolder text : String) : List String :=
  (Text.splitLines text).filterMap (includedPath? sourceFolder)

end LineTemplate.Run

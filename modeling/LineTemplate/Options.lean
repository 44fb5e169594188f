/-!
Settings of a preprocessor.
-/

namespace LineTemplate

/-- What is put between the lines of the output. -/
inductive LineEnding where
  | windows
  | unix
  | custom (text : String)
  deriving DecidableEq, Repr

/-- The two usual endings have names; any other text is an ending by itself. -/
def LineEnding.ofText (style : String) : LineEnding :=
  if style = "windows" then windows
  else if style = "unix" then unix
  else custom style

def LineEnding.text : LineEnding → String
  | windows => "\r\n"
  | unix => "\n"
  | custom text => text

structure Options where
  lineEnding : LineEnding
  /-- Paths of included files are relative to it. -/
  sourceFolder : String
  /-- What stands before a name in a marker. -/
  opening : String
  /-- What stands after a name in a marker. -/
  closing : String
  trimsLines : Bool
  maximalIncludeDepth : Nat
  /-- How many passes through loop bodies one run may start. -/
  maximalPasses : Nat
  deriving DecidableEq, Repr

namespace Options

def default : Options :=
  { lineEnding := .unix
    sourceFolder := ""
    opening := "%"
    closing := "%"
    trimsLines := false
    maximalIncludeDepth := 32
    maximalPasses := 100000 }

instance : Inhabited Options := ⟨default⟩

/-- An empty opening changes nothing, and a closing that is missing or empty repeats the opening. -/
def withWrappers (options : Options) (opening : String) (closing : Option String) : Options :=
  if opening.isEmpty then options
  else
    let ending :=
      match closing with
      | some text => if text.isEmpty then opening else text
      | none => opening
    { options with opening := opening, closing := ending }

end Options

end LineTemplate

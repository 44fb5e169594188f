import LineTemplate.Run

/-!
The preprocessor: options, kept from one source to the next, and the diagnostics of the last source.
Processing never fails. What goes wrong is reported in the diagnostics, and the output is what could
be made of the rest.
-/

namespace LineTemplate

/-- What is to be processed: a text, or the file at a path. -/
inductive Source where
  | text (content : String)
  | file (path : String)
  deriving DecidableEq, Repr

/-- One line that is the path of a file stands for the file, and everything else for itself. -/
def Source.guess (files : Files) (content : String) : Source :=
  if !content.toList.contains '\n' && (files content).isRegular then file content
  else text content

def Source.read (files : Files) : Source → Except DirectiveError String
  | text content => .ok content
  | file path =>
      match (files path).read with
      | .ok content => .ok content
      | .error error => .error (.unreadable path error)

structure Preprocessor where
  options : Options
  diagnostics : Array Diagnostic

namespace Preprocessor

def ofOptions (options : Options) : Preprocessor :=
  { options, diagnostics := #[] }

def new : Preprocessor :=
  ofOptions Options.default

instance : Inhabited Preprocessor := ⟨new⟩

/-- The state in which a text leaves a run that starts from the given variables. -/
def finalState (options : Options) (files : Files) (bindings : Variables)
    (substitution : Substitution) (text : String) : Run.State :=
  let markers := Markers.ofSubstitution substitution bindings options.opening options.closing
  (Run.Setting.top options files).overText bindings markers text

/-- The output for a source, and the preprocessor with the diagnostics of that source alone. -/
def process (preprocessor : Preprocessor) (files : Files) (bindings : Variables)
    (substitution : Substitution) (source : Source) : String × Preprocessor :=
  let options := preprocessor.options
  match source.read files with
  | .ok text =>
      let outcome :=
        (Run.Setting.top options files).outcome
          (finalState options files bindings substitution text)
      (outcome.output, { options, diagnostics := outcome.diagnostics })
  | .error error => ("", { options, diagnostics := #[{ file := none, line := 0, error }] })

end Preprocessor

end LineTemplate

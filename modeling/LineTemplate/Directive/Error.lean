import LineTemplate.Directive
import LineTemplate.Expression.Error
import LineTemplate.Files

/-!
Why a directive could not take effect, and the diagnostics that a run collects.
-/

namespace LineTemplate

/-- The three numbers of a loop over a range. -/
inductive RangeNumber where
  | start
  | last
  | step
  deriving DecidableEq, Repr

def RangeNumber.describe : RangeNumber → String
  | start => "start value"
  | last => "end value"
  | step => "step"

inductive LoopFault where
  | missingVariable
  | badVariable (found : String)
  | missingForm
  | badForm (found : String)
  | emptyList
  | missingNumber (number : RangeNumber)
  | notANumber (number : RangeNumber) (found : String)
  | missingTo
  | unexpected (found : String)
  | zeroStep
  | wrongDirection
  deriving DecidableEq, Repr

def LoopFault.message : LoopFault → String
  | missingVariable => "missing loop variable"
  | badVariable found => s!"bad loop variable '{found}'"
  | missingForm => "expected IN or FROM"
  | badForm found => s!"expected IN or FROM, found '{found}'"
  | emptyList => "empty IN list"
  | missingNumber number => s!"missing {number.describe}"
  | notANumber number found => s!"{number.describe} '{found}' is not a number"
  | missingTo => "expected TO"
  | unexpected found => s!"unexpected '{found}'"
  | zeroStep => "STEP must not be zero"
  | wrongDirection => "STEP direction does not reach the end value"

/-- What is wrong with the text after a keyword. -/
inductive ArgumentFault where
  | missingCondition
  | missingAssignment
  | missingVariable
  | badVariable (name : String)
  | missingFile
  | loop (fault : LoopFault)
  deriving DecidableEq, Repr

def ArgumentFault.message : ArgumentFault → String
  | missingCondition => "missing condition"
  | missingAssignment => "expected 'name = expression'"
  | missingVariable => "missing variable name"
  | badVariable name => s!"invalid variable name '{name}'"
  | missingFile => "missing file name"
  | loop fault => fault.message

inductive DirectiveError where
  | unmatched (directive opener : Directive)
  | unclosed (opener : Directive) (line : Nat)
  | malformed (directive : Directive) (fault : ArgumentFault)
  | evaluation (directive : Directive) (error : Expression.Error)
  | openQuote
  | noSuchFile (path : String)
  | unreadable (path : String) (error : FileError)
  | includeDepth (limit : Nat)
  | passLimit (limit : Nat)
  deriving DecidableEq

namespace DirectiveError

def message : DirectiveError → String
  | unmatched directive opener => s!"{directive.keyword} without matching {opener.keyword}"
  | unclosed opener line => s!"{opener.keyword} opened at line {line} is never closed"
  | malformed directive fault => s!"syntax error in {directive.keyword}: {fault.message}"
  | evaluation directive error => s!"{directive.keyword}: {error.message}"
  | openQuote => "unterminated quoted string"
  | noSuchFile path => s!"wrong source file name in #INCLUDE: {path}"
  | unreadable path error => s!"cannot read {path}: {error.message}"
  | includeDepth limit => s!"#INCLUDE nesting deeper than {limit} levels"
  | passLimit limit => s!"#FOR loop exceeds {limit} iterations"

def loopFault (fault : LoopFault) : DirectiveError :=
  malformed .loop (.loop fault)

end DirectiveError

/-- A directive that opened a block or a loop, and its line. -/
structure Opening where
  directive : Directive
  line : Nat
  deriving DecidableEq, Repr

/-- The error of a block or loop that is never closed. -/
def Opening.error (opening : Opening) : DirectiveError :=
  .unclosed opening.directive opening.line

/-- A problem and where it arose: the line, counted from 1, of an included file or else of the
source itself. Line 0 stands for the source as a whole. -/
structure Diagnostic where
  file : Option String
  line : Nat
  error : DirectiveError
  deriving DecidableEq

def Diagnostic.message (diagnostic : Diagnostic) : String :=
  diagnostic.error.message

def Diagnostic.render (diagnostic : Diagnostic) : String :=
  match diagnostic.file with
  | some path => s!"{path}:{diagnostic.line}: {diagnostic.message}"
  | none => s!"line {diagnostic.line}: {diagnostic.message}"

end LineTemplate

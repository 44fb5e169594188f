import LineTemplate.Line.Words
import LineTemplate.Text.Folding

/-!
Directives: the lines whose first word is one of twelve keywords, in any case. Every other line is
content.
-/

namespace LineTemplate

inductive Directive where
  | onlyIf
  | elseIf
  | otherwise
  | endIf
  | switch
  | case
  | default
  | endSwitch
  | insertFile
  | set
  | loop
  | endLoop
  deriving DecidableEq, Repr

namespace Directive

def keyword : Directive → String
  | onlyIf => "#IF"
  | elseIf => "#ELSEIF"
  | otherwise => "#ELSE"
  | endIf => "#ENDIF"
  | switch => "#SWITCH"
  | case => "#CASE"
  | default => "#DEFAULT"
  | endSwitch => "#ENDSWITCH"
  | insertFile => "#INCLUDE"
  | set => "#SET"
  | loop => "#FOR"
  | endLoop => "#ENDFOR"

/-- Shorter spellings that two directives have beside their keyword. -/
def alias? : Directive → Option String
  | elseIf => some "#ELIF"
  | endLoop => some "#ENDF"
  | _ => none

def all : List Directive :=
  [onlyIf, elseIf, otherwise, endIf, switch, case, default, endSwitch, insertFile, set, loop, endLoop]

theorem mem_all (directive : Directive) : directive ∈ all := by
  cases directive <;> decide

def isSpelled (directive : Directive) (word : String) : Bool :=
  Text.equalIgnoringCase word directive.keyword ||
    directive.alias?.any (Text.equalIgnoringCase word)

def ofWord? (word : String) : Option Directive :=
  all.find? fun directive => directive.isSpelled word

def ofLine? (line : String) : Option Directive :=
  ofWord? (Line.firstWord line)

end Directive

end LineTemplate

import LineTemplate.Proofs.Run.Progress

/-!
Templates as trees. A text whose directives are well nested is a tree of blocks and loops, and
running it is a recursion over the tree: of a block at most one branch runs, the body of a loop runs
once for each value, and what does not run is not looked at. The recursion has no stacks and no
cursor; it only counts lines, for the diagnostics, and the passes of loops.
-/

namespace LineTemplate

/-- A line that is read as the given directive, whatever stands after the keyword. -/
structure DirectiveLine (directive : Directive) where
  text : String
  spelled : Directive.ofLine? text = some directive

structure ContentLine where
  text : String
  plain : Directive.ofLine? text = none

mutual

/-- Items in a row, each with what follows it. -/
inductive Template where
  | done
  | content (line : ContentLine) (rest : Template)
  | assignment (line : DirectiveLine .set) (rest : Template)
  | insertion (line : DirectiveLine .insertFile) (rest : Template)
  | conditional (opener : DirectiveLine .onlyIf) (body : Template) (others : Alternatives)
      (rest : Template)
  | selection (opener : DirectiveLine .switch) (preamble : Template) (cases : Cases)
      (rest : Template)
  | loop (opener : DirectiveLine .loop) (body : Template) (closer : DirectiveLine .endLoop)
      (rest : Template)

/-- A conditional block after its first branch. -/
inductive Alternatives where
  | closed (closer : DirectiveLine .endIf)
  | last (opener : DirectiveLine .otherwise) (body : Template) (closer : DirectiveLine .endIf)
  | alternative (opener : DirectiveLine .elseIf) (body : Template) (others : Alternatives)

/-- A selection from its first case on. -/
inductive Cases where
  | closed (closer : DirectiveLine .endSwitch)
  | case (opener : DirectiveLine .case) (body : Template) (others : Cases)
  | default (opener : DirectiveLine .default) (body : Template) (others : Cases)

end

mutual

def Template.lines : Template → List String
  | .done => []
  | .content line rest => line.text :: rest.lines
  | .assignment line rest => line.text :: rest.lines
  | .insertion line rest => line.text :: rest.lines
  | .conditional opener body others rest =>
      opener.text :: (body.lines ++ others.lines ++ rest.lines)
  | .selection opener preamble cases rest =>
      opener.text :: (preamble.lines ++ cases.lines ++ rest.lines)
  | .loop opener body closer rest => opener.text :: (body.lines ++ closer.text :: rest.lines)

def Alternatives.lines : Alternatives → List String
  | .closed closer => [closer.text]
  | .last opener body closer => opener.text :: (body.lines ++ [closer.text])
  | .alternative opener body others => opener.text :: (body.lines ++ others.lines)

def Cases.lines : Cases → List String
  | .closed closer => [closer.text]
  | .case opener body others => opener.text :: (body.lines ++ others.lines)
  | .default opener body others => opener.text :: (body.lines ++ others.lines)

end

/-- The values of the passes of a loop, which always makes a first one. -/
def Loop.Clause.passes (clause : Clause) : List Value :=
  clause.values[0]?.getD default :: clause.values.toList.drop 1

open Run (Setting Progress)
open Run.Progress (caseValues)

mutual

/-- Runs a template whose first line has the given number. -/
def Template.run (setting : Setting) : Template → Nat → Progress → Progress
  | .done, _, progress => progress
  | .content line rest, number, progress =>
      rest.run setting (number + 1) (progress.emit (setting.content progress.markers line.text))
  | .assignment line rest, number, progress =>
      rest.run setting (number + 1) (progress.assign setting line.text number)
  | .insertion line rest, number, progress =>
      rest.run setting (number + 1) (progress.includeFile setting line.text number)
  | .conditional opener body others rest, number, progress =>
      let (holds, tested) := progress.test setting .onlyIf opener.text number
      let afterBody := number + 1 + body.lines.length
      rest.run setting (afterBody + others.lines.length)
        (if holds then body.run setting (number + 1) tested
        else others.run setting afterBody tested)
  | .selection opener preamble cases rest, number, progress =>
      let (value, asked) := progress.discriminant setting opener.text number
      let afterPreamble := number + 1 + preamble.lines.length
      rest.run setting (afterPreamble + cases.lines.length)
        (cases.run setting value afterPreamble asked)
  | .loop opener body _ rest, number, progress =>
      rest.run setting (number + 1 + body.lines.length + 1)
        (match Loop.Clause.ofLine opener.text setting.options.maximalPasses with
        | .error error => progress.record setting number error
        | .ok clause =>
            clause.passes.foldl
              (fun before value =>
                body.run setting (number + 1) (before.startPass clause.name value))
              progress)

/-- Runs the first alternative whose condition holds, else the last branch if there is one. -/
def Alternatives.run (setting : Setting) : Alternatives → Nat → Progress → Progress
  | .closed _, _, progress => progress
  | .last _ body _, number, progress => body.run setting (number + 1) progress
  | .alternative opener body others, number, progress =>
      let (holds, tested) := progress.test setting .elseIf opener.text number
      if holds then body.run setting (number + 1) tested
      else others.run setting (number + 1 + body.lines.length) tested

/-- Runs the first case that lists the value, or the first default when it comes before such a
case. -/
def Cases.run (setting : Setting) (value : Value) : Cases → Nat → Progress → Progress
  | .closed _, _, progress => progress
  | .case opener body others, number, progress =>
      if (caseValues opener.text).any value.looselyEquals then
        body.run setting (number + 1) progress
      else others.run setting value (number + 1 + body.lines.length) progress
  | .default _ body _, number, progress => body.run setting (number + 1) progress

end

end LineTemplate

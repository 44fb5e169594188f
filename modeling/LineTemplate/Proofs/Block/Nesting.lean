import LineTemplate.Block

/-!
The nesting of blocks as a matter of brackets. Which directive may follow is decided by what the
innermost open block still admits, and that in turn by the directives alone. This module has the
check that keeps only that of the open blocks, a grammar of the sequences in which all is matched and
closed, and the proof that the check finds nothing exactly in those.
-/

namespace LineTemplate.Block

/-- What a block still admits: further branches, none after the last one, or further cases. -/
inductive Enclosure where
  | branches
  | lastBranch
  | cases
  deriving DecidableEq, Repr

def Enclosure.opener : Enclosure → Directive
  | branches | lastBranch => .onlyIf
  | cases => .switch

/-- All of an open block that a bracket check has to know. -/
structure Outline where
  enclosure : Enclosure
  openedAt : Nat
  deriving DecidableEq, Repr

def Outline.opening (outline : Outline) : Opening :=
  { directive := outline.enclosure.opener, line := outline.openedAt }

/-- What a line makes of the blocks that are open around it, innermost first, and whether it is
rejected, when no more is known of it than its number and its directive. -/
def follow (number : Nat) : Directive → List Outline → List Outline × Option DirectiveError
  | .onlyIf, around => (⟨.branches, number⟩ :: around, none)
  | .switch, around => (⟨.cases, number⟩ :: around, none)
  | .elseIf, ⟨.branches, opened⟩ :: outer => (⟨.branches, opened⟩ :: outer, none)
  | .otherwise, ⟨.branches, opened⟩ :: outer => (⟨.lastBranch, opened⟩ :: outer, none)
  | .endIf, _ :: outer => (outer, none)
  | .case, ⟨.cases, opened⟩ :: outer => (⟨.cases, opened⟩ :: outer, none)
  | .default, ⟨.cases, opened⟩ :: outer => (⟨.cases, opened⟩ :: outer, none)
  | .endSwitch, ⟨.cases, _⟩ :: outer => (outer, none)
  | .elseIf, around => (around, some (.unmatched .elseIf .onlyIf))
  | .otherwise, around => (around, some (.unmatched .otherwise .onlyIf))
  | .endIf, around => (around, some (.unmatched .endIf .onlyIf))
  | .case, around => (around, some (.unmatched .case .switch))
  | .default, around => (around, some (.unmatched .default .switch))
  | .endSwitch, around => (around, some (.unmatched .endSwitch .switch))
  | .insertFile, around | .set, around | .loop, around | .endLoop, around => (around, none)

/-- The lines that are rejected and the openers that are never closed, in lines of the given
directives. Content lines have none. -/
def nestingFaults (file : Option String) :
    Nat → List Outline → List (Option Directive) → List Diagnostic
  | _, around, [] =>
      around.reverse.map fun outline =>
        { file, line := outline.openedAt, error := outline.opening.error }
  | number, around, none :: rest => nestingFaults file (number + 1) around rest
  | number, around, some directive :: rest =>
      let (after, rejected) := follow number directive around
      (rejected.toList.map fun error => { file, line := number, error }) ++
        nestingFaults file (number + 1) after rest

/-- Lines in a row, or what follows the first branch of a block that admits so much. -/
inductive Part where
  | sequence
  | inside (enclosure : Enclosure)

/-- Whether the line neither opens nor closes a block nor starts a branch of one. -/
def isOther : Option Directive → Bool
  | none | some .insertFile | some .set | some .loop | some .endLoop => true
  | _ => false

/-- The sequences of directives in which all is matched and closed. The end of a conditional block
closes a selection just as well. -/
inductive Derives : Part → List (Option Directive) → Prop where
  | nothing : Derives .sequence []
  | other {kind : Option Directive} {rest : List (Option Directive)} (isOther : isOther kind = true)
      (following : Derives .sequence rest) : Derives .sequence (kind :: rest)
  | conditional {body others rest : List (Option Directive)} (first : Derives .sequence body)
      (further : Derives (.inside .branches) others) (following : Derives .sequence rest) :
      Derives .sequence (some .onlyIf :: (body ++ others ++ rest))
  | selection {preamble others rest : List (Option Directive)}
      (first : Derives .sequence preamble) (further : Derives (.inside .cases) others)
      (following : Derives .sequence rest) :
      Derives .sequence (some .switch :: (preamble ++ others ++ rest))
  | alternative {body others : List (Option Directive)} (branch : Derives .sequence body)
      (further : Derives (.inside .branches) others) :
      Derives (.inside .branches) (some .elseIf :: (body ++ others))
  | otherwise {body others : List (Option Directive)} (branch : Derives .sequence body)
      (further : Derives (.inside .lastBranch) others) :
      Derives (.inside .branches) (some .otherwise :: (body ++ others))
  | case {opener : Directive} {body others : List (Option Directive)}
      (opens : opener = .case ∨ opener = .default) (branch : Derives .sequence body)
      (further : Derives (.inside .cases) others) :
      Derives (.inside .cases) (some opener :: (body ++ others))
  | endSelection : Derives (.inside .cases) [some .endSwitch]
  | endConditional (enclosure : Enclosure) : Derives (.inside enclosure) [some .endIf]

variable {file : Option String} {number opened : Nat} {around outer : List Outline}
  {outline : Outline} {kind : Option Directive} {kinds rest : List (Option Directive)} {part : Part}

theorem nesting_faults_of_other (isOther : isOther kind = true) :
    nestingFaults file number around (kind :: rest) =
      nestingFaults file (number + 1) around rest := by
  cases kind with
  | none => rfl
  | some directive =>
      cases directive with
      | insertFile | set | loop | endLoop => rfl
      | _ => cases isOther

theorem nesting_faults_of_directive (directive : Directive) :
    nestingFaults file number around (some directive :: rest) =
      ((follow number directive around).2.toList.map fun error => { file, line := number, error }) ++
        nestingFaults file (number + 1) (follow number directive around).1 rest := rfl

/-- The blocks that are open where a part starts. -/
def Part.outlines (opened : Nat) (outer : List Outline) : Part → List Outline
  | sequence => outer
  | inside enclosure => ⟨enclosure, opened⟩ :: outer

/-- The check gets through what the grammar derives, and closes the block that it started in. -/
theorem passes_of_derives (derived : Derives part kinds) (file : Option String)
    (opened number : Nat) (outer : List Outline) (rest : List (Option Directive)) :
    ∃ later, nestingFaults file number (part.outlines opened outer) (kinds ++ rest) =
      nestingFaults file later outer rest := by
  -- Of a block the first branch passes inside its outline, and so does all up to its end.
  have block {first others : List (Option Directive)} {enclosure : Enclosure}
      (ihFirst : ∀ opened number outer rest, ∃ later,
        nestingFaults file number (Part.sequence.outlines opened outer) (first ++ rest) =
          nestingFaults file later outer rest)
      (ihOthers : ∀ opened number outer rest, ∃ later,
        nestingFaults file number ((Part.inside enclosure).outlines opened outer) (others ++ rest) =
          nestingFaults file later outer rest)
      (opened number : Nat) (outer : List Outline) (rest : List (Option Directive)) :
      ∃ later, nestingFaults file number (⟨enclosure, opened⟩ :: outer)
          ((first ++ others) ++ rest) = nestingFaults file later outer rest := by
    obtain ⟨between, passed⟩ :=
      ihFirst opened number (⟨enclosure, opened⟩ :: outer) (others ++ rest)
    obtain ⟨later, closed⟩ := ihOthers opened between outer rest
    rw [List.append_assoc]
    exact ⟨later, passed.trans closed⟩
  induction derived generalizing opened number outer rest with
  | nothing => exact ⟨number, rfl⟩
  | other isOther _ ih =>
      rw [List.cons_append, nesting_faults_of_other isOther]
      exact ih opened (number + 1) outer rest
  | conditional _ _ _ ihFirst ihFurther ihFollowing
  | selection _ _ _ ihFirst ihFurther ihFollowing =>
      obtain ⟨between, closed⟩ := block ihFirst ihFurther number (number + 1) outer _
      obtain ⟨later, passed⟩ := ihFollowing opened between outer rest
      rw [List.cons_append, List.append_assoc]
      exact ⟨later, closed.trans passed⟩
  | alternative _ _ ihBranch ihFurther
  | otherwise _ _ ihBranch ihFurther => exact block ihBranch ihFurther opened (number + 1) outer rest
  | case opens _ _ ihBranch ihFurther =>
      rcases opens with rfl | rfl <;>
        exact block ihBranch ihFurther opened (number + 1) outer rest
  | endSelection => exact ⟨number + 1, rfl⟩
  | endConditional enclosure => exact ⟨number + 1, rfl⟩

/-- The lines that are left close the open blocks one after the other and are matched otherwise. -/
inductive Completes : List Outline → List (Option Directive) → Prop where
  | done {kinds : List (Option Directive)} (derived : Derives .sequence kinds) : Completes [] kinds
  | block {outline : Outline} {outer : List Outline} {body others rest : List (Option Directive)}
      (branch : Derives .sequence body) (further : Derives (.inside outline.enclosure) others)
      (following : Completes outer rest) : Completes (outline :: outer) (body ++ others ++ rest)

theorem completes_other (isOther : isOther kind = true) (completes : Completes around rest) :
    Completes around (kind :: rest) := by
  cases completes with
  | done derived => exact .done (.other isOther derived)
  | block branch further following => exact .block (.other isOther branch) further following

/-- A line that opens a block is completed by what completes the block and the blocks around it. -/
theorem completes_open {opener : Directive} {enclosure : Enclosure}
    (opens : ∀ {body others rest : List (Option Directive)}, Derives .sequence body →
      Derives (.inside enclosure) others → Derives .sequence rest →
        Derives .sequence (some opener :: (body ++ others ++ rest)))
    (completes : Completes (⟨enclosure, opened⟩ :: outer) rest) :
    Completes outer (some opener :: rest) := by
  cases completes with
  | block branch further following =>
      cases following with
      | done derived => exact .done (opens branch further derived)
      | @block outline outer body others rest around closing following =>
          have regrouped := Completes.block (opens branch further around) closing following
          simpa only [List.cons_append, List.append_assoc] using regrouped

/-- A line that starts a branch is completed by what completes the block after it. -/
theorem completes_branch {opener : Directive} {before after : Enclosure}
    (starts : ∀ {body others : List (Option Directive)}, Derives .sequence body →
      Derives (.inside after) others → Derives (.inside before) (some opener :: (body ++ others)))
    (completes : Completes (⟨after, opened⟩ :: outer) rest) :
    Completes (⟨before, opened⟩ :: outer) (some opener :: rest) := by
  cases completes with
  | block branch further following =>
      exact @Completes.block ⟨before, opened⟩ _ [] _ _ .nothing (starts branch further) following

/-- A line that closes a block is completed by what completes the blocks around it. -/
theorem completes_close {closer : Directive} (closes : Derives (.inside outline.enclosure) [some closer])
    (completes : Completes outer rest) : Completes (outline :: outer) (some closer :: rest) :=
  @Completes.block outline _ [] [some closer] _ .nothing closes completes

/-- Each line that is not rejected goes on with a derivation of what the check makes of the lines
after it. -/
theorem completes_of_follow {directive : Directive} {after : List Outline}
    (followed : follow number directive around = (after, none)) (completes : Completes after rest) :
    Completes around (some directive :: rest) := by
  cases directive with
  | onlyIf =>
      cases followed
      exact completes_open .conditional completes
  | switch =>
      cases followed
      exact completes_open .selection completes
  | insertFile | set | loop | endLoop =>
      cases followed
      exact completes_other rfl completes
  | elseIf =>
      match around, followed with
      | ⟨.branches, _⟩ :: _, rfl => exact completes_branch .alternative completes
  | otherwise =>
      match around, followed with
      | ⟨.branches, _⟩ :: _, rfl => exact completes_branch .otherwise completes
  | case =>
      match around, followed with
      | ⟨.cases, _⟩ :: _, rfl => exact completes_branch (.case (Or.inl rfl)) completes
  | default =>
      match around, followed with
      | ⟨.cases, _⟩ :: _, rfl => exact completes_branch (.case (Or.inr rfl)) completes
  | endIf =>
      match around, followed with
      | outline :: _, rfl => exact completes_close (.endConditional outline.enclosure) completes
  | endSwitch =>
      match around, followed with
      | ⟨.cases, _⟩ :: _, rfl => exact completes_close .endSelection completes

theorem completes_of_no_faults (sound : nestingFaults file number around kinds = []) :
    Completes around kinds := by
  induction kinds generalizing number around with
  | nil =>
      cases around with
      | nil => exact .done .nothing
      | cons outline outer => simp [nestingFaults] at sound
  | cons kind rest ih =>
      cases kind with
      | none => exact completes_other rfl (ih sound)
      | some directive =>
          rw [nesting_faults_of_directive, List.append_eq_nil_iff] at sound
          obtain ⟨accepted, further⟩ := sound
          cases followed : follow number directive around with
          | mk after rejected =>
              rw [followed] at accepted further
              cases rejected with
              | none => exact completes_of_follow followed (ih further)
              | some error => cases accepted

/-- The check finds nothing exactly in the sequences that the grammar derives. -/
theorem no_faults_iff_derives :
    nestingFaults file 1 [] kinds = [] ↔ Derives .sequence kinds := by
  constructor
  · intro sound
    cases completes_of_no_faults sound with
    | done derived => exact derived
  · intro derived
    obtain ⟨later, passed⟩ := passes_of_derives derived file 0 1 [] []
    rw [List.append_nil] at passed
    exact passed

end LineTemplate.Block

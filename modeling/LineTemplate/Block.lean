import LineTemplate.Directive.Error
import LineTemplate.Value.Order

/-!
Conditional blocks. A line is active when every open block is in a live branch. Of the branches of a
block at most one becomes live: once one was taken the others stay dead, and a block that opens in a
dead region counts as taken from the start, so its conditions are never asked for.
-/

namespace LineTemplate.Block

/-- Where a conditional block stands. No branch may follow the last one. -/
inductive Branch where
  | first
  | alternative
  | last
  deriving DecidableEq, Repr

inductive Kind where
  | conditional (branch : Branch)
  | selection (discriminant : Value)
  deriving DecidableEq

structure Frame where
  kind : Kind
  live : Bool
  taken : Bool
  /-- Line of the directive that opened the block, counted from 1. -/
  openedAt : Nat
  deriving DecidableEq

def Frame.opener (frame : Frame) : Directive :=
  match frame.kind with
  | .conditional _ => .onlyIf
  | .selection _ => .switch

/-- The open blocks, innermost first. -/
abbrev Stack := List Frame

/-- A condition or discriminant that is computed only when it is asked for. -/
abbrev Question (Answer : Type) := Unit → Except DirectiveError Answer

namespace Stack

def isActive (blocks : Stack) : Bool :=
  blocks.all Frame.live

/-- A frame that may still get another branch of its condition. -/
def isOpenConditional (frame : Frame) : Bool :=
  match frame.kind with
  | .conditional .last => false
  | .conditional _ => true
  | .selection _ => false

/-- Whether a directive, with the blocks as they are, asks its question. -/
def consults (blocks : Stack) : Directive → Bool
  | .onlyIf | .switch => blocks.isActive
  | .elseIf =>
      match blocks with
      | frame :: _ => isOpenConditional frame && !frame.taken
      | [] => false
  | _ => false

/-- The frame once its condition is answered. A condition that fails counts as false. -/
def decide (frame : Frame) (answer : Except DirectiveError Bool) :
    Frame × Except DirectiveError Unit :=
  match answer with
  | .ok holds => ({ frame with live := holds, taken := holds }, .ok ())
  | .error error => ({ frame with live := false, taken := false }, .error error)

section Asking

variable {Effect : Type → Type} [Applicative Effect]

/-- The effect of asking is left open here, so that one can see whether a directive asks. -/
def askConditional (blocks : Stack) (line : Nat) (condition : Effect (Except DirectiveError Bool)) :
    Effect (Stack × Except DirectiveError Unit) :=
  let frame : Frame :=
    { kind := .conditional .first, live := false, taken := !blocks.isActive, openedAt := line }
  if frame.taken then pure (frame :: blocks, .ok ())
  else
    condition <&> fun answer =>
      let (decided, result) := decide frame answer
      (decided :: blocks, result)

def askAlternative (blocks : Stack) (condition : Effect (Except DirectiveError Bool)) :
    Effect (Stack × Except DirectiveError Unit) :=
  match blocks with
  | frame :: outer =>
      if isOpenConditional frame then
        let moved := { frame with kind := .conditional .alternative }
        if moved.taken then pure ({ moved with live := false } :: outer, .ok ())
        else
          condition <&> fun answer =>
            let (decided, result) := decide moved answer
            (decided :: outer, result)
      else pure (blocks, .error (.unmatched .elseIf .onlyIf))
  | [] => pure (blocks, .error (.unmatched .elseIf .onlyIf))

/-- A selection whose discriminant fails is open all the same, on the empty text. -/
def askSelection (blocks : Stack) (line : Nat)
    (discriminant : Effect (Except DirectiveError Value)) :
    Effect (Stack × Except DirectiveError Unit) :=
  let frame : Frame :=
    { kind := .selection (.text ""), live := false, taken := !blocks.isActive, openedAt := line }
  if frame.taken then pure (frame :: blocks, .ok ())
  else
    discriminant <&> fun answer =>
      match answer with
      | .ok value => ({ frame with kind := .selection value } :: blocks, .ok ())
      | .error error => (frame :: blocks, .error error)

end Asking

/-- In a run a question is a function, and asking is to call it. -/
def openConditional (blocks : Stack) (line : Nat) (condition : Question Bool) :
    Stack × Except DirectiveError Unit :=
  @askConditional (ReaderM Unit) _ blocks line condition ()

def alternative (blocks : Stack) (condition : Question Bool) :
    Stack × Except DirectiveError Unit :=
  @askAlternative (ReaderM Unit) _ blocks condition ()

def openSelection (blocks : Stack) (line : Nat) (discriminant : Question Value) :
    Stack × Except DirectiveError Unit :=
  @askSelection (ReaderM Unit) _ blocks line discriminant ()

def otherwise (blocks : Stack) : Stack × Except DirectiveError Unit :=
  match blocks with
  | frame :: outer =>
      if isOpenConditional frame then
        ({ frame with kind := .conditional .last, live := !frame.taken, taken := true } :: outer,
          .ok ())
      else (blocks, .error (.unmatched .otherwise .onlyIf))
  | [] => (blocks, .error (.unmatched .otherwise .onlyIf))

/-- Closes the innermost block, of either kind. -/
def endConditional (blocks : Stack) : Stack × Except DirectiveError Frame :=
  match blocks with
  | frame :: outer => (outer, .ok frame)
  | [] => (blocks, .error (.unmatched .endIf .onlyIf))

/-- Live when no case was taken yet and one of the values equals the discriminant. -/
def case (blocks : Stack) (values : List Value) : Stack × Except DirectiveError Unit :=
  match blocks with
  | frame :: outer =>
      match frame.kind with
      | .selection discriminant =>
          let fires := !frame.taken && values.any discriminant.looselyEquals
          ({ frame with live := fires, taken := frame.taken || fires } :: outer, .ok ())
      | .conditional _ => (blocks, .error (.unmatched .case .switch))
  | [] => (blocks, .error (.unmatched .case .switch))

def default (blocks : Stack) : Stack × Except DirectiveError Unit :=
  match blocks with
  | frame :: outer =>
      match frame.kind with
      | .selection _ =>
          ({ frame with live := !frame.taken, taken := true } :: outer, .ok ())
      | .conditional _ => (blocks, .error (.unmatched .default .switch))
  | [] => (blocks, .error (.unmatched .default .switch))

def endSelection (blocks : Stack) : Stack × Except DirectiveError Frame :=
  match blocks with
  | frame :: outer =>
      match frame.kind with
      | .selection _ => (outer, .ok frame)
      | .conditional _ => (blocks, .error (.unmatched .endSwitch .switch))
  | [] => (blocks, .error (.unmatched .endSwitch .switch))

/-- What opened the blocks that are still open, outermost first. -/
def openings (blocks : Stack) : List Opening :=
  blocks.reverse.map fun frame => { directive := frame.opener, line := frame.openedAt }

section Asking

variable {Effect : Type → Type} [Applicative Effect]

/-- A condition is asked for once, if the blocks consult it, and else not at all. -/
theorem ask_conditional_eq (blocks : Stack) (line : Nat)
    (condition : Effect (Except DirectiveError Bool)) :
    blocks.askConditional line condition =
      if blocks.consults .onlyIf then
        condition <&> fun answer => blocks.openConditional line fun _ => answer
      else pure (blocks.openConditional line fun _ => .ok false) := by
  cases active : blocks.isActive <;>
    (simp only [askConditional, openConditional, consults, active]; rfl)

theorem ask_selection_eq (blocks : Stack) (line : Nat)
    (discriminant : Effect (Except DirectiveError Value)) :
    blocks.askSelection line discriminant =
      if blocks.consults .switch then
        discriminant <&> fun answer => blocks.openSelection line fun _ => answer
      else pure (blocks.openSelection line fun _ => .ok (.text "")) := by
  cases active : blocks.isActive <;>
    (simp only [askSelection, openSelection, consults, active]; rfl)

theorem ask_alternative_eq (blocks : Stack) (condition : Effect (Except DirectiveError Bool)) :
    blocks.askAlternative condition =
      if blocks.consults .elseIf then
        condition <&> fun answer => blocks.alternative fun _ => answer
      else pure (blocks.alternative fun _ => .ok false) := by
  cases blocks with
  | nil => rfl
  | cons frame outer =>
      cases isOpen : isOpenConditional frame <;> cases taken : frame.taken <;>
        (simp only [askAlternative, alternative, consults, isOpen, taken]; rfl)

end Asking

theorem open_conditional_of_not_consults (blocks : Stack) (line : Nat)
    (first second : Question Bool) (settled : blocks.consults .onlyIf = false) :
    blocks.openConditional line first = blocks.openConditional line second := by
  rw [openConditional, openConditional, ask_conditional_eq, ask_conditional_eq, settled]
  rfl

theorem open_selection_of_not_consults (blocks : Stack) (line : Nat)
    (first second : Question Value) (settled : blocks.consults .switch = false) :
    blocks.openSelection line first = blocks.openSelection line second := by
  rw [openSelection, openSelection, ask_selection_eq, ask_selection_eq, settled]
  rfl

theorem alternative_of_not_consults (blocks : Stack) (first second : Question Bool)
    (settled : blocks.consults .elseIf = false) :
    blocks.alternative first = blocks.alternative second := by
  rw [alternative, alternative, ask_alternative_eq, ask_alternative_eq, settled]
  rfl

end Stack

end LineTemplate.Block

import LineTemplate.Block

/-!
What each operation does to a stack of blocks, as one equation for each way it can go. An operation
looks at the innermost frame only, or puts a new one on top; the frames further out stay as they
are.
-/

namespace LineTemplate.Block

/-- Whether a condition was answered, and with yes. -/
def isYes : Except DirectiveError Bool → Bool
  | .ok holds => holds
  | .error _ => false

namespace Stack

theorem decide_eq (frame : Frame) (answer : Except DirectiveError Bool) :
    decide frame answer =
      ({ frame with live := isYes answer, taken := isYes answer }, answer.map fun _ => ()) := by
  cases answer <;> rfl

theorem open_conditional_of_active {blocks : Stack} (active : blocks.isActive = true) (line : Nat)
    (condition : Question Bool) :
    blocks.openConditional line condition =
      ({ kind := .conditional .first, live := isYes (condition ()), taken := isYes (condition ())
         openedAt := line } :: blocks, (condition ()).map fun _ => ()) := by
  simp only [openConditional, askConditional, active, decide_eq]
  rfl

theorem open_conditional_of_inactive {blocks : Stack} (inactive : blocks.isActive = false)
    (line : Nat) (condition : Question Bool) :
    blocks.openConditional line condition =
      ({ kind := .conditional .first, live := false, taken := true, openedAt := line } :: blocks,
        .ok ()) := by
  simp only [openConditional, askConditional, inactive]
  rfl

theorem alternative_of_taken {frame : Frame} (outer : Stack) (isOpen : isOpenConditional frame = true)
    (taken : frame.taken = true) (condition : Question Bool) :
    alternative (frame :: outer) condition =
      ({ frame with kind := .conditional .alternative, live := false } :: outer, .ok ()) := by
  simp only [alternative, askAlternative, isOpen, taken]
  rfl

theorem alternative_of_open {frame : Frame} (outer : Stack) (isOpen : isOpenConditional frame = true)
    (untaken : frame.taken = false) (condition : Question Bool) :
    alternative (frame :: outer) condition =
      ({ frame with
          kind := .conditional .alternative
          live := isYes (condition ())
          taken := isYes (condition ()) } :: outer, (condition ()).map fun _ => ()) := by
  simp only [alternative, askAlternative, isOpen, untaken, decide_eq]
  rfl

theorem alternative_of_closed {frame : Frame} (outer : Stack)
    (closed : isOpenConditional frame = false) (condition : Question Bool) :
    alternative (frame :: outer) condition =
      (frame :: outer, .error (.unmatched .elseIf .onlyIf)) := by
  simp only [alternative, askAlternative, closed]
  rfl

theorem otherwise_of_open {frame : Frame} (outer : Stack) (isOpen : isOpenConditional frame = true) :
    otherwise (frame :: outer) =
      ({ frame with kind := .conditional .last, live := !frame.taken, taken := true } :: outer,
        .ok ()) := by
  simp [otherwise, isOpen]

theorem otherwise_of_closed {frame : Frame} (outer : Stack)
    (closed : isOpenConditional frame = false) :
    otherwise (frame :: outer) = (frame :: outer, .error (.unmatched .otherwise .onlyIf)) := by
  simp [otherwise, closed]

theorem open_selection_of_active {blocks : Stack} (active : blocks.isActive = true) (line : Nat)
    (discriminant : Question Value) :
    blocks.openSelection line discriminant =
      ({ kind := .selection ((discriminant ()).toOption.getD (.text "")), live := false
         taken := false, openedAt := line } :: blocks, (discriminant ()).map fun _ => ()) := by
  rw [openSelection, ask_selection_eq, consults, active, if_pos rfl]
  change (blocks.openSelection line fun _ => discriminant ()) = _
  cases discriminant () <;> (simp only [openSelection, askSelection, active]; rfl)

theorem open_selection_of_inactive {blocks : Stack} (inactive : blocks.isActive = false)
    (line : Nat) (discriminant : Question Value) :
    blocks.openSelection line discriminant =
      ({ kind := .selection (.text ""), live := false, taken := true, openedAt := line } :: blocks,
        .ok ()) := by
  simp only [openSelection, askSelection, inactive]
  rfl

theorem case_of_selection {frame : Frame} {discriminant : Value} (outer : Stack)
    (selects : frame.kind = .selection discriminant) (values : List Value) :
    case (frame :: outer) values =
      ({ frame with
          live := !frame.taken && values.any discriminant.looselyEquals
          taken := frame.taken || values.any discriminant.looselyEquals } :: outer, .ok ()) := by
  cases taken : frame.taken <;> simp [case, selects, taken]

theorem case_of_conditional {frame : Frame} {branch : Branch} (outer : Stack)
    (branches : frame.kind = .conditional branch) (values : List Value) :
    case (frame :: outer) values = (frame :: outer, .error (.unmatched .case .switch)) := by
  simp [case, branches]

theorem default_of_selection {frame : Frame} {discriminant : Value} (outer : Stack)
    (selects : frame.kind = .selection discriminant) :
    default (frame :: outer) =
      ({ frame with live := !frame.taken, taken := true } :: outer, .ok ()) := by
  simp [default, selects]

theorem default_of_conditional {frame : Frame} {branch : Branch} (outer : Stack)
    (branches : frame.kind = .conditional branch) :
    default (frame :: outer) = (frame :: outer, .error (.unmatched .default .switch)) := by
  simp [default, branches]

theorem end_selection_of_selection {frame : Frame} {discriminant : Value} (outer : Stack)
    (selects : frame.kind = .selection discriminant) :
    endSelection (frame :: outer) = (outer, .ok frame) := by
  simp [endSelection, selects]

theorem end_selection_of_conditional {frame : Frame} {branch : Branch} (outer : Stack)
    (branches : frame.kind = .conditional branch) :
    endSelection (frame :: outer) = (frame :: outer, .error (.unmatched .endSwitch .switch)) := by
  simp [endSelection, branches]

/-- A condition that fails leaves the blocks that one answered with no leaves. -/
theorem open_conditional_failed {blocks : Stack} {line : Nat} {condition : Question Bool}
    {error : DirectiveError} (failed : (blocks.openConditional line condition).2 = .error error) :
    blocks.isActive = true ∧ condition () = .error error ∧
      (blocks.openConditional line condition).1 =
        (blocks.openConditional line fun _ => .ok false).1 := by
  cases active : blocks.isActive with
  | false =>
      rw [open_conditional_of_inactive active] at failed
      cases failed
  | true =>
      rw [open_conditional_of_active active] at failed
      cases answer : condition () with
      | ok holds =>
          rw [answer] at failed
          cases failed
      | error reason =>
          rw [answer] at failed
          cases failed
          rw [open_conditional_of_active active, open_conditional_of_active active, answer]
          exact ⟨rfl, rfl, rfl⟩

theorem alternative_failed {blocks : Stack} {condition : Question Bool} {error : DirectiveError}
    (failed : (blocks.alternative condition).2 = .error error) :
    error = .unmatched .elseIf .onlyIf ∧ (blocks.alternative condition).1 = blocks ∨
      blocks.consults .elseIf = true ∧ condition () = .error error ∧
        (blocks.alternative condition).1 = (blocks.alternative fun _ => .ok false).1 := by
  cases blocks with
  | nil =>
      cases failed
      exact Or.inl ⟨rfl, rfl⟩
  | cons frame outer =>
      cases isOpen : isOpenConditional frame with
      | false =>
          rw [alternative_of_closed outer isOpen] at failed ⊢
          cases failed
          exact Or.inl ⟨rfl, rfl⟩
      | true =>
          cases taken : frame.taken with
          | true =>
              rw [alternative_of_taken outer isOpen taken] at failed
              cases failed
          | false =>
              rw [alternative_of_open outer isOpen taken] at failed
              cases answer : condition () with
              | ok holds =>
                  rw [answer] at failed
                  cases failed
              | error reason =>
                  rw [answer] at failed
                  cases failed
                  rw [alternative_of_open outer isOpen taken,
                    alternative_of_open outer isOpen taken, answer]
                  exact Or.inr ⟨by simp [consults, isOpen, taken], rfl, rfl⟩

theorem open_selection_failed {blocks : Stack} {line : Nat} {discriminant : Question Value}
    {error : DirectiveError} (failed : (blocks.openSelection line discriminant).2 = .error error) :
    blocks.isActive = true ∧ discriminant () = .error error ∧
      (blocks.openSelection line discriminant).1 =
        { kind := .selection (.text ""), live := false, taken := false, openedAt := line } ::
          blocks := by
  cases active : blocks.isActive with
  | false =>
      rw [open_selection_of_inactive active] at failed
      cases failed
  | true =>
      rw [open_selection_of_active active] at failed
      cases answer : discriminant () with
      | ok value =>
          rw [answer] at failed
          cases failed
      | error reason =>
          rw [answer] at failed
          cases failed
          rw [open_selection_of_active active, answer]
          exact ⟨rfl, rfl, rfl⟩

/-- The operation only fails for want of a block that it belongs to, and then changes nothing. -/
def OnlyUnmatched {Answer : Type} (blocks : Stack) (directive opener : Directive)
    (performed : Stack × Except DirectiveError Answer) : Prop :=
  ∀ error, performed.2 = .error error → error = .unmatched directive opener ∧ performed.1 = blocks

/-- It is enough that the operation succeeds on the innermost frame or rejects it. -/
theorem only_unmatched_of_innermost {Answer : Type} {directive opener : Directive}
    {operation : Stack → Stack × Except DirectiveError Answer} (blocks : Stack)
    (absent : operation [] = ([], .error (.unmatched directive opener)))
    (decides : ∀ frame outer, (∃ answer, (operation (frame :: outer)).2 = .ok answer) ∨
      operation (frame :: outer) = (frame :: outer, .error (.unmatched directive opener))) :
    OnlyUnmatched blocks directive opener (operation blocks) := by
  intro error failed
  cases blocks with
  | nil =>
      rw [absent] at failed ⊢
      cases failed
      exact ⟨rfl, rfl⟩
  | cons frame outer =>
      rcases decides frame outer with ⟨answer, accepted⟩ | rejected
      · rw [accepted] at failed
        cases failed
      · rw [rejected] at failed ⊢
        cases failed
        exact ⟨rfl, rfl⟩

theorem otherwise_only_unmatched (blocks : Stack) :
    OnlyUnmatched blocks .otherwise .onlyIf blocks.otherwise := by
  apply only_unmatched_of_innermost blocks rfl
  intro frame outer
  cases isOpen : isOpenConditional frame with
  | true => exact Or.inl ⟨(), congrArg Prod.snd (otherwise_of_open outer isOpen)⟩
  | false => exact Or.inr (otherwise_of_closed outer isOpen)

theorem end_conditional_only_unmatched (blocks : Stack) :
    OnlyUnmatched blocks .endIf .onlyIf blocks.endConditional :=
  only_unmatched_of_innermost blocks rfl fun frame _ => Or.inl ⟨frame, rfl⟩

theorem case_only_unmatched (blocks : Stack) (values : List Value) :
    OnlyUnmatched blocks .case .switch (blocks.case values) := by
  apply only_unmatched_of_innermost blocks rfl
  intro frame outer
  cases kind : frame.kind with
  | selection value => exact Or.inl ⟨(), congrArg Prod.snd (case_of_selection outer kind values)⟩
  | conditional branch => exact Or.inr (case_of_conditional outer kind values)

theorem default_only_unmatched (blocks : Stack) :
    OnlyUnmatched blocks .default .switch blocks.default := by
  apply only_unmatched_of_innermost blocks rfl
  intro frame outer
  cases kind : frame.kind with
  | selection value => exact Or.inl ⟨(), congrArg Prod.snd (default_of_selection outer kind)⟩
  | conditional branch => exact Or.inr (default_of_conditional outer kind)

theorem end_selection_only_unmatched (blocks : Stack) :
    OnlyUnmatched blocks .endSwitch .switch blocks.endSelection := by
  apply only_unmatched_of_innermost blocks rfl
  intro frame outer
  cases kind : frame.kind with
  | selection value =>
      exact Or.inl ⟨frame, congrArg Prod.snd (end_selection_of_selection outer kind)⟩
  | conditional branch => exact Or.inr (end_selection_of_conditional outer kind)

end Stack

/-- An operation on a stack of blocks, with what it is given. -/
inductive Operation where
  | openConditional (line : Nat) (condition : Question Bool)
  | alternative (condition : Question Bool)
  | otherwise
  | endConditional
  | openSelection (line : Nat) (discriminant : Question Value)
  | case (values : List Value)
  | default
  | endSelection

def Operation.apply (blocks : Stack) : Operation → Stack
  | .openConditional line condition => (blocks.openConditional line condition).1
  | .alternative condition => (blocks.alternative condition).1
  | .otherwise => blocks.otherwise.1
  | .endConditional => blocks.endConditional.1
  | .openSelection line discriminant => (blocks.openSelection line discriminant).1
  | .case values => (blocks.case values).1
  | .default => blocks.default.1
  | .endSelection => blocks.endSelection.1

/-- The frame after one of its branches starts: it goes live if that branch takes it and none did
before. -/
def Frame.started (frame : Frame) (kind : Kind) (takes : Bool) : Frame :=
  { frame with kind, live := !frame.taken && takes, taken := frame.taken || takes }

/-- What starts when the operation meets the frame as the innermost one: the kind of the frame from
then on, and whether the branch takes it. -/
def Operation.branchOf (frame : Frame) : Operation → Option (Kind × Bool)
  | .alternative condition =>
      if Stack.isOpenConditional frame then
        some (.conditional .alternative, isYes (condition ()))
      else none
  | .otherwise =>
      if Stack.isOpenConditional frame then some (.conditional .last, true) else none
  | .case values =>
      match frame.kind with
      | .selection value => some (frame.kind, values.any value.looselyEquals)
      | .conditional _ => none
  | .default =>
      match frame.kind with
      | .selection _ => some (frame.kind, true)
      | .conditional _ => none
  | _ => none

theorem apply_of_branch {operation : Operation} {frame : Frame} {kind : Kind} {takes : Bool}
    (outer : Stack) (starts : operation.branchOf frame = some (kind, takes)) :
    operation.apply (frame :: outer) = frame.started kind takes :: outer := by
  cases operation with
  | alternative condition =>
      simp only [Operation.branchOf] at starts
      split at starts
      · next isOpen =>
          obtain ⟨rfl, rfl⟩ := Prod.mk.inj (Option.some.inj starts)
          cases taken : frame.taken with
          | true =>
              simp [Operation.apply, Stack.alternative_of_taken outer isOpen taken, Frame.started,
                taken]
          | false =>
              simp [Operation.apply, Stack.alternative_of_open outer isOpen taken, Frame.started,
                taken]
      · simp at starts
  | otherwise =>
      simp only [Operation.branchOf] at starts
      split at starts
      · next isOpen =>
          obtain ⟨rfl, rfl⟩ := Prod.mk.inj (Option.some.inj starts)
          simp [Operation.apply, Stack.otherwise_of_open outer isOpen, Frame.started]
      · simp at starts
  | case values =>
      cases selects : frame.kind with
      | conditional branch => simp [Operation.branchOf, selects] at starts
      | selection value =>
          simp only [Operation.branchOf, selects, Option.some.injEq, Prod.mk.injEq] at starts
          obtain ⟨rfl, rfl⟩ := starts
          simp [Operation.apply, Stack.case_of_selection outer selects, Frame.started, selects]
  | default =>
      cases selects : frame.kind with
      | conditional branch => simp [Operation.branchOf, selects] at starts
      | selection value =>
          simp only [Operation.branchOf, selects, Option.some.injEq, Prod.mk.injEq] at starts
          obtain ⟨rfl, rfl⟩ := starts
          simp [Operation.apply, Stack.default_of_selection outer selects, Frame.started, selects]
  | openConditional | endConditional | openSelection | endSelection => cases starts

/-- A frame as it may stand on the blocks: taken if it is live, and spent if they are not active. -/
structure Frame.Fits (frame : Frame) (outer : Stack) : Prop where
  taken_of_live : frame.live = true → frame.taken = true
  spent : outer.isActive = false → frame.taken = true ∧ frame.live = false

theorem open_conditional_fits (blocks : Stack) (line : Nat) (condition : Question Bool) :
    ∃ opened : Frame, (blocks.openConditional line condition).1 = opened :: blocks ∧
      opened.Fits blocks := by
  cases active : blocks.isActive with
  | true =>
      exact ⟨_, congrArg Prod.fst (Stack.open_conditional_of_active active _ _), id, by simp [active]⟩
  | false =>
      exact ⟨_, congrArg Prod.fst (Stack.open_conditional_of_inactive active _ _), by simp,
        fun _ => ⟨rfl, rfl⟩⟩

theorem open_selection_fits (blocks : Stack) (line : Nat) (discriminant : Question Value) :
    ∃ opened : Frame, (blocks.openSelection line discriminant).1 = opened :: blocks ∧
      opened.Fits blocks := by
  cases active : blocks.isActive with
  | true =>
      exact ⟨_, congrArg Prod.fst (Stack.open_selection_of_active active _ _), by simp,
        by simp [active]⟩
  | false =>
      exact ⟨_, congrArg Prod.fst (Stack.open_selection_of_inactive active _ _), by simp,
        fun _ => ⟨rfl, rfl⟩⟩

/-- An operation that starts no branch opens a frame, leaves all as it is, or closes the frame. -/
theorem apply_of_idle {operation : Operation} {frame : Frame} (outer : Stack)
    (starts : operation.branchOf frame = none) :
    (∃ opened : Frame, operation.apply (frame :: outer) = opened :: frame :: outer ∧
        opened.Fits (frame :: outer)) ∨
      operation.apply (frame :: outer) = frame :: outer ∨
      operation.apply (frame :: outer) = outer := by
  cases operation with
  | openConditional line condition => exact Or.inl (open_conditional_fits _ line condition)
  | openSelection line discriminant => exact Or.inl (open_selection_fits _ line discriminant)
  | alternative condition =>
      have closed : Stack.isOpenConditional frame = false := by
        simpa [Operation.branchOf] using starts
      exact Or.inr (Or.inl (congrArg Prod.fst (Stack.alternative_of_closed outer closed condition)))
  | otherwise =>
      have closed : Stack.isOpenConditional frame = false := by
        simpa [Operation.branchOf] using starts
      exact Or.inr (Or.inl (congrArg Prod.fst (Stack.otherwise_of_closed outer closed)))
  | case values =>
      cases kind : frame.kind with
      | conditional branch =>
          exact Or.inr (Or.inl (congrArg Prod.fst (Stack.case_of_conditional outer kind values)))
      | selection value => simp [Operation.branchOf, kind] at starts
  | default =>
      cases kind : frame.kind with
      | conditional branch =>
          exact Or.inr (Or.inl (congrArg Prod.fst (Stack.default_of_conditional outer kind)))
      | selection value => simp [Operation.branchOf, kind] at starts
  | endConditional => exact Or.inr (Or.inr rfl)
  | endSelection =>
      cases kind : frame.kind with
      | conditional branch =>
          exact Or.inr (Or.inl (congrArg Prod.fst (Stack.end_selection_of_conditional outer kind)))
      | selection value =>
          exact Or.inr (Or.inr (congrArg Prod.fst (Stack.end_selection_of_selection outer kind)))

/-- An operation that starts no branch leaves the frame, under a new one perhaps, or closes it. -/
theorem apply_of_no_branch {operation : Operation} {frame : Frame} (outer : Stack)
    (starts : operation.branchOf frame = none) :
    (∃ front, operation.apply (frame :: outer) = front ++ frame :: outer) ∨
      operation.apply (frame :: outer) = outer := by
  rcases apply_of_idle outer starts with ⟨opened, applied, _⟩ | kept | closed
  · exact Or.inl ⟨[opened], applied⟩
  · exact Or.inl ⟨[], kept⟩
  · exact Or.inr closed

/-- Frames below the innermost one stay as they are. -/
theorem apply_keeps_outer (operation : Operation) (frame : Frame) (outer : Stack) :
    ∃ front, operation.apply (frame :: outer) = front ++ outer := by
  cases starts : operation.branchOf frame with
  | some entry => exact ⟨[_], apply_of_branch outer starts⟩
  | none =>
      rcases apply_of_no_branch outer starts with ⟨front, kept⟩ | closed
      · exact ⟨front ++ [frame], by rw [kept, List.append_assoc]; rfl⟩
      · exact ⟨[], closed⟩

end LineTemplate.Block

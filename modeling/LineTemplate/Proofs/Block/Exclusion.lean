import LineTemplate.Proofs.Block.Operations

/-!
The branches of a block exclude each other. The life of a frame is followed from the operation that
opened it to the one that closes it, through any operations on it or on frames above it. Which of
its branches is live at any time depends only on the operations it met as the innermost frame, and
never are two of them live.
-/

namespace LineTemplate.Block

/-- A time in the life of a frame: the frames open above it, and the operations that it has met as
the innermost frame. -/
structure Moment where
  above : Stack
  frame : Frame
  met : List Operation

def Moment.blocks (outer : Stack) (moment : Moment) : Stack :=
  moment.above ++ moment.frame :: outer

/-- Any operation may come next, as long as it does not close the frame. -/
inductive Moment.Next (outer : Stack) : Moment → Moment → Prop where
  | innermost {frame changed : Frame} {above : Stack} {met : List Operation}
      (operation : Operation)
      (applied : operation.apply (frame :: outer) = above ++ changed :: outer) :
      Next outer ⟨[], frame, met⟩ ⟨above, changed, met ++ [operation]⟩
  | nested {frame changed top : Frame} {above after : Stack} {met : List Operation}
      (operation : Operation)
      (applied : operation.apply (top :: above ++ frame :: outer) = after ++ changed :: outer) :
      Next outer ⟨top :: above, frame, met⟩ ⟨after, changed, met⟩

inductive Moment.Leads (outer : Stack) (first : Moment) : Moment → Prop where
  | here : Leads outer first first
  | next {between last : Moment} (leads : Leads outer first between)
      (next : Moment.Next outer between last) : Leads outer first last

namespace Operation

def answersYes : Operation → Bool
  | openConditional _ condition => isYes (condition ())
  | alternative condition => isYes (condition ())
  | _ => false

def isOtherwise : Operation → Bool
  | otherwise => true
  | _ => false

def isDefault : Operation → Bool
  | default => true
  | _ => false

def lists (value : Value) : Operation → Bool
  | case values => values.any value.looselyEquals
  | _ => false

end Operation

/-- The branches that operations start in a conditional block: none follows the first `otherwise`. -/
def conditionalBranches : List Operation → List Operation
  | [] => []
  | .alternative condition :: rest => .alternative condition :: conditionalBranches rest
  | .otherwise :: _ => [.otherwise]
  | _ :: rest => conditionalBranches rest

/-- The branches that operations start in a selection. -/
def selectionBranches : List Operation → List Operation
  | [] => []
  | .case values :: rest => .case values :: selectionBranches rest
  | .default :: rest => .default :: selectionBranches rest
  | _ :: rest => selectionBranches rest

/-- The branch of a conditional block that runs: the first whose condition is answered with yes, else
the last one if it has none. -/
def chosenConditional (branches : List Operation) : Option Nat :=
  (branches.findIdx? Operation.answersYes).or (branches.findIdx? Operation.isOtherwise)

/-- The branch of a selection that runs: the first case before any default that lists the value, else
the first default. -/
def chosenSelection (value : Value) (branches : List Operation) : Option Nat :=
  ((branches.takeWhile fun branch => !branch.isDefault).findIdx? (·.lists value)).or
    (branches.findIdx? Operation.isDefault)

/-- The frame is live exactly in the first of its branches that takes it, and taken from then on. -/
structure Follows (takes : Operation → Bool) (branches : List Operation) (frame : Frame) : Prop where
  taken : frame.taken = branches.any takes
  live : frame.live = true ↔ ∃ index, branches.findIdx? takes = some index ∧
    index + 1 = branches.length

theorem find_snoc (takes : Operation → Bool) (branches : List Operation) (branch : Operation) :
    (branches ++ [branch]).findIdx? takes =
      (branches.findIdx? takes).or (if takes branch then some branches.length else none) := by
  rw [List.findIdx?_append, List.findIdx?_singleton]
  split <;> simp

theorem Follows.started {takes : Operation → Bool} {branches : List Operation} {frame : Frame}
    (follows : Follows takes branches frame) (kind : Kind) (branch : Operation) :
    Follows takes (branches ++ [branch]) (frame.started kind (takes branch)) := by
  have taken := follows.taken
  rw [← List.findIdx?_isSome] at taken
  constructor
  · simp [Frame.started, follows.taken]
  · rw [find_snoc]
    cases found : branches.findIdx? takes with
    | none =>
        rw [found] at taken
        cases branchTakes : takes branch <;> simp [Frame.started, taken]
    | some index =>
        have inside := (List.findIdx?_eq_some_iff_findIdx_eq.mp found).1
        rw [found] at taken
        simp only [Frame.started, taken, Option.some_or, List.length_append, List.length_singleton]
        constructor
        · simp
        · rintro ⟨_, ⟨rfl⟩, last⟩
          omega

/-- Two times at which the frame is live are times of one branch. -/
theorem Follows.same_branch {takes : Operation → Bool} {branches extra : List Operation}
    {earlier later : Frame} (before : Follows takes branches earlier)
    (after : Follows takes (branches ++ extra) later) (earlierLive : earlier.live = true)
    (laterLive : later.live = true) : branches.length = (branches ++ extra).length := by
  obtain ⟨index, found, last⟩ := before.live.mp earlierLive
  obtain ⟨other, foundOther, lastOther⟩ := after.live.mp laterLive
  rw [List.findIdx?_append, found, Option.some_or] at foundOther
  cases foundOther
  rw [← last, lastOther]

theorem frame_eq_of_append {frame changed : Frame} {above outer : Stack} (front : Stack)
    (same : front ++ frame :: outer = above ++ changed :: outer) : changed = frame :=
  (List.cons.inj (List.append_inj' same rfl).2).1.symm

/-- The frame itself changes only where a branch of it starts. -/
theorem changed_eq {operation : Operation} {frame changed : Frame} {above outer : Stack}
    (applied : operation.apply (frame :: outer) = above ++ changed :: outer) :
    changed =
      match operation.branchOf frame with
      | some (kind, takes) => frame.started kind takes
      | none => frame := by
  cases starts : operation.branchOf frame with
  | some entry =>
      rw [apply_of_branch outer starts] at applied
      exact frame_eq_of_append [] applied
  | none =>
      rcases apply_of_no_branch outer starts with ⟨front, kept⟩ | closed
      · exact frame_eq_of_append front (kept.symm.trans applied)
      · have longer := congrArg List.length (closed.symm.trans applied)
        simp at longer
        omega

theorem nested_eq {operation : Operation} {frame changed top : Frame} {above after outer : Stack}
    (applied : operation.apply (top :: above ++ frame :: outer) = after ++ changed :: outer) :
    changed = frame := by
  obtain ⟨front, kept⟩ := apply_keeps_outer operation top (above ++ frame :: outer)
  rw [← List.append_assoc] at kept
  exact frame_eq_of_append _ (kept.symm.trans applied)

theorem leads_met {outer : Stack} {first last : Moment} (leads : Moment.Leads outer first last) :
    ∃ more, last.met = first.met ++ more := by
  induction leads with
  | here => exact ⟨[], by simp⟩
  | next _ next ih =>
      obtain ⟨more, met⟩ := ih
      cases next with
      | innermost operation _ => exact ⟨more ++ [operation], by simp_all⟩
      | nested operation _ => exact ⟨more, met⟩

section Conditional

/-- A branch that runs unless one did before: its condition is answered with yes, or it is the last. -/
def Operation.takesConditional (branch : Operation) : Bool :=
  branch.answersYes || branch.isOtherwise

theorem conditional_branches_snoc (met : List Operation) (operation : Operation) :
    conditionalBranches (met ++ [operation]) =
      if met.any Operation.isOtherwise then conditionalBranches met
      else conditionalBranches met ++ conditionalBranches [operation] := by
  induction met with
  | nil => simp [conditionalBranches]
  | cons head rest ih =>
      cases head <;>
        simp only [List.cons_append, conditionalBranches, ih, List.any_cons, Operation.isOtherwise,
          Bool.false_or, Bool.true_or, if_true]
      split <;> rfl

theorem conditional_branches_append (met more : List Operation) :
    ∃ extra, conditionalBranches (met ++ more) = conditionalBranches met ++ extra := by
  induction met with
  | nil => exact ⟨_, rfl⟩
  | cons head rest ih =>
      obtain ⟨extra, append⟩ := ih
      cases head with
      | otherwise => exact ⟨[], rfl⟩
      | _ => exact ⟨extra, by simp [conditionalBranches, append]⟩

theorem chosen_conditional_cons {branch : Operation} {rest : List Operation}
    (conditional : branch.isOtherwise = false)
    (chosen : chosenConditional rest = rest.findIdx? Operation.takesConditional) :
    chosenConditional (branch :: rest) = (branch :: rest).findIdx? Operation.takesConditional := by
  simp only [chosenConditional] at chosen
  simp only [chosenConditional, List.findIdx?_cons, Operation.takesConditional, conditional,
    Bool.or_false]
  split
  · rfl
  · rw [if_neg (by simp), ← Option.map_or, chosen]

theorem chosen_conditional_eq (met : List Operation) :
    chosenConditional (conditionalBranches met) =
      (conditionalBranches met).findIdx? Operation.takesConditional := by
  induction met with
  | nil => rfl
  | cons head rest ih =>
      cases head with
      | alternative condition => exact chosen_conditional_cons rfl ih
      | otherwise => rfl
      | _ => exact ih

/-- What holds throughout the life of a conditional block. -/
structure ConditionalLife (opener : Operation) (met : List Operation) (frame : Frame) : Prop where
  conditional : ∃ branch, frame.kind = .conditional branch
  isOpen : Stack.isOpenConditional frame = !met.any Operation.isOtherwise
  follows : Follows Operation.takesConditional (opener :: conditionalBranches met) frame

theorem ConditionalLife.starts {opener operation : Operation} {met : List Operation} {frame : Frame}
    {branch : Branch} (life : ConditionalLife opener met frame)
    (unended : met.any Operation.isOtherwise = false)
    (adds : conditionalBranches [operation] = [operation])
    (isOpen : (branch != .last) = !operation.isOtherwise) :
    ConditionalLife opener (met ++ [operation])
      (frame.started (.conditional branch) operation.takesConditional) := by
  refine ⟨⟨branch, rfl⟩, ?_, ?_⟩
  · rw [List.any_append, unended, Bool.false_or, List.any_cons, List.any_nil, Bool.or_false,
      ← isOpen]
    cases branch <;> rfl
  · rw [conditional_branches_snoc, unended, if_neg (by simp), adds, ← List.cons_append]
    exact life.follows.started _ operation

theorem ConditionalLife.keeps {opener operation : Operation} {met : List Operation} {frame : Frame}
    (life : ConditionalLife opener met frame)
    (settled : met.any Operation.isOtherwise = true ∨
      conditionalBranches [operation] = [] ∧ operation.isOtherwise = false) :
    ConditionalLife opener (met ++ [operation]) frame := by
  refine ⟨life.conditional, ?_, ?_⟩
  · rw [life.isOpen, List.any_append]
    rcases settled with ended | ⟨_, other⟩
    · simp [ended]
    · simp [other]
  · rw [conditional_branches_snoc]
    rcases settled with ended | ⟨none, _⟩
    · rw [if_pos ended]
      exact life.follows
    · rw [none, List.append_nil, ite_self]
      exact life.follows

theorem conditional_life_changed {opener operation : Operation} {met : List Operation}
    {frame changed : Frame} {above outer : Stack} (life : ConditionalLife opener met frame)
    (applied : operation.apply (frame :: outer) = above ++ changed :: outer) :
    ConditionalLife opener (met ++ [operation]) changed := by
  obtain ⟨branch, conditional⟩ := life.conditional
  rw [changed_eq applied]
  cases ended : met.any Operation.isOtherwise with
  | true =>
      have closed : Stack.isOpenConditional frame = false := by rw [life.isOpen, ended, Bool.not_true]
      have idle : operation.branchOf frame = none := by
        cases operation <;> simp [Operation.branchOf, closed, conditional]
      rw [idle]
      exact life.keeps (Or.inl ended)
  | false =>
      have isOpen : Stack.isOpenConditional frame = true := by
        rw [life.isOpen, ended, Bool.not_false]
      cases operation with
      | alternative condition =>
          simp only [Operation.branchOf, isOpen, if_true]
          have takes : (Operation.alternative condition).takesConditional = isYes (condition ()) :=
            Bool.or_false _
          exact takes ▸ life.starts ended rfl rfl
      | otherwise =>
          simp only [Operation.branchOf, isOpen, if_true]
          exact life.starts ended rfl rfl
      | case values =>
          simp only [Operation.branchOf, conditional]
          exact life.keeps (Or.inr ⟨rfl, rfl⟩)
      | default =>
          simp only [Operation.branchOf, conditional]
          exact life.keeps (Or.inr ⟨rfl, rfl⟩)
      | openConditional | endConditional | openSelection | endSelection =>
          exact life.keeps (Or.inr ⟨rfl, rfl⟩)

theorem conditional_life_leads {outer : Stack} {opener : Operation} {first last : Moment}
    (life : ConditionalLife opener first.met first.frame)
    (leads : Moment.Leads outer first last) : ConditionalLife opener last.met last.frame := by
  induction leads with
  | here => exact life
  | next _ next ih =>
      cases next with
      | innermost operation applied => exact conditional_life_changed ih applied
      | nested operation applied => exact nested_eq applied ▸ ih

theorem opened_conditional_life {outer : Stack} (active : outer.isActive = true) {line : Nat}
    {condition : Question Bool} {frame : Frame}
    (opened : (Operation.openConditional line condition).apply outer = frame :: outer) :
    ConditionalLife (.openConditional line condition) [] frame := by
  simp only [Operation.apply, Stack.open_conditional_of_active active, List.cons.injEq] at opened
  obtain ⟨rfl, _⟩ := opened
  let unasked : Frame :=
    { kind := .conditional .first, live := false, taken := false, openedAt := line }
  have fresh : Follows Operation.takesConditional [] unasked := ⟨rfl, by simp [unasked]⟩
  have started := fresh.started (.conditional .first) (.openConditional line condition)
  have takes : (Operation.openConditional line condition).takesConditional = isYes (condition ()) :=
    Bool.or_false _
  rw [takes] at started
  exact ⟨⟨.first, rfl⟩, rfl, started⟩

end Conditional

section Selection

/-- A branch that runs unless one did before: a case that lists the value, or a default. -/
def Operation.takesSelection (value : Value) (branch : Operation) : Bool :=
  branch.lists value || branch.isDefault

theorem selection_branches_append (met more : List Operation) :
    selectionBranches (met ++ more) = selectionBranches met ++ selectionBranches more := by
  induction met with
  | nil => rfl
  | cons head rest ih => cases head <;> simp [selectionBranches, ih]

theorem chosen_selection_cons {value : Value} {branch : Operation} {rest : List Operation}
    (isCase : branch.isDefault = false)
    (chosen : chosenSelection value rest = rest.findIdx? (·.takesSelection value)) :
    chosenSelection value (branch :: rest) =
      (branch :: rest).findIdx? (·.takesSelection value) := by
  simp only [chosenSelection] at chosen
  simp only [chosenSelection, List.takeWhile_cons, isCase, Bool.not_false, if_true,
    List.findIdx?_cons, Operation.takesSelection, Bool.or_false]
  split
  · rfl
  · rw [if_neg (by simp), ← Option.map_or, chosen]
    rfl

theorem chosen_selection_eq (value : Value) (met : List Operation) :
    chosenSelection value (selectionBranches met) =
      (selectionBranches met).findIdx? (·.takesSelection value) := by
  induction met with
  | nil => rfl
  | cons head rest ih =>
      cases head with
      | case values => exact chosen_selection_cons rfl ih
      | default => rfl
      | _ => exact ih

/-- What holds throughout the life of a selection. -/
structure SelectionLife (value : Value) (met : List Operation) (frame : Frame) : Prop where
  selects : frame.kind = .selection value
  follows : Follows (·.takesSelection value) (selectionBranches met) frame

theorem SelectionLife.starts {value : Value} {operation : Operation} {met : List Operation}
    {frame : Frame} (life : SelectionLife value met frame)
    (adds : selectionBranches [operation] = [operation]) :
    SelectionLife value (met ++ [operation])
      (frame.started frame.kind (operation.takesSelection value)) := by
  refine ⟨life.selects, ?_⟩
  rw [selection_branches_append, adds]
  exact life.follows.started _ operation

theorem SelectionLife.keeps {value : Value} {operation : Operation} {met : List Operation}
    {frame : Frame} (life : SelectionLife value met frame)
    (none : selectionBranches [operation] = []) :
    SelectionLife value (met ++ [operation]) frame := by
  refine ⟨life.selects, ?_⟩
  rw [selection_branches_append, none, List.append_nil]
  exact life.follows

theorem selection_life_changed {value : Value} {operation : Operation} {met : List Operation}
    {frame changed : Frame} {above outer : Stack} (life : SelectionLife value met frame)
    (applied : operation.apply (frame :: outer) = above ++ changed :: outer) :
    SelectionLife value (met ++ [operation]) changed := by
  have closed : Stack.isOpenConditional frame = false := by
    simp [Stack.isOpenConditional, life.selects]
  rw [changed_eq applied]
  cases operation with
  | case values =>
      have takes : (Operation.case values).takesSelection value = values.any value.looselyEquals :=
        Bool.or_false _
      have starts : (Operation.case values).branchOf frame =
          some (frame.kind, (Operation.case values).takesSelection value) := by
        simp [Operation.branchOf, life.selects, takes]
      rw [starts]
      exact life.starts rfl
  | default =>
      have starts : Operation.default.branchOf frame =
          some (frame.kind, Operation.default.takesSelection value) := by
        simp [Operation.branchOf, life.selects, Operation.takesSelection, Operation.isDefault]
      rw [starts]
      exact life.starts rfl
  | alternative | otherwise =>
      simp only [Operation.branchOf, closed]
      exact life.keeps rfl
  | openConditional | endConditional | openSelection | endSelection => exact life.keeps rfl

theorem selection_life_leads {outer : Stack} {value : Value} {first last : Moment}
    (life : SelectionLife value first.met first.frame)
    (leads : Moment.Leads outer first last) : SelectionLife value last.met last.frame := by
  induction leads with
  | here => exact life
  | next _ next ih =>
      cases next with
      | innermost operation applied => exact selection_life_changed ih applied
      | nested operation applied => exact nested_eq applied ▸ ih

theorem opened_selection_life {outer : Stack} (active : outer.isActive = true) {line : Nat}
    {discriminant : Question Value} {frame : Frame}
    (opened : (Operation.openSelection line discriminant).apply outer = frame :: outer) :
    SelectionLife ((discriminant ()).toOption.getD (.text "")) [] frame := by
  simp only [Operation.apply, Stack.open_selection_of_active active, List.cons.injEq] at opened
  obtain ⟨rfl, _⟩ := opened
  exact ⟨rfl, rfl, by simp [selectionBranches]⟩

end Selection

/-- A time in the life of the frame that the operation opens inside the outer blocks. -/
def Moment.Of (outer : Stack) (opener : Operation) (moment : Moment) : Prop :=
  ∃ frame, opener.apply outer = frame :: outer ∧ Moment.Leads outer ⟨[], frame, []⟩ moment

/-- Of a block opened in a live place, at any time of its life, the chosen branch is live and no
other, so at two times of its life the same branch is. A conditional block asks no condition after
one was answered with yes or its last branch has begun. -/
theorem chosen_branch_alone_lives {outer : Stack} (active : outer.isActive = true) :
    (∀ (line : Nat) (condition : Question Bool) (earlier later : Moment),
      earlier.Of outer (.openConditional line condition) → Moment.Leads outer earlier later →
      let branches (moment : Moment) : List Operation :=
        .openConditional line condition :: conditionalBranches moment.met
      (later.frame.live = true ↔
        ∃ index, chosenConditional (branches later) = some index ∧
          index + 1 = (branches later).length) ∧
      (earlier.frame.live = true → later.frame.live = true →
        (branches earlier).length = (branches later).length) ∧
      (later.above = [] →
        (branches later).any (fun branch => branch.answersYes || branch.isOtherwise) = true →
        (later.blocks outer).consults .elseIf = false ∧
          ∀ first second : Question Bool,
            (later.blocks outer).alternative first = (later.blocks outer).alternative second)) ∧
    (∀ (line : Nat) (discriminant : Question Value) (earlier later : Moment),
      earlier.Of outer (.openSelection line discriminant) → Moment.Leads outer earlier later →
      let branches (moment : Moment) : List Operation := selectionBranches moment.met
      let value := (discriminant ()).toOption.getD (.text "")
      (later.frame.live = true ↔
        ∃ index, chosenSelection value (branches later) = some index ∧
          index + 1 = (branches later).length) ∧
      (earlier.frame.live = true → later.frame.live = true →
        (branches earlier).length = (branches later).length)) := by
  constructor
  · intro line condition earlier later begun leads branches
    obtain ⟨frame, opened, begun⟩ := begun
    have before := conditional_life_leads (opened_conditional_life active opened) begun
    have after := conditional_life_leads before leads
    obtain ⟨more, met⟩ := leads_met leads
    obtain ⟨extra, append⟩ := conditional_branches_append earlier.met more
    have extended : branches later = branches earlier ++ extra := by
      simp only [branches, met, append, List.cons_append]
    refine ⟨?_, ?_, ?_⟩
    · rw [chosen_conditional_cons rfl (chosen_conditional_eq later.met)]
      exact after.follows.live
    · intro earlierLive laterLive
      have follows : Follows Operation.takesConditional (branches later) later.frame :=
        after.follows
      rw [extended] at follows ⊢
      exact before.follows.same_branch follows earlierLive laterLive
    · intro innermost settled
      have taken : later.frame.taken = true := after.follows.taken.trans settled
      have idle : (later.blocks outer).consults .elseIf = false := by
        simp [Moment.blocks, innermost, Stack.consults, taken]
      exact ⟨idle, fun first second => Stack.alternative_of_not_consults _ first second idle⟩
  · intro line discriminant earlier later begun leads branches value
    obtain ⟨frame, opened, begun⟩ := begun
    have before := selection_life_leads (opened_selection_life active opened) begun
    have after := selection_life_leads before leads
    obtain ⟨more, met⟩ := leads_met leads
    have extended : branches later = branches earlier ++ selectionBranches more := by
      simp only [branches, met, selection_branches_append]
    refine ⟨?_, ?_⟩
    · rw [chosen_selection_eq value later.met]
      exact after.follows.live
    · intro earlierLive laterLive
      have follows : Follows (·.takesSelection value) (branches later) later.frame := after.follows
      rw [extended] at follows ⊢
      exact before.follows.same_branch follows earlierLive laterLive

/-- A conditional block whose second branch runs, with a selection inside it that is closed by the
wrong directive, and branches after the last one; and a selection with a case after its default. -/
theorem chosen_branch_alone_lives_misnested :
    let no : Question Bool := fun _ => .ok false
    let yes : Question Bool := fun _ => .ok true
    let value : Question Value := fun _ => .ok (.integer 2)
    let opener := Operation.openConditional 3 no
    let met := [Operation.openSelection 4 value, .alternative yes]
    let earlier : Moment := ⟨[], ⟨.conditional .alternative, true, true, 3⟩, met⟩
    let later : Moment :=
      ⟨[], ⟨.conditional .last, false, true, 3⟩,
        met ++ [.case [.integer 2]] ++ [.otherwise] ++ [.alternative yes]⟩
    let selected : Moment :=
      ⟨[], ⟨.selection (.integer 2), false, true, 7⟩, [.default, .case [.integer 2]]⟩
    Stack.isActive [] = true ∧ earlier.Of [] opener ∧ Moment.Leads [] earlier later ∧
      (earlier.frame.live = true ↔ ∃ index,
        chosenConditional (opener :: conditionalBranches earlier.met) = some index ∧
          index + 1 = (opener :: conditionalBranches earlier.met).length) ∧
      (later.blocks []).consults .elseIf = false ∧
      selected.Of [] (.openSelection 7 value) ∧
      (selected.frame.live = true ↔ ∃ index,
        chosenSelection (.integer 2) (selectionBranches selected.met) = some index ∧
          index + 1 = (selectionBranches selected.met).length) := by
  intro no yes value opener met earlier later selected
  let opened : Frame := ⟨.conditional .first, false, false, 3⟩
  let inner : Frame := ⟨.selection (.text ""), false, true, 4⟩
  have begun : earlier.Of [] opener := by
    refine ⟨opened, rfl, ?_⟩
    have first : Moment.Leads [] ⟨[], opened, []⟩ ⟨[inner], opened, [.openSelection 4 value]⟩ :=
      .next .here (.innermost (.openSelection 4 value) rfl)
    have second : Moment.Leads [] ⟨[], opened, []⟩ ⟨[inner], opened, [.openSelection 4 value]⟩ :=
      .next first (.nested .otherwise rfl)
    have third : Moment.Leads [] ⟨[], opened, []⟩ ⟨[], opened, [.openSelection 4 value]⟩ :=
      .next second (.nested .endConditional rfl)
    exact .next third (.innermost (.alternative yes) rfl)
  have leads : Moment.Leads [] earlier later := by
    have first : Moment.Leads [] earlier ⟨[], earlier.frame, met ++ [.case [.integer 2]]⟩ :=
      .next .here (.innermost (.case [.integer 2]) rfl)
    exact .next (.next first (.innermost .otherwise rfl)) (.innermost (.alternative yes) rfl)
  have selects : selected.Of [] (.openSelection 7 value) := by
    refine ⟨⟨.selection (.integer 2), false, false, 7⟩, rfl, ?_⟩
    exact .next (.next .here (.innermost .default rfl)) (.innermost (.case [.integer 2]) rfl)
  have lives : Stack.isActive [] = true := rfl
  refine ⟨lives, begun, leads, ?_, ?_, selects, ?_⟩
  · exact ((chosen_branch_alone_lives lives).1 3 no earlier earlier begun .here).1
  · exact (((chosen_branch_alone_lives lives).1 3 no earlier later begun leads).2.2 rfl rfl).1
  · exact ((chosen_branch_alone_lives lives).2 7 value selected selected selects .here).1

end LineTemplate.Block

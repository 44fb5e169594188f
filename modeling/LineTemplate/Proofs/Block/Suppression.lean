import LineTemplate.Proofs.Block.Operations

/-!
Suppression. Whatever was done to the blocks, a live frame is taken, and a frame that stands further
in than one that is not live is spent: taken and not live. So the innermost frame alone tells whether
the blocks are active, and nothing that stands further in than a dead frame asks its question.
-/

namespace LineTemplate.Block

/-- Each frame fits on the frames further out. -/
inductive Stack.Suppresses : Stack → Prop where
  | empty : Suppresses []
  | enclosed {frame : Frame} {outer : Stack} (fits : frame.Fits outer) (around : Suppresses outer) :
      Suppresses (frame :: outer)

theorem fits_started {frame : Frame} {outer : Stack} (fits : frame.Fits outer) (kind : Kind)
    (takes : Bool) : (frame.started kind takes).Fits outer := by
  constructor
  · intro live
    have takesIt : takes = true := (Bool.and_eq_true_iff.mp live).2
    simp [Frame.started, takesIt]
  · intro inactive
    have taken : frame.taken = true := (fits.spent inactive).1
    simp [Frame.started, taken]

/-- A frame only changes where a branch of it starts, and only the innermost one does. -/
theorem suppresses_apply {blocks : Stack} (suppresses : blocks.Suppresses) (operation : Operation) :
    (operation.apply blocks).Suppresses := by
  cases suppresses with
  | empty =>
      cases operation with
      | openConditional line condition =>
          obtain ⟨opened, applied, fits⟩ := open_conditional_fits [] line condition
          simp only [Operation.apply, applied]
          exact .enclosed fits .empty
      | openSelection line discriminant =>
          obtain ⟨opened, applied, fits⟩ := open_selection_fits [] line discriminant
          simp only [Operation.apply, applied]
          exact .enclosed fits .empty
      | alternative | otherwise | endConditional | case | default | endSelection => exact .empty
  | @enclosed frame outer fits around =>
      cases starts : operation.branchOf frame with
      | some entry =>
          rw [apply_of_branch outer starts]
          exact .enclosed (fits_started fits entry.1 entry.2) around
      | none =>
          rcases apply_of_idle outer starts with ⟨opened, applied, openedFits⟩ | kept | closed
          · rw [applied]
            exact .enclosed openedFits (.enclosed fits around)
          · rw [kept]
            exact .enclosed fits around
          · rw [closed]
            exact around

theorem suppresses_after {blocks : Stack} (suppresses : blocks.Suppresses)
    (history : List Operation) : (history.foldl Operation.apply blocks).Suppresses := by
  induction history generalizing blocks with
  | nil => exact suppresses
  | cons operation later ih => exact ih (suppresses_apply suppresses operation)

namespace Stack

theorem is_active_cons (frame : Frame) (outer : Stack) :
    isActive (frame :: outer) = (frame.live && isActive outer) := rfl

theorem inactive_of_dead {blocks : Stack} {dead : Frame} (member : dead ∈ blocks)
    (notLive : dead.live = false) : blocks.isActive = false := by
  rw [isActive, List.all_eq_false]
  exact ⟨dead, member, by simp [notLive]⟩

theorem Suppresses.taken_of_live {blocks : Stack} (suppresses : blocks.Suppresses) {frame : Frame}
    (member : frame ∈ blocks) (live : frame.live = true) : frame.taken = true := by
  induction suppresses with
  | empty => exact absurd member List.not_mem_nil
  | enclosed fits _ ih =>
      rcases List.mem_cons.mp member with rfl | further
      · exact fits.taken_of_live live
      · exact ih further

theorem Suppresses.spent_above_dead {blocks : Stack} (suppresses : blocks.Suppresses) :
    blocks.Pairwise fun upper lower =>
      lower.live = false → upper.taken = true ∧ upper.live = false := by
  induction suppresses with
  | empty => exact List.Pairwise.nil
  | enclosed fits _ ih =>
      refine List.pairwise_cons.mpr ⟨?_, ih⟩
      intro lower member notLive
      exact fits.spent (inactive_of_dead member notLive)

theorem Suppresses.is_active_iff {blocks : Stack} (suppresses : blocks.Suppresses) :
    blocks.isActive = true ↔
      blocks = [] ∨ ∃ innermost, blocks.head? = some innermost ∧ innermost.live = true := by
  cases suppresses with
  | empty => simp [isActive]
  | @enclosed frame outer fits around =>
      rw [is_active_cons]
      cases active : isActive outer with
      | true => simp
      | false => simp [(fits.spent active).2]

/-- A frame that still asks for its condition stands on active blocks. -/
theorem Suppresses.active_of_consults {frame : Frame} {outer : Stack}
    (suppresses : Suppresses (frame :: outer)) (asks : consults (frame :: outer) .elseIf = true) :
    isOpenConditional frame = true ∧ frame.taken = false ∧ isActive outer = true := by
  cases suppresses with
  | enclosed fits _ =>
      simp only [consults, Bool.and_eq_true, Bool.not_eq_true'] at asks
      obtain ⟨isOpen, untaken⟩ := asks
      refine ⟨isOpen, untaken, ?_⟩
      cases active : isActive outer with
      | true => rfl
      | false =>
          rw [(fits.spent active).1] at untaken
          cases untaken

end Stack

/-- After any operations, live frames are taken and frames further in than a dead one are spent. The
blocks are active exactly when there are none or the innermost is live. No operation that opens a
frame on a dead one, or is about a frame that stands on a dead one, asks its question. -/
theorem dead_frames_suppress (history : List Operation) :
    let blocks := history.foldl Operation.apply []
    (∀ frame ∈ blocks, frame.live = true → frame.taken = true) ∧
      (blocks.Pairwise fun upper lower =>
        lower.live = false → upper.taken = true ∧ upper.live = false) ∧
      (blocks.isActive = true ↔
        blocks = [] ∨ ∃ innermost, blocks.head? = some innermost ∧ innermost.live = true) ∧
      (∀ dead ∈ blocks, dead.live = false →
        blocks.consults .onlyIf = false ∧ blocks.consults .switch = false ∧
          (∀ (line : Nat) (first second : Question Bool),
            blocks.openConditional line first = blocks.openConditional line second) ∧
          ∀ (line : Nat) (first second : Question Value),
            blocks.openSelection line first = blocks.openSelection line second) ∧
      ∀ dead ∈ blocks.tail, dead.live = false →
        blocks.consults .elseIf = false ∧
          ∀ first second : Question Bool, blocks.alternative first = blocks.alternative second := by
  intro blocks
  have suppresses : blocks.Suppresses := suppresses_after .empty history
  refine ⟨fun frame => suppresses.taken_of_live, suppresses.spent_above_dead,
    suppresses.is_active_iff, ?_, ?_⟩
  · intro dead member notLive
    have inactive : blocks.isActive = false := Stack.inactive_of_dead member notLive
    exact ⟨inactive, inactive,
      fun line first second => blocks.open_conditional_of_not_consults line first second inactive,
      fun line first second => blocks.open_selection_of_not_consults line first second inactive⟩
  · intro dead member notLive
    have silent : blocks.consults .elseIf = false := by
      cases stands : blocks with
      | nil => rfl
      | cons frame outer =>
          rw [stands] at suppresses member
          have inactive : Stack.isActive outer = false := Stack.inactive_of_dead member notLive
          cases asks : Stack.consults (frame :: outer) .elseIf with
          | false => rfl
          | true =>
              rw [(suppresses.active_of_consults asks).2.2] at inactive
              cases inactive
    exact ⟨silent, fun first second =>
      blocks.alternative_of_not_consults first second silent⟩

/-- A selection and a conditional block inside a condition that failed: neither a default nor a
condition that would hold makes them live. -/
theorem dead_frames_suppress_nested :
    let yes : Question Bool := fun _ => .ok true
    let history : List Operation :=
      [.openConditional 1 fun _ => .error .openQuote, .openSelection 2 fun _ => .ok (.integer 5),
        .default, .openConditional 4 yes, .otherwise, .endConditional, .case [.integer 5],
        .openConditional 7 yes]
    let blocks := history.foldl Operation.apply []
    blocks =
        [⟨.conditional .first, false, true, 7⟩, ⟨.selection (.text ""), false, true, 2⟩,
          ⟨.conditional .first, false, false, 1⟩] ∧
      blocks.consults .elseIf = false ∧ blocks.isActive = false := by
  intro yes history blocks
  have suppresses := dead_frames_suppress history
  have stands : blocks =
      [⟨.conditional .first, false, true, 7⟩, ⟨.selection (.text ""), false, true, 2⟩,
        ⟨.conditional .first, false, false, 1⟩] := rfl
  have below : (⟨.conditional .first, false, false, 1⟩ : Frame) ∈ blocks.tail := by simp [stands]
  exact ⟨stands, (suppresses.2.2.2.2 _ below rfl).1, rfl⟩

end LineTemplate.Block

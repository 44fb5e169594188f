import LineTemplate.Proofs.Run.Handling
import LineTemplate.Proofs.Template

/-!
Suppressed templates. Below a block in a dead branch or a loop that does not run, a template is
walked through line by line without any effect: its blocks and loops are opened and closed again,
and the progress stays as it was. The same holds for the remaining branches of a block of which one
was taken.
-/

namespace LineTemplate

open Run Run.Progress

theorem is_live_cons_of_spent {frame : Block.Frame} {loops : List Loop.Frame}
    (spent : Spent loops frame) (dead : frame.taken = true → frame.live = false)
    (outer : Block.Stack) : isLive (frame :: outer) loops = false := by
  rcases spent with taken | inert
  · simp [isLive, Block.Stack.isActive, dead taken]
  · simp [isLive, inert]

theorem is_live_cons_inert (blocks : Block.Stack) (opened : Nat) (loops : List Loop.Frame) :
    isLive blocks (⟨opened, none⟩ :: loops) = false := by
  simp [isLive, runs, Loop.Frame.isInert]

variable {setting : Setting} {lines : Array String} {progress : Progress} {limit : Nat}

theorem reaches_at {before : State} {blocks : Block.Stack} {loops : List Loop.Frame}
    {there place : Nat} (same : place = there)
    (reaches : Reaches setting lines before (progress.state limit blocks loops there)) :
    Reaches setting lines before (progress.state limit blocks loops place) :=
  same ▸ reaches

mutual

theorem Template.reaches_suppressed (template : Template) {blocks : Block.Stack}
    {loops : List Loop.Frame} {cursor : Nat} (dead : isLive blocks loops = false)
    (stands : Stands lines cursor template.lines) :
    Reaches setting lines (progress.state limit blocks loops cursor)
      (progress.state limit blocks loops (cursor + template.lines.length)) := by
  cases template with
  | done => exact reaches_refl _
  | content line rest =>
      obtain ⟨here, following⟩ := stands
      apply reaches_step here
      rw [step_of_plain line.plain, if_neg (by simp [dead])]
      have after := rest.reaches_suppressed dead following
      rwa [Nat.add_right_comm] at after
  | assignment line rest =>
      obtain ⟨here, following⟩ := stands
      apply reaches_step here
      rw [step_assignment line.spelled, if_neg (by simp [dead])]
      have after := rest.reaches_suppressed dead following
      rwa [Nat.add_right_comm] at after
  | insertion line rest =>
      obtain ⟨here, following⟩ := stands
      apply reaches_step here
      rw [step_insertion line.spelled, if_neg (by simp [dead])]
      have after := rest.reaches_suppressed dead following
      rwa [Nat.add_right_comm] at after
  | conditional opener body others rest =>
      obtain ⟨here, inside⟩ := stands
      rw [stands_append, stands_append, List.length_append, ← Nat.add_assoc] at inside
      obtain ⟨⟨within, further⟩, following⟩ := inside
      obtain ⟨frame, opened, isOpen, notLive, spent⟩ :=
        step_conditional_dead setting progress limit cursor dead opener.spelled
      have hidden := is_live_cons_of_spent spent (fun _ => notLive) blocks
      have after := rest.reaches_suppressed dead following
      apply reaches_step here
      rw [opened]
      apply reaches_trans (body.reaches_suppressed hidden within)
      apply reaches_trans (others.reaches_suppressed blocks isOpen spent further)
      refine reaches_at ?_ after
      simp only [Template.lines, List.length_cons, List.length_append]
      omega
  | selection opener preamble cases rest =>
      obtain ⟨here, inside⟩ := stands
      rw [stands_append, stands_append, List.length_append, ← Nat.add_assoc] at inside
      obtain ⟨⟨within, further⟩, following⟩ := inside
      obtain ⟨frame, value, opened, selects, notLive, spent⟩ :=
        step_selection_dead setting progress limit cursor dead opener.spelled
      have hidden := is_live_cons_of_spent spent (fun _ => notLive) blocks
      have after := rest.reaches_suppressed dead following
      apply reaches_step here
      rw [opened]
      apply reaches_trans (preamble.reaches_suppressed hidden within)
      apply reaches_trans (cases.reaches_suppressed blocks selects spent further)
      refine reaches_at ?_ after
      simp only [Template.lines, List.length_cons, List.length_append]
      omega
  | loop opener body closer rest =>
      obtain ⟨here, inside⟩ := stands
      rw [stands_append] at inside
      obtain ⟨within, atEnd, following⟩ := inside
      have hidden := is_live_cons_inert blocks (cursor + 1) loops
      have after := rest.reaches_suppressed dead following
      apply reaches_step here
      rw [step_loop_dead dead opener.spelled]
      apply reaches_trans (body.reaches_suppressed hidden within)
      apply reaches_step atEnd
      rw [step_end_loop_inert rfl closer.spelled]
      refine reaches_at ?_ after
      simp only [Template.lines, List.length_cons, List.length_append]
      omega

/-- The remaining branches of a conditional block, none of which runs. -/
theorem Alternatives.reaches_suppressed (others : Alternatives) (outer : Block.Stack)
    {frame : Block.Frame} {loops : List Loop.Frame} {cursor : Nat}
    (isOpen : Block.Stack.isOpenConditional frame = true) (spent : Spent loops frame)
    (stands : Stands lines cursor others.lines) :
    Reaches setting lines (progress.state limit (frame :: outer) loops cursor)
      (progress.state limit outer loops (cursor + others.lines.length)) := by
  cases others with
  | closed closer =>
      apply reaches_step stands.1
      rw [step_end_conditional frame closer.spelled]
      exact reaches_refl _
  | last opener body closer =>
      obtain ⟨here, inside⟩ := stands
      rw [stands_append] at inside
      obtain ⟨within, atEnd, _⟩ := inside
      have hidden : isLive
          ({ frame with kind := .conditional .last, live := !frame.taken, taken := true } :: outer)
          loops = false := by
        rcases spent with taken | inert
        · simp [isLive, Block.Stack.isActive, taken]
        · simp [isLive, inert]
      apply reaches_step here
      rw [step_otherwise isOpen opener.spelled]
      apply reaches_trans (body.reaches_suppressed hidden within)
      apply reaches_step atEnd
      rw [step_end_conditional _ closer.spelled]
      refine reaches_at ?_ (reaches_refl _)
      simp only [Alternatives.lines, List.length_cons, List.length_append, List.length_nil]
      omega
  | alternative opener body others =>
      obtain ⟨here, inside⟩ := stands
      rw [stands_append] at inside
      obtain ⟨within, further⟩ := inside
      obtain ⟨moved, stepped, stillOpen, notLive, stillSpent⟩ :=
        step_alternative_spent setting progress limit cursor outer spent isOpen opener.spelled
      have hidden := is_live_cons_of_spent stillSpent (fun _ => notLive) outer
      have after := others.reaches_suppressed outer stillOpen stillSpent further
      apply reaches_step here
      rw [stepped]
      apply reaches_trans (body.reaches_suppressed hidden within)
      refine reaches_at ?_ after
      simp only [Alternatives.lines, List.length_cons, List.length_append]
      omega

/-- The remaining cases of a selection, none of which runs. -/
theorem Cases.reaches_suppressed (cases : Cases) (outer : Block.Stack) {frame : Block.Frame}
    {value : Value} {loops : List Loop.Frame} {cursor : Nat}
    (selects : frame.kind = .selection value) (spent : Spent loops frame)
    (stands : Stands lines cursor cases.lines) :
    Reaches setting lines (progress.state limit (frame :: outer) loops cursor)
      (progress.state limit outer loops (cursor + cases.lines.length)) := by
  cases cases with
  | closed closer =>
      apply reaches_step stands.1
      rw [step_end_selection selects closer.spelled]
      exact reaches_refl _
  | case opener body others =>
      obtain ⟨here, inside⟩ := stands
      rw [stands_append] at inside
      obtain ⟨within, further⟩ := inside
      let fires := (caseValues opener.text).any value.looselyEquals
      let moved : Block.Frame :=
        { frame with live := !frame.taken && fires, taken := frame.taken || fires }
      have stillSpent : Spent loops moved := spent.imp_left fun taken => by simp [moved, taken]
      have hidden : isLive (moved :: outer) loops = false := by
        rcases spent with taken | inert
        · simp [isLive, Block.Stack.isActive, moved, taken]
        · simp [isLive, inert]
      have sameKind : moved.kind = .selection value := selects
      have after := others.reaches_suppressed outer sameKind stillSpent further
      apply reaches_step here
      rw [step_case selects opener.spelled]
      apply reaches_trans (body.reaches_suppressed hidden within)
      refine reaches_at ?_ after
      simp only [Cases.lines, List.length_cons, List.length_append]
      omega
  | default opener body others =>
      obtain ⟨here, inside⟩ := stands
      rw [stands_append] at inside
      obtain ⟨within, further⟩ := inside
      let moved : Block.Frame := { frame with live := !frame.taken, taken := true }
      have hidden : isLive (moved :: outer) loops = false := by
        rcases spent with taken | inert
        · simp [isLive, Block.Stack.isActive, moved, taken]
        · simp [isLive, inert]
      have sameKind : moved.kind = .selection value := selects
      have stillSpent : Spent loops moved := Or.inl rfl
      have after := others.reaches_suppressed outer sameKind stillSpent further
      apply reaches_step here
      rw [step_default selects opener.spelled]
      apply reaches_trans (body.reaches_suppressed hidden within)
      refine reaches_at ?_ after
      simp only [Cases.lines, List.length_cons, List.length_append]
      omega

end

end LineTemplate

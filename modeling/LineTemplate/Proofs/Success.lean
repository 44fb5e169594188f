/-!
A computation that may fail and that succeeded, taken apart into its steps.
-/

namespace LineTemplate

variable {Failure Value Result : Type}

theorem ok_of_bind {first : Except Failure Value} {rest : Value → Except Failure Result}
    {result : Result} (succeeded : first >>= rest = .ok result) :
    ∃ value, first = .ok value ∧ rest value = .ok result := by
  cases first with
  | error failure => cases succeeded
  | ok value => exact ⟨value, rfl, succeeded⟩

/-- A check that was passed. -/
theorem ok_of_check {refused : Prop} [Decidable refused] {failure : Failure}
    {rest : Except Failure Result} {result : Result}
    (succeeded : (if refused then throw failure else rest) = .ok result) :
    ¬ refused ∧ rest = .ok result := by
  by_cases refusal : refused
  · rw [if_pos refusal] at succeeded
    cases succeeded
  · rw [if_neg refusal] at succeeded
    exact ⟨refusal, succeeded⟩

end LineTemplate

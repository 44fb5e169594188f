import LineTemplate.Text.FoldTable
import LineTemplate.Text.Letter

/-!
Two ways to compare text without regard to case: by ASCII letters only, and by simple case folding,
which takes one character to one character in every script.
-/

namespace LineTemplate.Text

/-- `Char.toLower` changes the ASCII capitals and nothing else. -/
def equalIgnoringCase (left right : String) : Bool :=
  left.toList.map Char.toLower == right.toList.map Char.toLower

theorem equal_ignoring_case_refl (text : String) : equalIgnoringCase text text := by
  simp [equalIgnoringCase]

theorem equal_ignoring_case_comm (left right : String) :
    equalIgnoringCase left right = equalIgnoringCase right left := by
  rw [Bool.eq_iff_iff]
  simp only [equalIgnoringCase, beq_iff_eq]
  exact eq_comm

theorem equal_ignoring_case_trans {first second third : String}
    (left : equalIgnoringCase first second = true)
    (right : equalIgnoringCase second third = true) :
    equalIgnoringCase first third = true := by
  rw [equalIgnoringCase, beq_iff_eq] at left right ⊢
  rw [left, right]

/-- Distance by which a code point folds; 0 for a character that is its own folding. -/
def foldDistance (code : Nat) : Int :=
  match foldRuns.find? fun (first, last, step, _) =>
      first ≤ code && code ≤ last && (code - first) % step == 0 with
  | some (_, _, _, distance) => distance
  | none => 0

def fold (character : Char) : Char :=
  if isAscii character then character.toLower
  else Char.ofNat (character.toNat + foldDistance character.toNat).toNat

theorem fold_of_is_ascii (character : Char) (ascii : isAscii character) :
    fold character = character.toLower := by
  simp [fold, ascii]

end LineTemplate.Text

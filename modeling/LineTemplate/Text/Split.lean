/-!
Cutting text at a separator character. Splitting into lines loses nothing: joining the pieces with
the separator gives the text back.
-/

namespace LineTemplate.Text

/-- The pieces between separators. There is one more piece than there are separators. -/
def splitOn (separator : Char) : List Char → List (List Char)
  | [] => [[]]
  | character :: rest =>
      if character = separator then [] :: splitOn separator rest
      else
        match splitOn separator rest with
        | [] => [[character]]
        | piece :: pieces => (character :: piece) :: pieces

theorem split_on_ne_nil (separator : Char) (characters : List Char) :
    splitOn separator characters ≠ [] := by
  cases characters with
  | nil => simp [splitOn]
  | cons character rest =>
      simp only [splitOn]
      split
      · simp
      · split <;> simp

theorem intercalate_split_on (separator : Char) (characters : List Char) :
    List.intercalate [separator] (splitOn separator characters) = characters := by
  induction characters with
  | nil => rfl
  | cons character rest ih =>
      have nonempty := split_on_ne_nil separator rest
      simp only [splitOn]
      cases pieces : splitOn separator rest with
      | nil => exact absurd pieces nonempty
      | cons piece others =>
          rw [pieces] at ih
          split
          · next same =>
              subst same
              simp only [List.intercalate, List.intersperse] at ih ⊢
              simpa using ih
          · cases others <;> simpa [List.intercalate, List.intersperse] using ih

/-- A run of characters that is not continued behind it is cut off as a whole. -/
theorem take_while_append_of_head {keep : Char → Bool} {front rest : List Char}
    (all : front.all keep = true) (stops : ∀ next ∈ rest.head?, keep next = false) :
    (front ++ rest).takeWhile keep = front ∧ (front ++ rest).dropWhile keep = rest := by
  rw [List.all_eq_true] at all
  rw [List.takeWhile_append_of_pos all, List.dropWhile_append_of_pos all]
  cases rest with
  | nil => simp
  | cons next following => simp [stops next rfl]

/-- The text before and after the first separator. -/
def splitOnce? (isSeparator : Char → Bool) (characters : List Char) :
    Option (List Char × List Char) :=
  match characters.dropWhile (fun character => !isSeparator character) with
  | [] => none
  | _ :: rest => some (characters.takeWhile (fun character => !isSeparator character), rest)

def withoutFinalReturn (line : List Char) : List Char :=
  if line.getLast? = some '\r' then line.dropLast else line

/-- A text without the line feed that may end it. -/
def withoutFinalFeed (text : String) : String :=
  let characters := text.toList
  if characters.getLast? = some '\n' then String.ofList characters.dropLast else text

/-- The lines of a text, each without the carriage return that may end it. A text of n line feeds
has n + 1 lines. -/
def splitLines (text : String) : List String :=
  (splitOn '\n' text.toList).map fun line => String.ofList (withoutFinalReturn line)

end LineTemplate.Text

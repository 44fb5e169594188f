import LineTemplate.Text.Blank

/-!
A line read as words: what stands between runs of blanks and commas. The line is trimmed first, so
only a comma at an end can leave an empty word there, and a line without separators is one word.

The split is that of a regular expression for one or more separators: each match is as long as it can
be, and what lies before, between and behind the matches is a piece, be it empty. Blanks are the white
space of Unicode.
-/

namespace LineTemplate.Line

def isSeparator (character : Char) : Bool :=
  Text.isBlank character || character == ','

/-- The pieces between maximal runs of separators. -/
def splitRuns : List Char → List (List Char)
  | [] => [[]]
  | character :: rest =>
      if isSeparator character then
        if rest.head?.any isSeparator then splitRuns rest else [] :: splitRuns rest
      else
        match splitRuns rest with
        | [] => [[character]]
        | piece :: pieces => (character :: piece) :: pieces

theorem split_runs_ne_nil (characters : List Char) : splitRuns characters ≠ [] := by
  induction characters with
  | nil => simp [splitRuns]
  | cons character rest ih =>
      simp only [splitRuns]
      split
      · split
        · exact ih
        · simp
      · split <;> simp

def words (line : String) : List String :=
  (splitRuns (Text.trim line.toList)).map String.ofList

theorem words_ne_nil (line : String) : words line ≠ [] := by
  simp [words, split_runs_ne_nil]

def firstWord (line : String) : String :=
  (words line).headD ""

/-- The rest of the line after its first word and the separators that follow. -/
def argument (line : String) : String :=
  let afterWord := (Text.trimStart line.toList).dropWhile fun character => !isSeparator character
  String.ofList (Text.trimEnd (afterWord.dropWhile isSeparator))

end LineTemplate.Line

/-!
Text between two quotes of one kind.
-/

namespace LineTemplate.Text

def doubleQuote : Char := '"'

def singleQuote : Char := '\x27'

def isQuote (character : Char) : Bool :=
  character == doubleQuote || character == singleQuote

/-- What stands between a quote at the start and the same quote at the end. -/
def unquote? : List Char → Option (List Char)
  | [] => none
  | opening :: rest =>
      if isQuote opening ∧ rest.getLast? = some opening then some rest.dropLast else none

theorem unquote_enclosed (quote : Char) (inner : List Char) (isQuote : isQuote quote) :
    unquote? (quote :: (inner ++ [quote])) = some inner := by
  simp [unquote?, isQuote]

theorem unquote_of_unquoted {first : Char} (rest : List Char) (unquoted : isQuote first = false) :
    unquote? (first :: rest) = none := by
  simp [unquote?, unquoted]

end LineTemplate.Text

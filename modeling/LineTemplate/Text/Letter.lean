import LineTemplate.Text.Alphabetic
import LineTemplate.Text.Numeric
import LineTemplate.Text.WordJoiner

/-!
Letters, numerals and word characters of every script. ASCII is decided by rule and the rest by
table, so that statements about ASCII text never open a table. The tables are those of Unicode 15.0.
-/

namespace LineTemplate.Text

def inRanges (ranges : Array (Nat × Nat)) (code : Nat) : Bool :=
  ranges.any fun (first, last) => first ≤ code && code ≤ last

def isAscii (character : Char) : Bool :=
  character.toNat < 128

def isLetter (character : Char) : Bool :=
  if isAscii character then character.isAlpha
  else inRanges alphabeticRanges character.toNat

def isNumeral (character : Char) : Bool :=
  if isAscii character then character.isDigit
  else inRanges numericRanges character.toNat

/-- A letter, mark, decimal digit, connector punctuation or join control. Word boundaries lie
between a character that is one and a neighbour that is not. -/
def isWordCharacter (character : Char) : Bool :=
  if isAscii character then character.isAlphanum || character == '_'
  else inRanges alphabeticRanges character.toNat || inRanges wordJoinerRanges character.toNat

theorem is_word_character_of_is_letter (character : Char) (letter : isLetter character) :
    isWordCharacter character := by
  unfold isLetter at letter
  unfold isWordCharacter
  split <;> simp_all [Char.isAlphanum]

end LineTemplate.Text

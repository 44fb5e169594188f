/-!
Blank characters, and text without the blanks around it. Trimming takes characters from the two
ends only, and takes all the blank ones there.
-/

namespace LineTemplate.Text

/-- White space of every script: ASCII controls and the space, no-break and typographic spaces, and
the line and paragraph separators. -/
def isBlank (character : Char) : Bool :=
  let code := character.toNat
  (9 ≤ code && code ≤ 13) || code == 0x20 || code == 0x85 || code == 0xA0 || code == 0x1680 ||
    (0x2000 ≤ code && code ≤ 0x200A) || code == 0x2028 || code == 0x2029 || code == 0x202F ||
    code == 0x205F || code == 0x3000

theorem is_blank_of_is_whitespace (character : Char) (white : character.isWhitespace) :
    isBlank character := by
  simp only [Char.isWhitespace, Bool.or_eq_true, decide_eq_true_eq] at white
  rcases white with ((rfl | rfl) | rfl) | rfl <;> decide

/-- The blanks of ASCII that separate words: space, tab, line feed, form feed, carriage return. -/
def isAsciiBlank (character : Char) : Bool :=
  character == ' ' || character == '\t' || character == '\n' || character == '\x0C' ||
    character == '\r'

def trimStart (characters : List Char) : List Char :=
  characters.dropWhile isBlank

def trimEnd (characters : List Char) : List Char :=
  (characters.reverse.dropWhile isBlank).reverse

def trim (characters : List Char) : List Char :=
  trimEnd (trimStart characters)

theorem trim_start_of_not_blank (character : Char) (rest : List Char)
    (visible : isBlank character = false) : trimStart (character :: rest) = character :: rest := by
  simp [trimStart, visible]

theorem trim_end_append_of_not_blank (front : List Char) (character : Char)
    (visible : isBlank character = false) :
    trimEnd (front ++ [character]) = front ++ [character] := by
  simp [trimEnd, visible]

theorem trim_of_visible {characters : List Char}
    (visible : ∀ character ∈ characters, isBlank character = false) :
    trim characters = characters := by
  have kept : characters.dropWhile isBlank = characters := by
    cases characters with
    | nil => rfl
    | cons first rest => exact trim_start_of_not_blank first rest (visible first List.mem_cons_self)
  have keptReverse : characters.reverse.dropWhile isBlank = characters.reverse := by
    cases reversed : characters.reverse with
    | nil => rfl
    | cons last front =>
        refine trim_start_of_not_blank last front (visible last ?_)
        rw [← List.mem_reverse, reversed]
        exact List.mem_cons_self
  rw [trim, trimStart, kept, trimEnd, keptReverse, List.reverse_reverse]

theorem trim_start_suffix (characters : List Char) : trimStart characters <:+ characters :=
  List.dropWhile_suffix isBlank

end LineTemplate.Text

import LineTemplate.Expression.Error
import LineTemplate.Text.Blank
import LineTemplate.Text.Folding
import LineTemplate.Text.Quote

/-!
Reading text as tokens. Each token takes at least one character, so reading ends; the only text
without tokens is one whose last string literal is open.
-/

namespace LineTemplate.Expression

def isHexDigit (character : Char) : Bool :=
  character.isDigit || ('a' ≤ character && character ≤ 'f') ||
    ('A' ≤ character && character ≤ 'F')

def hexDigitValue (digit : Char) : Nat :=
  if digit.isDigit then digit.toNat - '0'.toNat
  else digit.toLower.toNat - 'a'.toNat + 10

/-- The largest finite real number, which stands for hexadecimal numerals beyond 128 bits. -/
def largestReal : Float :=
  Number.Binary.toFloat (.finite false (Nat.pow 2 53 - 1) 971)

def hexToken (digits : List Char) : Token :=
  let value := Number.ofDigits 16 hexDigitValue digits
  let real := if value < Nat.pow 2 128 then Float.ofNat value else largestReal
  (Number.fit? value).elim (.real real) .integer

/-- The digits after a point, if a point and a digit are next, and what follows. -/
def fractionPart (characters : List Char) : List Char × List Char :=
  match characters with
  | '.' :: rest =>
      if rest.head?.any Char.isDigit then
        (rest.takeWhile Char.isDigit, rest.dropWhile Char.isDigit)
      else ([], characters)
  | _ => ([], characters)

/-- The exponent, if a complete one is next, and what follows. -/
def exponentPart (characters : List Char) : Option Int × List Char :=
  match characters with
  | mark :: rest =>
      let (negative, digits) := Number.splitSign rest
      if (mark == 'e' || mark == 'E') && digits.head?.any Char.isDigit then
        let magnitude : Int := Number.ofDecimalDigits (digits.takeWhile Char.isDigit)
        (some (if negative then -magnitude else magnitude), digits.dropWhile Char.isDigit)
      else (none, characters)
  | [] => (none, [])

/-- A numeral without point and exponent is an integer if 64 bits can hold it; any other is real. -/
def decimalToken (characters : List Char) : Token × List Char :=
  let whole := characters.takeWhile Char.isDigit
  let (fraction, afterFraction) := fractionPart (characters.dropWhile Char.isDigit)
  let (exponent, rest) := exponentPart afterFraction
  let decimal : Number.Decimal :=
    { negative := false
      coefficient := Number.ofDecimalDigits (whole ++ fraction)
      exponent := exponent.getD 0 - fraction.length }
  let integer :=
    if fraction.isEmpty && exponent.isNone then Number.fit? (Number.ofDecimalDigits whole)
    else none
  match integer with
  | some value => (.integer value, rest)
  | none => (.real decimal.toFloat, rest)

/-- A numeral that starts with the given digit or point. -/
def numberToken (first : Char) (body : List Char) : Token × List Char :=
  match body with
  | mark :: rest =>
      if first == '0' && (mark == 'x' || mark == 'X') && rest.head?.any isHexDigit then
        (hexToken (rest.takeWhile isHexDigit), rest.dropWhile isHexDigit)
      else decimalToken (first :: body)
  | [] => decimalToken [first]

def unescape : Char → Char
  | 'n' => '\n'
  | 't' => '\t'
  | other => other

/-- The content of a string literal up to its closing quote, and what follows the quote. -/
def textBody (quote : Char) : List Char → Option (List Char × List Char)
  | [] => none
  | '\\' :: [] => none
  | '\\' :: escaped :: rest =>
      (textBody quote rest).map fun (inner, after) => (unescape escaped :: inner, after)
  | character :: rest =>
      if character = quote then some ([], rest)
      else (textBody quote rest).map fun (inner, after) => (character :: inner, after)

def startsName (character : Char) : Bool :=
  Text.isLetter character || character == '_'

def continuesName (character : Char) : Bool :=
  Text.isLetter character || Text.isNumeral character || character == '_'

/-- A word is an operator or a name. -/
def wordToken (word : String) : Token :=
  if Text.equalIgnoringCase word "and" then .and
  else if Text.equalIgnoringCase word "or" then .or
  else if Text.equalIgnoringCase word "not" then .bang
  else .name word

/-- Operators of two characters, which win over the one-character operator they start with. -/
def pairToken? : Char → Char → Option Token
  | '!', '=' => some .notEqual
  | '&', '&' => some .and
  | '|', '|' => some .or
  | '<', '=' => some .lessOrEqual
  | '<', '>' => some .notEqual
  | '>', '=' => some .greaterOrEqual
  | '=', '=' => some .equal
  | _, _ => none

def singleToken : Char → Token
  | '+' => .plus
  | '-' => .minus
  | '*' => .star
  | '/' => .slash
  | '%' => .percent
  | '!' => .bang
  | '<' => .less
  | '>' => .greater
  | '=' => .assign
  | '?' => .question
  | ':' => .colon
  | '(' => .opening
  | ')' => .closing
  | other => .unknown other

def operatorToken (first : Char) (body : List Char) : Token × List Char :=
  match body with
  | second :: rest =>
      match pairToken? first second with
      | some token => (token, rest)
      | none => (singleToken first, body)
  | [] => (singleToken first, [])

def startsNumber (first : Char) (body : List Char) : Bool :=
  first.isDigit || (first == '.' && body.head?.any Char.isDigit)

/-- The token that starts with a character other than a blank, and what follows it. -/
def firstToken (first : Char) (body : List Char) : Except Fault (Token × List Char) :=
  if startsNumber first body then .ok (numberToken first body)
  else if Text.isQuote first then
    match textBody first body with
    | some (inner, rest) => .ok (.text (String.ofList inner), rest)
    | none => .error .openText
  else if startsName first then
    let word := String.ofList (first :: body.takeWhile continuesName)
    .ok (wordToken word, body.dropWhile continuesName)
  else .ok (operatorToken first body)

theorem drop_while_length {Item : Type} (keep : Item → Bool) (items : List Item) :
    (items.dropWhile keep).length ≤ items.length :=
  (List.dropWhile_suffix keep).length_le

theorem fraction_part_length (characters : List Char) :
    (fractionPart characters).2.length ≤ characters.length := by
  unfold fractionPart
  split
  · next rest =>
      split
      · have := drop_while_length Char.isDigit rest
        simp only [List.length_cons]
        omega
      · exact Nat.le_refl _
  · exact Nat.le_refl _

theorem split_sign_length (characters : List Char) :
    (Number.splitSign characters).2.length ≤ characters.length := by
  unfold Number.splitSign
  split <;> simp

theorem exponent_part_length (characters : List Char) :
    (exponentPart characters).2.length ≤ characters.length := by
  unfold exponentPart
  split
  · next mark rest =>
      have sign := split_sign_length rest
      have digits := drop_while_length Char.isDigit (Number.splitSign rest).2
      simp only
      split
      · simp only [List.length_cons]
        omega
      · exact Nat.le_refl _
  · exact Nat.le_refl _

theorem decimal_token_length (characters : List Char) :
    (decimalToken characters).2.length ≤
      (fractionPart (characters.dropWhile Char.isDigit)).2.length := by
  have exponent := exponent_part_length (fractionPart (characters.dropWhile Char.isDigit)).2
  unfold decimalToken
  simp only
  split <;> exact exponent

theorem decimal_token_length_of_starts {first : Char} {body : List Char}
    (starts : startsNumber first body) : (decimalToken (first :: body)).2.length ≤ body.length := by
  refine Nat.le_trans (decimal_token_length _) ?_
  by_cases digit : first.isDigit
  · have fraction := fraction_part_length (body.dropWhile Char.isDigit)
    have whole := drop_while_length Char.isDigit body
    rw [List.dropWhile_cons_of_pos digit]
    omega
  · simp only [startsNumber, digit, Bool.false_or, Bool.and_eq_true, beq_iff_eq] at starts
    obtain ⟨rfl, next⟩ := starts
    rw [List.dropWhile_cons_of_neg digit]
    simp only [fractionPart, next, if_true]
    exact drop_while_length Char.isDigit body

theorem number_token_length {first : Char} {body : List Char} (starts : startsNumber first body) :
    (numberToken first body).2.length ≤ body.length := by
  unfold numberToken
  split
  · next mark rest =>
      split
      · have := drop_while_length isHexDigit rest
        simp only [List.length_cons]
        omega
      · exact decimal_token_length_of_starts starts
  · exact decimal_token_length_of_starts starts

theorem text_body_length {quote : Char} {characters inner rest : List Char}
    (read : textBody quote characters = some (inner, rest)) :
    rest.length < characters.length := by
  fun_induction textBody quote characters generalizing inner with
  | case1 => cases read
  | case2 => cases read
  | case3 escaped body ih =>
      obtain ⟨⟨_, _⟩, deeper, equal⟩ := Option.map_eq_some_iff.mp read
      cases equal
      have := ih deeper
      simp only [List.length_cons]
      omega
  | case4 body =>
      cases read
      simp
  | case5 character body _ _ _ ih =>
      obtain ⟨⟨_, _⟩, deeper, equal⟩ := Option.map_eq_some_iff.mp read
      cases equal
      have := ih deeper
      simp only [List.length_cons]
      omega

theorem operator_token_length (first : Char) (body : List Char) :
    (operatorToken first body).2.length ≤ body.length := by
  unfold operatorToken
  split
  · split <;> simp
  · simp

theorem first_token_length {first : Char} {body rest : List Char} {token : Token}
    (read : firstToken first body = .ok (token, rest)) : rest.length ≤ body.length := by
  unfold firstToken at read
  split at read
  · next starts =>
      have bound := number_token_length starts
      rw [Except.ok.inj read] at bound
      exact bound
  · split at read
    · split at read
      · next inner after found =>
          cases read
          exact Nat.le_of_lt (text_body_length found)
      · cases read
    · split at read
      · cases read
        exact drop_while_length continuesName body
      · have bound := operator_token_length first body
        rw [Except.ok.inj read] at bound
        exact bound

/-- All tokens of a text, up to its end. -/
def tokens (characters : List Char) : Except Fault (List Token) :=
  match _start : Text.trimStart characters with
  | [] => .ok []
  | first :: body =>
      match _read : firstToken first body with
      | .error fault => .error fault
      | .ok (token, rest) => (tokens rest).map (token :: ·)
termination_by characters.length
decreasing_by
  have trimmed := (Text.trim_start_suffix characters).length_le
  have rest := first_token_length _read
  rw [_start, List.length_cons] at trimmed
  omega

end LineTemplate.Expression

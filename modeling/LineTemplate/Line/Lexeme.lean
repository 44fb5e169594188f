import LineTemplate.Text.Blank
import LineTemplate.Text.Folding
import LineTemplate.Text.Quote

/-!
A line read as lexemes: quoted text, delimiters of one character each, and bare runs between blanks
and delimiters. There are no escapes: quoted text ends at the next quote of its kind, or at the end
of the line when there is none.
-/

namespace LineTemplate.Line

structure Lexeme where
  text : String
  quoted : Bool
  deriving DecidableEq, Repr

def Lexeme.isKeyword (lexeme : Lexeme) (keyword : String) : Bool :=
  !lexeme.quoted && Text.equalIgnoringCase lexeme.text keyword

def isDelimiter (character : Char) : Bool :=
  [',', ':', '!', '?', '/', '\\', ';', '*'].contains character

def isBare (character : Char) : Bool :=
  !Text.isBlank character && !isDelimiter character

/-- One lexeme, what follows it, and whether its closing quote was found if it needs one. -/
structure Scan where
  lexeme : Lexeme
  rest : List Char
  closed : Bool
  deriving DecidableEq, Repr

def scanQuoted (quote : Char) (body : List Char) : Scan :=
  let lexeme := ⟨String.ofList (body.takeWhile (· != quote)), true⟩
  match body.dropWhile (· != quote) with
  | [] => ⟨lexeme, [], false⟩
  | _ :: rest => ⟨lexeme, rest, true⟩

/-- The first lexeme of a text that starts with something other than a blank. -/
def scanFirst (first : Char) (body : List Char) : Scan :=
  if Text.isQuote first then scanQuoted first body
  else if isDelimiter first then ⟨⟨first.toString, false⟩, body, true⟩
  else ⟨⟨String.ofList (first :: body.takeWhile isBare), false⟩, body.dropWhile isBare, true⟩

def scan? (characters : List Char) : Option Scan :=
  match Text.trimStart characters with
  | [] => none
  | first :: body => some (scanFirst first body)

theorem scan_first_rest_length (first : Char) (body : List Char) :
    (scanFirst first body).rest.length ≤ body.length := by
  have quoted := (List.dropWhile_suffix (l := body) (fun other => other != first)).length_le
  have bare := (List.dropWhile_suffix (l := body) isBare).length_le
  unfold scanFirst scanQuoted
  split
  · split
    · simp
    · next rest found =>
        simp only [found, List.length_cons] at quoted
        simp only
        omega
  · split
    · exact Nat.le_refl _
    · exact bare

theorem scan_rest_length {characters : List Char} {scan : Scan}
    (found : scan? characters = some scan) : scan.rest.length < characters.length := by
  have trimmed := (Text.trim_start_suffix characters).length_le
  unfold scan? at found
  split at found
  · cases found
  · next first body start =>
      cases found
      have rest := scan_first_rest_length first body
      rw [start, List.length_cons] at trimmed
      omega

/-- All lexemes of a text in order, each with what follows it. -/
def scanAll (characters : List Char) : List Scan :=
  match _found : scan? characters with
  | none => []
  | some scan => scan :: scanAll scan.rest
termination_by characters.length
decreasing_by exact scan_rest_length _found

def scans (line : String) : List Scan :=
  scanAll line.toList

def lexemes (line : String) : List Lexeme :=
  (scans line).map Scan.lexeme

def hasOpenQuote (line : String) : Bool :=
  (scans line).any fun scan => !scan.closed

end LineTemplate.Line

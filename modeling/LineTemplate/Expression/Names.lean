import LineTemplate.Expression.Evaluation
import LineTemplate.Line.Words
import LineTemplate.Variables

/-!
Names in the text of an expression. Each whole word that is a name, whatever its case, gives way to
a literal of the variable's value; string literals stay as they are. What is put in is not searched
again.

The search is that of a regular expression with ordered alternatives. From left to right, a complete
literal is tried at each place before the names in the order of the pattern, the first that fits is
taken, and the search goes on behind it; an empty match right behind another match does not count.
Names are compared by simple case folding, and words end at the word boundaries of Unicode. The
expression is taken to compile; that it may be too large for that, and every text is then left as it
is, is not modelled.
-/

namespace LineTemplate.Expression

/-- A value written so that it reads back as that value. A negative number is put in parentheses,
so that an operator before it applies to the whole. -/
def literal (value : Value) : String :=
  match value.numeral? with
  | some numeral =>
      let digits := numeral.toValue.render
      if digits.startsWith "-" then "(" ++ digits ++ ")" else digits
  | none =>
      match value with
      | .truth _ => value.render
      | _ =>
          let escape := fun character =>
            if character == Text.doubleQuote || character == '\\' then ['\\', character]
            else [character]
          "\"" ++ String.ofList (value.render.toList.flatMap escape) ++ "\""

/-- The names to look for, longest first. It is fixed when it is made: variables may come and go
while it is in use. -/
structure NamePattern where
  names : List (List Char)
  deriving DecidableEq, Repr

namespace NamePattern

def nothing : NamePattern := ⟨[]⟩

/-- Length is counted in bytes of UTF-8; names of one length keep their order. -/
def ofVariables (bindings : Variables) : NamePattern :=
  ⟨(bindings.names.mergeSort fun left right => right.utf8ByteSize ≤ left.utf8ByteSize).map
    String.toList⟩

end NamePattern

/-- Length of the string literal up to and with its closing quote. A backslash takes the next
character with it, but not a line feed. -/
def literalLength? (quote : Char) : List Char → Option Nat
  | [] => none
  | '\\' :: [] => none
  | '\\' :: escaped :: rest =>
      if escaped = '\n' then none else (literalLength? quote rest).map (· + 2)
  | character :: rest =>
      if character = quote then some 1 else (literalLength? quote rest).map (· + 1)

/-- Whether the text starts with the name, up to case; if so, what follows it. -/
def afterName? : List Char → List Char → Option (List Char)
  | [], rest => some rest
  | _ :: _, [] => none
  | expected :: name, character :: rest =>
      if Text.fold expected = Text.fold character then afterName? name rest else none

/-- Whether a word starts or ends between two neighbours. -/
def isBoundary (before after : Option Char) : Bool :=
  before.any Text.isWordCharacter != after.any Text.isWordCharacter

/-- A place in the text that is copied as a string literal, or is a name to replace. -/
structure Occurrence where
  length : Nat
  isName : Bool
  deriving DecidableEq, Repr

/-- The name, as a whole word, at the front of the text that follows `before`. -/
def nameOccurrence? (before : Option Char) (characters name : List Char) : Option Occurrence :=
  match afterName? name characters with
  | none => none
  | some rest =>
      let last := (characters.take name.length).getLast?.or before
      if isBoundary last rest.head? then some ⟨name.length, true⟩ else none

def quotedOccurrence? : List Char → Option Occurrence
  | [] => none
  | quote :: rest =>
      if Text.isQuote quote then (literalLength? quote rest).map fun length => ⟨length + 1, false⟩
      else none

/-- What starts at the front of the text that follows `before`: a string literal if one does, else
the first name of the pattern that fits. -/
def occurrence? (pattern : NamePattern) (before : Option Char) (characters : List Char) :
    Option Occurrence :=
  match quotedOccurrence? characters with
  | some occurrence => some occurrence
  | none =>
      if isBoundary before characters.head? then
        pattern.names.findSome? (nameOccurrence? before characters)
      else none

/-- Replaces the names in a text. `before` is the character before the text, `afterMatch` says that
an occurrence ended here, and `skip` characters belong to an occurrence that was already dealt with.
An empty name fits between two characters, but not right after another occurrence. -/
def replaceFrom (pattern : NamePattern) (replacement : List Char → List Char) :
    Option Char → Bool → Nat → List Char → List Char
  | before, afterMatch, _, [] =>
      match occurrence? pattern before [] with
      | some _ => if afterMatch then [] else replacement []
      | none => []
  | _, _, skip + 1, character :: rest =>
      replaceFrom pattern replacement (some character) true skip rest
  | before, afterMatch, 0, character :: rest =>
      match occurrence? pattern before (character :: rest) with
      | none => character :: replaceFrom pattern replacement (some character) false 0 rest
      | some ⟨0, _⟩ =>
          (if afterMatch then [] else replacement []) ++
            character :: replaceFrom pattern replacement (some character) false 0 rest
      | some ⟨length + 1, isName⟩ =>
          let found := (character :: rest).take (length + 1)
          (if isName then replacement found else found) ++
            replaceFrom pattern replacement (some character) true length rest

/-- What a name gives way to: a literal of its value, or itself when it has none. -/
def replacementOf (bindings : Variables) (name : List Char) : List Char :=
  match bindings.lookup? (String.ofList name) with
  | some value => (literal value).toList
  | none => name

/-- A pattern without names leaves the text alone. -/
def substitute (pattern : NamePattern) (bindings : Variables) (text : String) : String :=
  if pattern.names.isEmpty then text
  else
    String.ofList (replaceFrom pattern (replacementOf bindings) none false 0 text.toList)

def evaluateWith (pattern : NamePattern) (bindings : Variables) (text : String) :
    Except Error Value :=
  evaluateText (substitute pattern bindings text)

/-- The value of a text in which names stand for the values of variables. -/
def evaluate (bindings : Variables) (text : String) : Except Error Value :=
  evaluateWith (NamePattern.ofVariables bindings) bindings text

/-- Words that expressions read as operators or truths. -/
def isReserved (word : String) : Bool :=
  ["and", "or", "not", "true", "false"].any (Text.equalIgnoringCase word)

/-- A condition that only lists names holds when one of them is defined and true. Other texts are
no such list. -/
def presence? (bindings : Variables) (text : String) : Option Bool :=
  let words := Line.words text
  if words.all fun word => isIdentifier word && !isReserved word then
    some (words.any fun word => (bindings.lookup? word).any Value.isTrue)
  else none

end LineTemplate.Expression

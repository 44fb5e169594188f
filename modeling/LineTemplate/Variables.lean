import LineTemplate.NameMap
import LineTemplate.Value

/-!
The variables of a run. A name is looked up as it is written first, and then without regard to the
case of ASCII letters.
-/

namespace LineTemplate

abbrev Variables := NameMap Value

namespace Variables

/-- The variable of exactly that name, else the first in order that differs from it only in case. -/
def lookup? (bindings : Variables) (name : String) : Option Value :=
  match bindings.get? name with
  | some value => some value
  | none =>
      (bindings.entries.find? fun entry => Text.equalIgnoringCase entry.1 name).map Prod.snd

theorem lookup_of_get {bindings : Variables} {name : String} {value : Value}
    (found : bindings.get? name = some value) : bindings.lookup? name = some value := by
  simp [lookup?, found]

end Variables

/-- A letter of ASCII or an underscore, then letters, digits and underscores of ASCII. -/
def isIdentifier (name : String) : Bool :=
  match name.toList with
  | [] => false
  | first :: rest =>
      (first.isAlpha || first == '_') && rest.all fun other => other.isAlphanum || other == '_'

end LineTemplate

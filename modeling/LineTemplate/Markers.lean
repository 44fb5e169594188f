import LineTemplate.Options
import LineTemplate.Variables

/-!
Markers: a name between an opening and a closing, which stands for the text of a value. All markers
of a line are replaced in one pass from left to right, at each place the longest that fits, and the
text put in is not searched again. What to search for is worked out at the first line and kept until
an entry changes.

The search is that of an automaton for a set of fixed texts which reports the leftmost match, the
longest of those that start there, and no two that overlap. Markers are compared character by
character; neither case nor the ends of words count.
-/

namespace LineTemplate

/-- Where the texts of markers come from. -/
inductive Substitution where
  | off
  | fromVariables
  | table (items : NameMap Value)

instance : Inhabited Substitution := ⟨.off⟩

/-- Each marker with the text it stands for. A matcher is fixed when it is made: entries may come and
go while it is in use. -/
structure Matcher where
  table : List (List Char × List Char)
  deriving DecidableEq, Repr

structure Markers where
  enabled : Bool
  opening : String
  closing : String
  entries : NameMap String
  compiled : Option Matcher := none

namespace Markers

def disabled : Markers :=
  { enabled := false, opening := "", closing := "", entries := NameMap.empty }

def wrap (markers : Markers) (name : String) : String :=
  markers.opening ++ name ++ markers.closing

/-- Only an enabled table takes entries, and none for the empty name. -/
def bind (markers : Markers) (name : String) (value : Value) : Markers :=
  if markers.enabled && !name.isEmpty then
    { markers with entries := markers.entries.insert name value.render, compiled := none }
  else markers

def bindAll (markers : Markers) (items : List (String × Value)) : Markers :=
  items.foldl (fun filled item => filled.bind item.1 item.2) markers

/-- The table a run starts with. -/
def ofSubstitution (substitution : Substitution) (bindings : Variables)
    (opening closing : String) : Markers :=
  let fresh : Markers := { enabled := true, opening, closing, entries := NameMap.empty }
  match substitution with
  | .off => disabled
  | .fromVariables => fresh.bindAll bindings.entries
  | .table items => fresh.bindAll items.entries

/-- The matcher for the entries as they are now. -/
def compile (markers : Markers) : Matcher :=
  ⟨markers.entries.entries.map fun (name, text) => ((markers.wrap name).toList, text.toList)⟩

/-- The matcher in use: the one made before, if it was kept. -/
def matcher (markers : Markers) : Matcher :=
  markers.compiled.getD markers.compile

/-- The longest marker at the front of the text, as its length, and what it stands for. -/
def longest? (table : List (List Char × List Char)) (characters : List Char) :
    Option (Nat × List Char) :=
  table.foldl (fun best (marker, text) =>
      if marker.isPrefixOf characters && best.all (fun found => found.1 < marker.length) then
        some (marker.length, text)
      else best)
    none

/-- Replaces markers from left to right; `skip` characters belong to a marker already replaced. -/
def replaceFrom (table : List (List Char × List Char)) : Nat → List Char → List Char
  | _, [] => []
  | skip + 1, _ :: rest => replaceFrom table skip rest
  | 0, character :: rest =>
      match longest? table (character :: rest) with
      | some (length, text) => text ++ replaceFrom table (length - 1) rest
      | none => character :: replaceFrom table 0 rest

def apply (markers : Markers) (line : String) : String :=
  if markers.enabled && !markers.entries.isEmpty then
    String.ofList (replaceFrom markers.matcher.table 0 line.toList)
  else line

/-- The table after a line was searched: the matcher is kept for the next line. -/
def searched (markers : Markers) : Markers :=
  if markers.enabled && !markers.entries.isEmpty then
    { markers with compiled := some markers.matcher }
  else markers

end Markers

end LineTemplate

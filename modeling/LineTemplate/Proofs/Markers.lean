import LineTemplate.Markers
import Mathlib.Logic.Function.Iterate

/-!
What a table of markers holds. Binding names one after the other fills it with the texts of a map,
without the empty name, and leaves what surrounds the names in markers as it is. The matcher that is
kept with it is never out of date: a table that was searched before, however often, replaces the
same markers as one that was not.
-/

namespace LineTemplate.Markers

variable {markers : Markers} {map : NameMap Value}

section Texts

def textEntries (entries : List (String × Value)) : List (String × String) :=
  (entries.filter fun entry => !entry.1.isEmpty).map fun entry => (entry.1, entry.2.render)

theorem text_entries_cons (entry : String × Value) (rest : List (String × Value)) :
    textEntries (entry :: rest) =
      if entry.1.isEmpty then textEntries rest
      else (entry.1, entry.2.render) :: textEntries rest := by
  cases empty : entry.1.isEmpty <;> simp [textEntries, empty]

theorem not_empty_of_lt {left right : String} (before : left < right) : right.isEmpty = false := by
  cases empty : right.isEmpty with
  | false => rfl
  | true =>
      rw [String.isEmpty_iff.mp empty] at before
      exact absurd (String.lt_iff.mp before) (List.not_lt_nil _)

theorem text_entries_insert (name : String) (value : Value) (entries : List (String × Value)) :
    textEntries (NameMap.insertEntry name value entries) =
      if name.isEmpty then textEntries entries
      else NameMap.insertEntry name value.render (textEntries entries) := by
  induction entries with
  | nil =>
      rw [NameMap.insertEntry, text_entries_cons]
      rfl
  | cons first rest ih =>
      simp only [NameMap.insertEntry]
      split
      · next before =>
          have named := not_empty_of_lt before
          simp [text_entries_cons, named, NameMap.insertEntry, before]
      · next notBefore =>
          split
          · next same =>
              rw [text_entries_cons, text_entries_cons, ← same]
              rw [← same] at notBefore
              cases empty : name.isEmpty with
              | true => rfl
              | false =>
                  simp only [Bool.false_eq_true, if_false]
                  rw [NameMap.insertEntry, if_neg notBefore, if_pos rfl]
          · next different =>
              rw [text_entries_cons, text_entries_cons, ih]
              cases empty : name.isEmpty <;> cases emptyFirst : first.1.isEmpty <;>
                simp [NameMap.insertEntry, notBefore, different]

/-- Each name of the map except the empty one, with the text of its value. -/
def texts (map : NameMap Value) : NameMap String :=
  { entries := textEntries map.entries
    sorted := (map.sorted.filter _).map _ fun _ _ before => before }

theorem texts_insert (map : NameMap Value) (name : String) (value : Value) :
    texts (map.insert name value) =
      if name.isEmpty then texts map else (texts map).insert name value.render := by
  apply NameMap.eq_of_entries
  change textEntries (NameMap.insertEntry name value map.entries) = _
  rw [text_entries_insert]
  split <;> rfl

end Texts

section Shows

/-- The table is in use and holds the texts of the map. -/
structure Shows (markers : Markers) (map : NameMap Value) : Prop where
  enabled : markers.enabled = true
  entries : markers.entries = texts map

theorem shows_bind (shows : markers.Shows map) (name : String) (value : Value) :
    (markers.bind name value).Shows (map.insert name value) := by
  have inserted := texts_insert map name value
  unfold bind
  cases empty : name.isEmpty with
  | true =>
      rw [empty, if_pos rfl] at inserted
      rw [Bool.not_true, Bool.and_false, if_neg (by simp)]
      exact ⟨shows.enabled, shows.entries.trans inserted.symm⟩
  | false =>
      rw [empty, if_neg (by simp), ← shows.entries] at inserted
      rw [shows.enabled, Bool.not_false, Bool.and_true, if_pos rfl]
      exact ⟨rfl, inserted.symm⟩

theorem shows_bind_all (items : List (String × Value)) (shows : markers.Shows map) :
    (markers.bindAll items).Shows (map.insertAll items) := by
  induction items generalizing markers map with
  | nil => exact shows
  | cons item rest ih => exact ih (shows_bind shows item.1 item.2)

theorem shows_searched (shows : markers.Shows map) : markers.searched.Shows map := by
  unfold searched
  split
  · exact ⟨shows.enabled, shows.entries⟩
  · exact shows

theorem shows_fresh (opening closing : String) :
    Shows { enabled := true, opening, closing, entries := NameMap.empty } NameMap.empty :=
  ⟨rfl, NameMap.eq_of_entries rfl⟩

theorem shows_of_variables (bindings : Variables) (opening closing : String) :
    (ofSubstitution .fromVariables bindings opening closing).Shows bindings := by
  have filled := shows_bind_all bindings.entries (shows_fresh opening closing)
  rwa [NameMap.insert_all_empty] at filled

theorem shows_of_table (items : NameMap Value) (bindings : Variables) (opening closing : String) :
    (ofSubstitution (.table items) bindings opening closing).Shows items := by
  have filled := shows_bind_all items.entries (shows_fresh opening closing)
  rwa [NameMap.insert_all_empty] at filled

end Shows

section Matcher

/-- The matcher that is kept, if there is one, is the one for the entries as they are. -/
def Coherent (markers : Markers) : Prop :=
  ∀ matcher, markers.compiled = some matcher → matcher = markers.compile

/-- The same table as if no line had been searched since an entry changed. -/
def unsearched (markers : Markers) : Markers :=
  { markers with compiled := none }

theorem coherent_of_unsearched (fresh : markers.compiled = none) : markers.Coherent := by
  intro matcher kept
  rw [fresh] at kept
  cases kept

theorem coherent_bind (coherent : markers.Coherent) (name : String) (value : Value) :
    (markers.bind name value).Coherent := by
  unfold bind
  split
  · exact coherent_of_unsearched rfl
  · exact coherent

theorem coherent_bind_all (items : List (String × Value)) (coherent : markers.Coherent) :
    (markers.bindAll items).Coherent := by
  induction items generalizing markers with
  | nil => exact coherent
  | cons item rest ih => exact ih (coherent_bind coherent item.1 item.2)

theorem coherent_of_substitution (substitution : Substitution) (bindings : Variables)
    (opening closing : String) :
    (ofSubstitution substitution bindings opening closing).Coherent := by
  cases substitution with
  | off => exact coherent_of_unsearched rfl
  | fromVariables => exact coherent_bind_all bindings.entries (coherent_of_unsearched rfl)
  | table items => exact coherent_bind_all items.entries (coherent_of_unsearched rfl)

theorem matcher_of_coherent (coherent : markers.Coherent) : markers.matcher = markers.compile := by
  unfold matcher
  cases kept : markers.compiled with
  | none => rfl
  | some matcher => exact coherent matcher kept

theorem coherent_searched (coherent : markers.Coherent) : markers.searched.Coherent := by
  unfold searched
  split
  · rintro matcher ⟨rfl⟩
    exact matcher_of_coherent coherent
  · exact coherent

theorem apply_of_coherent (coherent : markers.Coherent) (line : String) :
    markers.apply line = markers.unsearched.apply line := by
  unfold apply
  rw [matcher_of_coherent coherent]
  rfl

theorem unsearched_searched (markers : Markers) : markers.searched.unsearched = markers.unsearched := by
  unfold searched
  split <;> rfl

/-- Searching lines, however many, changes nothing for the lines that follow. -/
theorem apply_of_searched (coherent : markers.Coherent) (count : Nat) (line : String) :
    (searched^[count] markers).apply line = markers.unsearched.apply line := by
  induction count generalizing markers with
  | zero => exact apply_of_coherent coherent line
  | succ count ih =>
      rw [Function.iterate_succ_apply, ih (coherent_searched coherent), unsearched_searched]

end Matcher

section Delimiters

variable {opening closing : String}

/-- The texts that surround a name. -/
structure Delimited (markers : Markers) (opening closing : String) : Prop where
  opening : markers.opening = opening
  closing : markers.closing = closing

theorem delimited_bind (delimited : markers.Delimited opening closing) (name : String)
    (value : Value) : (markers.bind name value).Delimited opening closing := by
  unfold bind
  split <;> exact ⟨delimited.opening, delimited.closing⟩

theorem delimited_bind_all (items : List (String × Value))
    (delimited : markers.Delimited opening closing) :
    (markers.bindAll items).Delimited opening closing := by
  induction items generalizing markers with
  | nil => exact delimited
  | cons item rest ih => exact ih (delimited_bind delimited item.1 item.2)

theorem delimited_searched (delimited : markers.Delimited opening closing) :
    markers.searched.Delimited opening closing := by
  unfold searched
  split <;> exact ⟨delimited.opening, delimited.closing⟩

theorem delimited_of_variables (bindings : Variables) (opening closing : String) :
    (ofSubstitution .fromVariables bindings opening closing).Delimited opening closing :=
  delimited_bind_all bindings.entries ⟨rfl, rfl⟩

/-- Tables that hold the same texts between the same delimiters differ in the matcher alone. -/
theorem unsearched_of_shows {other : Markers} {map : NameMap Value} (shows : markers.Shows map)
    (otherShows : other.Shows map) (delimited : markers.Delimited opening closing)
    (otherDelimited : other.Delimited opening closing) : markers.unsearched = other.unsearched := by
  unfold unsearched
  rw [shows.enabled, otherShows.enabled, shows.entries, otherShows.entries, delimited.opening,
    otherDelimited.opening, delimited.closing, otherDelimited.closing]

end Delimiters

end LineTemplate.Markers

import LineTemplate.Proofs.Markers
import Mathlib.Data.List.Induction

/-!
What replacing markers does to a line. The line falls into markers and gaps in one way only: each
marker is the longest that starts at its place, and none starts inside a gap. Replacing leaves the
gaps as they are and puts the texts that the names have now in place of the markers, whatever was
bound and searched before.
-/

namespace LineTemplate.Markers

section Tables

variable {table : List (List Char × List Char)} {characters marker rest text : List Char}

/-- The longest marker of the table at the front of the characters, if there is one. -/
inductive Longest (table : List (List Char × List Char)) (characters : List Char) :
    Option (Nat × List Char) → Prop where
  | nothing (free : ∀ entry ∈ table, ¬ entry.1 <+: characters) : Longest table characters none
  | found {marker text : List Char} (known : (marker, text) ∈ table) (front : marker <+: characters)
      (longest : ∀ entry ∈ table, entry.1 <+: characters → entry.1.length ≤ marker.length) :
      Longest table characters (some (marker.length, text))

theorem longest_snoc (front : List (List Char × List Char)) (entry : List Char × List Char)
    (characters : List Char) :
    longest? (front ++ [entry]) characters =
      if entry.1.isPrefixOf characters &&
          (longest? front characters).all (fun found => found.1 < entry.1.length) then
        some (entry.1.length, entry.2)
      else longest? front characters := by
  rw [longest?, List.foldl_append]
  rfl

theorem longest_of_table (table : List (List Char × List Char)) (characters : List Char) :
    Longest table characters (longest? table characters) := by
  induction table using List.reverseRecOn with
  | nil => exact .nothing (List.forall_mem_nil _)
  | append_singleton front entry ih =>
      rw [longest_snoc]
      have known : (entry.1, entry.2) ∈ front ++ [entry] :=
        List.mem_append_right _ List.mem_cons_self
      generalize longest? front characters = best at ih
      split
      · next better =>
          rw [Bool.and_eq_true, List.isPrefixOf_iff_prefix] at better
          refine .found known better.1 ?_
          rw [List.forall_mem_append, List.forall_mem_singleton]
          refine ⟨?_, fun _ => Nat.le_refl _⟩
          intro other member fits
          cases ih with
          | nothing free => exact absurd fits (free other member)
          | found _ _ longest =>
              have shorter := longest other member fits
              have longer := better.2
              rw [Option.all_some, decide_eq_true_eq] at longer
              exact Nat.le_of_lt (Nat.lt_of_le_of_lt shorter longer)
      · next worse =>
          rw [Bool.and_eq_true, List.isPrefixOf_iff_prefix, not_and] at worse
          cases ih with
          | nothing free =>
              refine .nothing ?_
              rw [List.forall_mem_append, List.forall_mem_singleton]
              exact ⟨free, fun fits => worse fits rfl⟩
          | found inFront front longest =>
              refine .found (List.mem_append_left _ inFront) front ?_
              rw [List.forall_mem_append, List.forall_mem_singleton]
              refine ⟨longest, fun fits => ?_⟩
              have notLonger := worse fits
              rw [Option.all_some, decide_eq_true_eq] at notLonger
              exact Nat.not_lt.mp notLonger

theorem replace_from_no_markers (characters : List Char) :
    replaceFrom [] 0 characters = characters := by
  induction characters with
  | nil => rfl
  | cons character rest ih => exact congrArg (character :: ·) ih

theorem replace_from_skip (table : List (List Char × List Char)) (skip : Nat)
    (characters : List Char) :
    replaceFrom table skip characters = replaceFrom table 0 (characters.drop skip) := by
  induction characters generalizing skip with
  | nil => cases skip <;> rfl
  | cons character rest ih =>
      cases skip with
      | zero => rfl
      | succ skip => exact ih skip

theorem replace_from_gap {character : Char} (free : longest? table (character :: rest) = none) :
    replaceFrom table 0 (character :: rest) = character :: replaceFrom table 0 rest := by
  rw [replaceFrom, free]

theorem replace_from_marker (nonempty : marker ≠ [])
    (found : longest? table (marker ++ rest) = some (marker.length, text)) :
    replaceFrom table 0 (marker ++ rest) = text ++ replaceFrom table 0 rest := by
  cases marker with
  | nil => exact absurd rfl nonempty
  | cons first following =>
      rw [List.cons_append] at found ⊢
      rw [replaceFrom, found]
      simp only [List.length_cons, Nat.add_sub_cancel]
      rw [replace_from_skip, List.drop_left]

end Tables

section Factors

variable {markers : Markers} {name : String} {characters gap rest last : List Char}
  {factors : List (List Char × String)}

/-- No marker of the table starts at the front of the characters. -/
def Free (markers : Markers) (characters : List Char) : Prop :=
  ∀ name ∈ markers.entries.names, ¬ (markers.wrap name).toList <+: characters

/-- The marker of the name starts at the front of the characters, and none that does is longer. -/
structure Leads (markers : Markers) (name : String) (characters : List Char) : Prop where
  known : name ∈ markers.entries.names
  front : (markers.wrap name).toList <+: characters
  longest : ∀ other ∈ markers.entries.names, (markers.wrap other).toList <+: characters →
    (markers.wrap other).toList.length ≤ (markers.wrap name).toList.length

/-- Characters as gaps, each with the name of the marker behind it, and a last gap. No marker starts
at any place inside a gap, also none that would reach beyond it, and the marker behind a gap is the
longest that starts there. -/
inductive Factors (markers : Markers) :
    List Char → List (List Char × String) → List Char → Prop where
  | last {gap : List Char}
      (free : ∀ before after, gap = before ++ after → after ≠ [] → markers.Free after) :
      Factors markers gap [] gap
  | marker {gap rest last : List Char} {name : String} {factors : List (List Char × String)}
      (free : ∀ before after, gap = before ++ after → after ≠ [] →
        markers.Free (after ++ ((markers.wrap name).toList ++ rest)))
      (leads : markers.Leads name ((markers.wrap name).toList ++ rest))
      (further : Factors markers rest factors last) :
      Factors markers (gap ++ ((markers.wrap name).toList ++ rest)) ((gap, name) :: factors) last

/-- The gaps as they are, and for each marker the text that its name has. -/
def fill (markers : Markers) (factors : List (List Char × String)) (last : List Char) : List Char :=
  factors.flatMap (fun (gap, name) =>
    gap ++ ((markers.entries.get? name).getD "").toList) ++ last

theorem fill_cons : markers.fill ((gap, name) :: factors) last =
    gap ++ ((markers.entries.get? name).getD "").toList ++ markers.fill factors last := by
  rw [fill, fill, List.flatMap_cons, List.append_assoc]

/-- Each name of the table is more than the empty text. -/
def Named (markers : Markers) : Prop :=
  ∀ name ∈ markers.entries.names, name.isEmpty = false

theorem wrap_not_empty (notEmpty : name.isEmpty = false) : (markers.wrap name).toList ≠ [] := by
  intro empty
  have parts : markers.wrap name = "" := String.toList_eq_nil_iff.mp empty
  rw [wrap, String.append_eq_empty_iff, String.append_eq_empty_iff] at parts
  rw [parts.1.2] at notEmpty
  cases notEmpty

theorem wrap_injective {other : String}
    (same : (markers.wrap name).toList = (markers.wrap other).toList) : name = other := by
  simp only [wrap, String.toList_append] at same
  exact String.toList_inj.mp (List.append_cancel_left (List.append_cancel_right same))

theorem free_iff (markers : Markers) (characters : List Char) :
    markers.Free characters ↔ ∀ entry ∈ markers.compile.table, ¬ entry.1 <+: characters := by
  constructor
  · intro free entry member
    obtain ⟨⟨name, text⟩, inEntries, rfl⟩ := List.mem_map.mp member
    exact free name (List.mem_map_of_mem inEntries)
  · intro free name member
    obtain ⟨entry, inEntries, rfl⟩ := List.mem_map.mp member
    exact free _ (List.mem_map_of_mem inEntries)

/-- Either no marker starts at the front or the longest one that does was found, with its text. -/
theorem free_or_leads (markers : Markers) (characters : List Char) :
    markers.Free characters ∧ longest? markers.compile.table characters = none ∨
      ∃ name, markers.Leads name characters ∧
        longest? markers.compile.table characters =
          some ((markers.wrap name).toList.length,
            ((markers.entries.get? name).getD "").toList) := by
  have longest := longest_of_table markers.compile.table characters
  generalize longest? markers.compile.table characters = best at longest
  cases longest with
  | nothing free => exact Or.inl ⟨(free_iff markers characters).mpr free, rfl⟩
  | found known front longest =>
      obtain ⟨⟨name, text⟩, inEntries, same⟩ := List.mem_map.mp known
      obtain ⟨rfl, rfl⟩ := Prod.mk.inj same
      refine Or.inr ⟨name, ⟨List.mem_map_of_mem inEntries, front, ?_⟩, ?_⟩
      · intro other inNames fits
        obtain ⟨entry, inEntries, rfl⟩ := List.mem_map.mp inNames
        exact longest _ (List.mem_map_of_mem inEntries) fits
      · rw [NameMap.get_of_mem inEntries, Option.getD_some]

/-- A character at which no marker starts belongs to the first gap. -/
theorem factors_of_gap {character : Char} (free : markers.Free (character :: characters))
    (cut : markers.Factors characters factors last) :
    ∃ others further, markers.Factors (character :: characters) others further ∧
      markers.fill others further = character :: markers.fill factors last := by
  have longer {gap rest : List Char} (freeHere : markers.Free (character :: gap ++ rest))
      (freeGap : ∀ before after, gap = before ++ after → after ≠ [] →
        markers.Free (after ++ rest)) :
      ∀ before after, character :: gap = before ++ after → after ≠ [] →
        markers.Free (after ++ rest) := by
    intro before after whole notEmpty
    cases before with
    | nil =>
        rw [List.nil_append] at whole
        rwa [← whole]
    | cons first before => exact freeGap before after (List.cons.inj whole).2 notEmpty
  cases cut with
  | last freeGap =>
      refine ⟨[], character :: characters, .last ?_, rfl⟩
      have freeLonger := @longer characters [] (by rwa [List.append_nil])
      simp only [List.append_nil] at freeLonger
      exact freeLonger freeGap
  | @marker gap rest _ name factors freeGap leads further =>
      exact ⟨(character :: gap, name) :: factors, last,
        .marker (longer free freeGap) leads further, rfl⟩

/-- Replacing fills the factors of its characters. -/
theorem replace_fills_factors (named : markers.Named) (characters : List Char) :
    ∃ factors last, markers.Factors characters factors last ∧
      replaceFrom markers.compile.table 0 characters = markers.fill factors last := by
  rcases free_or_leads markers characters with ⟨free, found⟩ | ⟨name, leads, found⟩
  · cases characters with
    | nil => exact ⟨[], [], .last (by simp), rfl⟩
    | cons character rest =>
        obtain ⟨factors, last, cut, filled⟩ := replace_fills_factors named rest
        obtain ⟨others, further, longer, filledLonger⟩ := factors_of_gap free cut
        refine ⟨others, further, longer, ?_⟩
        rw [replace_from_gap found, filled, filledLonger]
  · have notEmpty : (markers.wrap name).toList ≠ [] := wrap_not_empty (named name leads.known)
    obtain ⟨rest, whole⟩ := leads.front
    have shorter : rest.length < characters.length := by
      rw [← whole, List.length_append]
      exact Nat.lt_add_of_pos_left (List.length_pos_iff.mpr notEmpty)
    obtain ⟨factors, last, cut, filled⟩ := replace_fills_factors named rest
    rw [← whole] at leads found ⊢
    have noGap : ∀ before after, [] = before ++ after → after ≠ [] →
        markers.Free (after ++ ((markers.wrap name).toList ++ rest)) :=
      fun before after none some => absurd (List.append_eq_nil_iff.mp none.symm).2 some
    refine ⟨([], name) :: factors, last, .marker noGap leads cut, ?_⟩
    rw [replace_from_marker notEmpty found, filled, fill_cons]
    rfl
termination_by characters.length
decreasing_by
  · simp
  · exact shorter

/-- A gap cannot go on where a marker starts. -/
theorem gap_within {gap other tail : List Char} (leads : markers.Leads name rest)
    (free : ∀ before after, other = before ++ after → after ≠ [] → markers.Free (after ++ tail))
    (same : gap ++ rest = other ++ tail) : other <+: gap := by
  rcases List.append_eq_append_iff.mp same with ⟨beyond, longer, tails⟩ | ⟨beyond, longer, _⟩
  · cases beyond with
    | nil => exact ⟨[], by rw [longer, List.append_nil, List.append_nil]⟩
    | cons first further =>
        have freeHere := free gap (first :: further) longer (List.cons_ne_nil _ _)
        rw [← tails] at freeHere
        exact absurd leads.front (freeHere name leads.known)
  · exact ⟨beyond, longer.symm⟩

/-- At most one marker is the longest. -/
theorem leads_unique {other : String} {tail : List Char}
    (leads : markers.Leads name ((markers.wrap name).toList ++ rest))
    (leadsOther : markers.Leads other ((markers.wrap other).toList ++ tail))
    (same : (markers.wrap name).toList ++ rest = (markers.wrap other).toList ++ tail) :
    name = other ∧ rest = tail := by
  have lengths : (markers.wrap name).toList.length = (markers.wrap other).toList.length := by
    apply Nat.le_antisymm
    · exact leadsOther.longest name leads.known (same ▸ leads.front)
    · exact leads.longest other leadsOther.known (same ▸ leadsOther.front)
  obtain ⟨marks, tails⟩ := List.append_inj same lengths
  exact ⟨wrap_injective marks, tails⟩

theorem factors_unique (named : markers.Named) (cut : markers.Factors characters factors last)
    {others : List (List Char × String)} {further : List Char}
    (other : markers.Factors characters others further) : others = factors ∧ further = last := by
  have starts {name : String} {rest : List Char}
      (leads : markers.Leads name ((markers.wrap name).toList ++ rest)) :
      (markers.wrap name).toList ++ rest ≠ [] := by
    intro none
    exact wrap_not_empty (named name leads.known) (List.append_eq_nil_iff.mp none).1
  induction cut generalizing others further with
  | last free =>
      cases other with
      | last => exact ⟨rfl, rfl⟩
      | @marker gap rest _ name _ _ leads _ =>
          exact absurd leads.front (free gap _ rfl (starts leads) name leads.known)
  | @marker gap rest _ name _ free leads _ ih =>
      generalize whole : gap ++ ((markers.wrap name).toList ++ rest) = characters at other
      cases other with
      | last freeOther =>
          exact absurd leads.front (freeOther gap _ whole.symm (starts leads) name leads.known)
      | @marker _ _ _ _ _ freeOther leadsOther furtherOther =>
          obtain rfl := (gap_within leadsOther free whole.symm).eq_of_length_le
            (gap_within leads freeOther whole).length_le
          obtain ⟨rfl, rfl⟩ := leads_unique leads leadsOther (List.append_cancel_left whole)
          obtain ⟨rfl, rfl⟩ := ih furtherOther
          exact ⟨rfl, rfl⟩

/-- A line falls into the same factors with the same markers, whatever their texts are. -/
theorem factors_of_same_names {other : Markers} (names : other.entries.names = markers.entries.names)
    (wrapped : other.wrap = markers.wrap) (cut : markers.Factors characters factors last) :
    other.Factors characters factors last := by
  have free (characters : List Char) : other.Free characters ↔ markers.Free characters := by
    simp only [Free, names, wrapped]
  induction cut with
  | last freeGap =>
      exact .last fun before after whole notEmpty => (free _).mpr (freeGap before after whole notEmpty)
  | @marker gap rest _ name _ freeGap leads _ ih =>
      have leadsOther : other.Leads name ((other.wrap name).toList ++ rest) := by
        refine ⟨names ▸ leads.known, by rw [wrapped]; exact leads.front, ?_⟩
        simpa only [names, wrapped] using leads.longest
      rw [← wrapped] at freeGap ⊢
      exact .marker (fun before after whole notEmpty =>
        (free _).mpr (freeGap before after whole notEmpty)) leadsOther ih

/-- Without entries the whole line is one gap. -/
theorem factors_of_no_entries (none : markers.entries.entries = []) (characters : List Char) :
    markers.Factors characters [] characters := by
  refine .last fun before after _ _ name member => ?_
  rw [NameMap.names, none] at member
  cases member

end Factors

section Operations

inductive Operation where
  | bind (name : String) (value : Value)
  | search (line : String)

variable {markers : Markers}

/-- What an operation leaves of the table. -/
def perform (markers : Markers) : Operation → Markers
  | .bind name value => markers.bind name value
  | .search _ => markers.searched

def after (markers : Markers) (operations : List Operation) : Markers :=
  operations.foldl perform markers

/-- The text that an operation gives to a name. -/
def Operation.text? (name : String) : Operation → Option String
  | .bind other value => if other = name then some value.render else none
  | .search _ => none

theorem named_bind (named : markers.Named) (name : String) (value : Value) :
    (markers.bind name value).Named := by
  unfold bind
  split
  · next binds =>
      rw [Bool.and_eq_true, Bool.not_eq_true'] at binds
      intro known member
      obtain ⟨entry, inEntries, rfl⟩ := List.mem_map.mp member
      rcases NameMap.mem_insert_entry inEntries with same | older
      · rw [same]
        exact binds.2
      · exact named _ (List.mem_map_of_mem older)
  · exact named

theorem named_searched (named : markers.Named) : markers.searched.Named := by
  unfold searched
  split <;> exact named

theorem enabled_bind (markers : Markers) (name : String) (value : Value) :
    (markers.bind name value).enabled = markers.enabled := by
  unfold bind
  split <;> rfl

theorem enabled_searched (markers : Markers) : markers.searched.enabled = markers.enabled := by
  unfold searched
  split <;> rfl

/-- A table that replaces markers, with a matcher that is up to date and no empty name. -/
structure InUse (markers : Markers) : Prop where
  enabled : markers.enabled = true
  coherent : markers.Coherent
  named : markers.Named

theorem in_use_perform (inUse : markers.InUse) (operation : Operation) :
    (markers.perform operation).InUse := by
  cases operation with
  | bind name value =>
      exact ⟨(enabled_bind markers name value).trans inUse.enabled,
        coherent_bind inUse.coherent name value, named_bind inUse.named name value⟩
  | search line =>
      exact ⟨(enabled_searched markers).trans inUse.enabled, coherent_searched inUse.coherent,
        named_searched inUse.named⟩

theorem delimited_perform {opening closing : String} (delimited : markers.Delimited opening closing)
    (operation : Operation) : (markers.perform operation).Delimited opening closing := by
  cases operation with
  | bind name value => exact delimited_bind delimited name value
  | search line => exact delimited_searched delimited

theorem get_perform (enabled : markers.enabled = true) (operation : Operation) {name : String}
    (notEmpty : name.isEmpty = false) :
    (markers.perform operation).entries.get? name =
      (operation.text? name).or (markers.entries.get? name) := by
  cases operation with
  | bind other value =>
      simp only [perform, bind, enabled, Bool.true_and, Operation.text?]
      by_cases same : other = name
      · subst same
        simp [notEmpty, NameMap.get_insert]
      · cases other.isEmpty <;> simp [same, NameMap.get_insert]
  | search line =>
      simp only [perform, searched, Operation.text?, Option.none_or]
      split <;> rfl

theorem in_use_after (inUse : markers.InUse) (operations : List Operation) :
    (markers.after operations).InUse := by
  induction operations generalizing markers with
  | nil => exact inUse
  | cons operation rest ih => exact ih (in_use_perform inUse operation)

theorem delimited_after {opening closing : String} (delimited : markers.Delimited opening closing)
    (operations : List Operation) : (markers.after operations).Delimited opening closing := by
  induction operations generalizing markers with
  | nil => exact delimited
  | cons operation rest ih => exact ih (delimited_perform delimited operation)

/-- A name has the text that was given to it last. -/
theorem get_after (inUse : markers.InUse) (operations : List Operation) {name : String}
    (notEmpty : name.isEmpty = false) :
    (markers.after operations).entries.get? name =
      ((operations.filterMap (Operation.text? name)).getLast?).or (markers.entries.get? name) := by
  induction operations generalizing markers with
  | nil => rfl
  | cons operation rest ih =>
      have further := ih (in_use_perform inUse operation)
      rw [get_perform inUse.enabled operation notEmpty] at further
      refine further.trans ?_
      cases given : operation.text? name with
      | none => rw [List.filterMap_cons_none given, Option.none_or]
      | some text =>
          rw [List.filterMap_cons_some given, List.getLast?_cons]
          cases (rest.filterMap (Operation.text? name)).getLast? <;> rfl

/-- Replacing goes by the entries as they are. -/
theorem apply_of_in_use (inUse : markers.InUse) (line : String) :
    (markers.apply line).toList = replaceFrom markers.compile.table 0 line.toList := by
  rw [apply, matcher_of_coherent inUse.coherent, inUse.enabled, Bool.true_and]
  split
  · exact String.toList_ofList
  · next empty =>
      have none : markers.entries.entries = [] := by simpa [NameMap.isEmpty] using empty
      rw [compile, none, List.map_nil, replace_from_no_markers]

/-- After any bindings and searches, a line falls into gaps and markers in exactly one way: at each
place the longest marker of a name in the table, and none that starts inside a gap. Replacing leaves
the gaps as they are and puts in, for each marker, the text that was given to its name last. -/
theorem replaces_longest_markers {start : Markers} (enabled : start.enabled = true)
    (fresh : start.compiled = none) (named : start.Named) (operations : List Operation)
    (line : String) :
    let table := start.after operations
    (∀ name, table.wrap name = start.opening ++ name ++ start.closing) ∧
    (∀ name, name.isEmpty = false → table.entries.get? name =
      ((operations.filterMap (Operation.text? name)).getLast?).or (start.entries.get? name)) ∧
    ∃ factors last,
      table.Factors line.toList factors last ∧
      (table.apply line).toList =
        factors.flatMap (fun (gap, name) =>
          gap ++ ((table.entries.get? name).getD "").toList) ++ last ∧
      ∀ others further, table.Factors line.toList others further →
        others = factors ∧ further = last := by
  intro table
  have atFirst : start.InUse := ⟨enabled, coherent_of_unsearched fresh, named⟩
  have inUse : table.InUse := in_use_after atFirst operations
  have delimited : table.Delimited start.opening start.closing :=
    delimited_after ⟨rfl, rfl⟩ operations
  refine ⟨?_, fun name notEmpty => get_after atFirst operations notEmpty, ?_⟩
  · intro name
    rw [wrap, delimited.opening, delimited.closing]
  · obtain ⟨factors, last, cut, filled⟩ := replace_fills_factors inUse.named line.toList
    exact ⟨factors, last, cut, (apply_of_in_use inUse line).trans filled,
      fun others further other => factors_unique inUse.named cut other⟩

/-- Two markers of which one begins the other, and a text that looks like a marker: the longer one
is replaced where it stands, the text is not searched again, and a marker that is not in the table
stays. -/
theorem replaces_longest_markers_nested :
    let start : Markers :=
      { enabled := true, opening := "$", closing := "", entries := NameMap.empty }
    let operations : List Operation :=
      [.bind "a" (.text "$ab"), .bind "ab" (.integer 1), .search "$ab", .bind "ab" (.text "x")]
    let table := start.after operations
    start.Named ∧ table.apply "$ab$a$b" = "x$ab$b" ∧
      table.entries.get? "ab" = some "x" ∧
      ∃ factors last, table.Factors "$ab$a$b".toList factors last ∧
        "x$ab$b".toList =
          factors.flatMap (fun (gap, name) =>
            gap ++ ((table.entries.get? name).getD "").toList) ++ last := by
  intro start operations table
  have named : start.Named := List.forall_mem_nil _
  have replaced : table.apply "$ab$a$b" = "x$ab$b" := by decide
  obtain ⟨_, texts, factors, last, cut, filled, _⟩ :=
    replaces_longest_markers rfl rfl named operations "$ab$a$b"
  exact ⟨named, replaced, texts "ab" (by decide), factors, last, cut, replaced ▸ filled⟩

end Operations

end LineTemplate.Markers

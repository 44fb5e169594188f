import LineTemplate.Definitions
import LineTemplate.Proofs.NameMap
import LineTemplate.Proofs.Text.Lines
import LineTemplate.Proofs.Value.Writing

/-!
Texts of definitions. Such a text is read line by line: what a line defines or what is wrong with it
does not depend on the lines around it. So a text below another goes over it, and a map that is
written one entry a line is read back whole.
-/

namespace LineTemplate

/-- The same fault, that many lines further down. -/
def DefinitionFault.moved (count : Nat) (fault : DefinitionFault) : DefinitionFault :=
  { fault with line := fault.line + count }

namespace Definitions

section Below

/-- The whole has what a lower text defines over what an upper one does, and reports the faults of the
lower one that many lines further down, behind those of the upper one. -/
structure Below (upper : Definitions) (count : Nat) (lower whole : Definitions) : Prop where
  bindings : ∀ name, whole.bindings.get? name =
    (lower.bindings.get? name).or (upper.bindings.get? name)
  faults : whole.faults = upper.faults ++ lower.faults.map (DefinitionFault.moved count)

variable {upper lower whole : Definitions} {count : Nat}

theorem below_empty (upper : Definitions) (count : Nat) : Below upper count empty upper where
  bindings _ := rfl
  faults := (List.append_nil _).symm

theorem below_add_line (below : Below upper count lower whole) (number : Nat) (line : String) :
    Below upper count (lower.addLine number line) (whole.addLine (number + count) line) := by
  simp only [addLine]
  split
  · exact below
  · split
    · next name value _ =>
        refine ⟨fun other => ?_, below.faults⟩
        simp only [NameMap.get_insert]
        split
        · rfl
        · exact below.bindings other
    · next error _ =>
        refine ⟨below.bindings, ?_⟩
        simp only [below.faults, List.map_append, List.append_assoc]
        rfl

/-- The induction is over the lines of the lower text. -/
theorem below_add_lines (lines : List String) (number : Nat) (below : Below upper count lower whole) :
    Below upper count (lower.addLines number lines) (whole.addLines (number + count) lines) := by
  induction lines generalizing number lower whole with
  | nil => exact below
  | cons line rest ih =>
      simp only [addLines]
      rw [Nat.add_right_comm]
      exact ih (number + 1) (below_add_line below number line)

theorem add_lines_append (above below : List String) (definitions : Definitions) (number : Nat) :
    definitions.addLines number (above ++ below) =
      (definitions.addLines number above).addLines (number + above.length) below := by
  induction above generalizing definitions number with
  | nil => rfl
  | cons line rest ih =>
      rw [List.cons_append, addLines, addLines, ih, List.length_cons]
      congr 1
      omega

theorem below_of_text (above below : String) :
    Below (ofText above) (above.toList.count '\n' + 1) (ofText below)
      (ofText (above ++ "\n" ++ below)) := by
  have whole : ofText (above ++ "\n" ++ below) =
      (ofText above).addLines (1 + (above.toList.count '\n' + 1)) (Text.splitLines below) := by
    rw [ofText, Text.split_lines_append, add_lines_append, Text.length_split_lines]
    rfl
  rw [whole]
  exact below_add_lines (Text.splitLines below) 1 (below_empty _ _)

end Below

section Writing

/-- A line defines a text between double quotes, which has anything in it but a line feed. -/
def Encloses (quote : Char) (content : String) : Prop :=
  quote = Text.doubleQuote ∧ '\n' ∉ content.toList

instance (quote : Char) (content : String) : Decidable (Encloses quote content) :=
  inferInstanceAs (Decidable (_ ∧ _))

def entryLine (name : String) (word : List Char) : List Char :=
  name.toList ++ ' ' :: '=' :: ' ' :: word

/-- A value that a line can define: an integer, a truth, or a text in one line. -/
def IsDefinable : Value → Prop
  | .integer _ => True
  | .truth _ => True
  | .text content => '\n' ∉ content.toList
  | .real _ => False

/-- Lines that define the entries in their order, among blank lines and comments. -/
inductive Listing : List (String × Value) → List (List Char) → Prop where
  | done : Listing [] []
  | blank {entries : List (String × Value)} {line : List Char} {lines : List (List Char)}
      (blank : line.all Text.isBlank = true) (oneLine : '\n' ∉ line)
      (others : Listing entries lines) :
      Listing entries (line :: lines)
  | comment {entries : List (String × Value)} {mark : Char} {line : List Char}
      {lines : List (List Char)} (marks : mark = ';' ∨ mark = '#') (oneLine : '\n' ∉ line)
      (others : Listing entries lines) :
      Listing entries ((mark :: line) :: lines)
  | entry {name : String} {value : Value} {word : List Char} {entries : List (String × Value)}
      {lines : List (List Char)} (identifier : isIdentifier name = true)
      (writes : value.Writes Encloses word) (others : Listing entries lines) :
      Listing ((name, value) :: entries) (entryLine name word :: lines)

variable {name : String} {value : Value} {word : List Char}

theorem listing_of_definable {entries : List (String × Value)}
    (definable : ∀ entry ∈ entries, isIdentifier entry.1 = true ∧ IsDefinable entry.2) :
    ∃ lines, Listing entries lines := by
  induction entries with
  | nil => exact ⟨[], .done⟩
  | cons entry rest ih =>
      obtain ⟨⟨identifier, here⟩, others⟩ := List.forall_mem_cons.mp definable
      obtain ⟨lines, listing⟩ := ih others
      obtain ⟨name, value⟩ := entry
      cases value with
      | integer value => exact ⟨_, .entry identifier (.integer value) listing⟩
      | real value => exact absurd here id
      | text content =>
          have quotes : Text.isQuote Text.doubleQuote = true := rfl
          exact ⟨_, .entry identifier (.text quotes ⟨rfl, here⟩) listing⟩
      | truth value =>
          have spelled : (if value then "true" else "false").toList.map Char.toLower =
              (if value then "true" else "false").toList := by cases value <;> decide
          exact ⟨_, .entry identifier (.truth spelled) listing⟩

theorem absent_of_identifier {character : Char} (outside : Text.isIdentifierCharacter character = false)
    (identifier : isIdentifier name = true) : character ∉ name.toList := by
  intro member
  have inside := List.all_eq_true.mp (Text.characters_of_identifier identifier) character member
  rw [outside] at inside
  cases inside

theorem absent_of_writes (writes : value.Writes Encloses word) : '\n' ∉ word := by
  cases writes with
  | integer value =>
      intro member
      have code := Number.code_of_integer_text member
      revert code
      decide
  | @truth value word spelled =>
      have absent := @absent_of_identifier _ '\n' (by decide) (Value.identifier_of_truth_word spelled)
      rwa [String.toList_ofList] at absent
  | @text quote content _ enclosed =>
      obtain ⟨rfl, oneLine⟩ := enclosed
      simp [Text.doubleQuote, oneLine]

theorem absent_of_listing {entries : List (String × Value)} {lines : List (List Char)}
    (listing : Listing entries lines) : ∀ line ∈ lines, '\n' ∉ line := by
  induction listing with
  | done => exact fun _ member => absurd member List.not_mem_nil
  | blank _ oneLine _ ih => exact List.forall_mem_cons.mpr ⟨oneLine, ih⟩
  | @comment _ mark _ _ marks oneLine _ ih =>
      refine List.forall_mem_cons.mpr ⟨?_, ih⟩
      rcases marks with rfl | rfl <;> simp [oneLine]
  | entry identifier writes _ ih =>
      refine List.forall_mem_cons.mpr ⟨?_, ih⟩
      have inName := @absent_of_identifier _ '\n' (by decide) identifier
      have inWord := absent_of_writes writes
      simp [entryLine, inName, inWord]

theorem trim_entry_line (identifier : isIdentifier name = true) (writes : value.Writes Encloses word) :
    Text.trim (entryLine name word) = entryLine name word := by
  obtain ⟨first, rest, named, starts, _⟩ := (Text.is_identifier_iff name).mp identifier
  obtain ⟨head, tail, rfl, visible⟩ := Value.first_of_writes writes
  have wordKept : Text.trimEnd (head :: tail) = head :: tail := by
    have trimmed := Value.trim_of_writes writes
    rwa [Text.trim, Text.trim_start_of_not_blank _ _ visible] at trimmed
  have startKept : Text.trimStart (entryLine name (head :: tail)) = entryLine name (head :: tail) := by
    rw [entryLine, named]
    exact Text.trim_start_of_not_blank _ _
      (Text.not_blank_of_identifier_character (Text.identifier_character_of_starts starts))
  have grouped : entryLine name (head :: tail) = (name.toList ++ [' ', '=', ' ']) ++ head :: tail := by
    simp [entryLine]
  rw [Text.trim, startKept, grouped,
    Text.trim_end_append ⟨head, List.mem_cons_self, visible⟩, wordKept]

theorem split_entry_line (identifier : isIdentifier name = true)
    (writes : value.Writes Encloses word) :
    splitDefinition (entryLine name word) = (name.toList, word) := by
  have inside := List.all_eq_true.mp (Text.characters_of_identifier identifier)
  have visible : ∀ character ∈ name.toList, Text.isBlank character = false :=
    fun character member => Text.not_blank_of_identifier_character (inside character member)
  have absent : ∀ character ∈ name.toList ++ [' '], (character == '=') = false := by
    intro character member
    rw [beq_eq_false_iff_ne]
    rintro rfl
    rcases List.mem_append.mp member with inName | space
    · exact absent_of_identifier (by decide) identifier inName
    · revert space
      decide
  have cut := Text.split_once_of_absent absent (beq_self_eq_true '=') (' ' :: word)
  have grouped : entryLine name word = name.toList ++ [' '] ++ '=' :: (' ' :: word) := by
    simp [entryLine]
  have nameKept : Text.trim (name.toList ++ [' ']) = name.toList := by
    rw [Text.trim_append_blank _ (by decide), Text.trim_of_visible visible]
  rw [splitDefinition, grouped, cut]
  simp only [nameKept]
  exact congrArg _ (Value.trim_of_writes writes)

theorem read_entry_line (identifier : isIdentifier name = true)
    (writes : value.Writes Encloses word) :
    readDefinition (String.ofList (entryLine name word)) = .ok (name, value) := by
  have named : name.isEmpty = false := by
    obtain ⟨first, rest, shape, _⟩ := (Text.is_identifier_iff name).mp identifier
    rw [Bool.eq_false_iff]
    intro empty
    rw [String.isEmpty_iff.mp empty] at shape
    cases shape
  simp only [readDefinition, String.toList_ofList, trim_entry_line identifier writes,
    split_entry_line identifier writes, String.ofList_toList, named, identifier,
    Value.infer_of_writes writes]
  rfl

end Writing

section Reading

variable {entries : List (String × Value)} {lines : List (List Char)}

theorem add_line_without_final_return (definitions : Definitions) (number : Nat) (line : List Char) :
    definitions.addLine number (String.ofList (Text.withoutFinalReturn line)) =
      definitions.addLine number (String.ofList line) := by
  simp only [addLine, String.toList_ofList, Text.trim_without_final_return]

theorem add_blank_line {line : List Char} (blank : line.all Text.isBlank = true)
    (definitions : Definitions) (number : Nat) :
    definitions.addLine number (String.ofList line) = definitions := by
  simp only [addLine, String.toList_ofList, Text.trim_of_blank (List.all_eq_true.mp blank)]
  rfl

theorem add_comment_line {mark : Char} (marks : mark = ';' ∨ mark = '#') (line : List Char)
    (definitions : Definitions) (number : Nat) :
    definitions.addLine number (String.ofList (mark :: line)) = definitions := by
  have visible : Text.isBlank mark = false := by rcases marks with rfl | rfl <;> decide
  have comment (kept : List Char) : isComment (mark :: kept) = true := by
    rcases marks with rfl | rfl <;> rfl
  obtain ⟨kept, trimmed⟩ := Text.trim_of_first_visible visible line
  simp [addLine, trimmed, comment]

theorem add_entry_line {name : String} {value : Value} {word : List Char}
    (identifier : isIdentifier name = true) (writes : value.Writes Encloses word)
    (definitions : Definitions) (number : Nat) :
    definitions.addLine number (String.ofList (entryLine name word)) =
      { definitions with bindings := definitions.bindings.insert name value } := by
  obtain ⟨first, rest, shape, starts, _⟩ := (Text.is_identifier_iff name).mp identifier
  have letter := Text.starts_identifier_iff.mp starts
  have noComment : isComment (entryLine name word) = false := by
    rw [entryLine, shape, List.cons_append, isComment, List.head?_cons, Option.any_some,
      Bool.or_eq_false_iff, beq_eq_false_iff_ne, beq_eq_false_iff_ne]
    constructor <;> (rintro rfl; revert letter; decide)
  have some : (entryLine name word).isEmpty = false := by rw [entryLine, shape]; rfl
  simp only [addLine, String.toList_ofList, trim_entry_line identifier writes, some, noComment,
    read_entry_line identifier writes]
  rfl

/-- The induction is over the listing: each entry is one more insertion, and nothing else counts. -/
theorem add_lines_of_listing (listing : Listing entries lines) (definitions : Definitions)
    (number : Nat) :
    definitions.addLines number (lines.map fun line => String.ofList (Text.withoutFinalReturn line)) =
      { definitions with bindings := definitions.bindings.insertAll entries } := by
  induction listing generalizing definitions number with
  | done => rfl
  | blank blank _ _ ih =>
      rw [List.map_cons, addLines, add_line_without_final_return, add_blank_line blank, ih]
  | comment marks _ _ ih =>
      rw [List.map_cons, addLines, add_line_without_final_return, add_comment_line marks, ih]
  | entry identifier writes _ ih =>
      rw [List.map_cons, addLines, add_line_without_final_return,
        add_entry_line identifier writes, ih]
      rfl

theorem of_text_of_listing (listing : Listing entries lines) :
    ofText (String.ofList (List.intercalate ['\n'] lines)) =
      { bindings := NameMap.empty.insertAll entries, faults := [] } := by
  cases lines with
  | nil => cases listing; rfl
  | cons line others =>
      rw [ofText, Text.split_lines_intercalate (List.cons_ne_nil _ _) (absent_of_listing listing),
        add_lines_of_listing listing]
      rfl

end Reading

/-- A map is read back from lines that define its entries, in whatever order and among whatever blank
lines and comments, and a text below another goes over it. -/
theorem definitions_are_read_line_by_line :
    (∀ (bindings : Variables) (entries : List (String × Value)) (lines : List (List Char)),
      entries.Perm bindings.entries → Listing entries lines →
        ofText (String.ofList (List.intercalate ['\n'] lines)) = { bindings, faults := [] }) ∧
    ∀ above below : String,
      (∀ name, (ofText (above ++ "\n" ++ below)).bindings.get? name =
        ((ofText below).bindings.get? name).or ((ofText above).bindings.get? name)) ∧
      (ofText (above ++ "\n" ++ below)).faults = (ofText above).faults ++
        (ofText below).faults.map (DefinitionFault.moved (above.toList.count '\n' + 1)) := by
  constructor
  · intro bindings entries lines permuted listing
    rw [of_text_of_listing listing, NameMap.insert_all_of_perm permuted]
  · intro above below
    exact ⟨(below_of_text above below).bindings, (below_of_text above below).faults⟩

/-- Out of order, among comments and a blank line, with texts that have equals signs, quotes, comment
marks and numbers in them. -/
theorem definitions_are_read_line_by_line_mixed :
    let bindings : Variables := NameMap.ofList
      [("count", .text "42"), ("depth", .integer (-3)), ("on", .truth true), ("sum", .text "1 = # \"")]
    let entries := [("sum", .text "1 = # \""), ("depth", .integer (-3)), ("on", .truth true),
      ("count", .text "42")]
    let lines := ["; first", "sum = \"1 = # \"\"", " \t", "depth = -3", "#", "on = true",
      "count = \"42\""].map String.toList
    entries.Perm bindings.entries ∧ Listing entries lines ∧
      ofText (String.ofList (List.intercalate ['\n'] lines)) = { bindings, faults := [] } := by
  intro bindings entries lines
  have permuted : entries.Perm bindings.entries := by decide
  have listing : Listing entries lines :=
    .comment (Or.inl rfl) (by decide)
      (.entry (by decide) (.text (by decide) (by decide))
        (.blank (by decide) (by decide)
          (.entry (by decide) (.integer (-3))
            (.comment (Or.inr rfl) (by decide)
              (.entry (by decide) (.truth (by decide))
                (.entry (by decide) (.text (by decide) (by decide)) .done))))))
  exact ⟨permuted, listing,
    definitions_are_read_line_by_line.1 bindings entries lines permuted listing⟩

end Definitions

end LineTemplate

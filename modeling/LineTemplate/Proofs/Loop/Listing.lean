import LineTemplate.Line.Words
import LineTemplate.Loop.Clause
import LineTemplate.Proofs.Line.Words
import LineTemplate.Proofs.Loop.Words
import LineTemplate.Proofs.Value.Writing

/-!
Loops over listed values. A line that lists integers, truths and texts is read as exactly these
values in their order. Blanks and commas do nothing but keep the values apart, and inside quotes they
are part of the text, as are words and digits, so that no text is taken for anything else.
-/

namespace LineTemplate.Loop

open Line (isSeparator not_bare_of_separator)

/-- A quote may enclose a text that has no such quote in it. -/
def Encloses (quote : Char) (content : String) : Prop :=
  quote ∉ content.toList

instance (quote : Char) (content : String) : Decidable (Encloses quote content) :=
  inferInstanceAs (Decidable (¬ _))

/-- Values as they are listed, with blanks and commas in front of each and perhaps at the end. -/
inductive Lists : List Value → List Char → Prop where
  | done {gap : List Char} (separates : gap.all isSeparator = true) : Lists [] gap
  | item {value : Value} {values : List Value} {gap word rest : List Char} (apart : gap ≠ [])
      (separates : gap.all isSeparator = true) (writes : value.Writes Encloses word)
      (others : Lists values rest) : Lists (value :: values) (gap ++ (word ++ rest))

/-- A loop line that lists values, with the word before the values in any case. -/
inductive ListingLine (name : String) (values : List Value) : List Char → Prop where
  | line {front back form list : List Char} (frontApart : front ≠ [])
      (frontBlank : front.all Text.isBlank = true) (backApart : back ≠ [])
      (backBlank : back.all Text.isBlank = true) (spelled : form.map Char.toLower = ['i', 'n'])
      (lists : Lists values list) :
      ListingLine name values
        ("#FOR".toList ++ (front ++ (name.toList ++ (back ++ (form ++ list)))))

section Lexemes

/-- What the characters are scanned as: the lexemes that are no bare commas, and no open quote. -/
def Shows (characters : List Char) (lexemes : List Line.Lexeme) : Prop :=
  ((Line.scanAll characters).map Line.Scan.lexeme).filter
      (fun lexeme => lexeme.quoted || lexeme.text != ",") = lexemes ∧
    ∀ scan ∈ Line.scanAll characters, scan.closed = true

variable {rest word : List Char} {lexemes : List Line.Lexeme}

theorem shows_separator {separator : Char} (separates : isSeparator separator = true)
    (shows : Shows rest lexemes) : Shows (separator :: rest) lexemes := by
  rw [isSeparator, Bool.or_eq_true, beq_iff_eq] at separates
  rcases separates with blank | rfl
  · rwa [Shows, Line.scan_all_of_blank blank]
  · rw [Shows, Line.scan_all_of_comma]
    exact ⟨shows.1, List.forall_mem_cons.mpr ⟨rfl, shows.2⟩⟩

theorem shows_gap {gap : List Char} (separates : gap.all isSeparator = true)
    (shows : Shows rest lexemes) : Shows (gap ++ rest) lexemes := by
  induction gap with
  | nil => exact shows
  | cons separator gap ih =>
      rw [List.all_cons, Bool.and_eq_true] at separates
      exact shows_separator separates.1 (ih separates.2)

theorem shows_nil : Shows [] [] := by
  rw [Shows, Line.scan_all_nil]
  exact ⟨rfl, nofun⟩

/-- The first character behind a word that a gap or nothing follows. -/
def Parts (rest : List Char) : Prop :=
  ∀ next ∈ rest.head?, isSeparator next = true

theorem bare_word_ne_comma (isWord : Line.BareWord word) : String.ofList word ≠ "," := by
  obtain ⟨bare, _⟩ := isWord
  intro same
  rw [← String.toList_inj, String.toList_ofList] at same
  subst same
  cases bare

theorem shows_bare_word (isWord : Line.BareWord word) (parts : Parts rest)
    (shows : Shows rest lexemes) :
    Shows (word ++ rest) (⟨String.ofList word, false⟩ :: lexemes) := by
  have ends : ∀ next ∈ rest.head?, Line.isBare next = false := fun next first =>
    not_bare_of_separator (parts next first)
  have kept : (String.ofList word != ",") = true := bne_iff_ne.mpr (bare_word_ne_comma isWord)
  rw [Shows, Line.scan_all_of_bare_word isWord ends]
  refine ⟨?_, List.forall_mem_cons.mpr ⟨rfl, shows.2⟩⟩
  rw [List.map_cons, List.filter_cons_of_pos (by rw [kept, Bool.or_true]), shows.1]

theorem shows_quoted {quote : Char} {content : String} (isQuote : Text.isQuote quote = true)
    (encloses : Encloses quote content) (shows : Shows rest lexemes) :
    Shows (quote :: (content.toList ++ [quote]) ++ rest) (⟨content, true⟩ :: lexemes) := by
  rw [List.cons_append, List.append_assoc, List.singleton_append, Shows,
    Line.scan_all_of_quoted isQuote encloses, String.ofList_toList]
  refine ⟨?_, List.forall_mem_cons.mpr ⟨rfl, shows.2⟩⟩
  rw [List.map_cons, List.filter_cons_of_pos rfl, shows.1]

end Lexemes

/-- The value that a listed lexeme stands for. -/
def listed (lexeme : Line.Lexeme) : Value :=
  if lexeme.quoted then .text lexeme.text else Value.infer lexeme.text

theorem listed_bare (text : String) : listed ⟨text, false⟩ = Value.infer text := by
  simp only [listed, Bool.false_eq_true, if_false]

theorem shows_value {value : Value} {word rest : List Char} {lexemes : List Line.Lexeme}
    (writes : value.Writes Encloses word) (parts : Parts rest) (shows : Shows rest lexemes) :
    ∃ lexeme, Shows (word ++ rest) (lexeme :: lexemes) ∧ listed lexeme = value := by
  cases writes with
  | integer value =>
      have shown := shows_bare_word (bare_word_of_integer value) parts shows
      rw [String.ofList_toList] at shown
      exact ⟨_, shown, (listed_bare _).trans (Value.infer_integer_text value)⟩
  | truth spelled =>
      have isWord := bare_word_of_identifier (Value.identifier_of_truth_word spelled)
      rw [String.toList_ofList] at isWord
      exact ⟨_, shows_bare_word isWord parts shows,
        (listed_bare _).trans (Value.infer_truth_word spelled)⟩
  | text isQuote encloses => exact ⟨_, shows_quoted isQuote encloses shows, rfl⟩

theorem parts_of_lists {values : List Value} {list : List Char} (lists : Lists values list) :
    Parts list := by
  intro next first
  cases lists with
  | done separates =>
      rw [List.all_eq_true] at separates
      exact separates next (List.mem_of_mem_head? first)
  | item apart separates =>
      rw [List.all_eq_true] at separates
      obtain ⟨head, tail, rfl⟩ := List.exists_cons_of_ne_nil apart
      exact separates next (List.mem_of_mem_head? first)

/-- The lexemes of a list stand for its values, by induction on how it is written. -/
theorem shows_of_lists {values : List Value} {list : List Char} (lists : Lists values list) :
    ∃ lexemes, Shows list lexemes ∧ lexemes.map listed = values := by
  induction lists with
  | @done gap separates =>
      have shown := shows_gap separates shows_nil
      rw [List.append_nil] at shown
      exact ⟨[], shown, rfl⟩
  | item _ separates writes others ih =>
      obtain ⟨lexemes, shows, rfl⟩ := ih
      obtain ⟨lexeme, shown, rfl⟩ := shows_value writes (parts_of_lists others) shows
      exact ⟨lexeme :: lexemes, shows_gap separates shown, rfl⟩

section Lines

variable {name : String} {values : List Value} {line : List Char} {limit : Nat}

/-- A word behind which blanks stand is read alone, and the blanks with it. -/
theorem scan_all_of_word_and_blanks {word gap : List Char} (isWord : Line.BareWord word)
    (apart : gap ≠ []) (blank : gap.all Text.isBlank = true) (rest : List Char) :
    ∃ scan, Line.scanAll (word ++ (gap ++ rest)) = scan :: Line.scanAll rest ∧
      scan.lexeme = ⟨String.ofList word, false⟩ ∧ scan.closed = true := by
  have ends : ∀ next ∈ (gap ++ rest).head?, Line.isBare next = false := by
    obtain ⟨first, others, rfl⟩ := List.exists_cons_of_ne_nil apart
    rintro next ⟨rfl⟩
    rw [List.all_cons, Bool.and_eq_true] at blank
    exact not_bare_of_separator (by rw [isSeparator, blank.1]; rfl)
  have skipped : Line.scanAll (gap ++ rest) = Line.scanAll rest := by
    clear ends apart
    induction gap with
    | nil => rfl
    | cons first others ih =>
        rw [List.all_cons, Bool.and_eq_true] at blank
        rw [List.cons_append, Line.scan_all_of_blank blank.1, ih blank.2]
  have read := Line.scan_all_of_bare_word isWord ends
  rw [skipped] at read
  exact ⟨_, read, rfl, rfl⟩

theorem lexemes_of_listing_line (identifier : isIdentifier name = true)
    (written : ListingLine name values line) :
    ∃ form lexemes, Line.lexemes (String.ofList line) =
        ⟨"#FOR", false⟩ :: ⟨name, false⟩ :: form :: lexemes ∧
      form.isKeyword "IN" = true ∧
      (lexemes.filter fun lexeme => lexeme.quoted || lexeme.text != ",").map listed = values ∧
      Line.hasOpenQuote (String.ofList line) = false := by
  cases written with
  | @line front back form list frontApart frontBlank backApart backBlank spelled lists =>
      have opens : Line.BareWord "#FOR".toList := ⟨by decide, _, _, rfl, by decide⟩
      have formWord := bare_word_of_identifier
        (Text.identifier_of_to_lower (by decide) (by decide) spelled)
      rw [String.toList_ofList] at formWord
      have formEnds : ∀ next ∈ list.head?, Line.isBare next = false := fun next first =>
        not_bare_of_separator (parts_of_lists lists next first)
      obtain ⟨shown, ⟨read, closed⟩, rfl⟩ := shows_of_lists lists
      obtain ⟨first, firstRead, firstLexeme, firstClosed⟩ :=
        scan_all_of_word_and_blanks opens frontApart frontBlank (name.toList ++ (back ++ (form ++ list)))
      obtain ⟨second, secondRead, secondLexeme, secondClosed⟩ :=
        scan_all_of_word_and_blanks (bare_word_of_identifier identifier) backApart backBlank
          (form ++ list)
      have thirdRead := Line.scan_all_of_bare_word formWord formEnds
      rw [secondRead, thirdRead] at firstRead
      refine ⟨⟨String.ofList form, false⟩, (Line.scanAll list).map Line.Scan.lexeme, ?_, ?_, ?_, ?_⟩
      · rw [Line.lexemes, Line.scans, String.toList_ofList, firstRead]
        simp only [List.map_cons, firstLexeme, secondLexeme, String.ofList_toList]
      · simp only [Line.Lexeme.isKeyword, Text.equalIgnoringCase, String.toList_ofList, spelled]
        rfl
      · rw [read]
      · rw [Line.hasOpenQuote, Line.scans, String.toList_ofList, firstRead, List.any_eq_false]
        simp only [List.forall_mem_cons, firstClosed, secondClosed]
        exact ⟨by decide, by decide, by decide, fun scan member => by simp [closed scan member]⟩

theorem listed_values_of_filter {lexemes : List Line.Lexeme} (nonempty : values ≠ [])
    (read : (lexemes.filter fun lexeme => lexeme.quoted || lexeme.text != ",").map listed = values) :
    listedValues lexemes = .ok values.toArray := by
  have some : (lexemes.filter fun lexeme => lexeme.quoted || lexeme.text != ",").isEmpty = false := by
    rw [List.isEmpty_eq_false_iff]
    intro none
    rw [none] at read
    exact nonempty read.symm
  rw [listedValues]
  simp only [some, Bool.false_eq_true, if_false]
  rw [← read]
  rfl

/-- A line that lists values takes exactly these values, in their order. -/
theorem listed_values_are_read (identifier : isIdentifier name = true) (nonempty : values ≠ [])
    (few : values.length ≤ limit) (written : ListingLine name values line) :
    Clause.ofLine (String.ofList line) limit = .ok { name, values := values.toArray } := by
  obtain ⟨form, lexemes, read, isIn, listedRead, closed⟩ := lexemes_of_listing_line identifier written
  have valued : Clause.readValues (some form) lexemes limit = .ok values.toArray := by
    rw [Clause.readValues]
    simp only [isIn, if_true, listed_values_of_filter nonempty listedRead]
  have inside : ¬ limit < values.toArray.size := by
    rw [List.size_toArray]
    exact Nat.not_lt.mpr few
  rw [clause_of_lexemes read closed identifier, valued]
  change (if _ then _ else _) = _
  rw [if_neg inside]
  rfl

/-- A text with a comma and a quote, an integer behind it, a truth in mixed case, and texts that are a
digit and nothing at all. -/
theorem listed_values_are_read_mixed :
    let line := "#FOR x\tIn \x27a,\"b\x27 -5,,TrUe, \"5\" \"\" ,"
    let values : List Value := [.text "a,\"b", .integer (-5), .truth true, .text "5", .text ""]
    isIdentifier "x" = true ∧ values ≠ [] ∧ values.length ≤ 5 ∧
      ListingLine "x" values line.toList ∧
      Clause.ofLine line 5 = .ok { name := "x", values := values.toArray } := by
  intro line values
  have gap : Lists [] [' ', ','] := .done (by decide)
  have empty : Lists [.text ""] ([' '] ++ (['"', '"'] ++ [' ', ','])) :=
    .item (by decide) (by decide) (.text (by decide) (by decide)) gap
  have digit : Lists [.text "5", .text ""] ([',', ' '] ++ (['"', '5', '"'] ++ _)) :=
    .item (by decide) (by decide) (.text (by decide) (by decide)) empty
  have truth : Lists [.truth true, .text "5", .text ""] ([',', ','] ++ (['T', 'r', 'U', 'e'] ++ _)) :=
    .item (by decide) (by decide) (.truth (by decide)) digit
  have integer : Lists [.integer (-5), .truth true, .text "5", .text ""] ([' '] ++ (['-', '5'] ++ _)) :=
    .item (by decide) (by decide) (.integer (-5)) truth
  have lists : Lists values ([' '] ++ (['\x27', 'a', ',', '"', 'b', '\x27'] ++ _)) :=
    .item (by decide) (by decide) (.text (by decide) (by decide)) integer
  have asWritten := @ListingLine.line "x" values [' '] ['\t'] ['I', 'n'] _ (by decide) (by decide)
    (by decide) (by decide) (by decide) lists
  have written : ListingLine "x" values line.toList :=
    (congrArg (ListingLine "x" values) (by decide)).mp asWritten
  have identifier : isIdentifier "x" = true := by decide
  have nonempty : values ≠ [] := List.cons_ne_nil _ _
  have few : values.length ≤ 5 := by decide
  have read := listed_values_are_read identifier nonempty few written
  rw [String.ofList_toList] at read
  exact ⟨identifier, nonempty, few, written, read⟩

end Lines

end LineTemplate.Loop

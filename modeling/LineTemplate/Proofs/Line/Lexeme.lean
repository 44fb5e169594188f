import LineTemplate.Line.Lexeme
import LineTemplate.Proofs.Text.Ascii
import LineTemplate.Text.Split

/-!
Lines of bare words and quoted text. A word that starts with no quote and has neither blanks nor
delimiters in it is one lexeme wherever it ends, so words with a blank between them are read as these
words. Text between quotes is one lexeme wherever it stands.
-/

namespace LineTemplate.Line

/-- A word that is read as one bare lexeme. -/
structure BareWord (word : List Char) : Prop where
  bare : word.all isBare = true
  unquoted : ∃ first rest, word = first :: rest ∧ Text.isQuote first = false

variable {word rest : List Char}

theorem scan_of_bare_word (isWord : BareWord word)
    (ends : ∀ next ∈ rest.head?, isBare next = false) :
    scan? (word ++ rest) = some ⟨⟨String.ofList word, false⟩, rest, true⟩ := by
  obtain ⟨bare, first, body, rfl, unquoted⟩ := isWord
  rw [List.all_cons, Bool.and_eq_true] at bare
  obtain ⟨visible, plain⟩ : Text.isBlank first = false ∧ isDelimiter first = false := by
    simpa [isBare] using bare.1
  obtain ⟨taken, dropped⟩ := Text.take_while_append_of_head bare.2 ends
  rw [scan?, List.cons_append, Text.trim_start_of_not_blank _ _ visible]
  simp [scanFirst, unquoted, plain, taken, dropped]

theorem scan_all_of_scan {characters : List Char} {scan : Scan}
    (scanned : scan? characters = some scan) :
    scanAll characters = scan :: scanAll scan.rest := by
  rw [scanAll]
  split
  · next none =>
      rw [none] at scanned
      cases scanned
  · next found =>
      rw [scanned] at found
      cases found
      rfl

theorem scan_all_of_bare_word (isWord : BareWord word)
    (ends : ∀ next ∈ rest.head?, isBare next = false) :
    scanAll (word ++ rest) = ⟨⟨String.ofList word, false⟩, rest, true⟩ :: scanAll rest :=
  scan_all_of_scan (scan_of_bare_word isWord ends)

theorem scan_of_delimiter {character : Char} (delimits : isDelimiter character = true)
    (rest : List Char) :
    scan? (character :: rest) = some ⟨⟨character.toString, false⟩, rest, true⟩ := by
  have plain : [',', ':', '!', '?', '/', '\\', ';', '*'].all (fun other =>
      !Text.isBlank other && !Text.isQuote other) = true := by decide
  obtain ⟨visible, unquoted⟩ : Text.isBlank character = false ∧ Text.isQuote character = false := by
    simpa using List.all_eq_true.mp plain character (List.contains_iff_mem.mp delimits)
  rw [scan?, Text.trim_start_of_not_blank _ _ visible]
  simp [scanFirst, unquoted, delimits]

theorem scan_all_of_comma (rest : List Char) :
    scanAll (',' :: rest) = ⟨⟨",", false⟩, rest, true⟩ :: scanAll rest :=
  scan_all_of_scan (scan_of_delimiter (by decide) rest)

section Quoted

variable {quote : Char} {inner : List Char}

theorem not_blank_of_quote (isQuote : Text.isQuote quote = true) : Text.isBlank quote = false := by
  rcases Text.quote_cases isQuote with rfl | rfl <;> decide

theorem all_ne_of_absent (absent : quote ∉ inner) :
    inner.all (fun other => other != quote) = true := by
  rw [List.all_eq_true]
  intro other member
  rw [bne_iff_ne]
  rintro rfl
  exact absent member

/-- Text between quotes is one lexeme whatever it is, except that it has no such quote in it. -/
theorem scan_of_quoted (isQuote : Text.isQuote quote = true) (absent : quote ∉ inner)
    (rest : List Char) :
    scan? (quote :: (inner ++ quote :: rest)) =
      some ⟨⟨String.ofList inner, true⟩, rest, true⟩ := by
  obtain ⟨taken, dropped⟩ := @Text.take_while_append_of_head (fun other => other != quote) inner
    (quote :: rest) (all_ne_of_absent absent) (by rintro _ ⟨rfl⟩; simp)
  rw [scan?, Text.trim_start_of_not_blank _ _ (not_blank_of_quote isQuote)]
  simp only [scanFirst, isQuote, if_true, scanQuoted, taken, dropped]

theorem scan_of_open_quote (isQuote : Text.isQuote quote = true) (absent : quote ∉ inner) :
    scan? (quote :: inner) = some ⟨⟨String.ofList inner, true⟩, [], false⟩ := by
  obtain ⟨taken, dropped⟩ := @Text.take_while_append_of_head (fun other => other != quote) inner
    [] (all_ne_of_absent absent) (by rintro _ ⟨⟩)
  rw [List.append_nil] at taken dropped
  rw [scan?, Text.trim_start_of_not_blank _ _ (not_blank_of_quote isQuote)]
  simp only [scanFirst, isQuote, if_true, scanQuoted, taken, dropped]

theorem scan_all_of_quoted (isQuote : Text.isQuote quote = true) (absent : quote ∉ inner)
    (rest : List Char) :
    scanAll (quote :: (inner ++ quote :: rest)) =
      ⟨⟨String.ofList inner, true⟩, rest, true⟩ :: scanAll rest :=
  scan_all_of_scan (scan_of_quoted isQuote absent rest)

end Quoted

theorem scan_all_of_blank {blank : Char} (isBlank : Text.isBlank blank = true) (rest : List Char) :
    scanAll (blank :: rest) = scanAll rest := by
  have same : scan? (blank :: rest) = scan? rest := by
    rw [scan?, scan?, Text.trimStart, List.dropWhile_cons_of_pos isBlank]
    rfl
  rw [scanAll, scanAll]
  split <;> split <;> simp_all

theorem scan_all_nil : scanAll [] = [] := by
  rw [scanAll]
  rfl

/-- Words with a blank between each and the next are the lexemes of their line, and no quote is left
open. -/
theorem scan_all_of_bare_words (words : List (List Char))
    (areWords : ∀ word ∈ words, BareWord word) :
    (scanAll (List.intercalate [' '] words)).map Scan.lexeme =
        words.map (fun word => ⟨String.ofList word, false⟩) ∧
      ∀ scan ∈ scanAll (List.intercalate [' '] words), scan.closed = true := by
  induction words with
  | nil => simp [scan_all_nil]
  | cons word others ih =>
      obtain ⟨isWord, areOthers⟩ := List.forall_mem_cons.mp areWords
      obtain ⟨lexemes, closed⟩ := ih areOthers
      cases others with
      | nil =>
          have ends : ∀ first ∈ ([] : List Char).head?, isBare first = false := by simp
          have read := scan_all_of_bare_word isWord ends
          rw [List.append_nil, scan_all_nil] at read
          simp [read]
      | cons next further =>
          have ends : ∀ first ∈ (' ' :: List.intercalate [' '] (next :: further)).head?,
              isBare first = false := by
            rintro _ ⟨rfl⟩
            rfl
          have read := scan_all_of_bare_word isWord ends
          rw [scan_all_of_blank (by rfl)] at read
          rw [List.intercalate_cons_cons, List.append_assoc, List.singleton_append, read]
          exact ⟨by rw [List.map_cons, lexemes]; rfl, List.forall_mem_cons.mpr ⟨rfl, closed⟩⟩

variable {words : List String}

theorem scans_of_bare_words (areWords : ∀ word ∈ words, BareWord word.toList) :
    lexemes (String.intercalate " " words) = words.map (fun word => ⟨word, false⟩) ∧
      hasOpenQuote (String.intercalate " " words) = false := by
  have isList : (String.intercalate " " words).toList =
      List.intercalate [' '] (words.map String.toList) := String.toList_intercalate
  obtain ⟨read, closed⟩ := scan_all_of_bare_words (words.map String.toList)
    (by simpa using areWords)
  rw [lexemes, hasOpenQuote, scans, isList, read]
  refine ⟨by simp, ?_⟩
  rw [List.any_eq_false]
  intro scan member
  simp [closed scan member]

end LineTemplate.Line

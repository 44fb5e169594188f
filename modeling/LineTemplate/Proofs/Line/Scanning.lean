import LineTemplate.Proofs.Line.Lexeme
import LineTemplate.Proofs.Text.Lines

/-!
Scanning loses nothing. A line is the characters of its lexemes in order, with blanks in front of each
and behind the last. Each lexeme is written in one of four ways, and only the last of a line may leave
its quote open. What is left over behind a lexeme is exactly the rest of the line.
-/

namespace LineTemplate.Line

/-- How a lexeme is written. A quote that is not closed takes the rest of the line, and a bare word
ends where a blank, a delimiter or the end of the line follows. -/
inductive Written : List Char → Scan → Prop where
  | quoted {quote : Char} {inner rest : List Char} (isQuote : Text.isQuote quote = true)
      (absent : quote ∉ inner) :
      Written (quote :: (inner ++ [quote])) ⟨⟨String.ofList inner, true⟩, rest, true⟩
  | openQuote {quote : Char} {inner : List Char} (isQuote : Text.isQuote quote = true)
      (absent : quote ∉ inner) :
      Written (quote :: inner) ⟨⟨String.ofList inner, true⟩, [], false⟩
  | delimiter {character : Char} {rest : List Char} (delimits : isDelimiter character = true) :
      Written [character] ⟨⟨character.toString, false⟩, rest, true⟩
  | run {word rest : List Char} (isWord : BareWord word)
      (ends : ∀ next ∈ rest.head?, isBare next = false) :
      Written word ⟨⟨String.ofList word, false⟩, rest, true⟩

/-- A lexeme where it stands in a line, with the blanks in front of it. -/
structure Piece where
  blanks : List Char
  written : List Char
  scan : Scan

def Piece.characters (piece : Piece) : List Char :=
  piece.blanks ++ piece.written

/-- The line is made of the pieces and of blanks behind them, and each lexeme leaves over what stands
behind it. -/
structure Layout (line : List Char) (pieces : List Piece) (last : List Char) : Prop where
  whole : line = pieces.flatMap Piece.characters ++ last
  blank : last.all Text.isBlank = true
  front : ∀ piece ∈ pieces, piece.blanks.all Text.isBlank = true
  written : ∀ piece ∈ pieces, Written piece.written piece.scan
  left : ∀ before piece behind, pieces = before ++ piece :: behind →
    piece.scan.rest = behind.flatMap Piece.characters ++ last

/-- Read one at a time, each from what the one before it left over, these are the lexemes, and behind
them there is none. -/
def ReadsAll : List Char → List Scan → Prop
  | characters, [] => scan? characters = none
  | characters, scan :: others => scan? characters = some scan ∧ ReadsAll scan.rest others

section Written

variable {written : List Char} {scan : Scan}

theorem written_ne_nil (isWritten : Written written scan) : written ≠ [] := by
  cases isWritten with
  | quoted | openQuote | delimiter => exact List.cons_ne_nil _ _
  | run isWord =>
      obtain ⟨_, first, body, rfl, _⟩ := isWord
      exact List.cons_ne_nil first body

theorem rest_of_open (isWritten : Written written scan) (isOpen : scan.closed = false) :
    scan.rest = [] := by
  cases isWritten with
  | openQuote => rfl
  | quoted | delimiter | run => cases isOpen

/-- What is written with the rest of the line behind it is read as this lexeme. -/
theorem scan_of_written (isWritten : Written written scan) :
    scan? (written ++ scan.rest) = some scan := by
  cases isWritten with
  | quoted isQuote absent =>
      rw [List.cons_append, List.append_assoc]
      exact scan_of_quoted isQuote absent _
  | openQuote isQuote absent =>
      rw [List.append_nil]
      exact scan_of_open_quote isQuote absent
  | delimiter delimits => exact scan_of_delimiter delimits _
  | run isWord ends => exact scan_of_bare_word isWord ends

theorem scan_of_blanks {blanks : List Char} (blank : blanks.all Text.isBlank = true)
    (rest : List Char) : scan? (blanks ++ rest) = scan? rest := by
  rw [List.all_eq_true] at blank
  rw [scan?, scan?, Text.trimStart, Text.trimStart, List.dropWhile_append_of_pos blank]

/-- A quoted lexeme is closed, or takes all that is left of the line. -/
theorem written_quoted {quote : Char} (isQuote : Text.isQuote quote = true) (body : List Char) :
    ∃ written, quote :: body = written ++ (scanQuoted quote body).rest ∧
      Written written (scanQuoted quote body) := by
  have split : body.takeWhile (· != quote) ++ body.dropWhile (· != quote) = body :=
    List.takeWhile_append_dropWhile
  have absent : quote ∉ body.takeWhile (· != quote) := by
    intro member
    have other := List.mem_takeWhile_imp member
    simp at other
  unfold scanQuoted
  cases behind : body.dropWhile (· != quote) with
  | nil =>
      rw [behind, List.append_nil] at split
      rw [split] at absent ⊢
      exact ⟨quote :: body, (List.append_nil _).symm, .openQuote isQuote absent⟩
  | cons closing rest =>
      have closes := List.head?_dropWhile_not (· != quote) body
      rw [behind] at closes
      have same : closing = quote := by simpa using closes
      rw [behind, same] at split
      refine ⟨quote :: (body.takeWhile (· != quote) ++ [quote]), ?_, .quoted isQuote absent⟩
      rw [List.cons_append, List.append_assoc, List.singleton_append, split]

theorem written_first {first : Char} (visible : Text.isBlank first = false) (body : List Char) :
    ∃ written, first :: body = written ++ (scanFirst first body).rest ∧
      Written written (scanFirst first body) := by
  unfold scanFirst
  cases isQuote : Text.isQuote first with
  | true => exact written_quoted isQuote body
  | false =>
      cases delimits : isDelimiter first with
      | true => exact ⟨[first], rfl, .delimiter delimits⟩
      | false =>
          have isWord : BareWord (first :: body.takeWhile isBare) := by
            refine ⟨?_, first, _, rfl, isQuote⟩
            rw [List.all_cons, List.all_takeWhile, Bool.and_true, isBare, visible, delimits]
            rfl
          have ends : ∀ next ∈ (body.dropWhile isBare).head?, isBare next = false := by
            intro next head
            have stops := List.head?_dropWhile_not isBare body
            rw [Option.mem_def.mp head] at stops
            exact stops
          refine ⟨first :: body.takeWhile isBare, ?_, .run isWord ends⟩
          exact congrArg (first :: ·) List.takeWhile_append_dropWhile.symm

/-- What is read stands at the front of the characters, behind blanks. -/
theorem written_of_scan {characters : List Char} (read : scan? characters = some scan) :
    ∃ blanks written, characters = blanks ++ (written ++ scan.rest) ∧
      blanks.all Text.isBlank = true ∧ Written written scan := by
  have split : characters.takeWhile Text.isBlank ++ Text.trimStart characters = characters :=
    List.takeWhile_append_dropWhile
  unfold scan? at read
  cases start : Text.trimStart characters with
  | nil =>
      rw [start] at read
      cases read
  | cons first body =>
      have visible := List.head?_dropWhile_not Text.isBlank characters
      rw [← Text.trimStart, start] at visible
      rw [start] at read split
      cases read
      obtain ⟨written, whole, isWritten⟩ := written_first visible body
      exact ⟨characters.takeWhile Text.isBlank, written, by rw [← whole, split],
        List.all_takeWhile, isWritten⟩

theorem blank_of_no_scan {characters : List Char} (none : scan? characters = none) :
    characters.all Text.isBlank = true := by
  unfold scan? at none
  cases start : Text.trimStart characters with
  | nil => exact List.all_eq_true.mpr (List.dropWhile_eq_nil_iff.mp start)
  | cons first body =>
      rw [start] at none
      cases none

end Written

section Layouts

variable {line characters last : List Char} {piece : Piece} {pieces : List Piece}

theorem layout_nil_iff : Layout line [] last ↔ line = last ∧ last.all Text.isBlank = true := by
  constructor
  · intro layout
    exact ⟨layout.whole, layout.blank⟩
  · rintro ⟨rfl, blank⟩
    exact ⟨rfl, blank, nofun, nofun, by simp⟩

/-- The first piece stands in front of what its lexeme leaves over, and the other pieces make up that. -/
theorem layout_cons_iff :
    Layout line (piece :: pieces) last ↔
      line = piece.characters ++ piece.scan.rest ∧ piece.blanks.all Text.isBlank = true ∧
        Written piece.written piece.scan ∧ Layout piece.scan.rest pieces last := by
  constructor
  · intro layout
    have rest := layout.left [] piece pieces rfl
    obtain ⟨blanks, others⟩ := List.forall_mem_cons.mp layout.front
    obtain ⟨written, further⟩ := List.forall_mem_cons.mp layout.written
    refine ⟨?_, blanks, written, rest, layout.blank, others, further, ?_⟩
    · rw [rest, layout.whole, List.flatMap_cons, List.append_assoc]
    · rintro before other behind rfl
      exact layout.left (piece :: before) other behind rfl
  · rintro ⟨rfl, blanks, written, layout⟩
    refine ⟨?_, layout.blank, List.forall_mem_cons.mpr ⟨blanks, layout.front⟩,
      List.forall_mem_cons.mpr ⟨written, layout.written⟩, ?_⟩
    · rw [List.flatMap_cons, List.append_assoc, ← layout.whole]
    · intro before other behind split
      cases before with
      | nil =>
          obtain ⟨rfl, rfl⟩ := List.cons.inj split
          exact layout.whole
      | cons first before =>
          obtain ⟨rfl, rfl⟩ := List.cons.inj split
          exact layout.left before other behind rfl

theorem layout_exists (characters : List Char) :
    ∃ pieces last, Layout characters pieces last := by
  fun_induction scanAll characters with
  | case1 characters none =>
      exact ⟨[], characters, layout_nil_iff.mpr ⟨rfl, blank_of_no_scan none⟩⟩
  | case2 characters scan read ih =>
      obtain ⟨pieces, last, further⟩ := ih
      obtain ⟨blanks, written, whole, blank, isWritten⟩ := written_of_scan read
      refine ⟨⟨blanks, written, scan⟩ :: pieces, last, ?_⟩
      exact layout_cons_iff.mpr ⟨by rw [whole, Piece.characters, List.append_assoc], blank,
        isWritten, further⟩

theorem reads_all_of_layout (layout : Layout line pieces last) :
    ReadsAll line (pieces.map Piece.scan) := by
  induction pieces generalizing line with
  | nil =>
      obtain ⟨rfl, blank⟩ := layout_nil_iff.mp layout
      have none := scan_of_blanks blank []
      rwa [List.append_nil] at none
  | cons piece others ih =>
      obtain ⟨rfl, blank, written, further⟩ := layout_cons_iff.mp layout
      refine ⟨?_, ih further⟩
      rw [Piece.characters, List.append_assoc, scan_of_blanks blank, scan_of_written written]

theorem scan_all_of_reads_all {scans : List Scan} (reads : ReadsAll characters scans) :
    scanAll characters = scans := by
  induction scans generalizing characters with
  | nil =>
      rw [scanAll]
      split
      · rfl
      · next found =>
          rw [show scan? characters = none from reads] at found
          cases found
  | cons scan others ih => rw [scan_all_of_scan reads.1, ih reads.2]

/-- Nothing stands behind an open quote. -/
theorem closed_before_last (layout : Layout line pieces last) :
    ∀ piece ∈ pieces.dropLast, piece.scan.closed = true := by
  induction pieces generalizing line with
  | nil => exact nofun
  | cons piece others ih =>
      obtain ⟨-, -, written, further⟩ := layout_cons_iff.mp layout
      cases others with
      | nil => exact nofun
      | cons next behind =>
          rw [List.dropLast_cons_cons, List.forall_mem_cons]
          refine ⟨?_, ih further⟩
          cases closed : piece.scan.closed with
          | true => rfl
          | false =>
              obtain ⟨whole, -, nextWritten, -⟩ := layout_cons_iff.mp further
              rw [rest_of_open written closed, Piece.characters, List.append_assoc] at whole
              obtain ⟨-, more⟩ := List.append_eq_nil_iff.mp whole.symm
              exact absurd (List.append_eq_nil_iff.mp more).1 (written_ne_nil nextWritten)

theorem open_iff_last (closed : ∀ piece ∈ pieces.dropLast, piece.scan.closed = true) :
    pieces.any (fun piece => !piece.scan.closed) = true ↔
      ∃ piece ∈ pieces.getLast?, piece.scan.closed = false := by
  rcases pieces.eq_nil_or_concat with rfl | ⟨before, piece, rfl⟩
  · simp
  · rw [List.concat_eq_append] at closed ⊢
    rw [List.dropLast_concat] at closed
    have none : before.any (fun piece => !piece.scan.closed) = false := by
      rw [List.any_eq_false]
      intro other member
      simp [closed other member]
    simp [none]

end Layouts

/-- Every line is laid out in lexemes, however it is laid out they are the ones that the scanner reads
one after the other until there is none, and the scanner reports an open quote exactly when the last
of them has one. -/
theorem scanning_loses_nothing (line : String) :
    (∃ pieces last, Layout line.toList pieces last ∧
      (∀ piece ∈ pieces.dropLast, piece.scan.closed = true) ∧
      (hasOpenQuote line = true ↔ ∃ piece ∈ pieces.getLast?, piece.scan.closed = false)) ∧
    (∀ pieces last, Layout line.toList pieces last → scans line = pieces.map Piece.scan) ∧
    ReadsAll line.toList (scans line) := by
  have read {pieces : List Piece} {last : List Char} (layout : Layout line.toList pieces last) :
      scans line = pieces.map Piece.scan :=
    scan_all_of_reads_all (reads_all_of_layout layout)
  obtain ⟨pieces, last, layout⟩ := layout_exists line.toList
  have closed := closed_before_last layout
  refine ⟨⟨pieces, last, layout, closed, ?_⟩, fun _ _ => read, ?_⟩
  · rw [hasOpenQuote, read layout, List.any_map]
    exact open_iff_last closed
  · rw [read layout]
    exact reads_all_of_layout layout

theorem scanning_loses_nothing_adjacent :
    scans "x\"y\x27\u3000\x27c\x27d:\"e " =
        [⟨⟨"x\"y\x27", false⟩, "\u3000\x27c\x27d:\"e ".toList, true⟩,
          ⟨⟨"c", true⟩, "d:\"e ".toList, true⟩, ⟨⟨"d", false⟩, ":\"e ".toList, true⟩,
          ⟨⟨":", false⟩, "\"e ".toList, true⟩, ⟨⟨"e ", true⟩, [], false⟩] := by
  have layout : Layout "x\"y\x27\u3000\x27c\x27d:\"e ".toList
      [⟨[], "x\"y\x27".toList, ⟨"x\"y\x27", false⟩, "\u3000\x27c\x27d:\"e ".toList, true⟩,
        ⟨"\u3000".toList, "\x27c\x27".toList, ⟨"c", true⟩, "d:\"e ".toList, true⟩,
        ⟨[], ['d'], ⟨"d", false⟩, ":\"e ".toList, true⟩,
        ⟨[], [':'], ⟨":", false⟩, "\"e ".toList, true⟩,
        ⟨[], "\"e ".toList, ⟨"e ", true⟩, [], false⟩] [] := by
    have word : BareWord "x\"y\x27".toList := ⟨by decide, 'x', _, rfl, by decide⟩
    have letter : BareWord ['d'] := ⟨by decide, 'd', _, rfl, by decide⟩
    refine layout_cons_iff.mpr ⟨by decide, rfl, .run word (by rintro _ ⟨rfl⟩; decide), ?_⟩
    refine layout_cons_iff.mpr ⟨by decide, by decide,
      @Written.quoted _ ['c'] _ (by decide) (by decide), ?_⟩
    refine layout_cons_iff.mpr ⟨by decide, rfl, .run letter (by rintro _ ⟨rfl⟩; decide), ?_⟩
    refine layout_cons_iff.mpr ⟨by decide, rfl, .delimiter (by decide), ?_⟩
    refine layout_cons_iff.mpr ⟨by decide, rfl,
      @Written.openQuote _ ['e', ' '] (by decide) (by decide), ?_⟩
    exact layout_nil_iff.mpr ⟨rfl, rfl⟩
  exact (scanning_loses_nothing _).2.1 _ _ layout

end LineTemplate.Line

import LineTemplate.Line.Lexeme
import LineTemplate.Line.Words
import LineTemplate.Proofs.Text.Lines
import LineTemplate.Proofs.Text.Mention

/-!
The words of a line are the runs of its characters that are neither blanks nor commas. Trimming takes
blanks from the ends of a line but leaves commas there, and each of these ends the line with an empty
word. The first word and the argument are the line cut at the separators behind that word, so that the
words of the argument are the further words of the line.
-/

namespace LineTemplate.Line

/-- The words are the longest runs of characters that are no separators, in their order. -/
inductive Runs : List Char → List (List Char) → Prop where
  | done {gap : List Char} (separates : gap.all isSeparator = true) : Runs gap []
  | run {gap word rest : List Char} {words : List (List Char)}
      (separates : gap.all isSeparator = true) (nonempty : word ≠ [])
      (whole : ∀ character ∈ word, isSeparator character = false)
      (ends : ∀ next ∈ rest.head?, isSeparator next = true) (further : Runs rest words) :
      Runs (gap ++ (word ++ rest)) (word :: words)

/-- The empty word that a separator leaves at an end of the text. -/
def edge (neighbour : Option Char) : List (List Char) :=
  if neighbour.any isSeparator then [[]] else []

theorem separates_of_blank {blanks : List Char} (blank : blanks.all Text.isBlank = true) :
    blanks.all isSeparator = true := by
  rw [List.all_eq_true] at blank ⊢
  intro character member
  rw [isSeparator, blank character member, Bool.true_or]

/-- Blanks behind a gap, or behind nothing, go on with it. -/
theorem separates_behind {rest back : List Char}
    (ends : ∀ next ∈ rest.head?, isSeparator next = true) (blank : back.all Text.isBlank = true) :
    ∀ next ∈ (rest ++ back).head?, isSeparator next = true := by
  intro next first
  cases rest with
  | nil => exact List.all_eq_true.mp (separates_of_blank blank) next (List.mem_of_mem_head? first)
  | cons head tail => exact ends next first

/-- A text is its first word, the separators behind it, and what starts with no separator. -/
theorem first_word_split (characters : List Char) :
    ∃ word gap rest, characters = word ++ (gap ++ rest) ∧
      word = characters.takeWhile (fun character => !isSeparator character) ∧
      gap.all isSeparator = true ∧
      (∀ next ∈ (gap ++ rest).head?, isSeparator next = true) ∧
      ∀ next ∈ rest.head?, isSeparator next = false := by
  let behind := characters.dropWhile fun character => !isSeparator character
  have whole : behind.takeWhile isSeparator ++ behind.dropWhile isSeparator = behind :=
    List.takeWhile_append_dropWhile
  refine ⟨_, behind.takeWhile isSeparator, behind.dropWhile isSeparator, ?_, rfl,
    List.all_takeWhile, ?_, ?_⟩
  · rw [whole, List.takeWhile_append_dropWhile]
  · intro next first
    rw [whole, Option.mem_def] at first
    have stops := List.head?_dropWhile_not (fun character => !isSeparator character) characters
    rw [first] at stops
    simpa using stops
  · intro next first
    have stops := List.head?_dropWhile_not isSeparator behind
    rw [Option.mem_def.mp first] at stops
    exact stops

theorem apart_in_first_word {characters : List Char} :
    ∀ character ∈ characters.takeWhile (fun character => !isSeparator character),
      isSeparator character = false := by
  intro character member
  simpa using List.mem_takeWhile_imp member

theorem not_bare_of_separator {separator : Char} (separates : isSeparator separator = true) :
    isBare separator = false := by
  rw [isSeparator, Bool.or_eq_true, beq_iff_eq] at separates
  rcases separates with blank | rfl
  · rw [isBare, blank]
    rfl
  · rfl

section Splitting

variable {gap word rest characters : List Char} {pieces words others : List (List Char)}

theorem split_runs_of_word (whole : ∀ character ∈ word, isSeparator character = false)
    (split : splitRuns rest = [] :: pieces) : splitRuns (word ++ rest) = word :: pieces := by
  induction word with
  | nil => exact split
  | cons first word ih =>
      obtain ⟨apart, others⟩ := List.forall_mem_cons.mp whole
      rw [List.cons_append, splitRuns, apart, if_neg Bool.false_ne_true, ih others]

theorem split_runs_of_gap (nonempty : gap ≠ []) (separates : gap.all isSeparator = true)
    (ends : ∀ next ∈ rest.head?, isSeparator next = false) :
    splitRuns (gap ++ rest) = [] :: splitRuns rest := by
  induction gap with
  | nil => exact absurd rfl nonempty
  | cons first gap ih =>
      rw [List.all_cons, Bool.and_eq_true] at separates
      rw [List.cons_append, splitRuns, if_pos separates.1]
      cases gap with
      | nil =>
          have apart : rest.head?.any isSeparator = false := by
            rw [← Bool.not_eq_true, Option.any_eq_true]
            rintro ⟨next, first, separator⟩
            rw [ends next first] at separator
            cases separator
          rw [List.nil_append, apart, if_neg Bool.false_ne_true]
      | cons second gap =>
          have again : ((second :: gap) ++ rest).head?.any isSeparator = true := by
            rw [List.all_cons, Bool.and_eq_true] at separates
            exact separates.2.1
          rw [again, if_pos rfl]
          exact ih (List.cons_ne_nil second gap) separates.2

theorem first_of_word (nonempty : word ≠ [])
    (whole : ∀ character ∈ word, isSeparator character = false) (rest : List Char) :
    ∀ next ∈ (word ++ rest).head?, isSeparator next = false := by
  obtain ⟨first, tail, rfl⟩ := List.exists_cons_of_ne_nil nonempty
  rintro next ⟨rfl⟩
  exact whole _ List.mem_cons_self

/-- The last character of a text that ends in a word and what stands behind it. -/
theorem edge_behind_word (nonempty : word ≠ [])
    (whole : ∀ character ∈ word, isSeparator character = false) (gap rest : List Char) :
    edge (gap ++ (word ++ rest)).getLast? = edge rest.getLast? := by
  rcases rest.eq_nil_or_concat with rfl | ⟨front, last, rfl⟩
  · obtain ⟨front, last, rfl⟩ := (word.eq_nil_or_concat).resolve_left nonempty
    rw [List.concat_eq_append] at whole ⊢
    have apart := whole last (by simp)
    simp [edge, apart]
  · simp [edge]

/-- Behind a word, a text is split into its words, with an empty one in front for the gap. -/
theorem split_runs_behind_word (runs : Runs characters words)
    (ends : ∀ next ∈ characters.head?, isSeparator next = true) :
    splitRuns characters = [] :: (words ++ edge characters.getLast?) := by
  induction runs with
  | @done gap separates =>
      by_cases empty : gap = []
      · subst empty
        rfl
      · have split := @split_runs_of_gap gap [] empty separates nofun
        obtain ⟨front, last, rfl⟩ := (gap.eq_nil_or_concat).resolve_left empty
        rw [List.concat_eq_append] at separates split ⊢
        have separator : isSeparator last = true := by simpa using (List.all_eq_true.mp separates) last
        rw [List.append_nil] at split
        rw [split, edge]
        simp [separator, splitRuns]
  | @run gap word rest words separates nonempty whole wordEnds further ih =>
      have first := first_of_word nonempty whole rest
      have apart : gap ≠ [] := by
        rintro rfl
        obtain ⟨next, tail, rfl⟩ := List.exists_cons_of_ne_nil nonempty
        have separator := ends next rfl
        rw [whole next List.mem_cons_self] at separator
        cases separator
      rw [split_runs_of_gap apart separates first, split_runs_of_word whole (ih wordEnds),
        edge_behind_word nonempty whole]
      rfl

/-- A text is split into its words, with an empty one at each end where a separator stands. -/
theorem split_runs_of_runs (runs : Runs characters words) (present : words ≠ []) :
    splitRuns characters = edge characters.head? ++ words ++ edge characters.getLast? := by
  cases runs with
  | done => exact absurd rfl present
  | @run gap word rest words separates nonempty whole wordEnds further =>
      have first := first_of_word nonempty whole rest
      have split := split_runs_of_word whole (split_runs_behind_word further wordEnds)
      rw [edge_behind_word nonempty whole]
      cases gap with
      | nil =>
          obtain ⟨next, tail, rfl⟩ := List.exists_cons_of_ne_nil nonempty
          have apart := whole next List.mem_cons_self
          rw [List.nil_append, split]
          simp [edge, apart]
      | cons separator gap =>
          have separate : isSeparator separator = true := by
            rw [List.all_cons, Bool.and_eq_true] at separates
            exact separates.1
          rw [split_runs_of_gap (List.cons_ne_nil separator gap) separates first, split]
          simp [edge, separate]

theorem filter_edge (neighbour : Option Char) :
    (edge neighbour).filter (fun piece => !piece.isEmpty) = [] := by
  unfold edge
  split <;> rfl

theorem word_of_runs (runs : Runs characters words) :
    ∀ word ∈ words, word ≠ [] ∧ ∀ character ∈ word, isSeparator character = false := by
  induction runs with
  | done => exact nofun
  | run separates nonempty whole ends further ih =>
      exact List.forall_mem_cons.mpr ⟨⟨nonempty, whole⟩, ih⟩

/-- A text has one list of words: what is left of its pieces without the empty ones. -/
theorem runs_eq_filter (runs : Runs characters words) :
    words = (splitRuns characters).filter fun piece => !piece.isEmpty := by
  by_cases none : words = []
  · subst none
    cases runs with
    | done separates =>
        have split := split_runs_behind_word (.done separates) fun next first =>
          List.all_eq_true.mp separates next (List.mem_of_mem_head? first)
        rw [split, List.filter_cons_of_neg (by decide), List.nil_append, filter_edge]
  · have kept : words.filter (fun piece => !piece.isEmpty) = words := by
      rw [List.filter_eq_self]
      intro word member
      simpa using (word_of_runs runs word member).1
    rw [split_runs_of_runs runs none, List.filter_append, List.filter_append, filter_edge,
      filter_edge, kept, List.nil_append, List.append_nil]

theorem runs_unique (runs : Runs characters words) (further : Runs characters others) :
    others = words := by
  rw [runs_eq_filter runs, runs_eq_filter further]

/-- Blanks around a text belong to no word of it. -/
theorem runs_surround {front back : List Char} (frontBlank : front.all Text.isBlank = true)
    (backBlank : back.all Text.isBlank = true) (runs : Runs characters words) :
    Runs (front ++ (characters ++ back)) words := by
  have behind : Runs (characters ++ back) words := by
    induction runs with
    | done gap =>
        refine .done ?_
        rw [List.all_append, gap, separates_of_blank backBlank]
        rfl
    | @run gap word rest words gapSeparates nonempty whole ends further ih =>
        rw [List.append_assoc, List.append_assoc]
        exact .run gapSeparates nonempty whole (separates_behind ends backBlank) ih
  generalize characters ++ back = text at behind
  cases behind with
  | done gap =>
      refine .done ?_
      rw [List.all_append, separates_of_blank frontBlank, gap]
      rfl
  | run gap nonempty whole ends further =>
      rw [← List.append_assoc]
      refine .run ?_ nonempty whole ends further
      rw [List.all_append, separates_of_blank frontBlank, gap]
      rfl

theorem runs_exist (characters : List Char) : ∃ words, Runs characters words := by
  have split : characters.takeWhile isSeparator ++ characters.dropWhile isSeparator = characters :=
    List.takeWhile_append_dropWhile
  have separates : (characters.takeWhile isSeparator).all isSeparator = true := List.all_takeWhile
  cases start : characters.dropWhile isSeparator with
  | nil =>
      rw [start, List.append_nil] at split
      exact ⟨[], .done (split ▸ separates)⟩
  | cons first tail =>
      have apart := List.head?_dropWhile_not isSeparator characters
      rw [start] at apart split
      change isSeparator first = false at apart
      obtain ⟨word, gap, rest, whole, isFirst, -, ends, -⟩ := first_word_split (first :: tail)
      have nonempty : word ≠ [] := by simp [isFirst, apart]
      have shorter : (gap ++ rest).length < characters.length := by
        have sizes := congrArg List.length split
        have positive := List.length_pos_iff.mpr nonempty
        rw [whole] at sizes
        simp only [List.length_append] at sizes ⊢
        omega
      obtain ⟨words, further⟩ := runs_exist (gap ++ rest)
      rw [← split, whole]
      exact ⟨word :: words, .run separates nonempty (isFirst ▸ apart_in_first_word) ends further⟩
termination_by characters.length
decreasing_by exact shorter

end Splitting

section Lines

variable {line : String}

/-- A comma written twice does what it does once. -/
theorem split_runs_of_comma_twice (front back : List Char) :
    splitRuns (front ++ ',' :: ',' :: back) = splitRuns (front ++ ',' :: back) := by
  induction front with
  | nil => rfl
  | cons first front ih =>
      have same : (front ++ ',' :: ',' :: back).head? = (front ++ ',' :: back).head? := by
        cases front <;> rfl
      rw [List.cons_append, List.cons_append, splitRuns, splitRuns, ih, same]

theorem trim_around_comma (front back : List Char) :
    Text.trim (front ++ ',' :: back) = Text.trimStart front ++ Text.trimEnd (',' :: back) := by
  have start : Text.trimStart (front ++ ',' :: back) = Text.trimStart front ++ ',' :: back := by
    rw [Text.trimStart, List.dropWhile_append]
    split
    · next gone =>
        rw [Text.trimStart, List.isEmpty_iff.mp gone]
        exact Text.trim_start_of_not_blank ',' back (by decide)
    · rfl
  rw [Text.trim, start]
  exact Text.trim_end_append ⟨',', List.mem_cons_self, by decide⟩ _

theorem words_of_comma_twice {front back : List Char} (shape : line.toList = front ++ ',' :: back) :
    words (String.ofList (front ++ ',' :: ',' :: back)) = words line := by
  obtain ⟨kept, ends⟩ := Text.trim_of_first_visible (by decide : Text.isBlank ',' = false) back
  rw [Text.trim, Text.trim_start_of_not_blank _ _ (by decide)] at ends
  have again : Text.trimEnd (',' :: ',' :: back) = [','] ++ Text.trimEnd (',' :: back) :=
    Text.trim_end_append ⟨',', List.mem_cons_self, by decide⟩ [',']
  rw [words, words, shape, String.toList_ofList, trim_around_comma, trim_around_comma, again, ends]
  exact congrArg (List.map String.ofList) (split_runs_of_comma_twice _ kept)

/-- Between the blanks at its ends, the line starts with a comma. -/
def opensWithComma (line : String) : Bool :=
  (Text.trim line.toList).head? == some ','

/-- Between the blanks at its ends, the line ends with a comma. -/
def closesWithComma (line : String) : Bool :=
  (Text.trim line.toList).getLast? == some ','

theorem edge_of_visible {neighbour : Option Char}
    (visible : ∀ character ∈ neighbour, Text.isBlank character = false) :
    edge neighbour = if neighbour == some ',' then [[]] else [] := by
  cases neighbour with
  | none => rfl
  | some character => simp [edge, isSeparator, visible character rfl]

/-- The words of a line are the runs in it, and an empty word for each comma at an end. -/
theorem words_of_runs {runs : List String} (isRuns : Runs line.toList (runs.map String.toList))
    (present : runs ≠ []) :
    words line = (if opensWithComma line then [""] else []) ++ runs ++
      if closesWithComma line then [""] else [] := by
  obtain ⟨inner, innerRuns⟩ := runs_exist (Text.trim line.toList)
  obtain ⟨front, back, whole, frontBlank, backBlank⟩ := Text.trim_split line.toList
  have same : inner = runs.map String.toList := by
    have around := runs_surround frontBlank backBlank innerRuns
    rw [← whole] at around
    exact runs_unique isRuns around
  subst same
  have split := split_runs_of_runs innerRuns (by simpa using present)
  have last : ∀ character ∈ (Text.trim line.toList).getLast?, Text.isBlank character = false :=
    Text.last_of_trim_end
  rw [edge_of_visible Text.first_of_trim, edge_of_visible last] at split
  rw [words, split, opensWithComma, closesWithComma, List.map_append, List.map_append, List.map_map,
    apply_ite (List.map String.ofList), apply_ite (List.map String.ofList)]
  simp [Function.comp_def]

/-- What stands behind the first word and the separators of a trimmed line is its argument. -/
theorem argument_of_split {word gap rest : List Char}
    (whole : Text.trim line.toList = word ++ (gap ++ rest))
    (apart : ∀ character ∈ word, isSeparator character = false)
    (separates : gap.all isSeparator = true)
    (ends : ∀ next ∈ (gap ++ rest).head?, isSeparator next = true)
    (starts : ∀ next ∈ rest.head?, isSeparator next = false) :
    (argument line).toList = rest := by
  obtain ⟨back, split, backBlank⟩ := Text.trim_end_split (Text.trimStart line.toList)
  have backSeparates := separates_of_blank backBlank
  change Text.trimStart line.toList = Text.trim line.toList ++ back at split
  rw [whole, List.append_assoc] at split
  have visible := Text.last_behind_trim (whole.trans (List.append_assoc word gap rest).symm)
  have wordKept : word.all (fun character => !isSeparator character) = true := by
    rw [List.all_eq_true]
    exact fun character member => by rw [apart character member]; rfl
  have gapFirst : ∀ next ∈ (gap ++ rest ++ back).head?, (!isSeparator next) = false := by
    intro next first
    rw [separates_behind ends backBlank next first]
    rfl
  rw [argument, String.toList_ofList, split]
  rw [(Text.take_while_append_of_head wordKept gapFirst).2, List.append_assoc]
  cases rest with
  | nil =>
      have gone : (gap ++ back).all isSeparator = true := by
        rw [List.all_append, separates, backSeparates]
        rfl
      rw [List.nil_append, List.dropWhile_eq_nil_iff.mpr (List.all_eq_true.mp gone)]
      rfl
  | cons first rest =>
      rw [(Text.take_while_append_of_head separates (by rintro _ ⟨rfl⟩; exact starts _ rfl)).2,
        Text.trim_end_append_blanks _ backBlank, Text.trim_end_of_last visible]

/-- The line is its first word, a gap and its argument, between blanks. The gap takes all separators
that stand there, and there is one unless the word is all that is left of the trimmed line. -/
structure FirstWordCut (line : String) (front gap back : List Char) : Prop where
  whole : line.toList =
    front ++ ((firstWord line).toList ++ (gap ++ ((argument line).toList ++ back)))
  frontBlank : front.all Text.isBlank = true
  backBlank : back.all Text.isBlank = true
  trimmed : Text.trim line.toList = (firstWord line).toList ++ (gap ++ (argument line).toList)
  apart : ∀ character ∈ (firstWord line).toList, isSeparator character = false
  separates : gap.all isSeparator = true
  ends : ∀ next ∈ (gap ++ (argument line).toList).head?, isSeparator next = true
  starts : ∀ next ∈ (argument line).toList.head?, isSeparator next = false

theorem first_word_cut (line : String) : ∃ front gap back, FirstWordCut line front gap back := by
  obtain ⟨word, gap, rest, whole, isFirst, separates, ends, starts⟩ :=
    first_word_split (Text.trim line.toList)
  have apart : ∀ character ∈ word, isSeparator character = false := isFirst ▸ apart_in_first_word
  have isArgument := argument_of_split whole apart separates ends starts
  have isWord : (firstWord line).toList = word := by
    obtain ⟨pieces, split, -⟩ := split_runs_inside (Text.trim line.toList)
    rw [firstWord, words, split, ← isFirst]
    simp
  obtain ⟨front, back, outer, frontBlank, backBlank⟩ := Text.trim_split line.toList
  have inner : front ++ (Text.trim line.toList ++ back) =
      front ++ (word ++ (gap ++ (rest ++ back))) := by simp only [whole, List.append_assoc]
  subst isWord isArgument
  exact ⟨front, gap, back, outer.trans inner, frontBlank, backBlank, whole, apart, separates, ends,
    starts⟩

variable {front gap back : List Char}

theorem argument_of_no_gap (cut : FirstWordCut line front [] back) : argument line = "" := by
  rw [← String.toList_eq_nil_iff]
  cases rest : (argument line).toList with
  | nil => rfl
  | cons next tail =>
      have ends := cut.ends
      have starts := cut.starts
      rw [rest] at ends starts
      exact absurd (ends next rfl) (by rw [starts next rfl]; decide)

theorem trim_argument (cut : FirstWordCut line front gap back) :
    Text.trim (argument line).toList = (argument line).toList := by
  refine Text.trim_of_visible_ends (fun first member => ?_)
    (Text.last_behind_trim (cut.trimmed.trans (List.append_assoc _ _ _).symm))
  have separator := cut.starts first member
  rw [isSeparator, Bool.or_eq_false_iff] at separator
  exact separator.1

/-- The words of the argument are the further words of the line. -/
theorem words_of_cut (cut : FirstWordCut line front gap back) (nonempty : gap ≠ []) :
    words line = firstWord line :: words (argument line) := by
  have split := split_runs_of_word cut.apart (split_runs_of_gap nonempty cut.separates cut.starts)
  rw [words, cut.trimmed, split, List.map_cons, String.ofList_toList, words, trim_argument cut]

/-- A separator stands in the trimmed line exactly if there is a gap. -/
theorem gap_iff_separator (cut : FirstWordCut line front gap back) :
    gap ≠ [] ↔ ∃ character ∈ Text.trim line.toList, isSeparator character = true := by
  rw [cut.trimmed]
  constructor
  · intro nonempty
    obtain ⟨first, tail, rfl⟩ := List.exists_cons_of_ne_nil nonempty
    exact ⟨first, by simp, List.all_eq_true.mp cut.separates first List.mem_cons_self⟩
  · rintro ⟨character, member, separator⟩ rfl
    rw [argument_of_no_gap cut, String.toList_empty, List.append_nil, List.append_nil] at member
    rw [cut.apart character member] at separator
    cases separator

end Lines

end LineTemplate.Line

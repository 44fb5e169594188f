import Mathlib.Data.List.TakeWhile
import LineTemplate.Text.Blank
import LineTemplate.Text.Split

/-!
The lines of a text. A text is cut at each line feed and nowhere else, so texts joined by line feeds
have the lines of each of them, in order. A carriage return at the end of a line is a blank like any
other where lines are trimmed.
-/

namespace LineTemplate.Text

section Pieces

variable {separator : Char}

theorem split_on_append (separator : Char) (first second : List Char) :
    splitOn separator (first ++ separator :: second) =
      splitOn separator first ++ splitOn separator second := by
  induction first with
  | nil => simp [splitOn]
  | cons character rest ih =>
      simp only [List.cons_append, splitOn, ih]
      split
      · rfl
      · cases pieces : splitOn separator rest with
        | nil => exact absurd pieces (split_on_ne_nil separator rest)
        | cons piece others => rfl

theorem split_on_of_absent {piece : List Char} (absent : separator ∉ piece) :
    splitOn separator piece = [piece] := by
  induction piece with
  | nil => rfl
  | cons character rest ih =>
      rw [List.mem_cons, not_or] at absent
      rw [splitOn, if_neg (Ne.symm absent.1), ih absent.2]

theorem mem_of_mem_split_on {characters piece : List Char} {character : Char}
    (member : piece ∈ splitOn separator characters) (inside : character ∈ piece) :
    character ∈ characters ∧ character ≠ separator := by
  induction characters generalizing piece with
  | nil =>
      rw [List.mem_singleton.mp member] at inside
      exact absurd inside List.not_mem_nil
  | cons first rest ih =>
      rw [splitOn] at member
      split at member
      · rcases List.mem_cons.mp member with rfl | later
        · exact absurd inside List.not_mem_nil
        · exact (ih later inside).imp_left (List.mem_cons_of_mem first)
      · next other =>
          cases pieces : splitOn separator rest with
          | nil => exact absurd pieces (split_on_ne_nil separator rest)
          | cons head others =>
              simp only [pieces] at member ih
              rcases List.mem_cons.mp member with rfl | later
              · rcases List.mem_cons.mp inside with rfl | deeper
                · exact ⟨List.mem_cons_self, other⟩
                · exact (ih List.mem_cons_self deeper).imp_left (List.mem_cons_of_mem first)
              · exact (ih (List.mem_cons_of_mem head later) inside).imp_left
                  (List.mem_cons_of_mem first)

theorem absent_of_mem_split_on {characters piece : List Char}
    (member : piece ∈ splitOn separator characters) : separator ∉ piece :=
  fun inside => (mem_of_mem_split_on member inside).2 rfl

theorem split_on_inj {left right : List Char} :
    splitOn separator left = splitOn separator right ↔ left = right := by
  constructor
  · intro same
    rw [← intercalate_split_on separator left, same, intercalate_split_on]
  · exact congrArg (splitOn separator)

/-- Splitting undoes joining, for pieces without the separator. -/
theorem split_on_intercalate {pieces : List (List Char)} (nonempty : pieces ≠ [])
    (absent : ∀ piece ∈ pieces, separator ∉ piece) :
    splitOn separator (List.intercalate [separator] pieces) = pieces := by
  induction pieces with
  | nil => exact absurd rfl nonempty
  | cons piece others ih =>
      obtain ⟨absentHere, absentOthers⟩ := List.forall_mem_cons.mp absent
      cases others with
      | nil => rw [List.intercalate_singleton, split_on_of_absent absentHere]
      | cons next further =>
          rw [List.intercalate_cons_cons, List.append_assoc, List.singleton_append,
            split_on_append, split_on_of_absent absentHere, ih (List.cons_ne_nil _ _) absentOthers]
          rfl

theorem length_split_on (separator : Char) (characters : List Char) :
    (splitOn separator characters).length = characters.count separator + 1 := by
  induction characters with
  | nil => rfl
  | cons character rest ih =>
      rw [splitOn]
      split
      · next same => rw [List.length_cons, ih, same, List.count_cons_self]
      · next other =>
          rw [List.count_cons_of_ne other, ← ih]
          cases pieces : splitOn separator rest with
          | nil => exact absurd pieces (split_on_ne_nil separator rest)
          | cons first others => rfl

end Pieces

section Returns

theorem without_final_return_append (front : List Char) :
    withoutFinalReturn (front ++ ['\r']) = front := by
  rw [withoutFinalReturn, if_pos List.getLast?_concat, List.dropLast_concat]

theorem mem_of_mem_without_final_return {line : List Char} {character : Char}
    (member : character ∈ withoutFinalReturn line) : character ∈ line := by
  unfold withoutFinalReturn at member
  split at member
  · exact List.dropLast_subset line member
  · exact member

theorem without_final_return_eq_iff (line : List Char) :
    withoutFinalReturn line = line ↔ ¬ ['\r'] <:+ line := by
  constructor
  · rintro same ⟨front, rfl⟩
    rw [without_final_return_append] at same
    exact absurd (congrArg List.length same) (by simp)
  · intro unended
    refine if_neg fun ends => ?_
    obtain ⟨front, rfl⟩ := List.getLast?_eq_some_iff.mp ends
    exact unended (List.suffix_append front ['\r'])

/-- Of several carriage returns at the end of a line one is dropped. -/
theorem without_final_return_twice_iff (line : List Char) :
    withoutFinalReturn (withoutFinalReturn line) = withoutFinalReturn line ↔
      ¬ ['\r', '\r'] <:+ line := by
  rw [without_final_return_eq_iff, not_iff_not]
  constructor
  · intro ends
    by_cases once : ['\r'] <:+ line
    · obtain ⟨front, rfl⟩ := once
      rw [without_final_return_append] at ends
      obtain ⟨inner, rfl⟩ := ends
      exact ⟨inner, by simp⟩
    · rw [(without_final_return_eq_iff line).mpr once] at ends
      exact absurd ends once
  · rintro ⟨front, rfl⟩
    have grouped : front ++ ['\r', '\r'] = front ++ ['\r'] ++ ['\r'] := by simp
    rw [grouped, without_final_return_append]
    exact List.suffix_append front ['\r']

end Returns

/-- A line feed between two texts keeps their lines apart. -/
theorem split_lines_append (above below : String) :
    splitLines (above ++ "\n" ++ below) = splitLines above ++ splitLines below := by
  have characters : (above ++ "\n" ++ below).toList = above.toList ++ '\n' :: below.toList := by
    simp
  rw [splitLines, characters, split_on_append, List.map_append]
  rfl

theorem split_lines_intercalate {lines : List (List Char)} (nonempty : lines ≠ [])
    (oneLine : ∀ line ∈ lines, '\n' ∉ line) :
    splitLines (String.ofList (List.intercalate ['\n'] lines)) =
      lines.map fun line => String.ofList (withoutFinalReturn line) := by
  rw [splitLines, String.toList_ofList, split_on_intercalate nonempty oneLine]

theorem length_split_lines (text : String) :
    (splitLines text).length = text.toList.count '\n' + 1 := by
  rw [splitLines, List.length_map, length_split_on]

section Joined

variable {text : String}

/-- The lines joined by line feeds, each less the carriage return that may end it. -/
def withLineFeeds (text : String) : String :=
  String.intercalate "\n" (splitLines text)

theorem characters_with_line_feeds (text : String) : (withLineFeeds text).toList =
    List.intercalate ['\n'] ((splitOn '\n' text.toList).map withoutFinalReturn) := by
  have characters : (splitLines text).map String.toList =
      (splitOn '\n' text.toList).map withoutFinalReturn := by
    rw [splitLines, List.map_map]
    exact List.map_congr_left fun _ _ => String.toList_ofList
  rw [withLineFeeds, String.toList_intercalate, characters]
  rfl

theorem with_line_feeds_of_absent (absent : '\r' ∉ text.toList) : withLineFeeds text = text := by
  have kept : ∀ line ∈ splitOn '\n' text.toList, withoutFinalReturn line = line := by
    intro line member
    rw [without_final_return_eq_iff]
    intro ends
    exact absent (mem_of_mem_split_on member (ends.subset List.mem_cons_self)).1
  rw [← String.toList_inj, characters_with_line_feeds, List.map_congr_left kept, List.map_id',
    intercalate_split_on]

theorem split_on_with_line_feeds (text : String) : splitOn '\n' (withLineFeeds text).toList =
    (splitOn '\n' text.toList).map withoutFinalReturn := by
  have oneLine : ∀ line ∈ (splitOn '\n' text.toList).map withoutFinalReturn, '\n' ∉ line := by
    intro line member inside
    obtain ⟨piece, listed, rfl⟩ := List.mem_map.mp member
    exact absent_of_mem_split_on listed (mem_of_mem_without_final_return inside)
  have nonempty : (splitOn '\n' text.toList).map withoutFinalReturn ≠ [] :=
    fun none => split_on_ne_nil _ _ (List.map_eq_nil_iff.mp none)
  rw [characters_with_line_feeds, split_on_intercalate nonempty oneLine]

/-- What is left after one time stays, unless a line ended in several carriage returns. -/
theorem with_line_feeds_twice_iff (text : String) :
    withLineFeeds (withLineFeeds text) = withLineFeeds text ↔
      ∀ line ∈ splitOn '\n' text.toList, ¬ ['\r', '\r'] <:+ line := by
  rw [← String.toList_inj, ← @split_on_inj '\n', split_on_with_line_feeds, split_on_with_line_feeds,
    List.map_map, List.map_inj_left]
  exact forall₂_congr fun line _ => without_final_return_twice_iff line

end Joined

theorem split_once_of_absent {isSeparator : Char → Bool} {front : List Char} {separator : Char}
    (absent : ∀ character ∈ front, isSeparator character = false)
    (separates : isSeparator separator = true) (rest : List Char) :
    splitOnce? isSeparator (front ++ separator :: rest) = some (front, rest) := by
  have kept : front.all (fun character => !isSeparator character) = true := by
    rw [List.all_eq_true]
    exact fun character member => by rw [absent character member]; rfl
  have stops : ∀ next ∈ (separator :: rest).head?, (!isSeparator next) = false := by
    rintro next ⟨rfl⟩
    rw [separates]
    rfl
  obtain ⟨taken, dropped⟩ := take_while_append_of_head kept stops
  rw [splitOnce?, dropped, taken]

section Trimming

theorem trim_end_append {back : List Char} (visible : ∃ character ∈ back, isBlank character = false)
    (front : List Char) : trimEnd (front ++ back) = front ++ trimEnd back := by
  obtain ⟨character, member, stays⟩ := visible
  have left : (back.reverse.dropWhile isBlank).isEmpty = false := by
    rw [List.isEmpty_eq_false_iff]
    intro none
    rw [List.dropWhile_eq_nil_iff] at none
    rw [none character (List.mem_reverse.mpr member)] at stays
    cases stays
  simp only [trimEnd, List.reverse_append, List.dropWhile_append, left, Bool.false_eq_true, if_false,
    List.reverse_reverse]

/-- A visible character at the start stays there. -/
theorem trim_of_first_visible {first : Char} (visible : isBlank first = false) (rest : List Char) :
    ∃ kept, trim (first :: rest) = first :: kept := by
  rw [trim, trim_start_of_not_blank _ _ visible]
  by_cases blank : ∀ character ∈ rest, isBlank character = true
  · refine ⟨[], ?_⟩
    have gone : rest.reverse.dropWhile isBlank = [] := by
      rw [List.dropWhile_eq_nil_iff]
      exact fun character member => blank character (List.mem_reverse.mp member)
    simp [trimEnd, List.dropWhile_append, gone, visible]
  · simp only [not_forall, Bool.not_eq_true] at blank
    obtain ⟨character, member, stays⟩ := blank
    exact ⟨trimEnd rest, trim_end_append ⟨character, member, stays⟩ [first]⟩

theorem trim_of_blank {characters : List Char}
    (blank : ∀ character ∈ characters, isBlank character = true) : trim characters = [] := by
  rw [trim, trimStart, List.dropWhile_eq_nil_iff.mpr blank]
  rfl

theorem trim_append_blank (front : List Char) {blank : Char} (isBlank : isBlank blank = true) :
    trim (front ++ [blank]) = trim front := by
  simp only [trim, trimStart, List.dropWhile_append]
  split
  · next none =>
      rw [List.isEmpty_iff.mp none, List.dropWhile_cons_of_pos isBlank]
      rfl
  · simp [trimEnd, isBlank]

theorem trim_without_final_return (line : List Char) : trim (withoutFinalReturn line) = trim line := by
  unfold withoutFinalReturn
  split
  · next ends =>
      obtain ⟨front, rfl⟩ := List.getLast?_eq_some_iff.mp ends
      rw [List.dropLast_concat, trim_append_blank front (by decide)]
  · rfl

theorem trim_end_append_blanks (front : List Char) {back : List Char}
    (blank : back.all isBlank = true) : trimEnd (front ++ back) = trimEnd front := by
  rw [← List.all_reverse, List.all_eq_true] at blank
  rw [trimEnd, trimEnd, List.reverse_append, List.dropWhile_append_of_pos blank]

theorem last_of_trim_end {characters : List Char} :
    ∀ last ∈ (trimEnd characters).getLast?, isBlank last = false := by
  intro last member
  have stops := List.head?_dropWhile_not isBlank characters.reverse
  rw [trimEnd, List.getLast?_reverse, Option.mem_def] at member
  rw [member] at stops
  exact stops

theorem trim_end_of_last {characters : List Char}
    (visible : ∀ last ∈ characters.getLast?, isBlank last = false) :
    trimEnd characters = characters := by
  rcases characters.eq_nil_or_concat with rfl | ⟨front, last, rfl⟩
  · rfl
  · rw [List.concat_eq_append] at visible ⊢
    exact trim_end_append_of_not_blank front last (visible last (by simp))

/-- Only blanks are taken from the end. -/
theorem trim_end_split (characters : List Char) :
    ∃ back, characters = trimEnd characters ++ back ∧ back.all isBlank = true := by
  refine ⟨(characters.reverse.takeWhile isBlank).reverse, ?_, ?_⟩
  · rw [trimEnd, ← List.reverse_append, List.takeWhile_append_dropWhile, List.reverse_reverse]
  · rw [List.all_reverse]
    exact List.all_takeWhile

theorem first_of_trim {characters : List Char} :
    ∀ first ∈ (trim characters).head?, isBlank first = false := by
  intro first member
  obtain ⟨back, whole, _⟩ := trim_end_split (trimStart characters)
  have stops := List.head?_dropWhile_not isBlank characters
  change (trimEnd (trimStart characters)).head? = some first at member
  rw [← trimStart, whole, List.head?_append, member] at stops
  exact stops

/-- A text is what trimming leaves of it, between blanks. -/
theorem trim_split (characters : List Char) :
    ∃ front back, characters = front ++ (trim characters ++ back) ∧ front.all isBlank = true ∧
      back.all isBlank = true := by
  obtain ⟨back, whole, blank⟩ := trim_end_split (trimStart characters)
  refine ⟨characters.takeWhile isBlank, back, ?_, List.all_takeWhile, blank⟩
  rw [trim, ← whole]
  exact List.takeWhile_append_dropWhile.symm

theorem last_behind_trim {characters front rest : List Char} (whole : trim characters = front ++ rest) :
    ∀ last ∈ rest.getLast?, isBlank last = false := by
  intro last member
  apply @last_of_trim_end (trimStart characters)
  change last ∈ (trim characters).getLast?
  simp [whole, Option.mem_def.mp member]

theorem trim_of_visible_ends {characters : List Char}
    (first : ∀ first ∈ characters.head?, isBlank first = false)
    (last : ∀ last ∈ characters.getLast?, isBlank last = false) : trim characters = characters := by
  cases characters with
  | nil => rfl
  | cons head tail =>
      rw [trim, trim_start_of_not_blank head tail (first head rfl), trim_end_of_last last]

end Trimming

end LineTemplate.Text

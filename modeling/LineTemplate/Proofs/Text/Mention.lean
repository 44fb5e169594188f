import LineTemplate.Line.Words
import LineTemplate.Text.Folding
import LineTemplate.Text.Split
import Mathlib.Data.List.Infix

/-!
Texts that mention a name, in whatever case: it occurs in them somewhere, be it inside of a word, or
it is one of their words. Whatever is cut out of a text mentions no name that the text itself does not
mention.
-/

namespace LineTemplate

namespace Text

/-- The name occurs in the characters, up to the case of letters of ASCII. -/
def Mentions (name : String) (characters : List Char) : Prop :=
  name.toList.map Char.toLower <:+: characters.map Char.toLower

instance (name : String) (characters : List Char) : Decidable (Mentions name characters) :=
  inferInstanceAs (Decidable (_ <:+: _))

/-- The name is a whole word of the characters, up to the case of letters of ASCII. -/
def MentionsWord (name : String) (characters : List Char) : Prop :=
  ∃ front found back, characters = front ++ (found ++ back) ∧
    found.map Char.toLower = name.toList.map Char.toLower ∧
    front.getLast?.any isWordCharacter = false ∧ back.head?.any isWordCharacter = false

variable {name word : String} {inner outer characters : List Char}

/-- It is enough to look behind each character. -/
theorem mentions_word_iff :
    (∃ start ≤ characters.length,
      ((characters.drop start).take name.toList.length).map Char.toLower =
          name.toList.map Char.toLower ∧
        (characters.take start).getLast?.any isWordCharacter = false ∧
        ((characters.drop start).drop name.toList.length).head?.any isWordCharacter = false) ↔
      MentionsWord name characters := by
  constructor
  · rintro ⟨start, -, same, starts, ends⟩
    refine ⟨_, _, _, ?_, same, starts, ends⟩
    rw [List.take_append_drop, List.take_append_drop]
  · rintro ⟨front, found, back, rfl, same, starts, ends⟩
    have length : name.toList.length = found.length := by
      simpa using congrArg List.length same.symm
    refine ⟨front.length, by simp, ?_⟩
    rw [List.drop_left, List.take_left, length, List.take_left, List.drop_left]
    exact ⟨same, starts, ends⟩

instance (name : String) (characters : List Char) : Decidable (MentionsWord name characters) :=
  decidable_of_iff _ mentions_word_iff

theorem mentions_of_inside (inside : inner <:+: outer) (mentioned : Mentions name inner) :
    Mentions name outer :=
  mentioned.trans (inside.map Char.toLower)

theorem mentions_of_equal (same : equalIgnoringCase name word = true) :
    Mentions name word.toList := by
  rw [equalIgnoringCase, beq_iff_eq] at same
  rw [Mentions, same]

theorem trim_end_initial (characters : List Char) : trimEnd characters <+: characters := by
  have suffix := List.dropWhile_suffix (l := characters.reverse) isBlank
  rwa [← List.reverse_prefix, List.reverse_reverse] at suffix

theorem trim_inside (characters : List Char) : trim characters <:+: characters :=
  (trim_end_initial _).isInfix.trans (trim_start_suffix characters).isInfix

theorem split_once_inside {isSeparator : Char → Bool} {left right : List Char}
    (split : splitOnce? isSeparator characters = some (left, right)) : right <:+: characters := by
  unfold splitOnce? at split
  have suffix := List.dropWhile_suffix (l := characters) fun character => !isSeparator character
  split at split
  · cases split
  · next separator rest found =>
      obtain ⟨_, rfl⟩ := Prod.mk.inj (Option.some.inj split)
      rw [found] at suffix
      exact ((List.suffix_cons separator rest).trans suffix).isInfix

end Text

namespace Line

open Text

/-- The first piece runs up to the first separator, and all lie inside the text. -/
theorem split_runs_inside (characters : List Char) :
    ∃ pieces, splitRuns characters =
        characters.takeWhile (fun character => !isSeparator character) :: pieces ∧
      ∀ piece ∈ pieces, piece <:+: characters := by
  induction characters with
  | nil => exact ⟨[], rfl, fun piece member => absurd member List.not_mem_nil⟩
  | cons character rest ih =>
      obtain ⟨pieces, split, inside⟩ := ih
      have further : ∀ piece ∈ pieces, piece <:+: character :: rest := fun piece member =>
        (inside piece member).trans (List.suffix_cons character rest).isInfix
      cases separates : isSeparator character with
      | false => exact ⟨pieces, by simp [splitRuns, separates, split], further⟩
      | true =>
          cases again : rest.head?.any isSeparator with
          | true =>
              refine ⟨pieces, ?_, further⟩
              cases rest with
              | nil => cases again
              | cons next rest =>
                  rw [List.head?_cons, Option.any_some] at again
                  rw [List.takeWhile_cons, again] at split
                  rw [splitRuns, separates, List.head?_cons, Option.any_some, again, split]
                  simp [separates]
          | false =>
              refine ⟨splitRuns rest, by simp [splitRuns, separates, again], ?_⟩
              rw [split, List.forall_mem_cons]
              exact ⟨(List.takeWhile_prefix _).isInfix.trans (List.suffix_cons _ _).isInfix, further⟩

theorem words_inside {line word : String} (member : word ∈ words line) :
    word.toList <:+: line.toList := by
  obtain ⟨piece, inside, rfl⟩ := List.mem_map.mp member
  obtain ⟨pieces, split, further⟩ := split_runs_inside (trim line.toList)
  rw [split] at inside
  rw [String.toList_ofList]
  refine List.IsInfix.trans ?_ (trim_inside line.toList)
  rcases List.mem_cons.mp inside with rfl | later
  · exact (List.takeWhile_prefix _).isInfix
  · exact further piece later

theorem argument_inside (line : String) : (argument line).toList <:+: line.toList := by
  have trimmed := trim_end_initial (((trimStart line.toList).dropWhile fun character =>
    !isSeparator character).dropWhile isSeparator)
  rw [argument, String.toList_ofList]
  exact trimmed.isInfix.trans
    ((List.dropWhile_suffix _).trans ((List.dropWhile_suffix _).trans (trim_start_suffix _))).isInfix

theorem argument_unmentioned {name line : String} (unmentioned : ¬ Mentions name line.toList) :
    ¬ Mentions name (argument line).toList :=
  fun mentioned => unmentioned (mentions_of_inside (argument_inside line) mentioned)

end Line

end LineTemplate

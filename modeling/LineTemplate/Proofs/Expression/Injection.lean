import LineTemplate.Proofs.Expression.Standing
import LineTemplate.Proofs.Text.Mention

/-!
What values can do to the reading of an expression. Texts that are put in for names are read as
string tokens, and all other tokens are the same whatever the texts are: a text is cut up into runs
without quotes, closed literals and names, and none of the cuts depends on a value.

This takes that no name is a word behind a quote that is never closed. Such a name gives way too, and
a quote in its value then closes the literal.
-/

namespace LineTemplate

/-- Variables of these names, all of them texts that spell no number. -/
structure Variables.Textual (names : List String) (bindings : Variables) : Prop where
  named : bindings.names = names
  text : ∀ entry ∈ bindings.entries, ∃ content, entry.2 = .text content ∧ entry.2.numeral? = none

namespace Expression

section Finding

variable {pattern : NamePattern} {before : Option Char} {characters : List Char}

theorem no_occurrence_of_open {quote : Char} (identifiers : pattern.OnlyIdentifiers)
    (isQuote : Text.isQuote quote = true) (unclosed : textBody quote characters = none) :
    occurrence? pattern before (quote :: characters) = none := by
  have notQuoted : quotedOccurrence? (quote :: characters) = none := by
    rw [quotedOccurrence?, if_pos isQuote, literal_length_of_open unclosed, Option.map_none]
  cases found : occurrence? pattern before (quote :: characters) with
  | none => rfl
  | some occurrence =>
      obtain ⟨word, rest, shape, -, nonempty, -, -, inWord⟩ :=
        word_of_find identifiers notQuoted found
      cases word with
      | nil => exact absurd rfl nonempty
      | cons first word =>
          cases shape
          rw [not_quote_of_word_character (inWord quote List.mem_cons_self).1] at isQuote
          cases isQuote

theorem replace_from_open {quote : Char} {replacement : List Char → List Char} {afterMatch : Bool}
    (identifiers : pattern.OnlyIdentifiers) (isQuote : Text.isQuote quote = true)
    (unclosed : textBody quote characters = none)
    (stays : ∀ front found back, characters = front ++ (found ++ back) →
      front.getLast?.any Text.isWordCharacter = false →
      back.head?.any Text.isWordCharacter = false → replacement found = found) :
    replaceFrom pattern replacement before afterMatch 0 (quote :: characters) =
      quote :: characters := by
  rw [replace_from_of_no_occurrence (no_occurrence_of_open identifiers isQuote unclosed),
    replace_from_of_kept identifiers, List.drop_zero]
  intro front found back shape starts ends
  apply stays front found back shape _ ends
  cases last : front.getLast? with
  | none => rfl
  | some => rwa [last] at starts

end Finding

/-- A token of a text with names: the same for all values, or the text that a name stands for. -/
inductive Slot (names : List String) where
  | fixed (token : Token)
  | value (word : String) (known : ∃ name ∈ names, Text.equalIgnoringCase name word = true)

/-- What all texts are read as that differ in the values put in. -/
abbrev Outline (names : List String) := Except Fault (List (Slot names))

variable {names : List String}

def Slot.fill (bindings : Variables) : Slot names → Token
  | fixed token => token
  | value word _ => .text ((bindings.lookup? word).elim "" Value.render)

def Outline.fill (bindings : Variables) (outline : Outline names) : Except Fault (List Token) :=
  outline.map fun slots => slots.map (Slot.fill bindings)

/-- A family of texts, one for each choice of values, that start with one run without quotes. What
follows the run is read alike; if the text was left open it cannot be read. -/
def Steady (names : List String) (isOpen : Prop) (texts : Variables → List Char) : Prop :=
  ∃ (run : List Char) (tails : Variables → List Char) (outline : Outline names),
    Unquoted run ∧ (isOpen → outline = .error .openText) ∧
      ∀ bindings, bindings.Textual names → texts bindings = run ++ tails bindings ∧
        EndsRun (tails bindings) ∧ tokens (tails bindings) = outline.fill bindings

section Steadiness

variable {isOpen : Prop} {texts : Variables → List Char}

theorem outline_of_steady (steady : Steady names isOpen texts) :
    ∃ outline : Outline names, (isOpen → outline = .error .openText) ∧
      ∀ bindings, bindings.Textual names → tokens (texts bindings) = outline.fill bindings := by
  obtain ⟨run, tails, outline, unquoted, opened, read⟩ := steady
  obtain ⟨found, readRun⟩ := tokens_of_run unquoted
  refine ⟨outline.map (found.map Slot.fixed ++ ·), fun isOpen => by rw [opened isOpen]; rfl, ?_⟩
  intro bindings textual
  obtain ⟨shape, ends, readTail⟩ := read bindings textual
  rw [shape, readRun _ ends, readTail]
  cases outline with
  | error fault => rfl
  | ok slots =>
      have fixed : (found.map Slot.fixed).map (@Slot.fill names bindings) = found := by
        rw [List.map_map]
        exact List.map_id _
      simp [Outline.fill, Except.map, fixed]

theorem steady_of_run {run : List Char} (unquoted : Unquoted run)
    (steady : Steady names isOpen texts) :
    Steady names isOpen fun bindings => run ++ texts bindings := by
  obtain ⟨further, tails, outline, unquotedFurther, opened, read⟩ := steady
  refine ⟨run ++ further, tails, outline, unquoted_append unquoted unquotedFurther, opened, ?_⟩
  intro bindings textual
  obtain ⟨shape, rest⟩ := read bindings textual
  exact ⟨by simp only [shape, List.append_assoc], rest⟩

theorem steady_of_same {others : Variables → List Char} (steady : Steady names isOpen texts)
    (same : ∀ bindings, bindings.Textual names → others bindings = texts bindings) :
    Steady names isOpen others := by
  obtain ⟨run, tails, outline, unquoted, opened, read⟩ := steady
  refine ⟨run, tails, outline, unquoted, opened, fun bindings textual => ?_⟩
  rw [same bindings textual]
  exact read bindings textual

/-- A literal in front is read as one token. Its content may depend on the values. -/
theorem steady_of_literal {others : Variables → List Char} (slot : Slot names)
    (steady : Steady names isOpen texts)
    (literals : ∀ bindings, bindings.Textual names → ∃ quote content body,
      Text.isQuote quote = true ∧ Escapes quote content body ∧
        others bindings = quote :: (body ++ [quote]) ++ texts bindings ∧
        slot.fill bindings = .text (String.ofList content)) :
    Steady names isOpen others := by
  obtain ⟨outline, opened, read⟩ := outline_of_steady steady
  refine ⟨[], others, outline.map (slot :: ·), unquoted_nil,
    fun isOpen => by rw [opened isOpen]; rfl, ?_⟩
  intro bindings textual
  obtain ⟨quote, content, body, isQuote, escapes, shape, filled⟩ := literals bindings textual
  refine ⟨rfl, ?_, ?_⟩
  · rw [shape]
    exact ends_run_of_quote isQuote _
  · rw [shape, tokens_of_text isQuote escapes, read bindings textual, ← filled]
    cases outline <;> rfl

theorem steady_of_end (closed : ¬ isOpen) : Steady names isOpen fun _ => [] := by
  refine ⟨[], fun _ => [], .ok [], unquoted_nil, fun opened => absurd opened closed, ?_⟩
  exact fun bindings _ => ⟨rfl, ends_run_nil, tokens_nil⟩

theorem steady_of_open {quote : Char} {characters : List Char}
    (isQuote : Text.isQuote quote = true) (unclosed : textBody quote characters = none) :
    Steady names isOpen fun _ => quote :: characters := by
  refine ⟨[], fun _ => quote :: characters, .error .openText, unquoted_nil, fun _ => rfl, ?_⟩
  exact fun bindings _ => ⟨rfl, ends_run_of_quote isQuote characters, tokens_of_open isQuote unclosed⟩

end Steadiness

section Substituting

open Text (MentionsWord)

variable {pattern : NamePattern} {bindings : Variables}

theorem replacement_of_unmentioned (textual : bindings.Textual names)
    {text front found back : List Char} (unmentioned : ∀ name ∈ names, ¬ MentionsWord name text)
    (shape : text = front ++ (found ++ back))
    (starts : front.getLast?.any Text.isWordCharacter = false)
    (ends : back.head?.any Text.isWordCharacter = false) :
    replacementOf bindings found = found := by
  apply replacement_of_unknown
  apply Variables.lookup_of_unknown
  intro name member
  rw [textual.named] at member
  rw [Bool.eq_false_iff]
  intro same
  rw [Text.equalIgnoringCase, String.toList_ofList, beq_iff_eq] at same
  exact unmentioned name member ⟨front, found, back, shape, same.symm, starts, ends⟩

theorem literal_of_known (textual : bindings.Textual names) {word : List Char}
    (known : ∃ name ∈ names, Text.equalIgnoringCase name (String.ofList word) = true) :
    ∃ quote content body, Text.isQuote quote = true ∧ Escapes quote content body ∧
      replacementOf bindings word = quote :: (body ++ [quote]) ∧
      (Slot.value (String.ofList word) known).fill bindings = .text (String.ofList content) := by
  obtain ⟨value, found⟩ := Variables.lookup_of_known (textual.named ▸ known)
  obtain ⟨name, member, _⟩ := Variables.entry_of_lookup found
  obtain ⟨content, rfl, noNumeral⟩ := textual.text _ member
  refine ⟨Text.doubleQuote, content.toList, _, rfl, escapes_of_escape content.toList, ?_, ?_⟩
  · rw [replacementOf, found]
    exact literal_of_text noNumeral
  · rw [Slot.fill, found, String.ofList_toList]
    rfl

/-- A word that was found is read alike: as text if it is a name, else as it stands. -/
theorem steady_of_word {isOpen : Prop} {texts : Variables → List Char} {word : List Char}
    (unquoted : Unquoted word) (steady : Steady names isOpen texts) :
    Steady names isOpen fun bindings => replacementOf bindings word ++ texts bindings := by
  by_cases known : ∃ name ∈ names, Text.equalIgnoringCase name (String.ofList word) = true
  · apply steady_of_literal (.value (String.ofList word) known) steady
    intro bindings textual
    obtain ⟨quote, content, body, isQuote, escapes, replaced, filled⟩ :=
      literal_of_known textual known
    exact ⟨quote, content, body, isQuote, escapes, by rw [replaced], filled⟩
  · apply steady_of_same (steady_of_run unquoted steady)
    intro bindings textual
    have unknown : bindings.lookup? (String.ofList word) = none := by
      apply Variables.lookup_of_unknown
      intro name member
      rw [textual.named] at member
      exact Bool.eq_false_iff.mpr fun same => known ⟨name, member, same⟩
    rw [replacement_of_unknown unknown]

/-- Whatever the values, a text with values put in is read alike, if no name is a word behind an open
quote. By induction on the text: what the scan finds in front does not depend on the values. -/
theorem steady_of_replaced (identifiers : pattern.OnlyIdentifiers) :
    (text : List Char) → '\n' ∉ text →
    (∀ tail ∈ openTail? text, ∀ name ∈ names, ¬ MentionsWord name tail) →
    ∀ before afterMatch, Steady names (openTail? text).isSome fun bindings =>
      replaceFrom pattern (replacementOf bindings) before afterMatch 0 text
  | [], _, _, before, afterMatch => by
      simp only [replace_from_nil identifiers]
      apply steady_of_end
      rw [openTail?]
      exact Bool.false_ne_true
  | first :: text, noFeed, settled, before, afterMatch => by
      have noFeedInside : '\n' ∉ text := fun member => noFeed (List.mem_cons_of_mem first member)
      cases isQuote : Text.isQuote first with
      | true =>
          cases closed : textBody first text with
          | none =>
              rw [open_tail_of_open isQuote closed] at settled
              apply steady_of_same (steady_of_open isQuote closed)
              intro bindings textual
              apply replace_from_open identifiers isQuote closed
              exact fun front found back => replacement_of_unmentioned textual (settled text rfl)
          | some read =>
              obtain ⟨inner, rest⟩ := read
              rw [open_tail_of_closed isQuote closed] at settled ⊢
              have shorter : rest.length < (first :: text).length :=
                Nat.lt_succ_of_lt (text_body_length closed)
              obtain ⟨body, split, escapes⟩ := escapes_of_text_body noFeedInside closed
              have shape : first :: text = first :: (body ++ [first]) ++ rest := by simp [split]
              have noFeedBehind : '\n' ∉ rest := fun member => noFeedInside (by simp [split, member])
              have steady := steady_of_replaced identifiers rest noFeedBehind settled (some first) true
              simp only [shape, replace_from_text isQuote escapes]
              exact steady_of_literal (.fixed (.text (String.ofList inner))) steady
                fun _ _ => ⟨first, inner, body, isQuote, escapes, rfl, rfl⟩
      | false =>
          rw [open_tail_of_not_quote isQuote] at settled ⊢
          have shorter : text.length < (first :: text).length := Nat.lt_succ_self _
          cases found : occurrence? pattern before (first :: text) with
          | none =>
              simp only [replace_from_of_no_occurrence found]
              exact steady_of_run (List.forall_mem_singleton.mpr isQuote)
                (steady_of_replaced identifiers text noFeedInside settled (some first) false)
          | some occurrence =>
              obtain ⟨word, rest, shape, rfl, nonempty, -, -, inWord⟩ :=
                word_of_find identifiers (quoted_occurrence_of_not_quote isQuote) found
              have unquoted : Unquoted word :=
                fun inner member => not_quote_of_word_character (inWord inner member).1
              have same : openTail? text = openTail? rest := by
                rw [← open_tail_of_not_quote isQuote text, shape, open_tail_of_run unquoted]
              have shorter : rest.length < (first :: text).length := by
                rw [shape, List.length_append]
                have := List.length_pos_iff.mpr nonempty
                omega
              rw [shape] at noFeed found
              have noFeedBehind : '\n' ∉ rest :=
                fun member => noFeed (List.mem_append_right word member)
              simp only [same, shape, replace_from_occurrence nonempty found, if_true]
              exact steady_of_word unquoted
                (steady_of_replaced identifiers rest noFeedBehind (same ▸ settled) word.getLast? true)
termination_by text => text.length
decreasing_by all_goals assumption

/-- Values inject no syntax. For a text without line feeds, in which no name is a word behind an open
quote, there is one outline that the text is read as with all variables of the given names whose values
are texts that spell no number: the tokens are the same but for the content of those that stand for
names. A text that leaves a literal open is never evaluated. -/
theorem values_inject_no_syntax {text : String}
    (identifiers : ∀ name ∈ names, isIdentifier name = true) (noFeed : '\n' ∉ text.toList)
    (settled : ∀ tail ∈ openTail? text.toList, ∀ name ∈ names, ¬ MentionsWord name tail) :
    ∃ outline : Outline names,
      (∀ bindings, bindings.Textual names →
        tokens (substitute (NamePattern.ofVariables bindings) bindings text).toList =
          outline.fill bindings) ∧
      (tokens text.toList = .error .openText → outline = .error .openText ∧
        ∀ bindings, bindings.Textual names →
          evaluate bindings text = .error (.malformed .openText)) := by
  have onlyIdentifiers := NamePattern.of_names_only_identifiers identifiers
  obtain ⟨outline, opened, read⟩ := outline_of_steady
    (steady_of_replaced onlyIdentifiers text.toList noFeed settled none false)
  have substituted : ∀ bindings, bindings.Textual names →
      tokens (substitute (NamePattern.ofVariables bindings) bindings text).toList =
        outline.fill bindings := by
    intro bindings textual
    rw [substitute_eq, String.toList_ofList, ← read bindings textual, NamePattern.of_variables_eq,
      textual.named]
  refine ⟨outline, substituted, fun unreadable => ?_⟩
  have isError := opened ((unreadable_iff_open text.toList).mp unreadable)
  refine ⟨isError, fun bindings textual => ?_⟩
  rw [evaluate, evaluateWith, evaluateText, Tree.ofText, substituted bindings textual, isError]
  rfl

/-- A quote in a value does not close the literal that the text leaves open, in which the name is part
of another word. -/
theorem values_inject_no_syntax_open :
    let bindings : Variables := ⟨[("who", .text "it's")], by decide⟩
    bindings.Textual ["who"] ∧
      evaluate bindings "who + 'say whose" = .error (.malformed .openText) := by
  intro bindings
  have textual : bindings.Textual ["who"] := by
    refine ⟨rfl, ?_⟩
    intro entry member
    rw [List.mem_singleton.mp member]
    exact ⟨"it's", rfl, rfl⟩
  have openTail : openTail? "who + 'say whose".toList = some "say whose".toList := by decide +kernel
  have unreadable := (unreadable_iff_open "who + 'say whose".toList).mpr (by rw [openTail]; rfl)
  have settled : ∀ tail ∈ openTail? "who + 'say whose".toList, ∀ name ∈ ["who"],
      ¬ MentionsWord name tail := by
    rw [openTail]
    decide
  obtain ⟨_, _, neverEvaluates⟩ := values_inject_no_syntax (by decide) (by decide) settled
  exact ⟨textual, (neverEvaluates unreadable).2 bindings textual⟩

/-- Behind an open quote a name gives way as well, and then its value can close the literal. -/
theorem value_closes_open_literal :
    let bindings : Variables := ⟨[("x", .text " + '")], by decide⟩
    bindings.Textual ["x"] ∧ tokens "\"abc x'".toList = .error .openText ∧
      evaluate bindings "\"abc x'" = .ok (.text "abc \"") := by
  intro bindings
  refine ⟨⟨rfl, ?_⟩, ?_, ?_⟩
  · intro entry member
    rw [List.mem_singleton.mp member]
    exact ⟨" + '", rfl, rfl⟩
  · rw [unreadable_iff_open]
    decide +kernel
  · have value : (evaluate bindings "\"abc x'").toOption = some (.text "abc \"") := by
      decide +kernel
    cases evaluated : evaluate bindings "\"abc x'" with
    | error =>
        rw [evaluated] at value
        cases value
    | ok =>
        rw [evaluated] at value
        cases value
        rfl

end Substituting

end Expression

end LineTemplate

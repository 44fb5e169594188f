import LineTemplate.Proofs.Expression.Cutting
import LineTemplate.Proofs.Expression.Reporting
import LineTemplate.Proofs.Expression.Scoping

/-!
The place of a token in the text it was read from. What stands in front of the token leaves no
literal open; and what stands in front of a name that is reported, ends in a character of no word.
-/

namespace LineTemplate.Expression

/-- Behind the piece literals are open as they would be without it. -/
def Transparent (piece : List Char) : Prop :=
  ∀ rest, openTail? (piece ++ rest) = openTail? rest

section Transparent

variable {quote first : Char} {piece other characters inner lexeme rest : List Char} {token : Token}

theorem transparent_of_unquoted (unquoted : Unquoted piece) : Transparent piece :=
  open_tail_of_run unquoted

theorem transparent_append (left : Transparent piece) (right : Transparent other) :
    Transparent (piece ++ other) := by
  intro rest
  rw [List.append_assoc, left, right]

theorem open_tail_of_transparent (transparent : Transparent piece) : openTail? piece = none := by
  have alone := transparent []
  rwa [List.append_nil, openTail?] at alone

/-- A literal is read up to its closing quote, whatever follows that. -/
theorem text_body_split (notBackslash : quote ≠ '\\')
    (read : textBody quote characters = some (inner, rest)) :
    ∃ body, characters = body ++ quote :: rest ∧
      ∀ following, textBody quote (body ++ quote :: following) = some (inner, following) := by
  fun_induction textBody quote characters generalizing inner with
  | case1 => cases read
  | case2 => cases read
  | case3 escaped characters ih =>
      obtain ⟨⟨deeper, _⟩, readDeeper, equal⟩ := Option.map_eq_some_iff.mp read
      cases equal
      obtain ⟨body, rfl, alike⟩ := ih readDeeper
      refine ⟨'\\' :: escaped :: body, rfl, fun following => ?_⟩
      rw [List.cons_append, List.cons_append, textBody, alike]
      rfl
  | case4 characters =>
      cases read
      exact ⟨[], rfl, fun following => by simp [textBody, notBackslash]⟩
  | case5 character characters notLone notEscape notQuote ih =>
      obtain ⟨⟨deeper, _⟩, readDeeper, equal⟩ := Option.map_eq_some_iff.mp read
      cases equal
      obtain ⟨body, rfl, alike⟩ := ih readDeeper
      have plain : character ≠ '\\' := fun same => by
        cases body with
        | nil => exact notEscape quote rest same rfl
        | cons next body => exact notEscape next _ same rfl
      exact ⟨character :: body, rfl, fun following => by simp [textBody, plain, notQuote, alike]⟩

theorem transparent_of_first_token (read : firstToken first (lexeme ++ rest) = .ok (token, rest)) :
    Transparent (first :: lexeme) := by
  cases isQuote : Text.isQuote first with
  | true =>
      rw [first_token_of_quote isQuote] at read
      split at read
      · next closed =>
          cases read
          obtain ⟨body, shape, alike⟩ := text_body_split (not_backslash_of_quote isQuote) closed
          have same : lexeme = body ++ [first] :=
            List.append_cancel_right (shape.trans (List.append_cons body first _))
          intro following
          rw [same, List.cons_append, List.append_assoc, List.singleton_append,
            open_tail_of_closed isQuote (alike following)]
      · cases read
  | false =>
      obtain ⟨run, tail, split, unquoted, ends⟩ := split_at_quote (lexeme ++ rest)
      obtain ⟨_, left, ⟨taken, rfl⟩, apart⟩ := first_token_apart isQuote run
      rw [split, apart tail ends] at read
      cases read
      rw [List.append_assoc, List.append_cancel_right_eq] at split
      subst split
      apply transparent_of_unquoted
      refine List.forall_mem_cons.mpr ⟨isQuote, fun character member => ?_⟩
      exact unquoted character (List.mem_append_left left member)

end Transparent

section Tokens

variable {first : Char} {body lexeme rest : List Char} {token : Token} {name : String}

theorem decimal_token_kind (characters : List Char) :
    (∃ value, (decimalToken characters).1 = .integer value) ∨
      ∃ value, (decimalToken characters).1 = .real value := by
  unfold decimalToken
  simp only
  split
  · exact Or.inl ⟨_, rfl⟩
  · exact Or.inr ⟨_, rfl⟩

theorem number_token_kind (first : Char) (body : List Char) :
    (∃ value, (numberToken first body).1 = .integer value) ∨
      ∃ value, (numberToken first body).1 = .real value := by
  unfold numberToken
  split
  · split
    · unfold hexToken
      simp only
      cases Number.fit? _
      · exact Or.inr ⟨_, rfl⟩
      · exact Or.inl ⟨_, rfl⟩
    · exact decimal_token_kind _
  · exact decimal_token_kind _

/-- A token is a number, a text, a word, or an operator. -/
theorem first_token_cases (read : firstToken first body = .ok (token, rest)) :
    ((∃ value, token = .integer value) ∨ ∃ value, token = .real value) ∨
    (∃ content, token = .text content) ∨
    (startsName first = true ∧
      token = wordToken (String.ofList (first :: body.takeWhile continuesName)) ∧
      rest = body.dropWhile continuesName) ∨
    operatorToken first body = (token, rest) := by
  unfold firstToken at read
  split at read
  · have kind := number_token_kind first body
    rw [Except.ok.inj read] at kind
    exact Or.inl kind
  · split at read
    · split at read
      · cases read
        exact Or.inr (Or.inl ⟨_, rfl⟩)
      · cases read
    · split at read
      · next starts =>
          cases read
          exact Or.inr (Or.inr (Or.inl ⟨starts, rfl, rfl⟩))
      · exact Or.inr (Or.inr (Or.inr (Except.ok.inj read)))

theorem pair_token_known {second : Char} (paired : pairToken? first second = some token) :
    Text.isWordCharacter first = false ∧ Text.isWordCharacter second = false ∧
      ∀ name, token ≠ .name name := by
  unfold pairToken? at paired
  split at paired <;> first
    | (cases paired; exact ⟨rfl, rfl, nofun⟩)
    | cases paired

theorem single_token_known (first : Char) : (∀ name, singleToken first ≠ .name name) ∧
    ((singleToken first).awaitsOperand = true → Text.isWordCharacter first = false) := by
  unfold singleToken
  split <;> exact ⟨nofun, fun awaits => by first | rfl | cases awaits⟩

theorem operator_token_cases (read : operatorToken first body = (token, rest)) :
    (∃ second, body = second :: rest ∧ pairToken? first second = some token) ∨
      (body = rest ∧ token = singleToken first) := by
  unfold operatorToken at read
  split at read
  · split at read
    · next paired =>
        cases read
        exact Or.inl ⟨_, rfl, paired⟩
    · cases read
      exact Or.inr ⟨rfl, rfl⟩
  · cases read
    exact Or.inr ⟨rfl, rfl⟩

/-- A name is read from its own characters, up to the first that does not continue it. -/
theorem spelling_of_name (read : firstToken first (lexeme ++ rest) = .ok (.name name, rest)) :
    name.toList = first :: lexeme ∧ startsName first = true ∧
      ∀ next ∈ rest.head?, continuesName next = false := by
  rcases first_token_cases read with number | ⟨_, text⟩ | ⟨starts, word, behind⟩ | operator
  · rcases number with ⟨_, same⟩ | ⟨_, same⟩ <;> cases same
  · cases text
  · have named : name = String.ofList (first :: (lexeme ++ rest).takeWhile continuesName) := by
      rcases word_token_cases (String.ofList (first :: (lexeme ++ rest).takeWhile continuesName)) with
        same | ⟨-, same | same | same⟩ <;> rw [same] at word <;> cases word
      rfl
    have split : lexeme = (lexeme ++ rest).takeWhile continuesName := by
      have parts := List.takeWhile_append_dropWhile (p := continuesName) (l := lexeme ++ rest)
      rw [← behind] at parts
      exact (List.append_cancel_right parts).symm
    refine ⟨by rw [named, ← split, String.toList_ofList], starts, ?_⟩
    intro next here
    rw [behind] at here
    have stopped := List.head?_dropWhile_not continuesName (lexeme ++ rest)
    rw [here] at stopped
    exact stopped
  · rcases operator_token_cases operator with ⟨_, _, paired⟩ | ⟨_, same⟩
    · exact absurd rfl ((pair_token_known paired).2.2 name)
    · exact absurd same.symm ((single_token_known first).1 name)

/-- Behind a token that awaits an operand a word ends, or it is no part of a word. -/
theorem gap_behind_awaiting (read : firstToken first (lexeme ++ rest) = .ok (token, rest))
    (awaits : token.awaitsOperand = true) :
    (∀ character ∈ first :: lexeme, Text.isWordCharacter character = false) ∨
      ∀ next ∈ rest.head?, continuesName next = false := by
  rcases first_token_cases read with number | ⟨_, rfl⟩ | ⟨_, _, behind⟩ | operator
  · rcases number with ⟨_, rfl⟩ | ⟨_, rfl⟩ <;> cases awaits
  · cases awaits
  · right
    intro next here
    rw [behind] at here
    have stopped := List.head?_dropWhile_not continuesName (lexeme ++ rest)
    rw [here] at stopped
    exact stopped
  · left
    rcases operator_token_cases operator with ⟨second, shape, paired⟩ | ⟨shape, rfl⟩
    · obtain ⟨firstOutside, secondOutside, -⟩ := pair_token_known paired
      have same : lexeme = [second] :=
        List.append_cancel_right (shape.trans (List.singleton_append).symm)
      rw [same]
      exact List.forall_mem_cons.mpr ⟨firstOutside, List.forall_mem_singleton.mpr secondOutside⟩
    · have same : lexeme = [] := List.append_cancel_right (shape.trans (List.nil_append rest).symm)
      rw [same]
      exact List.forall_mem_singleton.mpr ((single_token_known first).2 awaits)

end Tokens

section Places

variable {text : List Char} {name : String}

theorem unquoted_of_blanks {blanks : List Char} (blank : blanks.all Text.isBlank = true) :
    Unquoted blanks := by
  intro character member
  cases isQuote : Text.isQuote character with
  | false => rfl
  | true =>
      have isBlank := List.all_eq_true.mp blank character member
      rw [not_blank_of_quote isQuote] at isBlank
      cases isBlank

theorem no_word_behind_blanks {blanks : List Char} (blank : blanks.all Text.isBlank = true)
    {before : Option Char} (free : before.any Text.isWordCharacter = false) :
    (blanks.getLast?.or before).any Text.isWordCharacter = false := by
  cases last : blanks.getLast? with
  | none => exact free
  | some character =>
      have member := List.mem_of_getLast? last
      exact Text.not_word_character_of_blank (List.all_eq_true.mp blank character member)

theorem continues_name_of_starts {character : Char} (starts : startsName character = true) :
    continuesName character = true := by
  rw [startsName, Bool.or_eq_true] at starts
  rcases starts with letter | score
  · rw [continuesName, letter]
    rfl
  · rw [continuesName, score, Bool.or_true]

/-- A text cut into tokens is cut in front of each of them. -/
theorem split_of_cut {front found : List Token} {token : Token}
    (cut : Cut text (front ++ token :: found)) :
    ∃ skipped blanks first lexeme rest,
      text = skipped ++ (blanks ++ (first :: lexeme ++ rest)) ∧ Transparent skipped ∧
      blanks.all Text.isBlank = true ∧ firstToken first (lexeme ++ rest) = .ok (token, rest) ∧
      Cut rest found := by
  induction front generalizing text with
  | nil =>
      cases cut with
      | token blank visible read further =>
          exact ⟨[], _, _, _, _, rfl, fun _ => rfl, blank, read, further⟩
  | cons other front ih =>
      cases cut with
      | @token outer lexeme rest first _ _ blank visible read further =>
          obtain ⟨skipped, blanks, next, inner, left, rfl, transparent, parts⟩ := ih further
          have outerTransparent := transparent_of_unquoted (unquoted_of_blanks blank)
          have whole := transparent_append outerTransparent
            (transparent_append (transparent_of_first_token read) transparent)
          exact ⟨outer ++ (first :: lexeme ++ skipped), blanks, next, inner, left, by simp, whole,
            parts⟩

/-- In the text that follows `before`, the word stands behind closed literals and a character of no
word, and in front of a character that does not continue it. -/
def StandsApart (before : Option Char) (text word : List Char) : Prop :=
  ∃ front back, text = front ++ (word ++ back) ∧ openTail? front = none ∧
    (front.getLast?.or before).any Text.isWordCharacter = false ∧
    ∀ next ∈ back.head?, continuesName next = false

theorem stands_apart_of_first {back : List Token} (cut : Cut text (.name name :: back)) :
    StandsApart none text name.toList := by
  cases cut with
  | @token blanks lexeme rest first _ _ blank visible read further =>
      obtain ⟨spelling, -, ends⟩ := spelling_of_name read
      have free := @no_word_behind_blanks blanks blank none rfl
      have transparent := transparent_of_unquoted (unquoted_of_blanks blank)
      exact ⟨blanks, rest, by rw [spelling], open_tail_of_transparent transparent, free, ends⟩

theorem stands_apart_of_behind {found : List Token} (cut : Cut text found)
    (behind : AwaitedBehind found name) : StandsApart none text name.toList := by
  obtain ⟨front, last, back, rfl, awaits⟩ := behind
  obtain ⟨skipped, outer, first, lexeme, rest, rfl, transparent, outerBlank, read, further⟩ :=
    split_of_cut cut
  cases further with
  | @token blanks inner left start _ _ blank visible readName _ =>
      obtain ⟨spelling, starts, ends⟩ := spelling_of_name readName
      refine ⟨skipped ++ (outer ++ (first :: lexeme ++ blanks)), left, by simp [spelling], ?_, ?_,
        ends⟩
      · apply open_tail_of_transparent
        exact transparent_append transparent
          (transparent_append (transparent_of_unquoted (unquoted_of_blanks outerBlank))
            (transparent_append (transparent_of_first_token read)
              (transparent_of_unquoted (unquoted_of_blanks blank))))
      · have last : (skipped ++ (outer ++ (first :: lexeme ++ blanks))).getLast? =
            blanks.getLast?.or (first :: lexeme).getLast? := by
          simp [List.getLast?_append, List.getLast?_cons]
        rw [Option.or_none, last]
        rcases gap_behind_awaiting read awaits with outside | stops
        · apply no_word_behind_blanks blank
          rw [List.getLast?_eq_some_getLast (List.cons_ne_nil first lexeme), Option.any_some]
          exact outside _ (List.getLast_mem _)
        · cases blanks with
          | nil =>
              have continues := continues_name_of_starts starts
              rw [stops start rfl] at continues
              cases continues
          | cons next blanks =>
              rw [List.getLast?_eq_some_getLast (List.cons_ne_nil next blanks), Option.some_or,
                Option.any_some]
              exact Text.not_word_character_of_blank
                (List.all_eq_true.mp blank _ (List.getLast_mem _))

/-- A name that is reported stands apart in the text. -/
theorem stands_apart_of_awaited {found : List Token} (cut : Cut text found)
    (awaited : Awaited found name) : StandsApart none text name.toList := by
  rcases awaited with ⟨back, rfl⟩ | behind
  · exact stands_apart_of_first cut
  · exact stands_apart_of_behind cut behind

end Places

end LineTemplate.Expression

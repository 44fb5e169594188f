import LineTemplate.Proofs.Expression.Runs

/-!
Cutting a text into tokens. Each token is read from the front of what the tokens before it have left
over, behind blanks, and takes at least one character of it. Every text is cut up to its end, or it
leaves a string literal open.
-/

namespace LineTemplate.Expression

/-- The text is cut into the tokens, with blanks before each of them and behind the last. -/
inductive Cut : List Char → List Token → Prop where
  | done {blanks : List Char} (blank : blanks.all Text.isBlank = true) : Cut blanks []
  | token {blanks lexeme rest : List Char} {first : Char} {token : Token} {found : List Token}
      (blank : blanks.all Text.isBlank = true) (visible : Text.isBlank first = false)
      (read : firstToken first (lexeme ++ rest) = .ok (token, rest)) (further : Cut rest found) :
      Cut (blanks ++ (first :: lexeme ++ rest)) (token :: found)

section Suffixes

variable {quote first : Char} {characters body inner rest : List Char} {token : Token}

theorem text_body_suffix (read : textBody quote characters = some (inner, rest)) :
    rest <:+ characters := by
  fun_induction textBody quote characters generalizing inner with
  | case1 => cases read
  | case2 => cases read
  | case3 escaped characters ih =>
      obtain ⟨⟨_, _⟩, deeper, equal⟩ := Option.map_eq_some_iff.mp read
      cases equal
      exact (ih deeper).trans ((List.suffix_cons _ _).trans (List.suffix_cons _ _))
  | case4 =>
      cases read
      exact List.suffix_cons _ _
  | case5 character characters _ _ _ ih =>
      obtain ⟨⟨_, _⟩, deeper, equal⟩ := Option.map_eq_some_iff.mp read
      cases equal
      exact (ih deeper).trans (List.suffix_cons _ _)

theorem first_token_of_quote (isQuote : Text.isQuote first = true) (body : List Char) :
    firstToken first body =
      match textBody first body with
      | some (inner, rest) => .ok (.text (String.ofList inner), rest)
      | none => .error .openText := by
  have noNumber : ¬ startsNumber first body = true := by
    rw [starts_no_number_of_quote isQuote]
    decide
  exact (if_neg noNumber).trans (if_pos isQuote)

/-- What a token leaves over is the end of the text. -/
theorem first_token_suffix (read : firstToken first body = .ok (token, rest)) : rest <:+ body := by
  cases isQuote : Text.isQuote first with
  | true =>
      rw [first_token_of_quote isQuote] at read
      split at read
      · next closed =>
          cases read
          exact text_body_suffix closed
      · cases read
  | false =>
      obtain ⟨run, tail, rfl, _, ends⟩ := split_at_quote body
      obtain ⟨_, left, suffix, apart⟩ := first_token_apart isQuote run
      rw [apart tail ends] at read
      cases read
      obtain ⟨taken, rfl⟩ := suffix
      exact ⟨taken, (List.append_assoc taken left tail).symm⟩

theorem first_token_fault {fault : Fault} (failed : firstToken first body = .error fault) :
    fault = .openText := by
  cases isQuote : Text.isQuote first with
  | true =>
      rw [first_token_of_quote isQuote] at failed
      split at failed
      · cases failed
      · cases failed
        rfl
  | false =>
      obtain ⟨run, tail, rfl, _, ends⟩ := split_at_quote body
      obtain ⟨_, left, _, apart⟩ := first_token_apart isQuote run
      rw [apart tail ends] at failed
      cases failed

end Suffixes

theorem tokens_of_blanks {blanks : List Char} (blank : blanks.all Text.isBlank = true)
    (rest : List Char) : tokens (blanks ++ rest) = tokens rest := by
  induction blanks with
  | nil => rfl
  | cons first blanks ih =>
      rw [List.all_cons, Bool.and_eq_true] at blank
      rw [List.cons_append, tokens_of_blank blank.1, ih blank.2]

theorem tokens_of_cut {text : List Char} {found : List Token} (cut : Cut text found) :
    tokens text = .ok found := by
  induction cut with
  | @done blanks blank =>
      have read := tokens_of_blanks blank []
      rwa [List.append_nil, tokens_nil] at read
  | token blank visible read _ ih =>
      rw [tokens_of_blanks blank, List.cons_append, tokens_of_first visible read, ih]
      rfl

/-- Every text is cut into tokens, or leaves a literal open. -/
theorem cut_or_open (text : List Char) :
    (∃ found, Cut text found) ∨ tokens text = .error .openText := by
  have split : text = text.takeWhile Text.isBlank ++ Text.trimStart text :=
    (List.takeWhile_append_dropWhile).symm
  have blank : (text.takeWhile Text.isBlank).all Text.isBlank = true := List.all_takeWhile
  cases start : Text.trimStart text with
  | nil =>
      rw [start, List.append_nil] at split
      rw [← split] at blank
      exact Or.inl ⟨[], .done blank⟩
  | cons first body =>
      rw [start] at split
      have visible := List.head?_dropWhile_not Text.isBlank text
      rw [← Text.trimStart, start] at visible
      have readAlike : tokens text = tokens (first :: body) := by
        rw [split, tokens_of_blanks blank]
      cases read : firstToken first body with
      | error fault =>
          rw [readAlike, tokens_of_visible visible, read, first_token_fault read]
          exact Or.inr rfl
      | ok result =>
          obtain ⟨token, rest⟩ := result
          obtain ⟨lexeme, rfl⟩ := first_token_suffix read
          have shorter : rest.length < text.length := by
            have := congrArg List.length split
            simp only [List.length_append, List.length_cons] at this
            omega
          rcases cut_or_open rest with ⟨found, further⟩ | failed
          · rw [split]
            exact Or.inl ⟨token :: found, .token blank visible read further⟩
          · rw [readAlike, tokens_of_first visible read, failed]
            exact Or.inr rfl
termination_by text.length

/-- The tokens of a text are those that it is cut into. -/
theorem tokens_iff_cut {text : List Char} {found : List Token} :
    tokens text = .ok found ↔ Cut text found := by
  constructor
  · intro read
    rcases cut_or_open text with ⟨others, cut⟩ | failed
    · rw [tokens_of_cut cut] at read
      cases read
      exact cut
    · rw [failed] at read
      cases read
  · exact tokens_of_cut

end LineTemplate.Expression

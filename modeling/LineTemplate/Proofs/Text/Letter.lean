import LineTemplate.Proofs.Text.Ascii

/-!
Letters of every script. No blank is a letter, and what folds like a character of an identifier is
one itself or a letter: beyond ASCII these are the long s and the sign for kelvin.
-/

namespace LineTemplate.Text

variable {character : Char}

/-- Blanks beyond ASCII by their code points. -/
def typographicBlanks : List Nat :=
  [0x85, 0xA0, 0x1680, 0x2000, 0x2001, 0x2002, 0x2003, 0x2004, 0x2005, 0x2006, 0x2007, 0x2008,
    0x2009, 0x200A, 0x2028, 0x2029, 0x202F, 0x205F, 0x3000]

theorem in_ranges_eq (ranges : Array (Nat × Nat)) (code : Nat) :
    inRanges ranges code =
      ranges.toList.any fun (first, last) => first ≤ code && code ≤ last := by
  rw [inRanges, Array.any_toList]

theorem no_letter_of_typographic_blank :
    ∀ code ∈ typographicBlanks, inRanges alphabeticRanges code = false := by
  simp only [in_ranges_eq]
  decide +kernel

theorem typographic_of_blank (blank : isBlank character = true)
    (ascii : isAscii character = false) : character.toNat ∈ typographicBlanks := by
  simp only [isAscii, decide_eq_false_iff_not] at ascii
  simp only [isBlank, Bool.or_eq_true, Bool.and_eq_true, decide_eq_true_eq, beq_iff_eq] at blank
  simp only [typographicBlanks, List.mem_cons, List.not_mem_nil, or_false]
  omega

theorem not_blank_of_letter (letter : isLetter character = true) : isBlank character = false := by
  cases ascii : isAscii character with
  | true =>
      rw [isLetter, if_pos ascii] at letter
      apply not_blank_of_identifier_character
      rw [isIdentifierCharacter, Char.isAlphanum, letter]
      rfl
  | false =>
      cases blank : isBlank character with
      | false => rfl
      | true =>
          have noLetter := no_letter_of_typographic_blank _ (typographic_of_blank blank ascii)
          rw [isLetter, ascii, if_neg (by decide), noLetter] at letter
          cases letter

theorem no_joiner_of_typographic_blank :
    ∀ code ∈ typographicBlanks, inRanges wordJoinerRanges code = false := by
  simp only [in_ranges_eq]
  decide +kernel

theorem not_word_character_of_blank (blank : isBlank character = true) :
    isWordCharacter character = false := by
  cases ascii : isAscii character with
  | true =>
      rw [isWordCharacter, if_pos ascii]
      cases inside : isIdentifierCharacter character with
      | false => exact inside
      | true =>
          rw [not_blank_of_identifier_character inside] at blank
          cases blank
  | false =>
      have typographic := typographic_of_blank blank ascii
      rw [isWordCharacter, ascii, if_neg (by decide),
        no_letter_of_typographic_blank _ typographic, no_joiner_of_typographic_blank _ typographic]
      rfl

theorem not_ascii_of_typographic (code : 128 ≤ character.toNat) : isAscii character = false := by
  rw [isAscii, decide_eq_false_iff_not]
  omega

/-- Code points beyond ASCII that fold into ASCII. -/
theorem folds_out_of_ascii :
    foldRuns.toList.all (fun (first, last, _, distance) =>
      (128 : Int) ≤ first + distance || first == last && (first == 0x17F || first == 0x212A)) =
      true := by
  decide +kernel

theorem code_of_fold_distance {code : Nat} (outside : 128 ≤ code)
    (inside : (code + foldDistance code : Int) < 128) : code = 0x17F ∨ code = 0x212A := by
  unfold foldDistance at inside
  split at inside
  · next first last step distance found =>
      have listed := Array.mem_toList_iff.mpr (Array.mem_of_find?_eq_some found)
      have within := Array.find?_some found
      have known := List.all_eq_true.mp folds_out_of_ascii _ listed
      simp only [Bool.and_eq_true, Bool.or_eq_true, decide_eq_true_eq, beq_iff_eq] at within known
      omega
  · omega

theorem letter_of_special {character : Char}
    (special : character.toNat = 0x17F ∨ character.toNat = 0x212A) : isLetter character = true := by
  have known : ∀ code ∈ [0x17F, 0x212A], inRanges alphabeticRanges code = true := by
    simp only [in_ranges_eq]
    decide +kernel
  rw [isLetter, not_ascii_of_typographic (by omega), if_neg (by decide)]
  apply known
  simpa using special

theorem code_of_char_of_nat (code : Nat) :
    (Char.ofNat code).toNat = code ∨ (Char.ofNat code).toNat = 0 := by
  by_cases valid : code.isValidChar
  · left
    rw [Char.ofNat, dif_pos valid]
    rfl
  · right
    rw [Char.ofNat, dif_neg valid]
    rfl

/-- What folds like a character of an identifier is one itself or a letter of another script. -/
theorem letter_of_fold {expected found : Char} (inside : isIdentifierCharacter expected = true)
    (same : fold expected = fold found) :
    isIdentifierCharacter found = true ∨ isLetter found = true := by
  cases ascii : isAscii found with
  | true => exact Or.inl (identifier_character_of_fold inside ascii same)
  | false =>
      right
      have bounds := identifier_character_iff.mp inside
      rw [fold_of_identifier_character inside, fold, ascii, if_neg (by decide)] at same
      have codes := congrArg Char.toNat same
      have lowered := to_lower_cases expected
      have outside : 128 ≤ found.toNat := by
        rw [isAscii, decide_eq_false_iff_not] at ascii
        omega
      apply letter_of_special
      apply code_of_fold_distance outside
      have folded := code_of_char_of_nat (found.toNat + foldDistance found.toNat).toNat
      omega

theorem is_word_character_of_fold {expected found : Char}
    (inside : isIdentifierCharacter expected = true) (same : fold expected = fold found) :
    isWordCharacter found = true := by
  rcases letter_of_fold inside same with identifier | letter
  · exact is_word_character_of_identifier_character identifier
  · exact is_word_character_of_is_letter found letter

end LineTemplate.Text

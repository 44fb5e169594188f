import LineTemplate.Directive
import LineTemplate.Proofs.Line.Scanning
import LineTemplate.Proofs.Line.Words
import LineTemplate.Proofs.Loop.Words

/-!
The readings of a directive line. Its words, its argument and its lexemes are read apart from one
another, and yet all of them take the keyword off the line at the same place: it has neither blanks nor
delimiters in it, so that it is the first word, the first lexeme, and what stands in front of the
argument.
-/

namespace LineTemplate

namespace Directive

variable {directive : Directive} {word line : String}

def spellings (directive : Directive) : List String :=
  directive.keyword :: directive.alias?.toList

theorem is_spelled_iff : directive.isSpelled word = true ↔
    ∃ spelling ∈ directive.spellings, Text.equalIgnoringCase word spelling = true := by
  simp [isSpelled, spellings, Option.any_eq_true]

theorem codes_of_spelling (directive : Directive) :
    ∀ spelling ∈ directive.spellings, spelling.toList ≠ [] ∧ ∀ character ∈ spelling.toList,
      character.toNat = 35 ∨ 65 ≤ character.toNat ∧ character.toNat ≤ 90 := by
  cases directive <;> simp [spellings, keyword, alias?]

/-- A keyword is one bare word of its line, in whatever case it is written. -/
theorem bare_word_of_spelled (spells : directive.isSpelled word = true) :
    Line.BareWord word.toList := by
  obtain ⟨spelling, member, same⟩ := is_spelled_iff.mp spells
  obtain ⟨nonempty, codes⟩ := codes_of_spelling directive spelling member
  rw [Text.equalIgnoringCase, beq_iff_eq] at same
  have bare : ∀ character ∈ word.toList,
      Line.isBare character = true ∧ Text.isQuote character = false := by
    intro character inside
    have lowered : character.toLower ∈ spelling.toList.map Char.toLower :=
      same ▸ List.mem_map_of_mem inside
    obtain ⟨capital, spelled, lower⟩ := List.mem_map.mp lowered
    have code := codes capital spelled
    have equal := congrArg Char.toNat lower
    have ofCapital := Text.to_lower_cases capital
    have ofCharacter := Text.to_lower_cases character
    exact Loop.bare_of_code (by omega)
  cases shape : word.toList with
  | nil =>
      rw [shape] at same
      exact absurd (List.map_eq_nil_iff.mp same.symm) nonempty
  | cons first rest =>
      rw [shape] at bare
      exact ⟨List.all_eq_true.mpr fun character inside => (bare character inside).1, first, rest, rfl,
        (bare first List.mem_cons_self).2⟩

theorem is_spelled_of_line (found : ofLine? line = some directive) :
    directive.isSpelled (Line.firstWord line) = true := by
  have spells := List.find?_some found
  exact spells

end Directive

namespace Line

variable {line : String} {front gap back : List Char}

/-- A first word without delimiters and quotes is the first lexeme too. -/
theorem head_lexeme_of_cut (cut : FirstWordCut line front gap back)
    (isWord : BareWord (firstWord line).toList) :
    (lexemes line).head? = some ⟨firstWord line, false⟩ := by
  have ends : ∀ next ∈ (gap ++ ((argument line).toList ++ back)).head?, isBare next = false := by
    intro next first
    rw [← List.append_assoc] at first
    exact not_bare_of_separator (separates_behind cut.ends cut.backBlank next first)
  have read := scan_of_bare_word isWord ends
  rw [← scan_of_blanks cut.frontBlank, ← cut.whole] at read
  rw [lexemes, scans, scan_all_of_scan read, String.ofList_toList]
  rfl

/-- The words behind the first are the words of the argument, and there is no argument where nothing
separates. The first word of a directive line is its keyword, cut off the line in front of the argument,
and the first of its lexemes. -/
theorem readings_of_line_agree (line : String) :
    ((∃ character ∈ Text.trim line.toList, isSeparator character = true) →
      words line = firstWord line :: words (argument line)) ∧
    ((∀ character ∈ Text.trim line.toList, isSeparator character = false) →
      argument line = "") ∧
    ∀ directive, Directive.ofLine? line = some directive →
      directive.isSpelled (firstWord line) = true ∧
      (∃ front gap back, FirstWordCut line front gap back) ∧
      (lexemes line).head? = some ⟨firstWord line, false⟩ := by
  obtain ⟨front, gap, back, cut⟩ := first_word_cut line
  refine ⟨fun separator => ?_, fun none => ?_, fun directive found => ?_⟩
  · exact words_of_cut cut ((gap_iff_separator cut).mpr separator)
  · have noGap : gap = [] := by
      by_contra nonempty
      obtain ⟨character, member, separator⟩ := (gap_iff_separator cut).mp nonempty
      rw [none character member] at separator
      cases separator
    subst noGap
    exact argument_of_no_gap cut
  · have spells := Directive.is_spelled_of_line found
    exact ⟨spells, ⟨front, gap, back, cut⟩,
      head_lexeme_of_cut cut (Directive.bare_word_of_spelled spells)⟩

theorem readings_of_line_agree_commas :
    words "\t#for,x ,IN a b, " = "#for" :: words "x ,IN a b," ∧
      argument "\u3000#Else\t" = "" ∧
      Directive.loop.isSpelled "#for" = true ∧
      (∃ front gap back, FirstWordCut "\t#for,x ,IN a b, " front gap back) ∧
      (lexemes "\t#for,x ,IN a b, ").head? = some ⟨"#for", false⟩ := by
  have word : firstWord "\t#for,x ,IN a b, " = "#for" := by decide +kernel
  have rest : argument "\t#for,x ,IN a b, " = "x ,IN a b," := by decide +kernel
  have whole : (Text.trim "\u3000#Else\t".toList).all (fun character => !isSeparator character) =
      true := by decide +kernel
  obtain ⟨separated, -, directives⟩ := readings_of_line_agree "\t#for,x ,IN a b, "
  obtain ⟨-, lone, -⟩ := readings_of_line_agree "\u3000#Else\t"
  have split := separated ⟨',', by decide +kernel, by decide⟩
  obtain ⟨spells, cut, first⟩ := directives .loop (by decide +kernel)
  rw [word, rest] at split
  rw [word] at spells first
  exact ⟨split, lone (by simpa using whole), spells, cut, first⟩

end Line

end LineTemplate

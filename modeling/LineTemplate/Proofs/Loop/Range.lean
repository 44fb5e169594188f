import LineTemplate.Proofs.Loop.Clause
import LineTemplate.Proofs.Loop.Words

/-!
Loops over ranges of integers. A line that names two integers and perhaps a step is refused for its
step, or for the number of its values, or else takes exactly the values that lead from the start to
the end without passing it. The bounds may be any integers of 64 bits: their distance need not fit
into 64 bits, but each value does, since it lies between them.
-/

namespace LineTemplate.Loop

open DirectiveError (loopFault)
open Number (integerText)

section Lines

/-- A loop line over a range of integers in decimal, with its step if it names one. -/
def rangeLine (name : String) (start last : Int64) (step : Option Int64) : String :=
  let bounds := ["#FOR", name, "FROM", integerText start, "TO", integerText last]
  String.intercalate " " (bounds ++ step.elim [] fun step => ["STEP", integerText step])

example : rangeLine "i" 3 1 (some (-1)) = "#FOR i FROM 3 TO 1 STEP -1" := by decide

variable {name : String}

theorem lexemes_of_range_line (identifier : isIdentifier name = true) (start last : Int64)
    (step : Option Int64) :
    Line.lexemes (rangeLine name start last step) =
        [⟨"#FOR", false⟩, ⟨name, false⟩, ⟨"FROM", false⟩, ⟨integerText start, false⟩,
          ⟨"TO", false⟩, ⟨integerText last, false⟩] ++
            step.elim [] (fun step => [⟨"STEP", false⟩, ⟨integerText step, false⟩]) ∧
      Line.hasOpenQuote (rangeLine name start last step) = false := by
  have areWords : ∀ word ∈ ["#FOR", name, "FROM", integerText start, "TO", integerText last] ++
      step.elim [] (fun step => ["STEP", integerText step]), Line.BareWord word.toList := by
    have named := bare_word_of_identifier identifier
    have opens : Line.BareWord "#FOR".toList := ⟨by decide, _, _, rfl, by decide⟩
    have starts : Line.BareWord "FROM".toList := ⟨by decide, _, _, rfl, by decide⟩
    have leads : Line.BareWord "TO".toList := ⟨by decide, _, _, rfl, by decide⟩
    have steps : Line.BareWord "STEP".toList := ⟨by decide, _, _, rfl, by decide⟩
    cases step with
    | none =>
        simp only [Option.elim, List.append_nil, List.forall_mem_cons]
        exact ⟨opens, named, starts, bare_word_of_integer start, leads, bare_word_of_integer last,
          List.forall_mem_nil _⟩
    | some step =>
        simp only [Option.elim, List.cons_append, List.nil_append, List.forall_mem_cons]
        exact ⟨opens, named, starts, bare_word_of_integer start, leads, bare_word_of_integer last,
          steps, bare_word_of_integer step, List.forall_mem_nil _⟩
  obtain ⟨read, closed⟩ := Line.scans_of_bare_words areWords
  refine ⟨read.trans ?_, closed⟩
  cases step <;> rfl

theorem read_integer (number : RangeNumber) (value : Int64) :
    readNumber number (some ⟨integerText value, false⟩) = .ok (.integer value) := by
  rw [readNumber, Value.infer_integer_text]

theorem range_of_written (start last : Int64) (step : Option Int64) :
    Range.ofLexemes ([⟨integerText start, false⟩, ⟨"TO", false⟩, ⟨integerText last, false⟩] ++
      step.elim [] (fun step => [⟨"STEP", false⟩, ⟨integerText step, false⟩])) =
        .ok ⟨.integer start, .integer last, step.map .integer⟩ := by
  have leads : Line.Lexeme.isKeyword ⟨"TO", false⟩ "TO" = true := by decide
  have steps : Line.Lexeme.isKeyword ⟨"STEP", false⟩ "STEP" = true := by decide
  cases step with
  | none =>
      simp only [Option.elim, List.append_nil, Range.ofLexemes, List.getElem?_cons_zero,
        List.getElem?_cons_succ, List.getElem?_nil, read_integer, Option.any_some, leads]
      rfl
  | some step =>
      simp only [Option.elim, List.cons_append, List.nil_append, Range.ofLexemes,
        List.getElem?_cons_zero, List.getElem?_cons_succ, List.getElem?_nil, read_integer,
        Option.any_some, leads, steps, if_true]
      rfl

/-- A line over a range takes the values of the range as it was written. -/
theorem clause_of_range_line (identifier : isIdentifier name = true) (start last : Int64)
    (step : Option Int64) (limit : Nat) :
    Clause.ofLine (rangeLine name start last step) limit = (do
      let values ← Range.values ⟨.integer start, .integer last, step.map .integer⟩ limit
      if limit < values.size then throw (.passLimit limit)
      return { name, values }) := by
  obtain ⟨read, closed⟩ := lexemes_of_range_line identifier start last step
  have valued : Clause.readValues (some ⟨"FROM", false⟩)
      ([⟨integerText start, false⟩, ⟨"TO", false⟩, ⟨integerText last, false⟩] ++
        step.elim [] (fun step => [⟨"STEP", false⟩, ⟨integerText step, false⟩])) limit =
          Range.values ⟨.integer start, .integer last, step.map .integer⟩ limit := by
    have notListed : Line.Lexeme.isKeyword ⟨"FROM", false⟩ "IN" = false := by decide
    have ranged : Line.Lexeme.isKeyword ⟨"FROM", false⟩ "FROM" = true := by decide
    simp only [Clause.readValues, notListed, ranged, range_of_written, if_true,
      Bool.false_eq_true, if_false]
    rfl
  rw [clause_of_lexemes read closed identifier, ← valued]
  rfl

end Lines

section Values

variable {start last step : Int}

/-- The step of a range, one towards its end where none is named. -/
def stride (start last : Int64) (step : Option Int64) : Int :=
  (step.map Int64.toInt).getD (if last.toInt < start.toInt then -1 else 1)

/-- A step that leads away from the end. -/
def PointsAway (start last step : Int) : Prop :=
  0 < step ∧ last < start ∨ step < 0 ∧ start < last

/-- How many values there are from the start to the end, if the step leads there. -/
def valueCount (start last step : Int) : Nat :=
  (last - start).natAbs / step.natAbs + 1

theorem values_of_stride (start last : Int64) (step : Option Int64) (limit : Nat) :
    Range.values ⟨.integer start, .integer last, step.map .integer⟩ limit =
      integerRange start.toInt last.toInt (stride start last step) limit := by
  cases step with
  | some step => rfl
  | none =>
      have order : last < start ↔ last.toInt < start.toInt := Int64.lt_iff_toInt_lt
      simp only [Range.values, stride, Option.map_none, Option.getD_none, order]

theorem count_of_towards (nonzero : step ≠ 0) (towards : ¬ PointsAway start last step) :
    (Int.tdiv (last - start) step + 1).toNat = valueCount start last step := by
  have quotient : 0 ≤ Int.tdiv (last - start) step :=
    quotient_nonnegative nonzero (fun away => towards (Or.inl away)) fun away =>
      towards (Or.inr away)
  have magnitude := Int.natAbs_tdiv (last - start) step
  rw [valueCount]
  change _ = (last - start).natAbs.div step.natAbs + 1
  omega

theorem integer_range_of_zero (zero : step = 0) (limit : Nat) :
    integerRange start last step limit = .error (loopFault .zeroStep) := by
  subst zero
  rfl

theorem integer_range_of_away (away : PointsAway start last step) (limit : Nat) :
    integerRange start last step limit = .error (loopFault .wrongDirection) := by
  have nonzero : (step == 0) = false := by
    rw [beq_eq_false_iff_ne]
    rcases away with forward | backward <;> omega
  have pointsAway : (decide (0 < step) && decide (last < start) ||
      decide (step < 0) && decide (start < last)) = true := by
    simpa [PointsAway] using away
  rw [integerRange, nonzero, pointsAway]
  rfl

theorem integer_range_of_towards (nonzero : step ≠ 0) (towards : ¬ PointsAway start last step)
    (limit : Nat) :
    integerRange start last step limit =
      if limit < valueCount start last step then .error (.passLimit limit)
      else .ok ((Array.range (valueCount start last step)).map (integerAt start step)) := by
  have checked : checkDirection (step == 0) (decide (0 < step) && decide (last < start) ||
      decide (step < 0) && decide (start < last)) = .ok () := by
    have notZero : (step == 0) = false := beq_eq_false_iff_ne.mpr nonzero
    have notAway : (decide (0 < step) && decide (last < start) ||
        decide (step < 0) && decide (start < last)) = false := by
      rw [← Bool.not_eq_true]
      simpa [PointsAway] using towards
    rw [notZero, notAway]
    rfl
  rw [integerRange, checked, count_of_towards nonzero towards]
  simp only [bind, Except.bind]
  split <;> rfl

/-- The way from the start to a value and the way to the end, both in the direction of the step. -/
theorem offset_of_towards (nonzero : step ≠ 0) (towards : ¬ PointsAway start last step)
    (index : Nat) :
    0 < step ∧ index * step = (index * step.natAbs : Nat) ∧
        last = start + (last - start).natAbs ∨
      step < 0 ∧ index * step = -(index * step.natAbs : Nat) ∧
        last = start - (last - start).natAbs := by
  have apart := not_or.mp towards
  rcases Int.lt_or_gt_of_ne nonzero with negative | positive
  · have size : (step.natAbs : Int) = -step := Int.ofNat_natAbs_of_nonpos (Int.le_of_lt negative)
    refine Or.inr ⟨negative, ?_, by omega⟩
    rw [Int.natCast_mul, size, Int.mul_neg, Int.neg_neg]
  · have size : (step.natAbs : Int) = step := Int.natAbs_of_nonneg (Int.le_of_lt positive)
    refine Or.inl ⟨positive, ?_, by omega⟩
    rw [Int.natCast_mul, size]

theorem between_of_towards (nonzero : step ≠ 0) (towards : ¬ PointsAway start last step)
    {index : Nat} (inside : index < valueCount start last step) :
    min start last ≤ start + index * step ∧ start + index * step ≤ max start last := by
  have reached : index * step.natAbs ≤ (last - start).natAbs :=
    Nat.le_trans (Nat.mul_le_mul_right _ (Nat.le_of_lt_succ inside)) (Nat.div_mul_le_self _ _)
  rcases offset_of_towards nonzero towards index with ⟨_, offset, distance⟩ | ⟨_, offset, distance⟩
  · rw [offset]
    omega
  · rw [offset]
    omega

/-- One more value would be behind the end. -/
theorem beyond_of_towards (nonzero : step ≠ 0) (towards : ¬ PointsAway start last step) :
    0 < step ∧ last < start + valueCount start last step * step ∨
      step < 0 ∧ start + valueCount start last step * step < last := by
  have passed : (last - start).natAbs < valueCount start last step * step.natAbs := by
    rw [valueCount, Nat.succ_mul]
    exact Nat.lt_div_mul_add (Int.natAbs_pos.mpr nonzero)
  rcases offset_of_towards nonzero towards (valueCount start last step) with
    ⟨positive, offset, distance⟩ | ⟨negative, offset, distance⟩
  · rw [offset]
    omega
  · rw [offset]
    omega

/-- A number between integers of 64 bits is one itself. -/
theorem integer_between {first second : Int64} {number : Int}
    (lower : min first.toInt second.toInt ≤ number)
    (upper : number ≤ max first.toInt second.toInt) :
    (Int64.ofInt number).toInt = number := by
  have firstLower := first.le_toInt
  have firstUpper := first.toInt_lt
  have secondLower := second.le_toInt
  have secondUpper := second.toInt_lt
  exact Int64.toInt_ofInt_of_le (by omega) (by omega)

end Values

section Exactness

variable {name : String} {start last : Int64} {step : Option Int64}

theorem clause_of_refused (identifier : isIdentifier name = true) {limit : Nat}
    {error : DirectiveError}
    (refused : integerRange start.toInt last.toInt (stride start last step) limit = .error error) :
    Clause.ofLine (rangeLine name start last step) limit = .error error := by
  rw [clause_of_range_line identifier, values_of_stride, refused]
  rfl

theorem clause_of_towards (identifier : isIdentifier name = true) (limit : Nat)
    (nonzero : stride start last step ≠ 0)
    (towards : ¬ PointsAway start.toInt last.toInt (stride start last step)) :
    let count := valueCount start.toInt last.toInt (stride start last step)
    Clause.ofLine (rangeLine name start last step) limit =
      if limit < count then .error (.passLimit limit)
      else
        .ok
          { name
            values :=
              (Array.range count).map (integerAt start.toInt (stride start last step)) } := by
  intro count
  have ranged := integer_range_of_towards nonzero towards limit
  by_cases many : limit < count
  · rw [if_pos many] at ranged ⊢
    exact clause_of_refused identifier ranged
  · rw [if_neg many] at ranged ⊢
    rw [clause_of_range_line identifier, values_of_stride, ranged]
    have few : ¬ limit < ((Array.range count).map
        (integerAt start.toInt (stride start last step))).size := by
      rwa [Array.size_map, Array.size_range]
    change (if _ then _ else _) = _
    rw [if_neg few]
    rfl

theorem succeeds_iff (identifier : isIdentifier name = true) (limit : Nat) (read : Clause) :
    let stride := stride start last step
    let count := valueCount start.toInt last.toInt stride
    Clause.ofLine (rangeLine name start last step) limit = .ok read ↔
      stride ≠ 0 ∧ ¬ PointsAway start.toInt last.toInt stride ∧ count ≤ limit ∧
        read = { name, values := (Array.range count).map (integerAt start.toInt stride) } := by
  intro stride count
  by_cases zero : stride = 0
  · rw [clause_of_refused identifier (integer_range_of_zero zero limit)]
    simp [zero]
  by_cases away : PointsAway start.toInt last.toInt stride
  · rw [clause_of_refused identifier (integer_range_of_away away limit)]
    simp [away]
  rw [clause_of_towards identifier limit zero away]
  by_cases many : limit < count
  · rw [if_pos many]
    simp [Nat.not_le.mpr many]
  · rw [if_neg many, Except.ok.injEq, eq_comm]
    simp [zero, away, Nat.not_lt.mp many, stride, count]

/-- A value of the range is computed exactly. -/
theorem value_of_towards (nonzero : stride start last step ≠ 0)
    (towards : ¬ PointsAway start.toInt last.toInt (stride start last step)) {index : Nat}
    (inside : index < valueCount start.toInt last.toInt (stride start last step)) :
    ∃ value : Int64,
      integerAt start.toInt (stride start last step) index = .integer value ∧
      value.toInt = start.toInt + index * stride start last step ∧
      min start.toInt last.toInt ≤ value.toInt ∧ value.toInt ≤ max start.toInt last.toInt := by
  obtain ⟨lower, upper⟩ := between_of_towards nonzero towards inside
  have exactly := integer_between lower upper
  refine ⟨Int64.ofInt (start.toInt + index * stride start last step), rfl, exactly, ?_, ?_⟩
  · rwa [exactly]
  · rwa [exactly]

/-- A line over a range of integers is refused for a step of zero, then for a step that leads away
from its end, and then for having more values than the limit. Otherwise it takes as many values as
steps fit between the start and the end, and one more: the start with so many steps added, exactly.
All lie between the start and the end, and the next one would not. -/
theorem integer_range_is_exact (identifier : isIdentifier name = true) (start last : Int64)
    (step : Option Int64) (limit : Nat) :
    let clause := Clause.ofLine (rangeLine name start last step) limit
    let stride := stride start last step
    let count := (last.toInt - start.toInt).natAbs / stride.natAbs + 1
    let away := 0 < stride ∧ last.toInt < start.toInt ∨ stride < 0 ∧ start.toInt < last.toInt
    ((∃ read, clause = .ok read) ↔ stride ≠ 0 ∧ ¬ away ∧ count ≤ limit) ∧
    (stride = 0 → clause = .error (.malformed .loop (.loop .zeroStep))) ∧
    (away → clause = .error (.malformed .loop (.loop .wrongDirection))) ∧
    (stride ≠ 0 → ¬ away → limit < count → clause = .error (.passLimit limit)) ∧
    ∀ read, clause = .ok read →
      read.name = name ∧ read.values.size = count ∧
      (∀ index < count, ∃ value : Int64,
        read.values[index]? = some (.integer value) ∧
        value.toInt = start.toInt + index * stride ∧
        min start.toInt last.toInt ≤ value.toInt ∧ value.toInt ≤ max start.toInt last.toInt) ∧
      (0 < stride ∧ last.toInt < start.toInt + count * stride ∨
        stride < 0 ∧ start.toInt + count * stride < last.toInt) := by
  intro clause stride count away
  have ofZero : stride = 0 → clause = .error (loopFault .zeroStep) := fun zero =>
    clause_of_refused identifier (integer_range_of_zero zero limit)
  have ofAway : away → clause = .error (loopFault .wrongDirection) := fun pointsAway =>
    clause_of_refused identifier (integer_range_of_away pointsAway limit)
  have succeeds (read : Clause) : clause = .ok read ↔ stride ≠ 0 ∧ ¬ away ∧ count ≤ limit ∧
      read = ⟨name, (Array.range count).map (integerAt start.toInt stride)⟩ :=
    succeeds_iff identifier limit read
  refine ⟨?_, ofZero, ofAway, ?_, ?_⟩
  · constructor
    · rintro ⟨read, succeeded⟩
      obtain ⟨nonzero, towards, few, _⟩ := (succeeds read).mp succeeded
      exact ⟨nonzero, towards, few⟩
    · rintro ⟨nonzero, towards, few⟩
      exact ⟨_, (succeeds _).mpr ⟨nonzero, towards, few, rfl⟩⟩
  · intro nonzero towards many
    exact (clause_of_towards identifier limit nonzero towards).trans (if_pos many)
  · intro read succeeded
    obtain ⟨nonzero, towards, _, rfl⟩ := (succeeds read).mp succeeded
    refine ⟨rfl, by rw [Array.size_map, Array.size_range], ?_, beyond_of_towards nonzero towards⟩
    intro index inside
    obtain ⟨value, at_index, exactly, between⟩ := value_of_towards nonzero towards inside
    refine ⟨value, ?_, exactly, between⟩
    rw [Array.getElem?_map, Array.getElem?_range, if_pos inside]
    exact congrArg some at_index

/-- From the least integer to the greatest, in steps of the greatest: a distance that 64 bits cannot
hold, and three values of which the last stops one short of the end. A limit of two is too low. -/
theorem integer_range_is_exact_widest :
    let line := rangeLine "i" Int64.minValue Int64.maxValue (some Int64.maxValue)
    isIdentifier "i" = true ∧ Clause.ofLine line 2 = .error (.passLimit 2) ∧
      ∃ read, Clause.ofLine line 3 = .ok read ∧ read.values.size = 3 ∧
        ∃ value : Int64, read.values[2]? = some (.integer value) ∧
          value.toInt = Int64.maxValue.toInt - 1 := by
  intro line
  have identifier : isIdentifier "i" = true := by decide
  have exactly := integer_range_is_exact identifier Int64.minValue Int64.maxValue
    (some Int64.maxValue)
  have nonzero : stride Int64.minValue Int64.maxValue (some Int64.maxValue) ≠ 0 := by decide
  have towards : ¬ (0 < stride Int64.minValue Int64.maxValue (some Int64.maxValue) ∧
      Int64.maxValue.toInt < Int64.minValue.toInt ∨
        stride Int64.minValue Int64.maxValue (some Int64.maxValue) < 0 ∧
          Int64.minValue.toInt < Int64.maxValue.toInt) := by decide
  refine ⟨identifier, (exactly 2).2.2.2.1 nonzero towards (by decide), ?_⟩
  obtain ⟨read, succeeded⟩ := (exactly 3).1.mpr ⟨nonzero, towards, by decide⟩
  obtain ⟨_, size, values, _⟩ := (exactly 3).2.2.2.2 read succeeded
  obtain ⟨value, third, exactValue, _⟩ := values 2 (by decide)
  exact ⟨read, succeeded, size, value, third, exactValue.trans (by decide)⟩

end Exactness

end LineTemplate.Loop

import Karabiner.Manipulator.ScrollCounter
import Mathlib.Tactic.Linarith
import Mathlib.Tactic.Ring

/-! # The arithmetic of the scroll counter

What the conversions between `double` and `int` keep, that both loops of `convert` end and lose
nothing, that `reduce` brings a total nearer to zero, and which motion a chunk has. An `int`
that leaves its range is the only thing that stops any of them.
-/

namespace Karabiner.MouseMotionToScroll

open Foundation

/-! ## Facts of the arithmetic -/

section Arithmetic

variable [OutOfRangeConversion]

omit [OutOfRangeConversion] in
theorem makeInt_yields (value : Int) :
    UnlessOverflow (fun made => made = value ∧ IsInt value) (makeInt value) := by
  unfold makeInt
  split
  · exact ⟨rfl, ‹_›⟩
  · rfl

omit [OutOfRangeConversion] in
theorem divide_yields (value : ℚ) {divisor : ℚ} (nonzero : divisor ≠ 0) :
    UnlessOverflow (· = value / divisor) (divide value divisor) := by
  rw [divide, if_neg nonzero]
  exact Yields.ok rfl

omit [OutOfRangeConversion] in
theorem towardZero_nonneg {value : ℚ} (nonneg : 0 ≤ value) : 0 ≤ towardZero value := by
  rw [towardZero, if_pos nonneg]
  exact Int.floor_nonneg.mpr nonneg

omit [OutOfRangeConversion] in
theorem towardZero_nonpos {value : ℚ} (nonpos : value ≤ 0) : towardZero value ≤ 0 := by
  by_cases zero : 0 ≤ value
  · have isZero : value = 0 := le_antisymm nonpos zero
    simp [towardZero, isZero]
  · simpa only [towardZero, if_neg zero] using Int.ceil_le.mpr (by exact_mod_cast nonpos)

omit [OutOfRangeConversion] in
@[simp] theorem towardZero_zero : towardZero 0 = 0 := by simp [towardZero]

theorem truncate_of_fits {value : ℚ} (fits : IsInt (towardZero value)) :
    truncate value = towardZero value := if_pos fits

@[simp] theorem truncate_zero : truncate 0 = 0 := by
  rw [truncate_of_fits (by rw [towardZero_zero]; decide), towardZero_zero]

/-- A whole number that an `int` holds stays what it is. -/
theorem truncate_intCast {value : Int} (isInt : IsInt value) : truncate (value : ℚ) = value := by
  have whole : towardZero (value : ℚ) = value := by
    unfold towardZero
    rw [Int.floor_intCast, Int.ceil_intCast, ite_self]
  rw [truncate_of_fits (by rw [whole]; exact isInt), whole]

/-- A motion that is multiplied by something positive and truncated keeps its side, if the
product is in the range of `int`. -/
theorem truncate_mul {multiplier : ℚ} (positive : 0 < multiplier) {value : Int}
    (fits : IsInt (towardZero (value * multiplier))) :
    (0 ≤ value → 0 ≤ truncate (value * multiplier)) ∧
      (value ≤ 0 → truncate (value * multiplier) ≤ 0) := by
  rw [truncate_of_fits fits]
  constructor
  · intro nonneg
    exact towardZero_nonneg (mul_nonneg (by exact_mod_cast nonneg) positive.le)
  · intro nonpos
    exact towardZero_nonpos (mul_nonpos_of_nonpos_of_nonneg (by exact_mod_cast nonpos)
      positive.le)

/-- A part of a total that is rounded up keeps its side. -/
theorem roundUp_mul {total : Int} (bounded : |total| ≤ 2147483647) {scale : ℚ} (nonneg : 0 ≤ scale)
    (atMostOne : scale ≤ 1) :
    (0 ≤ total → 0 ≤ roundUp (total * scale)) ∧ (total ≤ 0 → roundUp (total * scale) ≤ 0) := by
  obtain ⟨low, high⟩ := abs_le.mp bounded
  rcases lt_trichotomy (total * scale : ℚ) 0 with negative | zero | positive
  · have isNegative : total < 0 := by
      by_contra notNegative
      exact absurd negative (not_lt.mpr (mul_nonneg (by exact_mod_cast not_lt.mp notNegative)
        nonneg))
    have above : total ≤ ⌈(total * scale : ℚ)⌉ := by
      have le : (total : ℚ) ≤ total * scale :=
        le_mul_of_le_one_right (by exact_mod_cast isNegative.le) atMostOne
      exact_mod_cast le.trans (Int.le_ceil _)
    have below : ⌈(total * scale : ℚ)⌉ ≤ 0 := Int.ceil_le.mpr (by exact_mod_cast negative.le)
    have isInt : IsInt (⌈(total * scale : ℚ)⌉ - 1) := by
      constructor <;> omega
    have rounded : roundUp (total * scale) = ⌈(total * scale : ℚ)⌉ - 1 := by
      rw [roundUp, if_neg (not_lt_of_gt negative), if_pos negative, truncate_intCast isInt]
    rw [rounded]
    constructor <;> intro _ <;> omega
  · rw [zero]
    simp [roundUp]
  · have isPositive : 0 < total := by
      by_contra notPositive
      exact absurd positive (not_lt.mpr (mul_nonpos_of_nonpos_of_nonneg
        (by exact_mod_cast not_lt.mp notPositive) nonneg))
    have below : ⌈(total * scale : ℚ)⌉ ≤ total :=
      Int.ceil_le.mpr (mul_le_of_le_one_right (by exact_mod_cast isPositive.le) atMostOne)
    have above : 0 < ⌈(total * scale : ℚ)⌉ := Int.ceil_pos.mpr positive
    have isInt : IsInt ⌈(total * scale : ℚ)⌉ := by
      constructor <;> omega
    have rounded : roundUp (total * scale) = ⌈(total * scale : ℚ)⌉ := by
      rw [roundUp, if_pos positive, truncate_intCast isInt]
    rw [rounded]
    constructor <;> intro _ <;> omega

omit [OutOfRangeConversion]

@[simp] theorem makeSign_eq_plus {value : Int} : makeSign value = .plus ↔ 0 < value := by
  unfold makeSign
  split
  · simpa
  · split <;> simp <;> omega

@[simp] theorem makeSign_eq_minus {value : Int} : makeSign value = .minus ↔ value < 0 := by
  unfold makeSign
  split
  · simp
    omega
  · split <;> simp <;> omega

variable {options : Options}

/-- One loop of `convert` takes the threshold off as often as it counts, and stays on its
side of zero. -/
theorem convertLoop_spec (options : Options) {sign : Int} (unit : sign = 1 ∨ sign = -1)
    (turns : Nat) (value result : Int) (enough : sign * value ≤ turns) :
    ∃ left count, convertLoop options sign turns (value, result) =
        .ok (left, result + sign * count) ∧ 0 ≤ count ∧
      left + options.threshold * (sign * count) = value ∧
      (0 < count → 0 ≤ sign * left) := by
  have positive := options.threshold_pos
  induction turns generalizing value result with
  | zero =>
      have below : ¬ sign * value ≥ options.threshold := by
        have : sign * value ≤ 0 := by exact_mod_cast enough
        omega
      exact ⟨value, 0, by simp [convertLoop, below], le_rfl, by simp, by simp⟩
  | succ turns ih =>
      by_cases reached : sign * value ≥ options.threshold
      · have square : sign * sign = 1 := by rcases unit with rfl | rfl <;> rfl
        have stepped : sign * (value - sign * options.threshold) =
            sign * value - options.threshold := by
          rw [mul_sub, ← mul_assoc, square, one_mul]
        cases enabled : options.momentumScrollEnabled with
        | true =>
            refine ⟨value - sign * options.threshold, 1, ?_, by omega, by ring, fun _ => ?_⟩
            · simp [convertLoop, reached, enabled]
            · rw [stepped]
              omega
        | false =>
            obtain ⟨left, count, run, nonneg, balance, side⟩ :=
              ih (value - sign * options.threshold) (result + sign)
                (by rw [stepped]; push_cast at enough; omega)
            refine ⟨left, count + 1, ?_, by omega, ?_, fun _ => ?_⟩
            · simp only [convertLoop, if_pos reached, enabled, Bool.false_eq_true, if_false, run]
              ring_nf
            · have more : options.threshold * (sign * (count + 1)) =
                  options.threshold * (sign * count) + sign * options.threshold := by ring
              omega
            · rcases nonneg.eq_or_lt with none | some
              · have same : left = value - sign * options.threshold := by
                  rw [← none] at balance
                  simpa using balance
                rw [same, stepped]
                omega
              · exact side some
      · exact ⟨value, 0, by simp [convertLoop, reached], le_rfl, by simp, by simp⟩

/-- A loop that has ended is not changed by further turns. -/
theorem convertLoop_succ {sign : Int} {turns : Nat} {pair ended : Int × Int}
    (run : convertLoop options sign turns pair = .ok ended) :
    convertLoop options sign (turns + 1) pair = .ok ended := by
  induction turns generalizing pair with
  | zero =>
      obtain ⟨value, result⟩ := pair
      by_cases reached : sign * value ≥ options.threshold
      · simp [convertLoop, reached] at run
      · simpa [convertLoop, reached] using run
  | succ turns ih =>
      obtain ⟨value, result⟩ := pair
      by_cases reached : sign * value ≥ options.threshold
      · cases enabled : options.momentumScrollEnabled with
        | true => simpa [convertLoop, reached, enabled] using run
        | false =>
            rw [convertLoop, if_pos reached] at run ⊢
            simp only [enabled, Bool.false_eq_true, if_false] at run ⊢
            exact ih run
      · rw [convertLoop, if_neg reached] at run ⊢
        exact run

theorem convertLoop_of_le {sign : Int} {turns more : Nat} (le : turns ≤ more)
    {pair ended : Int × Int} (run : convertLoop options sign turns pair = .ok ended) :
    convertLoop options sign more pair = .ok ended := by
  induction more, le using Nat.le_induction with
  | base => exact run
  | succ more _ ih => exact convertLoop_succ ih

theorem convertWithin_of_le {turns more : Nat} (le : turns ≤ more) {value : Int}
    {ended : Int × Int} (run : convertWithin options turns value = .ok ended) :
    convertWithin options more value = .ok ended := by
  unfold convertWithin at run ⊢
  cases first : convertLoop options 1 turns (value, 0) with
  | error fault =>
      rw [first] at run
      cases run
  | ok down =>
      rw [first] at run
      rw [convertLoop_of_le le first]
      exact convertLoop_of_le le run

/-- What `convert` does: it ends, the result counts the thresholds it took, and neither the
rest nor the result goes against the value. -/
theorem convert_spec (options : Options) (value : Int) :
    ∃ left result, convert options value = .ok (left, result) ∧
      left + options.threshold * result = value ∧
      (0 ≤ value → 0 ≤ left ∧ 0 ≤ result) ∧ (value ≤ 0 → left ≤ 0 ∧ result ≤ 0) := by
  have positive := options.threshold_pos
  obtain ⟨down, taken, first, takenNonneg, firstBalance, firstSide⟩ :=
    convertLoop_spec options (.inl (Eq.refl 1)) value.natAbs value 0 (by omega)
  have downLow : -1 * down ≤ value.natAbs := by
    rcases takenNonneg.eq_or_lt with none | some
    · rw [← none] at firstBalance
      omega
    · have := firstSide some
      omega
  obtain ⟨left, added, second, addedNonneg, secondBalance, secondSide⟩ :=
    convertLoop_spec options (.inr (Eq.refl (-1))) value.natAbs down (0 + 1 * taken) downLow
  have takenZero : value ≤ 0 → taken = 0 := by
    intro nonpos
    by_contra nonzero
    have side := firstSide (by omega)
    have product := Int.mul_pos (show 0 < options.threshold by omega) (show 0 < taken by omega)
    rw [one_mul] at firstBalance
    omega
  have addedZero : 0 ≤ down → added = 0 := by
    intro nonneg
    by_contra nonzero
    have side := secondSide (by omega)
    have product := Int.mul_pos (show 0 < options.threshold by omega) (show 0 < added by omega)
    rw [mul_left_comm] at secondBalance
    omega
  refine ⟨left, taken - added, ?_, ?_, fun nonneg => ?_, fun nonpos => ?_⟩
  · rw [convert, convertWithin, first]
    refine second.trans ?_
    simp [sub_eq_add_neg]
  · linarith
  · have downNonneg : 0 ≤ down := by
      rcases takenNonneg.eq_or_lt with none | some
      · rw [← none] at firstBalance
        omega
      · have := firstSide some
        omega
    have none := addedZero downNonneg
    rw [none] at secondBalance ⊢
    omega
  · have none := takenZero nonpos
    rw [none] at firstBalance
    rcases addedNonneg.eq_or_lt with zero | some
    · rw [← zero] at secondBalance
      omega
    · have := secondSide some
      omega

theorem convert_yields (options : Options) (value : Int) :
    UnlessOverflow (fun converted => converted.1 + options.threshold * converted.2 = value ∧
      (0 ≤ value → 0 ≤ converted.1 ∧ 0 ≤ converted.2) ∧
      (value ≤ 0 → converted.1 ≤ 0 ∧ converted.2 ≤ 0)) (convert options value) := by
  obtain ⟨left, result, converts, spent⟩ := convert_spec options value
  rw [converts]
  exact Yields.ok spent

/-- `reduce` by at least one brings a value nearer to zero. -/
theorem reduce_spec {amount : Option Int} {value : Int}
    (assigned : value ≠ 0 → ∃ minus, amount = some minus ∧ 1 ≤ minus) :
    UnlessOverflow (fun reduced =>
      (value ≠ 0 → reduced.natAbs < value.natAbs) ∧ (value = 0 → reduced = 0) ∧
      (0 < reduced → 0 < value) ∧ (reduced < 0 → value < 0)) (reduce value amount) := by
  rcases lt_trichotomy value 0 with negative | rfl | positive
  · obtain ⟨minus, rfl, atLeast⟩ := assigned negative.ne
    rw [reduce, if_neg (not_lt_of_gt negative), if_pos negative]
    refine (makeInt_yields (-value)).bind fun negated isNegated => ?_
    refine (makeInt_yields _).imp fun reduced isReduced => ?_
    omega
  · rw [reduce, if_neg (lt_irrefl 0), if_neg (lt_irrefl 0)]
    exact Yields.pure (by simp)
  · obtain ⟨minus, rfl, atLeast⟩ := assigned positive.ne'
    rw [reduce, if_pos positive]
    refine (makeInt_yields _).imp fun reduced isReduced => ?_
    omega

end Arithmetic

/-! ## Chunks -/

/-- The motion of a chunk: the larger one of what goes up and what goes down in it, or, when
they are equal, the one that came last. -/
def chunkMotion (values : List Int) : Int :=
  let up := (values.filter fun value => 0 < value).sum
  let down := (values.filter fun value => value < 0).sum
  if |up| > |down| then up
  else if |up| < |down| then down
  else
    match makeSign ((values.filter fun value => value ≠ 0).getLast?.getD 0) with
    | .zero => 0
    | .plus => up
    | .minus => down

@[simp] theorem chunkMotion_nil : chunkMotion [] = 0 := rfl

namespace CounterChunkValue

/-- The chunk has taken in the values. -/
structure Sums (chunk : CounterChunkValue) (values : List Int) : Prop where
  plusValue : chunk.plusValue = (values.filter fun value => 0 < value).sum
  minusValue : chunk.minusValue = (values.filter fun value => value < 0).sum
  lastSign : chunk.lastSign = makeSign ((values.filter fun value => value ≠ 0).getLast?.getD 0)

theorem sums_empty : empty.Sums [] := ⟨rfl, rfl, rfl⟩

/-- A chunk that takes in one more value. -/
theorem Sums.add {chunk : CounterChunkValue} {values : List Int} (sums : chunk.Sums values)
    (value : Int) :
    UnlessOverflow (fun next : CounterChunkValue => next.Sums (values ++ [value]))
      (chunk.add value) := by
  obtain ⟨plusValue, minusValue, lastSign⟩ := sums
  have signed : UnlessOverflow (fun next : CounterChunkValue => next.Sums (values ++ [value]))
      (chunk.addSigned value) := by
    unfold addSigned
    rcases lt_trichotomy value 0 with negative | rfl | positive
    · rw [if_neg (not_lt_of_gt negative), if_pos negative]
      refine (makeInt_yields _).bind fun _ made => Yields.pure ⟨?_, ?_, ?_⟩
      · simpa [List.filter_append, not_lt_of_gt negative] using plusValue
      · simp [List.filter_append, negative, made.1, minusValue]
      · simpa [List.filter_append, negative.ne] using (makeSign_eq_minus.mpr negative).symm
    · rw [if_neg (lt_irrefl 0), if_neg (lt_irrefl 0)]
      exact Yields.pure ⟨by simpa [List.filter_append] using plusValue,
        by simpa [List.filter_append] using minusValue,
        by simpa [List.filter_append] using lastSign⟩
    · rw [if_pos positive]
      refine (makeInt_yields _).bind fun _ made => Yields.pure ⟨?_, ?_, ?_⟩
      · simp [List.filter_append, positive, made.1, plusValue]
      · simpa [List.filter_append, not_lt_of_gt positive] using minusValue
      · simpa [List.filter_append, positive.ne'] using (makeSign_eq_plus.mpr positive).symm
  refine signed.bind fun next sums => ?_
  refine (makeInt_yields _).bind fun _ _ => (makeInt_yields _).bind fun _ _ => ?_
  exact Yields.pure ⟨sums.plusValue, sums.minusValue, sums.lastSign⟩

/-- `make_accumulated_value` is the motion of the chunk. -/
theorem Sums.makeAccumulatedValue {chunk : CounterChunkValue} {values : List Int}
    (sums : chunk.Sums values) : chunk.makeAccumulatedValue = chunkMotion values := by
  obtain ⟨_, _, _, _⟩ := chunk
  obtain ⟨rfl, rfl, rfl⟩ := sums
  rfl

end CounterChunkValue

/-- The loop over the entries took some of them in, and leaves those behind them. -/
structure Takes (entries taken : List CounterEntry) (result : Chunk × List CounterEntry) :
    Prop where
  entries : entries = taken ++ result.2
  x : result.1.x.Sums (taken.map CounterEntry.x)
  y : result.1.y.Sums (taken.map CounterEntry.y)

/-- A chunk takes entries from the front, and its sums are those of the entries, as long as the
integers are in range. -/
theorem accumulateChunk_spec (options : Options) (frontTimePoint : Int)
    (seen entries : List CounterEntry) (chunk : Chunk)
    (x : chunk.x.Sums (seen.map CounterEntry.x)) (y : chunk.y.Sums (seen.map CounterEntry.y)) :
    UnlessOverflow (fun result => ∃ taken, Takes (seen ++ entries) (seen ++ taken) result)
      (accumulateChunk options frontTimePoint entries chunk) := by
  induction entries generalizing seen chunk with
  | nil => exact ⟨[], by simp, by simpa using x, by simpa using y⟩
  | cons entry rest ih =>
      rw [accumulateChunk]
      split
      · refine (x.add entry.x).bind fun nextX sumsX => (y.add entry.y).bind fun nextY sumsY => ?_
        have further := ih (seen ++ [entry]) ⟨nextX, nextY, some entry.timePoint⟩
          (by simpa using sumsX) (by simpa using sumsY)
        refine further.imp fun result ⟨taken, takes⟩ => ⟨entry :: taken, ?_⟩
        simpa only [List.append_assoc, List.singleton_append] using takes
      · exact ⟨[], by simp, by simpa using x, by simpa using y⟩

/-- The front entry is always taken. -/
theorem accumulateChunk_front (options : Options) (front : CounterEntry)
    (rest : List CounterEntry) (lastEntryTimePoint : Option Int) :
    UnlessOverflow (fun result => ∃ taken, taken ≠ [] ∧ Takes (front :: rest) taken result)
      (accumulateChunk options front.timePoint (front :: rest)
        ⟨.empty, .empty, lastEntryTimePoint⟩) := by
  have near : front.timePoint - front.timePoint ≤ options.recentTimeDurationMilliseconds := by
    have := options.recentTimeDurationMilliseconds_pos
    omega
  have empty := CounterChunkValue.sums_empty
  rw [accumulateChunk, if_pos near]
  refine (empty.add front.x).bind fun x sumsX => (empty.add front.y).bind fun y sumsY => ?_
  have further := accumulateChunk_spec options front.timePoint [front] rest
    ⟨x, y, some front.timePoint⟩ sumsX sumsY
  exact further.imp fun result ⟨taken, takes⟩ => ⟨front :: taken, List.cons_ne_nil _ _, takes⟩

end Karabiner.MouseMotionToScroll

import Karabiner.Manipulator.ScrollArithmetic

/-! # What a tick of the scroll counter does

One fact for `process_entries` and `scroll` each: only an `int` that leaves its range stops
them, what is added to the momentum of an axis is converted or left, and as long as the
products fit an axis goes on in the direction of the motion it was given since it was last
reset (`Axis.Follows`).
-/

namespace Karabiner.MouseMotionToScroll

open Foundation

/-! ## Axes -/

namespace AxisLog

/-- The motion an axis has been given since it was reset, after one more step. -/
def accumulate (log : AxisLog) (accumulated : Int) : Int :=
  if log.reset then log.added else accumulated + log.added

/-- The motion that was taken in is in the range of `int` after it is multiplied. -/
def Fits (multiplier : ℚ) (log : AxisLog) : Prop := IsInt (towardZero (log.added * multiplier))

theorem fits_of_added_eq_zero {log : AxisLog} (noMotion : log.added = 0) (multiplier : ℚ) :
    log.Fits multiplier := by
  rw [Fits, noMotion, Int.cast_zero, zero_mul, towardZero_zero]
  decide

end AxisLog

namespace Axis

/-- The total and the momentum of the axis do not go against the motion. -/
structure Follows (axis : Axis) (accumulated : Int) : Prop where
  total_pos : 0 < axis.total → 0 < accumulated
  total_neg : axis.total < 0 → accumulated < 0
  momentum_pos : 0 < axis.momentum → 0 < accumulated
  momentum_neg : axis.momentum < 0 → accumulated < 0

/-- The axis has neither a total nor a momentum. -/
def IsIdle (axis : Axis) : Prop := axis.total = 0 ∧ axis.momentum = 0

theorem IsIdle.follows {axis : Axis} (idle : axis.IsIdle) (accumulated : Int) :
    axis.Follows accumulated := by
  obtain ⟨total, momentum⟩ := idle
  constructor <;> omega

@[simp] theorem empty_isIdle : empty.IsIdle := ⟨rfl, rfl⟩

@[simp] theorem reset_total (axis : Axis) : axis.reset.total = 0 := rfl

@[simp] theorem reset_momentum (axis : Axis) : axis.reset.momentum = 0 := rfl

theorem reset_isIdle (axis : Axis) : axis.reset.IsIdle := ⟨rfl, rfl⟩

@[simp] theorem enlarge_momentum (leastValue : Int) (axis : Axis) :
    (axis.enlarge leastValue).momentum = axis.momentum := by
  unfold enlarge
  split
  · rfl
  · split <;> rfl

theorem enlarge_sign {leastValue : Int} (positive : 1 ≤ leastValue) (axis : Axis) :
    (0 < (axis.enlarge leastValue).total ↔ 0 < axis.total) ∧
      ((axis.enlarge leastValue).total < 0 ↔ axis.total < 0) := by
  unfold enlarge
  split
  · simp only
    omega
  · split
    · simp only
      omega
    · exact ⟨Iff.rfl, Iff.rfl⟩

theorem Follows.enlarge {axis : Axis} {accumulated leastValue : Int}
    (follows : axis.Follows accumulated) (positive : 1 ≤ leastValue) :
    (axis.enlarge leastValue).Follows accumulated := by
  obtain ⟨pos, neg⟩ := axis.enlarge_sign positive
  refine ⟨fun h => follows.total_pos (pos.mp h), fun h => follows.total_neg (neg.mp h), ?_, ?_⟩
  · simpa using follows.momentum_pos
  · simpa using follows.momentum_neg

theorem IsIdle.enlarge {axis : Axis} (idle : axis.IsIdle) (leastValue : Int) :
    (axis.enlarge leastValue).IsIdle := by
  obtain ⟨total, momentum⟩ := idle
  simp [IsIdle, Axis.enlarge, total, momentum]

theorem signs_of_not_signChanged {axis : Axis} {value : Int}
    (same : axis.signChanged value = false) :
    (0 < value → 0 < axis.total) ∧ (value < 0 → axis.total < 0) := by
  have agree : value ≠ 0 → makeSign axis.total = makeSign value := by
    intro nonzero
    by_contra differ
    simp [signChanged, nonzero, differ] at same
  constructor
  · intro positive
    rw [← makeSign_eq_plus, agree positive.ne', makeSign_eq_plus]
    exact positive
  · intro negative
    rw [← makeSign_eq_minus, agree negative.ne, makeSign_eq_minus]
    exact negative

variable [OutOfRangeConversion]

/-- The axis that `addMotion` makes, if no `int` leaves its range. -/
def withMotion (multiplier : ℚ) (value : Int) (axis : Axis) : Axis :=
  let axis := if axis.signChanged value then axis.reset else axis
  { axis with total := axis.total + truncate (value * multiplier) }

theorem addMotion_yields (axis : Axis) (multiplier : ℚ) (value : Int) :
    UnlessOverflow (· = axis.withMotion multiplier value) (axis.addMotion multiplier value) := by
  refine (makeInt_yields _).bind fun total made => Yields.pure ?_
  rw [made.1]
  rfl

/-- Adding a motion keeps the axis on its side: where it would change sides the axis is reset
before. -/
theorem Follows.withMotion {axis : Axis} {accumulated value : Int} {multiplier : ℚ}
    (follows : axis.Follows accumulated) {zeroed : Bool} (idle : zeroed = true → axis.IsIdle)
    (positive : 0 < multiplier) (fits : IsInt (towardZero (value * multiplier))) :
    (axis.withMotion multiplier value).Follows (AxisLog.accumulate
      ⟨zeroed || axis.signChanged value, value, 0, 0⟩ accumulated) := by
  obtain ⟨up, down⟩ := truncate_mul positive fits
  generalize isAdded : truncate (value * multiplier) = added at up down
  cases changed : axis.signChanged value with
  | true =>
      simp only [Axis.withMotion, changed, isAdded, AxisLog.accumulate, Bool.or_true, if_true]
      constructor <;> simp only [reset_total, reset_momentum] <;> omega
  | false =>
      obtain ⟨above, below⟩ := signs_of_not_signChanged changed
      obtain ⟨total_pos, total_neg, momentum_pos, momentum_neg⟩ := follows
      simp only [Axis.withMotion, changed, isAdded, AxisLog.accumulate, Bool.or_false,
        Bool.false_eq_true, if_false]
      cases isZeroed : zeroed with
      | true =>
          obtain ⟨total, momentum⟩ := idle isZeroed
          constructor <;> simp only [total, momentum, if_true] <;> omega
      | false =>
          simp only [Bool.false_eq_true, if_false]
          constructor <;> dsimp only <;> omega

/-- A motion that was taken away by the direction leaves an idle axis idle. -/
theorem IsIdle.withMotion {axis : Axis} (idle : axis.IsIdle) (multiplier : ℚ) :
    (axis.withMotion multiplier 0).IsIdle := by
  obtain ⟨total, momentum⟩ := idle
  simp [IsIdle, Axis.withMotion, signChanged, total, momentum]

theorem withMotion_momentum (axis : Axis) (multiplier : ℚ) (value : Int) :
    (axis.withMotion multiplier value).momentum =
      if axis.signChanged value then 0 else axis.momentum := by
  unfold withMotion
  split <;> simp [*]

/-- A total that becomes other than zero was so before, or the axis was reset. -/
theorem withMotion_total_ne_zero {axis : Axis} {multiplier : ℚ} {value : Int}
    (nonzero : (axis.withMotion multiplier value).total ≠ 0)
    (same : axis.signChanged value = false) : axis.total ≠ 0 := by
  obtain ⟨above, below⟩ := signs_of_not_signChanged same
  rcases lt_trichotomy value 0 with negative | rfl | positive
  · exact (below negative).ne
  · simpa [withMotion, same] using nonzero
  · exact (above positive).ne'

end Axis

/-- An axis that is left alone or moved: a reset sets its momentum to zero, what is added to
the momentum is converted or left, and if the motion fits the axis follows it and what is
converted goes with it. -/
structure AxisMoved (options : Options) (multiplier : ℚ) (before after : Axis) (log : AxisLog) :
    Prop where
  momentum : after.momentum + options.threshold * log.converted =
    (if log.reset then 0 else before.momentum) + log.delta
  follows : log.Fits multiplier → ∀ accumulated, before.Follows accumulated →
    after.Follows (log.accumulate accumulated) ∧
      (0 < log.converted → 0 < log.accumulate accumulated) ∧
      (log.converted < 0 → log.accumulate accumulated < 0)

namespace AxisMoved

variable {options : Options} {multiplier : ℚ} {before after : Axis} {log : AxisLog}

theorem refl (options : Options) (multiplier : ℚ) (axis : Axis) :
    AxisMoved options multiplier axis axis .still := by
  refine ⟨by simp [AxisLog.still], fun _ accumulated follows => ?_⟩
  simpa [AxisLog.still, AxisLog.accumulate] using follows

/-- The motion of a chunk moves an axis whose accumulators are kept or were zeroed. -/
theorem withMotion [OutOfRangeConversion] {axis : Axis} {zeroed : Bool}
    (idle : zeroed = true → axis.IsIdle)
    (kept : zeroed = false → axis.total = before.total ∧ axis.momentum = before.momentum)
    (positive : 0 < multiplier) (value : Int) :
    AxisMoved options multiplier before (axis.withMotion multiplier value)
      ⟨zeroed || axis.signChanged value, value, 0, 0⟩ := by
  refine ⟨?_, fun fits accumulated follows => ⟨?_, by simp, by simp⟩⟩
  · rw [Axis.withMotion_momentum]
    cases isZeroed : zeroed with
    | true => simp [(idle isZeroed).2]
    | false => simp [(kept isZeroed).2]
  · have goesOn : axis.Follows accumulated := by
      cases isZeroed : zeroed with
      | true => exact (idle isZeroed).follows accumulated
      | false =>
          obtain ⟨total, momentum⟩ := kept isZeroed
          constructor
          · exact fun h => follows.total_pos (total ▸ h)
          · exact fun h => follows.total_neg (total ▸ h)
          · exact fun h => follows.momentum_pos (momentum ▸ h)
          · exact fun h => follows.momentum_neg (momentum ▸ h)
    exact goesOn.withMotion idle positive fits

theorem enlarge (moved : AxisMoved options multiplier before after log) {leastValue : Int}
    (positive : 1 ≤ leastValue) :
    AxisMoved options multiplier before (after.enlarge leastValue) log := by
  refine ⟨?_, fun fits accumulated follows => ?_⟩
  · rw [Axis.enlarge_momentum]
    exact moved.momentum
  · obtain ⟨next, converted⟩ := moved.follows fits accumulated follows
    exact ⟨next.enlarge positive, converted⟩

/-- An idle axis that is given no motion stays idle, and nothing is converted. -/
theorem isIdle (moved : AxisMoved options multiplier before after log) (idle : before.IsIdle)
    (noMotion : log.added = 0) : after.IsIdle ∧ log.converted = 0 := by
  have none : log.accumulate 0 = 0 := by simp [AxisLog.accumulate, noMotion]
  obtain ⟨next, converted_pos, converted_neg⟩ :=
    moved.follows (AxisLog.fits_of_added_eq_zero noMotion multiplier) 0 (idle.follows 0)
  rw [none] at next converted_pos converted_neg
  obtain ⟨total_pos, total_neg, momentum_pos, momentum_neg⟩ := next
  exact ⟨⟨by omega, by omega⟩, by omega⟩

end AxisMoved

namespace CounterDirection

/-- The motion of a chunk that the direction leaves to the x axis. -/
def motionX (direction : CounterDirection) (values : List Int) : Int :=
  if direction = .vertical then 0 else chunkMotion values

/-- The motion of a chunk that the direction leaves to the y axis. -/
def motionY (direction : CounterDirection) (values : List Int) : Int :=
  if direction = .horizontal then 0 else chunkMotion values

@[simp] theorem motionX_nil (direction : CounterDirection) : direction.motionX [] = 0 := by
  simp [motionX]

@[simp] theorem motionY_nil (direction : CounterDirection) : direction.motionY [] = 0 := by
  simp [motionY]

end CounterDirection

namespace Counter

variable {options : Options} {counter : Counter}

/-! ## Collecting a chunk -/

/-- What holds of a counter between two blocks of a step. -/
structure Sound (counter : Counter) : Prop where
  x_idle : counter.counterDirection ≠ .horizontal → counter.x.IsIdle
  y_idle : counter.counterDirection ≠ .vertical → counter.y.IsIdle
  minus_pos : ∀ minus, counter.momentumMinus = some minus → 1 ≤ minus
  assigned : counter.x.total ≠ 0 ∨ counter.y.total ≠ 0 → counter.momentumMinus ≠ none
  count_nonneg : 0 ≤ counter.momentumCount
  wait_nonneg : 0 ≤ counter.momentumWait

/-- The negative of each total is an `int`. -/
def Bounded (counter : Counter) : Prop :=
  |counter.x.total| ≤ 2147483647 ∧ |counter.y.total| ≤ 2147483647

/-- What holds of a counter between two steps. -/
structure Ready (counter : Counter) : Prop extends counter.Sound where
  bounded : counter.Bounded

namespace Ready

theorem initial : Ready .initial := by
  constructor
  · constructor <;> simp [Counter.initial, Axis.empty, Axis.IsIdle]
  · simp [Bounded, Counter.initial, Axis.empty]

theorem update (ready : counter.Ready) (motion : PointingMotion) (timePoint : Int) :
    (counter.update motion timePoint).Ready :=
  ⟨⟨ready.x_idle, ready.y_idle, ready.minus_pos, ready.assigned, ready.count_nonneg,
    ready.wait_nonneg⟩, ready.bounded⟩

theorem asyncReset (ready : counter.Ready) : counter.asyncReset.Ready :=
  ⟨⟨fun _ => Axis.empty_isIdle, fun _ => Axis.empty_isIdle, ready.minus_pos,
    by simp [Counter.asyncReset, Axis.empty], le_rfl, le_rfl⟩,
    by simp [Bounded, Counter.asyncReset, Axis.empty]⟩

end Ready

namespace Sound

theorem total_zero (sound : counter.Sound) : counter.x.total = 0 ∨ counter.y.total = 0 := by
  by_cases horizontal : counter.counterDirection = .horizontal
  · exact .inr (sound.y_idle (by simp [horizontal])).1
  · exact .inl (sound.x_idle horizontal).1

/-- The amount a total that is not zero is reduced by. -/
theorem minus (sound : counter.Sound) (nonzero : counter.x.total ≠ 0 ∨ counter.y.total ≠ 0) :
    ∃ minus, counter.momentumMinus = some minus ∧ 1 ≤ minus := by
  obtain ⟨minus, assigned⟩ := Option.ne_none_iff_exists'.mp (sound.assigned nonzero)
  exact ⟨minus, assigned, sound.minus_pos minus assigned⟩

end Sound

theorem resetDirection_eq (recentChunksTotalX recentChunksTotalY : Int)
    (direction : CounterDirection) :
    resetDirection recentChunksTotalX recentChunksTotalY direction = .none ∨
      resetDirection recentChunksTotalX recentChunksTotalY direction = direction := by
  cases direction <;> simp only [resetDirection] <;> try split
  all_goals simp

/-- Gathering a chunk takes entries, among them the front one, and leaves the accumulators
alone. -/
structure Gathers (counter : Counter) (taken : List CounterEntry) (gathered : Gathered) :
    Prop where
  entries : counter.entries = taken ++ gathered.counter.entries
  nonempty : taken ≠ []
  x : gathered.chunk.x.makeAccumulatedValue = chunkMotion (taken.map CounterEntry.x)
  y : gathered.chunk.y.makeAccumulatedValue = chunkMotion (taken.map CounterEntry.y)
  direction : gathered.counter.counterDirection ≠ .none →
    gathered.counter.counterDirection = counter.counterDirection
  x_total : gathered.counter.x.total = counter.x.total
  x_momentum : gathered.counter.x.momentum = counter.x.momentum
  y_total : gathered.counter.y.total = counter.y.total
  y_momentum : gathered.counter.y.momentum = counter.y.momentum
  momentumMinus : gathered.counter.momentumMinus = counter.momentumMinus
  momentumCount : gathered.counter.momentumCount = counter.momentumCount
  momentumWait : gathered.counter.momentumWait = counter.momentumWait

/-- A sum of absolute values either has a result or leaves the range of `int`. -/
theorem accumulateAbs_yields (axis : Axis) :
    UnlessOverflow (fun _ => True) axis.accumulateAbsChunkAccumulatedValues :=
  Yields.foldlM _ (fun _ _ _ _ => (makeInt_yields _).bind fun _ _ =>
    (makeInt_yields _).imp fun _ _ => trivial) trivial

/-- The loop over the chunks gathers entries from the front of the list, unless an integer
overflows. -/
theorem gather_spec (options : Options) {front : CounterEntry} {rest : List CounterEntry}
    (isEntries : counter.entries = front :: rest) :
    UnlessOverflow (fun gathered => ∃ taken, counter.Gathers taken gathered)
      (counter.gather options front.timePoint) := by
  unfold gather
  rw [isEntries]
  refine (accumulateChunk_front options front rest counter.lastEntryTimePoint).bind
    fun (chunk, left) ⟨taken, nonempty, takes⟩ => ?_
  refine (accumulateAbs_yields _).bind fun totalX _ => (accumulateAbs_yields _).bind
    fun totalY _ => Yields.pure ⟨taken, ?_⟩
  refine ⟨isEntries.trans takes.entries, nonempty, takes.x.makeAccumulatedValue,
    takes.y.makeAccumulatedValue, fun set => ?_, rfl, rfl, rfl, rfl, rfl, rfl, rfl⟩
  rcases resetDirection_eq _ _ _ with none | same
  · exact absurd none set
  · refine same.trans ?_
    split
    · rename_i isInitial
      exact absurd (same.trans (if_pos isInitial)) set
    · rfl

namespace Gathers

variable {taken : List CounterEntry} {gathered : Gathered}

theorem x_isIdle (gathers : counter.Gathers taken gathered) (idle : counter.x.IsIdle) :
    gathered.counter.x.IsIdle :=
  ⟨gathers.x_total.trans idle.1, gathers.x_momentum.trans idle.2⟩

theorem y_isIdle (gathers : counter.Gathers taken gathered) (idle : counter.y.IsIdle) :
    gathered.counter.y.IsIdle :=
  ⟨gathers.y_total.trans idle.1, gathers.y_momentum.trans idle.2⟩

/-- A counter that has kept its direction is sound. -/
theorem sound (gathers : counter.Gathers taken gathered) (sound : counter.Sound)
    (set : gathered.counter.counterDirection ≠ .none) : gathered.counter.Sound := by
  have kept := gathers.direction set
  refine ⟨fun other => ?_, fun other => ?_, ?_, ?_, ?_, ?_⟩
  · exact gathers.x_isIdle (sound.x_idle (kept ▸ other))
  · exact gathers.y_isIdle (sound.y_idle (kept ▸ other))
  · rw [gathers.momentumMinus]
    exact sound.minus_pos
  · rw [gathers.momentumMinus, gathers.x_total, gathers.y_total]
    exact sound.assigned
  · exact gathers.momentumCount ▸ sound.count_nonneg
  · exact gathers.momentumWait ▸ sound.wait_nonneg

end Gathers

theorem setDirection_of_set {chunk : Chunk} (set : counter.counterDirection ≠ .none) :
    counter.setDirection options chunk = counter := if_neg set

theorem setDirection_of_none {chunk : Chunk} (unset : counter.counterDirection = .none) :
    counter.setDirection options chunk =
      { counter with
        counterDirection :=
          if chunk.x.absTotal > chunk.y.absTotal then .horizontal else .vertical
        x := counter.x.reset
        y := counter.y.reset
        momentumMinus := some options.threshold } := if_pos unset

/-- What `process_entries` has in its locals when the direction is applied. -/
structure Collects (counter : Counter) (taken : List CounterEntry) (collected : Collected) :
    Prop where
  sound : collected.counter.Sound
  entries : counter.entries = taken ++ collected.counter.entries
  nonempty : taken ≠ []
  momentumCount : collected.counter.momentumCount = counter.momentumCount
  zeroed : collected.directionSet = true →
    collected.counter.x.IsIdle ∧ collected.counter.y.IsIdle
  kept : collected.directionSet = false →
    collected.counter.x.total = counter.x.total ∧
    collected.counter.x.momentum = counter.x.momentum ∧
    collected.counter.y.total = counter.y.total ∧
    collected.counter.y.momentum = counter.y.momentum
  set : collected.counter.counterDirection ≠ .none
  x : collected.x = collected.counter.counterDirection.motionX (taken.map CounterEntry.x)
  y : collected.y = collected.counter.counterDirection.motionY (taken.map CounterEntry.y)

namespace Collects

variable {taken : List CounterEntry} {collected : Collected}

theorem x_applied (collects : counter.Collects taken collected)
    (other : collected.counter.counterDirection ≠ .horizontal) : collected.x = 0 := by
  have set := collects.set
  rw [collects.x, CounterDirection.motionX, if_pos]
  cases direction : collected.counter.counterDirection <;> simp_all

theorem y_applied (collects : counter.Collects taken collected)
    (other : collected.counter.counterDirection ≠ .vertical) : collected.y = 0 := by
  have set := collects.set
  rw [collects.y, CounterDirection.motionY, if_pos]
  cases direction : collected.counter.counterDirection <;> simp_all

end Collects

/-- The direction lock keeps or drops the motion of whole axes, so that what is collected still
comes from the entries taken. -/
theorem applyDirection_spec (options : Options) {taken : List CounterEntry} {gathered : Gathered}
    (sound : counter.Sound) (gathers : counter.Gathers taken gathered) :
    counter.Collects taken (applyDirection options gathered) := by
  have values : ∀ direction : CounterDirection,
      (if direction = .vertical then 0 else gathered.chunk.x.makeAccumulatedValue) =
        direction.motionX (taken.map CounterEntry.x) ∧
      (if direction = .horizontal then 0 else gathered.chunk.y.makeAccumulatedValue) =
        direction.motionY (taken.map CounterEntry.y) := by
    intro direction
    rw [gathers.x, gathers.y]
    exact ⟨rfl, rfl⟩
  unfold applyDirection
  by_cases unset : gathered.counter.counterDirection = .none
  · rw [setDirection_of_none unset]
    have count := gathers.momentumCount ▸ sound.count_nonneg
    have wait := gathers.momentumWait ▸ sound.wait_nonneg
    refine ⟨⟨fun _ => Axis.reset_isIdle _, fun _ => Axis.reset_isIdle _, ?_, by simp, count,
      wait⟩, gathers.entries, gathers.nonempty, gathers.momentumCount,
      fun _ => ⟨Axis.reset_isIdle _, Axis.reset_isIdle _⟩, ?_, ?_, (values _).1, (values _).2⟩
    · intro minus assigned
      rw [← Option.some.inj assigned]
      exact options.threshold_pos
    · simp [unset]
    · by_cases more : gathered.chunk.x.absTotal > gathered.chunk.y.absTotal <;> simp [more]
  · rw [setDirection_of_set unset]
    exact ⟨gathers.sound sound unset, gathers.entries, gathers.nonempty, gathers.momentumCount,
      by simp [unset],
      fun _ => ⟨gathers.x_total, gathers.x_momentum, gathers.y_total, gathers.y_momentum⟩, unset,
      (values _).1, (values _).2⟩

/-! ## Processing the entries -/

variable [OutOfRangeConversion] {multiplier : ℚ}

/-- The quotient is by a total that is not zero. -/
theorem makeMinus_spec (options : Options) {totalX totalY : Int}
    (nonzero : totalX ≠ 0 ∨ totalY ≠ 0) :
    UnlessOverflow (fun minus => 1 ≤ minus ∧ |totalX| ≤ 2147483647 ∧ |totalY| ≤ 2147483647)
      (makeMinus options totalX totalY) := by
  have thresholdNonzero : (options.threshold : ℚ) ≠ 0 := by
    exact_mod_cast (by have := options.threshold_pos; omega : options.threshold ≠ 0)
  have largest : max |totalX| |totalY| ≠ 0 := by
    rcases nonzero with x | y
    · have := abs_pos.mpr x
      omega
    · have := abs_pos.mpr y
      omega
  unfold makeMinus
  refine (makeInt_yields _).bind fun absX isX => (makeInt_yields _).bind fun absY isY => ?_
  rw [isX.1, isY.1]
  refine (divide_yields _ thresholdNonzero).bind fun value isValue => ?_
  have valueNonzero : value ≠ 0 := by
    rw [isValue]
    exact div_ne_zero (by exact_mod_cast largest) thresholdNonzero
  have boundedNonzero : (if value > 10 then 10 else value) ^ 4 ≠ 0 := by
    apply pow_ne_zero
    split
    · norm_num
    · exact valueNonzero
  refine (divide_yields _ boundedNonzero).bind fun quotient _ => Yields.pure ⟨?_, ?_, ?_⟩
  · split <;> omega
  · exact isX.2.2
  · exact isY.2.2

/-- A counter whose axes have been moved. -/
structure Moves (options : Options) (multiplier : ℚ) (counter moved : Counter) (x y : AxisLog) :
    Prop where
  sound : moved.Sound
  x : AxisMoved options multiplier counter.x moved.x x
  y : AxisMoved options multiplier counter.y moved.y y

omit [OutOfRangeConversion] in
theorem Sound.moves_still (sound : counter.Sound) (options : Options) (multiplier : ℚ) :
    Moves options multiplier counter counter .still .still :=
  ⟨sound, .refl options multiplier counter.x, .refl options multiplier counter.y⟩

omit [OutOfRangeConversion] in
theorem multiplier_pos (options : Options) (parameters : Parameters) :
    0 < Counter.multiplier options parameters := by
  apply mul_pos
  · apply div_pos
    · have := parameters.one_le_speed
      exact_mod_cast (by omega : 0 < parameters.mouseMotionToScrollSpeed)
    · norm_num
  · exact options.speedMultiplier_pos

/-- The last block of `process_entries` leaves the axes alone. -/
theorem updateMomentum_spec (options : Options)
    (nonzero : counter.x.total ≠ 0 ∨ counter.y.total ≠ 0)
    (assigned : counter.momentumMinus ≠ none)
    (minus_pos : ∀ minus, counter.momentumMinus = some minus → 1 ≤ minus) :
    UnlessOverflow (fun updated => counter.Bounded ∧ ∃ minus, 1 ≤ minus ∧ updated = { counter with
      momentumMinus := some minus
      lastScrollTimePoint := none
      momentumCount := 0
      momentumWait := 0 }) (counter.updateMomentum options) := by
  obtain ⟨before, isBefore⟩ := Option.ne_none_iff_exists'.mp assigned
  have beforePos := minus_pos before isBefore
  unfold updateMomentum
  rw [isBefore]
  refine (makeMinus_spec options nonzero).bind fun made ⟨madePos, bounded⟩ => ?_
  exact Yields.pure ⟨bounded, min before made, by omega, rfl⟩

omit [OutOfRangeConversion] in
/-- Enlarging the totals to the threshold belongs to the same move of the axes. -/
theorem Moves.enlarge {moved : Counter} {x y : AxisLog}
    (moves : Moves options multiplier counter moved x y) :
    Moves options multiplier counter (moved.enlarge options) x y := by
  have positive : 1 ≤ if options.threshold = 0 then 1 else options.threshold := by
    have := options.threshold_pos
    split <;> omega
  refine ⟨⟨fun other => ?_, fun other => ?_, moves.sound.minus_pos, ?_,
    moves.sound.count_nonneg, moves.sound.wait_nonneg⟩, moves.x.enlarge positive,
    moves.y.enlarge positive⟩
  · exact (moves.sound.x_idle other).enlarge _
  · exact (moves.sound.y_idle other).enlarge _
  · obtain ⟨x_pos, x_neg⟩ := moved.x.enlarge_sign positive
    obtain ⟨y_pos, y_neg⟩ := moved.y.enlarge_sign positive
    intro nonzero
    apply moves.sound.assigned
    simp only [Counter.enlarge] at nonzero
    omega

/-- The counter that `addMotion` makes, if no `int` leaves its range. -/
def withMotion (options : Options) (multiplier : ℚ) (collected : Collected) : Counter :=
  let counter := collected.counter
  { counter with
    x := counter.x.withMotion multiplier collected.x
    y := counter.y.withMotion multiplier collected.y
    momentumMinus :=
      if counter.x.signChanged collected.x || counter.y.signChanged collected.y then
        some options.threshold
      else counter.momentumMinus }

theorem addMotion_yields (options : Options) (multiplier : ℚ) (collected : Collected) :
    UnlessOverflow (· = withMotion options multiplier collected)
      (addMotion options multiplier collected) := by
  refine (Axis.addMotion_yields _ _ _).bind fun x isX => (Axis.addMotion_yields _ _ _).bind
    fun y isY => Yields.pure ?_
  rw [isX, isY]
  rfl

/-- Adding the motion of a collected chunk. -/
theorem moves_withMotion (options : Options) {taken : List CounterEntry} {collected : Collected}
    (collects : counter.Collects taken collected) (positive : 0 < multiplier) :
    Moves options multiplier counter (withMotion options multiplier collected)
      ⟨collected.directionSet || collected.counter.x.signChanged collected.x, collected.x, 0, 0⟩
      ⟨collected.directionSet || collected.counter.y.signChanged collected.y, collected.y, 0,
        0⟩ := by
  have sound := collects.sound
  refine ⟨⟨fun other => ?_, fun other => ?_, ?_, ?_, sound.count_nonneg, sound.wait_nonneg⟩,
    ?_, ?_⟩
  · simp only [withMotion, collects.x_applied other]
    exact (sound.x_idle other).withMotion multiplier
  · simp only [withMotion, collects.y_applied other]
    exact (sound.y_idle other).withMotion multiplier
  · intro minus assigned
    dsimp only [withMotion] at assigned
    split at assigned
    · rw [← Option.some.inj assigned]
      exact options.threshold_pos
    · exact sound.minus_pos minus assigned
  · intro nonzero
    dsimp only [withMotion] at nonzero ⊢
    split
    · simp
    · rename_i same
      simp only [Bool.or_eq_true, not_or, Bool.not_eq_true] at same
      apply sound.assigned
      exact nonzero.imp (Axis.withMotion_total_ne_zero · same.1)
        (Axis.withMotion_total_ne_zero · same.2)
  · exact AxisMoved.withMotion (fun zeroed => (collects.zeroed zeroed).1)
      (fun zeroed => ⟨(collects.kept zeroed).1, (collects.kept zeroed).2.1⟩) positive _
  · exact AxisMoved.withMotion (fun zeroed => (collects.zeroed zeroed).2)
      (fun zeroed => (collects.kept zeroed).2.2) positive _

/-- What the blocks after the sum of the totals make of the moved counter. -/
structure Finishes (options : Options) (multiplier : ℚ) (counter moved final : Counter)
    (x y : AxisLog) : Prop where
  moves : Moves options multiplier counter final x y
  bounded : final.Bounded
  entries : final.entries = moved.entries
  direction : final.counterDirection = moved.counterDirection
  momentumCount : final.momentumCount ≤ moved.momentumCount

/-- The end of `process_entries` returns the counter with the logs of both axes, unless the last
conversion overflows. -/
theorem finishEntries_spec {moved : Counter} {x y : AxisLog} (initial : Bool)
    (moves : Moves options multiplier counter moved x y) :
    UnlessOverflow (fun processed => ∃ final, processed = ⟨final, true, x, y⟩ ∧
      Finishes options multiplier counter moved final x y)
      (finishEntries options initial x y moved) := by
  unfold finishEntries
  by_cases zero : moved.x.total = 0 ∧ moved.y.total = 0
  · rw [if_pos zero]
    exact Yields.pure ⟨moved, rfl, moves, by simp [Bounded, zero], rfl, rfl, le_rfl⟩
  · rw [if_neg zero]
    have positive : 1 ≤ if options.threshold = 0 then 1 else options.threshold := by
      have := options.threshold_pos
      split <;> omega
    generalize isEnlarged :
      (if initial then moved.enlarge options else moved) = enlarged
    have goesOn : Moves options multiplier counter enlarged x y := by
      rw [← isEnlarged]
      split
      · exact moves.enlarge
      · exact moves
    have same : enlarged.entries = moved.entries ∧
        enlarged.counterDirection = moved.counterDirection := by
      rw [← isEnlarged]
      split <;> exact ⟨rfl, rfl⟩
    have nonzero : enlarged.x.total ≠ 0 ∨ enlarged.y.total ≠ 0 := by
      rw [← isEnlarged]
      split
      · obtain ⟨x_pos, x_neg⟩ := moved.x.enlarge_sign positive
        obtain ⟨y_pos, y_neg⟩ := moved.y.enlarge_sign positive
        simp only [Counter.enlarge]
        omega
      · omega
    refine (updateMomentum_spec options nonzero (goesOn.sound.assigned nonzero)
      goesOn.sound.minus_pos).bind fun final ⟨bounded, minus, minusPos, isFinal⟩ => ?_
    refine Yields.pure ⟨final, rfl, ?_⟩
    rw [isFinal]
    refine ⟨⟨⟨goesOn.sound.x_idle, goesOn.sound.y_idle, ?_,
      fun _ => Option.some_ne_none minus, le_rfl, le_rfl⟩, goesOn.x, goesOn.y⟩, bounded,
      same.1, same.2, moves.sound.count_nonneg⟩
    intro assigned isAssigned
    rw [← Option.some.inj isAssigned]
    exact minusPos

/-- What `process_entries` does. -/
structure Processes (options : Options) (multiplier : ℚ) (counter : Counter)
    (taken : List CounterEntry) (processed : Processed) : Prop where
  moves : Moves options multiplier counter processed.counter processed.x processed.y
  bounded : processed.counter.Bounded
  entries : counter.entries = taken ++ processed.counter.entries
  x_added : processed.x.added =
    processed.counter.counterDirection.motionX (taken.map CounterEntry.x)
  y_added : processed.y.added =
    processed.counter.counterDirection.motionY (taken.map CounterEntry.y)
  continues : processed.continues = false ↔ counter.entries = []
  idle : counter.entries = [] → processed.counter = counter
  momentumCount : processed.counter.momentumCount ≤ counter.momentumCount
  x_still : processed.x.delta = 0 ∧ processed.x.converted = 0
  y_still : processed.y.delta = 0 ∧ processed.y.converted = 0

/-- Motion that has been collected moves each axis by what its entries say. -/
theorem applyMotion_spec (options : Options) (parameters : Parameters)
    {taken : List CounterEntry} {collected : Collected}
    (collects : counter.Collects taken collected) :
    UnlessOverflow
      (Processes options (Counter.multiplier options parameters) counter taken)
      (applyMotion options parameters collected) := by
  have moves := moves_withMotion options collects (multiplier_pos options parameters)
  have some : counter.entries ≠ [] := by
    rw [collects.entries]
    exact List.append_ne_nil_of_left_ne_nil collects.nonempty _
  unfold applyMotion
  refine (addMotion_yields _ _ _).bind fun moved isMoved => ?_
  rw [isMoved]
  refine (finishEntries_spec _ moves).imp fun processed ⟨final, isFinal, finishes⟩ => ?_
  rw [isFinal]
  refine ⟨finishes.moves, finishes.bounded, ?_, ?_, ?_, by simp [some],
    fun none => absurd none some, finishes.momentumCount.trans collects.momentumCount.le,
    ⟨rfl, rfl⟩, ⟨rfl, rfl⟩⟩
  · rw [finishes.entries]
    exact collects.entries
  · rw [finishes.direction]
    exact collects.x
  · rw [finishes.direction]
    exact collects.y

/-- Once the entries are old enough the first of them is taken. -/
def TakesOld (options : Options) (now : Int) (entries taken : List CounterEntry) : Prop :=
  entries ≠ [] →
    (∀ entry ∈ entries, options.recentTimeDurationMilliseconds < now - entry.timePoint) →
    taken ≠ []

/-- `process_entries` takes old entries from the front and moves the axes by them, unless an integer
overflows. -/
theorem processEntries_spec (options : Options) (parameters : Parameters) (now : Int)
    (ready : counter.Ready) :
    UnlessOverflow (fun processed => ∃ taken,
      Processes options (Counter.multiplier options parameters) counter taken processed ∧
        TakesOld options now counter.entries taken)
      (counter.processEntries options parameters now) := by
  have still (continues : Bool) (isEmpty : continues = false ↔ counter.entries = []) :
      Processes options (Counter.multiplier options parameters) counter []
        ⟨counter, continues, .still, .still⟩ :=
    ⟨ready.toSound.moves_still options _, ready.bounded, rfl, by simp [AxisLog.still],
      by simp [AxisLog.still], isEmpty, fun _ => rfl, le_rfl, ⟨rfl, rfl⟩, ⟨rfl, rfl⟩⟩
  unfold processEntries
  cases isEntries : counter.entries with
  | nil =>
      exact Yields.ok ⟨[], still false (by simp [isEntries]), fun some => absurd rfl some⟩
  | cons front rest =>
      dsimp only
      split
      · rename_i recent
        refine Yields.ok ⟨[], still true (by simp [isEntries]), fun _ old => ?_⟩
        have := old front List.mem_cons_self
        omega
      · refine (gather_spec options isEntries).bind fun gathered ⟨taken, gathers⟩ => ?_
        have collects := applyDirection_spec options ready.toSound gathers
        exact (applyMotion_spec options parameters collects).imp fun processed processes =>
          ⟨taken, processes, fun _ _ => collects.nonempty⟩

end Counter

/-- An axis that scrolls: part of the total goes to the momentum, and the momentum is
converted. -/
theorem AxisMoved.scroll {options : Options} {multiplier : ℚ} {axis : Axis}
    {delta left result reduced : Int}
    (delta_side : (0 ≤ axis.total → 0 ≤ delta) ∧ (axis.total ≤ 0 → delta ≤ 0))
    (balance : left + options.threshold * result = axis.momentum + delta)
    (above : 0 ≤ axis.momentum + delta → 0 ≤ left ∧ 0 ≤ result)
    (below : axis.momentum + delta ≤ 0 → left ≤ 0 ∧ result ≤ 0)
    (reduced_pos : 0 < reduced → 0 < axis.total) (reduced_neg : reduced < 0 → axis.total < 0) :
    AxisMoved options multiplier axis { axis with total := reduced, momentum := left }
      ⟨false, 0, delta, result⟩ := by
  obtain ⟨up, down⟩ := delta_side
  refine ⟨balance, fun _ accumulated follows => ?_⟩
  obtain ⟨total_pos, total_neg, momentum_pos, momentum_neg⟩ := follows
  simp only [AxisLog.accumulate, Bool.false_eq_true, if_false, add_zero]
  refine ⟨⟨?_, ?_, ?_, ?_⟩, ?_, ?_⟩
  all_goals
    try simp only
    omega

namespace Counter

variable [OutOfRangeConversion] {options : Options} {multiplier : ℚ} {counter : Counter}

/-! ## Scrolling -/

/-- What is left to be scrolled. -/
def remaining (counter : Counter) : Nat := counter.x.total.natAbs + counter.y.total.natAbs

/-- What `scroll` does. -/
structure Scrolls (options : Options) (multiplier : ℚ) (counter : Counter)
    (scrolled : Scrolled) : Prop where
  moves : Moves options multiplier counter scrolled.counter
    ⟨false, 0, scrolled.deltaX, scrolled.x⟩ ⟨false, 0, scrolled.deltaY, scrolled.y⟩
  bounded : scrolled.counter.Bounded
  entries : scrolled.counter.entries = counter.entries
  direction : scrolled.counter.counterDirection = counter.counterDirection
  motion : scrolled.motion =
    if scrolled.x ≠ 0 ∨ scrolled.y ≠ 0 then some ⟨0, 0, -scrolled.y, scrolled.x⟩ else none
  momentumCount : scrolled.counter.momentumCount ≤ counter.momentumCount + 1
  remaining : scrolled.counter.remaining ≤ counter.remaining
  /-- The timer goes on only after the totals or the time to wait became smaller. -/
  progress : scrolled.continues = true → scrolled.counter.remaining < counter.remaining ∨
    scrolled.counter.remaining = counter.remaining ∧
      scrolled.counter.momentumWait < counter.momentumWait

omit [OutOfRangeConversion] in
/-- What the two axes are after `moveScroll` has converted and reduced them. -/
theorem finishScroll_spec (options : Options) (multiplier : ℚ) (now : Int)
    (ready : counter.Ready) {deltaX deltaY totalX totalY : Int} {convertedX convertedY : Int × Int}
    (x : AxisMoved options multiplier counter.x
      { counter.x with total := totalX, momentum := convertedX.1 }
      ⟨false, 0, deltaX, convertedX.2⟩)
    (y : AxisMoved options multiplier counter.y
      { counter.y with total := totalY, momentum := convertedY.1 }
      ⟨false, 0, deltaY, convertedY.2⟩)
    (reducedX : counter.x.total ≠ 0 → totalX.natAbs < counter.x.total.natAbs)
    (reducedY : counter.y.total ≠ 0 → totalY.natAbs < counter.y.total.natAbs)
    (zeroX : counter.x.total = 0 → totalX = 0) (zeroY : counter.y.total = 0 → totalY = 0) :
    Scrolls options multiplier counter
      (counter.finishScroll options now deltaX deltaY convertedX convertedY totalX totalY) := by
  have waits := ready.wait_nonneg
  have counts := ready.count_nonneg
  obtain ⟨boundedX, boundedY⟩ := ready.bounded
  have smallerX : totalX.natAbs ≤ counter.x.total.natAbs := by omega
  have smallerY : totalY.natAbs ≤ counter.y.total.natAbs := by omega
  refine ⟨⟨⟨?_, ?_, ready.minus_pos, ?_, counts, ?_⟩, x, y⟩, ⟨?_, ?_⟩, rfl, rfl, ?_,
    Int.le_add_one le_rfl, ?_, ?_⟩
  · intro other
    exact (x.isIdle (ready.x_idle other) rfl).1
  · intro other
    exact (y.isIdle (ready.y_idle other) rfl).1
  · intro nonzero
    apply ready.assigned
    simp only [finishScroll] at nonzero
    exact nonzero.imp (mt zeroX) (mt zeroY)
  · simp only [finishScroll]
    split <;> omega
  · rw [Int.abs_eq_natAbs] at boundedX ⊢
    simp only [finishScroll]
    omega
  · rw [Int.abs_eq_natAbs] at boundedY ⊢
    simp only [finishScroll]
    omega
  · simp only [finishScroll, decide_eq_true_eq]
  · simp only [finishScroll, remaining]
    omega
  · intro continues
    simp only [finishScroll, Bool.not_eq_true', decide_eq_false_iff_not] at continues
    left
    simp only [finishScroll, remaining]
    omega

/-- A call of the momentum with a count emits along the axes, and keeps the count. -/
theorem moveScroll_spec (options : Options) (multiplier : ℚ) (now : Int) (ready : counter.Ready)
    (counted : 1 ≤ counter.momentumCount) :
    UnlessOverflow (fun scrolled => Scrolls options multiplier counter scrolled ∧
      scrolled.counter.momentumCount = counter.momentumCount)
      (counter.moveScroll options now) := by
  have countPositive : (1 : ℚ) ≤ counter.momentumCount := by exact_mod_cast counted
  unfold moveScroll
  refine (divide_yields _ (by linarith)).bind fun scale isScale => ?_
  generalize isUsed :
    (if !options.momentumScrollEnabled && counter.momentumCount > 1 then 0 else scale) = used
  have share : 0 ≤ used ∧ used ≤ 1 := by
    rw [← isUsed, isScale]
    split
    · norm_num
    · exact ⟨div_nonneg zero_le_one (by linarith), div_le_one_of_le₀ countPositive (by linarith)⟩
  have sideX := roundUp_mul ready.bounded.1 share.1 share.2
  have sideY := roundUp_mul ready.bounded.2 share.1 share.2
  refine (makeInt_yields _).bind fun momentumX isX => ?_
  refine (convert_yields options momentumX).bind fun convertedX spentX => ?_
  refine (makeInt_yields _).bind fun momentumY isY => ?_
  refine (convert_yields options momentumY).bind fun convertedY spentY => ?_
  refine (makeInt_yields _).bind fun _ _ => ?_
  refine (reduce_spec fun nonzero => ready.toSound.minus (.inl nonzero)).bind
    fun totalX ⟨lessX, zeroX, posX, negX⟩ => ?_
  refine (reduce_spec fun nonzero => ready.toSound.minus (.inr nonzero)).bind
    fun totalY ⟨lessY, zeroY, posY, negY⟩ => Yields.pure ?_
  obtain ⟨balanceX, aboveX, belowX⟩ := isX.1 ▸ spentX
  obtain ⟨balanceY, aboveY, belowY⟩ := isY.1 ▸ spentY
  exact ⟨finishScroll_spec options multiplier now ready
    (.scroll sideX balanceX aboveX belowX posX negX)
    (.scroll sideY balanceY aboveY belowY posY negY) lessX lessY zeroX zeroY, rfl⟩

/-- A call of the timer emits what the axes have stored and nothing else. -/
theorem scroll_spec (options : Options) (multiplier : ℚ) (now : Int) (ready : counter.Ready) :
    UnlessOverflow (Scrolls options multiplier counter) (counter.scroll options now) := by
  have stillX : AxisMoved options multiplier counter.x counter.x ⟨false, 0, 0, 0⟩ :=
    .refl options multiplier counter.x
  have stillY : AxisMoved options multiplier counter.y counter.y ⟨false, 0, 0, 0⟩ :=
    .refl options multiplier counter.y
  have waits := ready.wait_nonneg
  have counts := ready.count_nonneg
  unfold scroll
  split
  · rename_i waiting
    refine Yields.ok ⟨⟨⟨ready.x_idle, ready.y_idle, ready.minus_pos, ready.assigned,
      ready.count_nonneg, ?_⟩, stillX, stillY⟩, ready.bounded, rfl, rfl, by simp,
      Int.le_add_one le_rfl, le_rfl, fun _ => .inr ⟨rfl, ?_⟩⟩
    · dsimp only
      omega
    · dsimp only
      omega
  · have counted : ({ counter with momentumCount := counter.momentumCount + 1 } : Counter).Ready :=
      ⟨⟨ready.x_idle, ready.y_idle, ready.minus_pos, ready.assigned, by dsimp only; omega,
        ready.wait_nonneg⟩, ready.bounded⟩
    have positive : 1 ≤ counter.momentumCount + 1 := by omega
    dsimp only
    split
    · exact Yields.ok ⟨⟨counted.toSound, stillX, stillY⟩, ready.bounded, rfl, rfl, by simp,
        le_rfl, le_rfl, by simp⟩
    · refine (moveScroll_spec options multiplier now counted positive).imp
        fun scrolled ⟨scrolls, same⟩ => ?_
      obtain ⟨⟨sound, x, y⟩, bounded, entries, direction, motion, -, remaining, progress⟩ := scrolls
      exact ⟨⟨sound, x, y⟩, bounded, entries, direction, motion, same.le, remaining, progress⟩

end Counter

/-- A motion that was added and then scrolled. -/
theorem AxisMoved.andScroll {options : Options} {multiplier : ℚ} {before between after : Axis}
    {processed : AxisLog} {delta converted : Int}
    (first : AxisMoved options multiplier before between processed)
    (still : processed.delta = 0 ∧ processed.converted = 0)
    (second : AxisMoved options multiplier between after ⟨false, 0, delta, converted⟩) :
    AxisMoved options multiplier before after
      ⟨processed.reset, processed.added, delta, converted⟩ := by
  obtain ⟨noDelta, noConverted⟩ := still
  refine ⟨?_, fun fits accumulated follows => ?_⟩
  · have momentum := first.momentum
    rw [noDelta, noConverted] at momentum
    have scrolled := second.momentum
    simp only [Bool.false_eq_true, if_false] at scrolled
    dsimp only
    linarith
  · have next := second.follows (AxisLog.fits_of_added_eq_zero rfl multiplier) _
      (first.follows fits accumulated follows).1
    simpa only [AxisLog.accumulate, Bool.false_eq_true, if_false, add_zero] using next

namespace Counter

variable [OutOfRangeConversion] {options : Options} {multiplier : ℚ} {counter : Counter}

/-! ## A tick -/

namespace Ticked

/-- What the tick did to the x axis. -/
def x (ticked : Ticked) : AxisLog :=
  ⟨ticked.processed.x.reset, ticked.processed.x.added, ticked.scrolled.deltaX, ticked.scrolled.x⟩

/-- What the tick did to the y axis. -/
def y (ticked : Ticked) : AxisLog :=
  ⟨ticked.processed.y.reset, ticked.processed.y.added, ticked.scrolled.deltaY, ticked.scrolled.y⟩

end Ticked

/-- What a tick does. -/
structure Ticks (options : Options) (multiplier : ℚ) (counter : Counter)
    (taken : List CounterEntry) (ticked : Ticked) : Prop where
  processes : Processes options multiplier counter taken ticked.processed
  scrolls : Scrolls options multiplier ticked.processed.counter ticked.scrolled
  moves : Moves options multiplier counter ticked.scrolled.counter ticked.x ticked.y
  oneAxis : ticked.scrolled.x = 0 ∨ ticked.scrolled.y = 0

/-- One tick takes old entries, moves the axes by them and emits what the axes have stored. -/
theorem tick_spec (options : Options) (parameters : Parameters) (now scrollNow : Int)
    (ready : counter.Ready) :
    UnlessOverflow (fun ticked => ∃ taken,
      Ticks options (Counter.multiplier options parameters) counter taken ticked ∧
        TakesOld options now counter.entries taken)
      (counter.tick options parameters now scrollNow) := by
  unfold tick
  refine (processEntries_spec options parameters now ready).bind
    fun processed ⟨taken, processes, takes⟩ => ?_
  have between : processed.counter.Ready := ⟨processes.moves.sound, processes.bounded⟩
  refine (scroll_spec options (Counter.multiplier options parameters) scrollNow between).bind
    fun scrolled scrolls => Yields.pure
      ⟨taken, ⟨processes, scrolls, ⟨scrolls.moves.sound, ?_, ?_⟩, ?_⟩, takes⟩
  · exact processes.moves.x.andScroll processes.x_still scrolls.moves.x
  · exact processes.moves.y.andScroll processes.y_still scrolls.moves.y
  · by_cases horizontal : processed.counter.counterDirection = .horizontal
    · have idle := between.y_idle (by simp [horizontal])
      exact .inr (scrolls.moves.y.isIdle idle rfl).2
    · have idle := between.x_idle horizontal
      exact .inl (scrolls.moves.x.isIdle idle rfl).2

omit [OutOfRangeConversion] in
/-- The entries of a tick are those it took and those it left. -/
theorem Ticks.entries {taken : List CounterEntry} {ticked : Ticked}
    (ticks : Ticks options multiplier counter taken ticked) :
    counter.entries = taken ++ ticked.scrolled.counter.entries := by
  rw [ticks.scrolls.entries]
  exact ticks.processes.entries

omit [OutOfRangeConversion] in
/-- The x axis is given the motion that the direction leaves to it. -/
theorem Ticks.x_added {taken : List CounterEntry} {ticked : Ticked}
    (ticks : Ticks options multiplier counter taken ticked) :
    ticked.x.added =
      ticked.scrolled.counter.counterDirection.motionX (taken.map CounterEntry.x) := by
  rw [ticks.scrolls.direction]
  exact ticks.processes.x_added

omit [OutOfRangeConversion] in
/-- The y axis is given the motion that the direction leaves to it. -/
theorem Ticks.y_added {taken : List CounterEntry} {ticked : Ticked}
    (ticks : Ticks options multiplier counter taken ticked) :
    ticked.y.added =
      ticked.scrolled.counter.counterDirection.motionY (taken.map CounterEntry.y) := by
  rw [ticks.scrolls.direction]
  exact ticks.processes.y_added

end Counter

end Karabiner.MouseMotionToScroll

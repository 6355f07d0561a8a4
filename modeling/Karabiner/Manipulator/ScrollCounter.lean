import Karabiner.EventQueue.Event
import Karabiner.Foundation.Faults
import Mathlib.Data.Rat.Floor

/-! # The counter of `mouse_motion_to_scroll`

The counter collects pointing motions, chooses the axis that moved more and turns the
motion of that axis into scroll events, one tick of its timer after the other. A `double`
is a rational number. An axis keeps the three members the source has once for `x` and once
for `y`.

A step that has no meaning in the source stops with a `Fault` here: a sum of `int`s that no
`int` holds, a value that is read before it was assigned, a division by zero, and a loop
that goes on. What a `double` that no `int` holds is converted to is left open.
-/

namespace Karabiner.MouseMotionToScroll

/-! ## Options -/

/-- The range of `int`. -/
def IsInt (value : Int) : Prop := -2147483648 ≤ value ∧ value ≤ 2147483647

instance (value : Int) : Decidable (IsInt value) := inferInstanceAs (Decidable (_ ∧ _))

/-- `mouse_motion_to_scroll::options`, with the bounds its setters keep. -/
structure Options where
  momentumScrollEnabled : Bool
  speedMultiplier : ℚ
  recentTimeDurationMilliseconds : Int
  threshold : Int
  directionLockThreshold : Int
  scrollEventIntervalMillisecondsThreshold : Int
  speedMultiplier_pos : 0 < speedMultiplier
  recentTimeDurationMilliseconds_pos : 1 ≤ recentTimeDurationMilliseconds
  threshold_pos : 1 ≤ threshold
  threshold_isInt : IsInt threshold
  directionLockThreshold_pos : 1 ≤ directionLockThreshold
  scrollEventIntervalMillisecondsThreshold_pos : 1 ≤ scrollEventIntervalMillisecondsThreshold

namespace Options

def default : Options where
  momentumScrollEnabled := true
  speedMultiplier := 1
  recentTimeDurationMilliseconds := 100
  threshold := 128
  directionLockThreshold := 4
  scrollEventIntervalMillisecondsThreshold := 100
  speedMultiplier_pos := by norm_num
  recentTimeDurationMilliseconds_pos := by norm_num
  threshold_pos := by norm_num
  threshold_isInt := by decide
  directionLockThreshold_pos := by norm_num
  scrollEventIntervalMillisecondsThreshold_pos := by norm_num

/-- The value an integer setter keeps: what is given, or the default below one. -/
def atLeastOne (value fallback : Int) : Int := if value < 1 then fallback else value

theorem one_le_atLeastOne {fallback : Int} (positive : 1 ≤ fallback) (value : Int) :
    1 ≤ atLeastOne value fallback := by
  unfold atLeastOne
  split <;> omega

def setMomentumScrollEnabled (options : Options) (value : Bool) : Options :=
  { options with momentumScrollEnabled := value }

def setSpeedMultiplier (options : Options) (value : ℚ) : Options :=
  { options with
    speedMultiplier := if value ≤ 0 then default.speedMultiplier else value
    speedMultiplier_pos := by
      split
      · exact default.speedMultiplier_pos
      · exact lt_of_not_ge ‹_› }

def setRecentTimeDurationMilliseconds (options : Options) (value : Int) : Options :=
  { options with
    recentTimeDurationMilliseconds := atLeastOne value default.recentTimeDurationMilliseconds
    recentTimeDurationMilliseconds_pos :=
      one_le_atLeastOne default.recentTimeDurationMilliseconds_pos value }

def setThreshold (options : Options) (value : Int) (isInt : IsInt value) : Options :=
  { options with
    threshold := atLeastOne value default.threshold
    threshold_pos := one_le_atLeastOne default.threshold_pos value
    threshold_isInt := by
      unfold atLeastOne
      split
      · exact default.threshold_isInt
      · exact isInt }

def setDirectionLockThreshold (options : Options) (value : Int) : Options :=
  { options with
    directionLockThreshold := atLeastOne value default.directionLockThreshold
    directionLockThreshold_pos := one_le_atLeastOne default.directionLockThreshold_pos value }

def setScrollEventIntervalMillisecondsThreshold (options : Options) (value : Int) : Options :=
  { options with
    scrollEventIntervalMillisecondsThreshold :=
      atLeastOne value default.scrollEventIntervalMillisecondsThreshold
    scrollEventIntervalMillisecondsThreshold_pos :=
      one_le_atLeastOne default.scrollEventIntervalMillisecondsThreshold_pos value }

end Options

/-- What the counter reads of `complex_modifications_parameters`. -/
structure Parameters where
  mouseMotionToScrollSpeed : Int
  one_le_speed : 1 ≤ mouseMotionToScrollSpeed
  speed_le : mouseMotionToScrollSpeed ≤ 10000

namespace Parameters

/-- `set_mouse_motion_to_scroll_speed`, with `adjust_values`. -/
def ofSpeed (value : Int) : Parameters where
  mouseMotionToScrollSpeed := min (max value 1) 10000
  one_le_speed := by omega
  speed_le := by omega

/-- `make_mouse_motion_to_scroll_speed_rate`. -/
def makeMouseMotionToScrollSpeedRate (parameters : Parameters) : ℚ :=
  parameters.mouseMotionToScrollSpeed / 100

end Parameters

/-! ## Arithmetic -/

/-- `pqrs::sign`. -/
inductive Sign where
  | zero
  | plus
  | minus
deriving DecidableEq

/-- `pqrs::make_sign`. -/
def makeSign (value : Int) : Sign :=
  if value > 0 then .plus else if value < 0 then .minus else .zero

/-- What stops a step to which the source gives no meaning. -/
inductive Fault where
  /-- A sum of `int`s leaves their range. -/
  | overflow
  /-- A value is read that was not assigned. -/
  | unassigned
  | divisionByZero
  /-- A loop goes on. -/
  | endless
deriving DecidableEq

/-- The computation has a result with the property, unless an `int` leaves its range. -/
abbrev UnlessOverflow {α : Type} (post : α → Prop) (computation : Except Fault α) : Prop :=
  Foundation.Yields (· = .overflow) post computation

/-- An `int` that is computed from others. -/
def makeInt (value : Int) : Except Fault Int :=
  if IsInt value then .ok value else .error .overflow

/-- A member that may not be assigned yet is read. -/
def readAssigned : Option Int → Except Fault Int
  | some value => .ok value
  | none => .error .unassigned

/-- What the machine makes of a `double` that is converted to an `int` and that no `int`
holds. The source does not say, so it may be any `int`. -/
class OutOfRangeConversion where
  toInt : ℚ → Int
  isInt : ∀ value, IsInt (toInt value)

/-- A `double` without its fraction. -/
def towardZero (value : ℚ) : Int := if 0 ≤ value then ⌊value⌋ else ⌈value⌉

/-- The conversion of a `double` to an `int`. -/
def truncate [OutOfRangeConversion] (value : ℚ) : Int :=
  if IsInt (towardZero value) then towardZero value else OutOfRangeConversion.toInt value

/-- The quotient of two `double`s. -/
def divide (value divisor : ℚ) : Except Fault ℚ :=
  if divisor = 0 then .error .divisionByZero else .ok (value / divisor)

/-- `counter::round_up`. -/
def roundUp [OutOfRangeConversion] (value : ℚ) : Int :=
  if value > 0 then truncate (⌈value⌉ : Int)
  else if value < 0 then truncate (⌈value⌉ - 1 : Int)
  else 0

/-- `counter::reduce`, by an amount that may not be assigned yet. -/
def reduce (value : Int) (amount : Option Int) : Except Fault Int := do
  if value > 0 then
    makeInt (value - min (← readAssigned amount) value)
  else if value < 0 then
    makeInt (value + min (← readAssigned amount) (← makeInt (-value)))
  else return value

/-- One of the two loops of `counter::convert`, given the turns it may take: with `sign` 1
it is the loop down from the threshold, with `sign` -1 the loop up from its negative. The
value comes nearer to zero with each turn, and stays an `int`. -/
def convertLoop (options : Options) (sign : Int) : Nat → Int × Int → Except Fault (Int × Int)
  | 0, (value, result) =>
      if sign * value ≥ options.threshold then .error .endless else .ok (value, result)
  | turns + 1, (value, result) =>
      if sign * value ≥ options.threshold then
        let next := (value - sign * options.threshold, result + sign)
        if options.momentumScrollEnabled then .ok next
        else convertLoop options sign turns next
      else .ok (value, result)

/-- `counter::convert`: the value that is left and the result, when each loop may take as
many turns as given. -/
def convertWithin (options : Options) (turns : Nat) (value : Int) : Except Fault (Int × Int) :=
  convertLoop options 1 turns (value, 0) >>= convertLoop options (-1) turns

/-- `counter::convert`. A loop that takes more turns than the value is large never ends. -/
def convert (options : Options) (value : Int) : Except Fault (Int × Int) :=
  convertWithin options value.natAbs value

/-! ## Chunks -/

/-- `counter_chunk_value`. -/
structure CounterChunkValue where
  plusValue : Int
  minusValue : Int
  absTotal : Int
  lastSign : Sign

namespace CounterChunkValue

def empty : CounterChunkValue := ⟨0, 0, 0, .zero⟩

/-- The block of `counter_chunk_value::add` that looks at the sign. -/
def addSigned (chunk : CounterChunkValue) (value : Int) : Except Fault CounterChunkValue := do
  if value > 0 then
    let plusValue ← makeInt (chunk.plusValue + value)
    return { chunk with plusValue := plusValue, lastSign := .plus }
  else if value < 0 then
    let minusValue ← makeInt (chunk.minusValue + value)
    return { chunk with minusValue := minusValue, lastSign := .minus }
  else return chunk

def add (chunk : CounterChunkValue) (value : Int) : Except Fault CounterChunkValue := do
  let chunk ← chunk.addSigned value
  let absTotal ← makeInt (chunk.absTotal + (← makeInt |value|))
  return { chunk with absTotal := absTotal }

/-- `make_accumulated_value`. Both absolute values are at most the total of them, which is an
`int`. -/
def makeAccumulatedValue (chunk : CounterChunkValue) : Int :=
  if |chunk.plusValue| > |chunk.minusValue| then chunk.plusValue
  else if |chunk.plusValue| < |chunk.minusValue| then chunk.minusValue
  else
    match chunk.lastSign with
    | .zero => 0
    | .plus => chunk.plusValue
    | .minus => chunk.minusValue

end CounterChunkValue

/-- `counter_entry`. -/
structure CounterEntry where
  x : Int
  y : Int
  timePoint : Int
deriving DecidableEq

/-- `counter_direction`. -/
inductive CounterDirection where
  | none
  | vertical
  | horizontal
deriving DecidableEq

/-- The locals of `counter::process_entries` that its loop over the entries writes, and
`last_entry_time_point_`. -/
structure Chunk where
  x : CounterChunkValue
  y : CounterChunkValue
  lastEntryTimePoint : Option Int

/-- The loop of `counter::process_entries`: the entries that are near enough to the front
one, and the entries it leaves. -/
def accumulateChunk (options : Options) (frontTimePoint : Int) :
    List CounterEntry → Chunk → Except Fault (Chunk × List CounterEntry)
  | [], chunk => .ok (chunk, [])
  | entry :: rest, chunk =>
      if entry.timePoint - frontTimePoint ≤ options.recentTimeDurationMilliseconds then do
        let x ← chunk.x.add entry.x
        let y ← chunk.y.add entry.y
        accumulateChunk options frontTimePoint rest ⟨x, y, some entry.timePoint⟩
      else .ok (chunk, entry :: rest)

/-! ## The counter -/

/-- `chunk_accumulated_values_*`, `total_*` and `momentum_*` of one axis. -/
structure Axis where
  chunkAccumulatedValues : List (Int × Int)
  total : Int
  momentum : Int
deriving DecidableEq

/-- `mouse_motion_to_scroll::counter`. `momentum_minus_` has no value before it is assigned.
`momentum_count_` counts ticks of 20 milliseconds and has no bound here: as an `int` it would
take more than a year of ticks to leave its range. -/
structure Counter where
  entries : List CounterEntry
  lastEntryTimePoint : Option Int
  lastScrollTimePoint : Option Int
  counterDirection : CounterDirection
  x : Axis
  y : Axis
  momentumMinus : Option Int
  momentumCount : Int
  momentumWait : Int
deriving DecidableEq

/-- What a step did to one axis. -/
structure AxisLog where
  /-- The total and the momentum were set to zero. -/
  reset : Bool
  /-- The motion of the chunk that was then taken in, before it is multiplied. -/
  added : Int
  /-- `dx`, which was added to the momentum. -/
  delta : Int
  /-- `x`, which was converted from the momentum. -/
  converted : Int
deriving DecidableEq

/-- The step left the axis alone. -/
def AxisLog.still : AxisLog := ⟨false, 0, 0, 0⟩

namespace Axis

def empty : Axis := ⟨[], 0, 0⟩

/-- `counter::erase_chunk_accumulated_values`. -/
def eraseChunkAccumulatedValues (options : Options) (timePoint : Int) (axis : Axis) : Axis :=
  { axis with
    chunkAccumulatedValues := axis.chunkAccumulatedValues.filter fun value =>
      !decide (timePoint - value.1 >
        options.recentTimeDurationMilliseconds * options.directionLockThreshold) }

/-- The axis with the value of one more chunk. -/
def pushChunkAccumulatedValue (timePoint value : Int) (axis : Axis) : Axis :=
  { axis with chunkAccumulatedValues := axis.chunkAccumulatedValues ++ [(timePoint, value)] }

/-- `counter::accumulate_abs_chunk_accumulated_values`. -/
def accumulateAbsChunkAccumulatedValues (axis : Axis) : Except Fault Int :=
  axis.chunkAccumulatedValues.foldlM
    (fun total value => do makeInt (total + (← makeInt |value.2|))) 0

/-- The total and the momentum set to zero. -/
def reset (axis : Axis) : Axis := { axis with total := 0, momentum := 0 }

/-- The motion goes against the total. -/
def signChanged (axis : Axis) (value : Int) : Bool :=
  decide (value ≠ 0) && decide (makeSign axis.total ≠ makeSign value)

/-- The blocks of `counter::process_entries` from "Reset if sign is changed" to "Modify
total_*", for one axis. -/
def addMotion [OutOfRangeConversion] (multiplier : ℚ) (value : Int) (axis : Axis) :
    Except Fault Axis := do
  let axis := if axis.signChanged value then axis.reset else axis
  let total ← makeInt (axis.total + truncate (value * multiplier))
  return { axis with total := total }

/-- A total of the first motion is at least the threshold. -/
def enlarge (leastValue : Int) (axis : Axis) : Axis :=
  if 0 < axis.total then { axis with total := max axis.total leastValue }
  else if axis.total < 0 then { axis with total := min axis.total (-leastValue) }
  else axis

end Axis

namespace Counter

def initial : Counter :=
  ⟨[], none, none, .none, .empty, .empty, none, 0, 0⟩

/-- The part of `counter::update` that is not the timer. -/
def update (motion : PointingMotion) (timePoint : Int) (counter : Counter) : Counter :=
  { counter with entries := counter.entries ++ [⟨motion.x, motion.y, timePoint⟩] }

/-- `counter::async_reset`. -/
def asyncReset (counter : Counter) : Counter :=
  { counter with
    entries := []
    lastEntryTimePoint := none
    lastScrollTimePoint := none
    counterDirection := .none
    x := .empty
    y := .empty
    momentumCount := 0
    momentumWait := 0 }

/-- The direction after the recent chunks have been compared. -/
def resetDirection (recentChunksTotalX recentChunksTotalY : Int) :
    CounterDirection → CounterDirection
  | .horizontal => if recentChunksTotalY > recentChunksTotalX then .none else .horizontal
  | .vertical => if recentChunksTotalX > recentChunksTotalY then .none else .vertical
  | .none => .none

/-- The block of `counter::process_entries` that sets a direction when there is none. -/
def setDirection (options : Options) (chunk : Chunk) (counter : Counter) : Counter :=
  if counter.counterDirection = .none then
    { counter with
      counterDirection :=
        if chunk.x.absTotal > chunk.y.absTotal then .horizontal else .vertical
      x := counter.x.reset
      y := counter.y.reset
      momentumMinus := some options.threshold }
  else counter

variable [OutOfRangeConversion]

/-- The momentum is reduced faster the smaller the total is. -/
def makeMinus (options : Options) (totalX totalY : Int) : Except Fault Int := do
  let absX ← makeInt |totalX|
  let absY ← makeInt |totalY|
  let value ← divide (max absX absY : Int) options.threshold
  let value := if value > 10 then 10 else value
  let minus := truncate (← divide options.threshold (value ^ 4))
  return if minus ≤ 0 then 1 else minus

/-- The last block of `counter::process_entries`. -/
def updateMomentum (options : Options) (counter : Counter) : Except Fault Counter := do
  let minus ← makeMinus options counter.x.total counter.y.total
  let momentumMinus ← readAssigned counter.momentumMinus
  return { counter with
    momentumMinus := some (min momentumMinus minus)
    lastScrollTimePoint := none
    momentumCount := 0
    momentumWait := 0 }

/-- A counter with a chunk taken from its entries. -/
structure Gathered where
  counter : Counter
  chunk : Chunk
  initial : Bool

omit [OutOfRangeConversion] in
/-- The blocks of `counter::process_entries` up to "Reset direction", for the front time
point. -/
def gather (options : Options) (frontTimePoint : Int) (counter : Counter) :
    Except Fault Gathered := do
  let x := counter.x.eraseChunkAccumulatedValues options frontTimePoint
  let y := counter.y.eraseChunkAccumulatedValues options frontTimePoint
  let initial := x.chunkAccumulatedValues.isEmpty && y.chunkAccumulatedValues.isEmpty
  let direction := if initial then .none else counter.counterDirection
  let (chunk, rest) ← accumulateChunk options frontTimePoint counter.entries
    ⟨.empty, .empty, counter.lastEntryTimePoint⟩
  let x := x.pushChunkAccumulatedValue frontTimePoint chunk.x.makeAccumulatedValue
  let y := y.pushChunkAccumulatedValue frontTimePoint chunk.y.makeAccumulatedValue
  let recentChunksTotalX ← x.accumulateAbsChunkAccumulatedValues
  let recentChunksTotalY ← y.accumulateAbsChunkAccumulatedValues
  return {
    counter := { counter with
      entries := rest
      lastEntryTimePoint := chunk.lastEntryTimePoint
      counterDirection := resetDirection recentChunksTotalX recentChunksTotalY direction
      x := x
      y := y }
    chunk := chunk
    initial := initial }

/-- What `counter::process_entries` has in its locals after "Apply direction". -/
structure Collected where
  counter : Counter
  initial : Bool
  /-- The direction was set, and all accumulators with it. -/
  directionSet : Bool
  x : Int
  y : Int

omit [OutOfRangeConversion] in
/-- The blocks "Set direction" and "Apply direction" of `counter::process_entries`. -/
def applyDirection (options : Options) (gathered : Gathered) : Collected :=
  let counter := gathered.counter.setDirection options gathered.chunk
  { counter := counter
    initial := gathered.initial
    directionSet := decide (gathered.counter.counterDirection = .none)
    x := if counter.counterDirection = .vertical then 0
      else gathered.chunk.x.makeAccumulatedValue
    y := if counter.counterDirection = .horizontal then 0
      else gathered.chunk.y.makeAccumulatedValue }

/-- The counter after an action, with what the action did to the axes. -/
structure Processed where
  counter : Counter
  continues : Bool
  x : AxisLog
  y : AxisLog

omit [OutOfRangeConversion] in
/-- "Enlarge total_x, total_y if initial event". -/
def enlarge (options : Options) (counter : Counter) : Counter :=
  let leastValue := if options.threshold = 0 then 1 else options.threshold
  { counter with x := counter.x.enlarge leastValue, y := counter.y.enlarge leastValue }

/-- The blocks of `counter::process_entries` from "Reset if sign is changed" to "Modify
total_*". -/
def addMotion (options : Options) (multiplier : ℚ) (collected : Collected) :
    Except Fault Counter := do
  let counter := collected.counter
  let x ← counter.x.addMotion multiplier collected.x
  let y ← counter.y.addMotion multiplier collected.y
  return { counter with
    x := x
    y := y
    momentumMinus :=
      if counter.x.signChanged collected.x || counter.y.signChanged collected.y then
        some options.threshold
      else counter.momentumMinus }

/-- The blocks of `counter::process_entries` after "Modify total_*". -/
def finishEntries (options : Options) (initial : Bool) (x y : AxisLog) (counter : Counter) :
    Except Fault Processed := do
  if counter.x.total = 0 ∧ counter.y.total = 0 then return ⟨counter, true, x, y⟩
  else
    let counter ← (if initial then counter.enlarge options else counter).updateMomentum options
    return ⟨counter, true, x, y⟩

/-- What the motion is multiplied by. -/
def multiplier (options : Options) (parameters : Parameters) : ℚ :=
  parameters.makeMouseMotionToScrollSpeedRate * options.speedMultiplier

/-- The blocks of `counter::process_entries` from "Reset if sign is changed". -/
def applyMotion (options : Options) (parameters : Parameters) (collected : Collected) :
    Except Fault Processed := do
  let changedX := collected.counter.x.signChanged collected.x
  let changedY := collected.counter.y.signChanged collected.y
  let counter ← addMotion options (multiplier options parameters) collected
  finishEntries options (collected.initial || changedX || changedY)
    ⟨collected.directionSet || changedX, collected.x, 0, 0⟩
    ⟨collected.directionSet || changedY, collected.y, 0, 0⟩ counter

/-- `counter::process_entries`. -/
def processEntries (options : Options) (parameters : Parameters) (now : Int)
    (counter : Counter) : Except Fault Processed :=
  match counter.entries with
  | [] => .ok ⟨counter, false, .still, .still⟩
  | front :: _ =>
      if now - front.timePoint ≤ options.recentTimeDurationMilliseconds then
        .ok ⟨counter, true, .still, .still⟩
      else do
        let gathered ← counter.gather options front.timePoint
        applyMotion options parameters (applyDirection options gathered)

/-- What `counter::scroll` leaves, with the `dx`, `dy`, `x` and `y` it computed and the
motion it posted. -/
structure Scrolled where
  counter : Counter
  continues : Bool
  deltaX : Int
  deltaY : Int
  x : Int
  y : Int
  motion : Option PointingMotion

omit [OutOfRangeConversion] in
/-- The interval since the last scroll event is too long. -/
def scrollIsOver (options : Options) (now : Int) (counter : Counter) : Bool :=
  counter.lastScrollTimePoint.any fun lastScrollTimePoint =>
    decide (now - lastScrollTimePoint > options.scrollEventIntervalMillisecondsThreshold)

omit [OutOfRangeConversion] in
/-- The part of `counter::scroll` from the posted motion on, given `dx` and `dy`, each momentum
as it was converted and each total as it is reduced. -/
def finishScroll (options : Options) (now deltaX deltaY : Int) (convertedX convertedY : Int × Int)
    (totalX totalY : Int) (counter : Counter) : Scrolled :=
  let moved := decide (convertedX.2 ≠ 0 ∨ convertedY.2 ≠ 0)
  let finished := decide (totalX = 0 ∧ totalY = 0)
  { counter := { counter with
      x := { counter.x with total := totalX, momentum := convertedX.1 }
      y := { counter.y with total := totalY, momentum := convertedY.1 }
      lastScrollTimePoint := if moved then some now else counter.lastScrollTimePoint
      momentumWait :=
        if !finished && options.momentumScrollEnabled then min counter.momentumCount 10
        else counter.momentumWait }
    continues := !finished
    deltaX := deltaX
    deltaY := deltaY
    x := convertedX.2
    y := convertedY.2
    motion := if moved then some ⟨0, 0, -convertedY.2, convertedX.2⟩ else none }

/-- The part of `counter::scroll` after its early returns. The vertical wheel is the negative of
the converted `y`, which is zero if no motion is posted. -/
def moveScroll (options : Options) (now : Int) (counter : Counter) : Except Fault Scrolled := do
  let scale ← divide 1 counter.momentumCount
  let scale := if !options.momentumScrollEnabled && counter.momentumCount > 1 then 0 else scale
  let deltaX := roundUp (counter.x.total * scale)
  let deltaY := roundUp (counter.y.total * scale)
  let convertedX ← convert options (← makeInt (counter.x.momentum + deltaX))
  let convertedY ← convert options (← makeInt (counter.y.momentum + deltaY))
  let _ ← makeInt (-convertedY.2)
  let totalX ← reduce counter.x.total counter.momentumMinus
  let totalY ← reduce counter.y.total counter.momentumMinus
  return counter.finishScroll options now deltaX deltaY convertedX convertedY totalX totalY

/-- `counter::scroll`. -/
def scroll (options : Options) (now : Int) (counter : Counter) : Except Fault Scrolled :=
  if counter.momentumWait > 0 then
    .ok ⟨{ counter with momentumWait := counter.momentumWait - 1 }, true, 0, 0, 0, 0, none⟩
  else
    let counter := { counter with momentumCount := counter.momentumCount + 1 }
    if counter.momentumCount = 0 ∨ counter.scrollIsOver options now = true then
      .ok ⟨counter, false, 0, 0, 0, 0, none⟩
    else counter.moveScroll options now

/-- What the timer's function did at a tick. -/
structure Ticked where
  processed : Processed
  scrolled : Scrolled

/-- The function of the timer. The clock is read in both calls. -/
def tick (options : Options) (parameters : Parameters) (now scrollNow : Int)
    (counter : Counter) : Except Fault Ticked := do
  let processed ← counter.processEntries options parameters now
  let scrolled ← processed.counter.scroll options scrollNow
  return ⟨processed, scrolled⟩

omit [OutOfRangeConversion] in
/-- `continue_timer`. -/
def Ticked.continueTimer (ticked : Ticked) : Bool :=
  ticked.processed.continues || ticked.scrolled.continues

end Counter

end Karabiner.MouseMotionToScroll

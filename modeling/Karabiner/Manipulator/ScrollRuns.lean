import Karabiner.Manipulator.ScrollSteps

/-! # Runs of the scroll counter

A run keeps the motions that were given to `update` and not taken in yet. In every run only
the selected axis has a total and a momentum and a scroll event is on one axis; and as long
as the products fit it goes with the motion that the axis was given since it was last reset
(`Running.scrollsAlong`).
-/

namespace Karabiner.MouseMotionToScroll

open Foundation

/-- What the dispatcher runs for the counter. -/
inductive Action where
  | update (motion : PointingMotion) (timePoint : Int)
  | asyncReset
  /-- The timer's function, with the two times it reads. -/
  | tick (now scrollNow : Int)
deriving DecidableEq

/-- An action of a run. -/
structure Log where
  /-- The motions it took in, of those that `update` was given. -/
  given : List PointingMotion
  /-- `counter_direction_` after it. -/
  direction : CounterDirection
  x : AxisLog
  y : AxisLog
  /-- The motion it sent to `scroll_event_arrived`. -/
  motion : Option PointingMotion
deriving DecidableEq

namespace Log

def still (direction : CounterDirection) : Log := ⟨[], direction, .still, .still, none⟩

/-- The totals and momenta of both axes were set to zero. -/
def reset : Log := ⟨[], .none, ⟨true, 0, 0, 0⟩, ⟨true, 0, 0, 0⟩, none⟩

/-- The motion that the x axis was given. -/
def motionX (log : Log) : Int := log.direction.motionX (log.given.map PointingMotion.x)

/-- The motion that the y axis was given. -/
def motionY (log : Log) : Int := log.direction.motionY (log.given.map PointingMotion.y)

/-- The motions that the axes were given are in the range of `int` after they are multiplied. -/
def Fits (multiplier : ℚ) (log : Log) : Prop :=
  IsInt (towardZero (log.motionX * multiplier)) ∧ IsInt (towardZero (log.motionY * multiplier))

instance (multiplier : ℚ) (log : Log) : Decidable (log.Fits multiplier) :=
  inferInstanceAs (Decidable (_ ∧ _))

/-- An action sends the motion that it converted, if there is any. -/
def Sends (log : Log) : Prop :=
  log.motion = if log.x.converted ≠ 0 ∨ log.y.converted ≠ 0 then
    some ⟨0, 0, -log.y.converted, log.x.converted⟩ else none

end Log

/-- The motion that the x axis was given since it was last reset. -/
def accumulatedX (logs : List Log) : Int :=
  logs.foldl (fun accumulated log =>
    if log.x.reset then log.motionX else accumulated + log.motionX) 0

/-- The motion that the y axis was given since it was last reset. -/
def accumulatedY (logs : List Log) : Int :=
  logs.foldl (fun accumulated log =>
    if log.y.reset then log.motionY else accumulated + log.motionY) 0

/-- A counter, the motions it was given that it did not take in yet, and what its actions did
so far. -/
structure Running where
  counter : Counter
  pending : List PointingMotion
  logs : List Log
deriving DecidableEq

namespace Running

def initial : Running := ⟨.initial, [], []⟩

/-- How many entries a tick has taken in. The counter takes them from the front. -/
def taken (running : Running) (ticked : Counter.Ticked) : Nat :=
  running.counter.entries.length - ticked.scrolled.counter.entries.length

/-- What is kept of a tick: it has taken in as many of the pending motions as of the entries. -/
def tickLog (running : Running) (ticked : Counter.Ticked) : Log :=
  ⟨running.pending.take (running.taken ticked), ticked.scrolled.counter.counterDirection,
    ticked.x, ticked.y, ticked.scrolled.motion⟩

def afterTick (running : Running) (ticked : Counter.Ticked) : Running :=
  ⟨ticked.scrolled.counter, running.pending.drop (running.taken ticked),
    running.logs ++ [running.tickLog ticked]⟩

variable [OutOfRangeConversion]

/-- An action. -/
def step (options : Options) (parameters : Parameters) (running : Running) :
    Action → Except Fault Running
  | .update motion timePoint =>
      .ok ⟨running.counter.update motion timePoint, running.pending ++ [motion],
        running.logs ++ [.still running.counter.counterDirection]⟩
  | .asyncReset => .ok ⟨running.counter.asyncReset, [], running.logs ++ [.reset]⟩
  | .tick now scrollNow => do
      let ticked ← running.counter.tick options parameters now scrollNow
      return running.afterTick ticked

/-- A run of actions from a counter. -/
def run (options : Options) (parameters : Parameters) (running : Running)
    (actions : List Action) : Except Fault Running :=
  actions.foldlM (step options parameters) running

end Running

/-! ## Directions -/

/-- The total and the momentum have opposite signs. -/
def Axis.Opposed (axis : Axis) : Prop :=
  (0 < axis.total ∧ axis.momentum < 0) ∨ (axis.total < 0 ∧ 0 < axis.momentum)

theorem Axis.Follows.not_opposed {axis : Axis} {accumulated : Int}
    (follows : axis.Follows accumulated) : ¬ axis.Opposed := by
  obtain ⟨total_pos, total_neg, momentum_pos, momentum_neg⟩ := follows
  rintro (⟨total, momentum⟩ | ⟨total, momentum⟩) <;> omega

/-- A scroll event that is on one axis. -/
structure ScrollsOneAxis (motion : PointingMotion) : Prop where
  pointer : motion.x = 0 ∧ motion.y = 0
  oneAxis : motion.horizontalWheel = 0 ∨ motion.verticalWheel = 0

/-- A scroll event in the direction of the motion. The vertical wheel turns against the y axis
of the pointer. -/
structure ScrollsAlong (motion : PointingMotion) (x y : Int) : Prop where
  horizontal : motion.horizontalWheel ≠ 0 → motion.horizontalWheel.sign = x.sign
  vertical : motion.verticalWheel ≠ 0 → (-motion.verticalWheel).sign = y.sign

theorem sign_eq_of_along {converted motion : Int} (nonzero : converted ≠ 0)
    (positive : 0 < converted → 0 < motion) (negative : converted < 0 → motion < 0) :
    converted.sign = motion.sign := by
  rcases lt_or_gt_of_ne nonzero with below | above
  · rw [Int.sign_eq_neg_one_of_neg below, Int.sign_eq_neg_one_of_neg (negative below)]
  · rw [Int.sign_eq_one_of_pos above, Int.sign_eq_one_of_pos (positive above)]

/-! ## One action -/

/-- The motions that the counter did not take in yet are those of its entries. -/
structure Awaits (entries : List CounterEntry) (pending : List PointingMotion) : Prop where
  x : entries.map CounterEntry.x = pending.map PointingMotion.x
  y : entries.map CounterEntry.y = pending.map PointingMotion.y

/-- The motions of the entries that are taken and of those that are left. -/
theorem Awaits.split {taken left : List CounterEntry} {pending : List PointingMotion}
    (awaits : Awaits (taken ++ left) pending) :
    Awaits taken (pending.take taken.length) ∧ Awaits left (pending.drop taken.length) := by
  obtain ⟨x, y⟩ := awaits
  constructor
  · constructor
    · rw [List.map_take, ← x]
      simp
    · rw [List.map_take, ← y]
      simp
  · constructor
    · rw [List.map_drop, ← x]
      simp
    · rw [List.map_drop, ← y]
      simp

/-- What an action does. -/
structure Acts (options : Options) (multiplier : ℚ) (running later : Running) (log : Log) :
    Prop where
  logs : later.logs = running.logs ++ [log]
  moves : Counter.Moves options multiplier running.counter later.counter log.x log.y
  x_added : log.x.added = log.motionX
  y_added : log.y.added = log.motionY
  sends : log.Sends
  oneAxis : log.x.converted = 0 ∨ log.y.converted = 0
  momentumCount : later.counter.momentumCount ≤ running.counter.momentumCount + 1

namespace Running

variable {running : Running}

/-- The invariant of a run. -/
structure Consistent (multiplier : ℚ) (running : Running) : Prop where
  ready : running.counter.Ready
  awaits : Awaits running.counter.entries running.pending
  momentumCount : running.counter.momentumCount ≤ running.logs.length
  x : (∀ log ∈ running.logs, log.Fits multiplier) →
    running.counter.x.Follows (accumulatedX running.logs)
  y : (∀ log ∈ running.logs, log.Fits multiplier) →
    running.counter.y.Follows (accumulatedY running.logs)
  motions : ∀ before log, before ++ [log] <+: running.logs →
    ∀ motion, log.motion = some motion → ScrollsOneAxis motion ∧
      ((∀ earlier ∈ before ++ [log], earlier.Fits multiplier) →
        ScrollsAlong motion (accumulatedX (before ++ [log])) (accumulatedY (before ++ [log])))

theorem consistent_initial (multiplier : ℚ) : Consistent multiplier initial :=
  ⟨.initial, ⟨rfl, rfl⟩, le_rfl, fun _ => Axis.empty_isIdle.follows _,
    fun _ => Axis.empty_isIdle.follows _, by simp [initial]⟩

variable {options : Options} {parameters : Parameters} {multiplier : ℚ} {later : Running}
  {log : Log}

/-- The axes follow the motion over one more action, and so does what it converts. -/
theorem Consistent.follows (consistent : running.Consistent multiplier)
    (acts : Acts options multiplier running later log)
    (fits : ∀ earlier ∈ running.logs ++ [log], earlier.Fits multiplier) :
    (later.counter.x.Follows (accumulatedX (running.logs ++ [log])) ∧
      (0 < log.x.converted → 0 < accumulatedX (running.logs ++ [log])) ∧
      (log.x.converted < 0 → accumulatedX (running.logs ++ [log]) < 0)) ∧
    (later.counter.y.Follows (accumulatedY (running.logs ++ [log])) ∧
      (0 < log.y.converted → 0 < accumulatedY (running.logs ++ [log])) ∧
      (log.y.converted < 0 → accumulatedY (running.logs ++ [log]) < 0)) := by
  have earlier : ∀ log ∈ running.logs, log.Fits multiplier := fun log member =>
    fits log (List.mem_append_left _ member)
  obtain ⟨fitsX, fitsY⟩ := fits log (by simp)
  rw [← acts.x_added] at fitsX
  rw [← acts.y_added] at fitsY
  have alongX := acts.moves.x.follows fitsX _ (consistent.x earlier)
  have alongY := acts.moves.y.follows fitsY _ (consistent.y earlier)
  simp only [AxisLog.accumulate, acts.x_added] at alongX
  simp only [AxisLog.accumulate, acts.y_added] at alongY
  simp only [accumulatedX, accumulatedY, List.foldl_append, List.foldl_cons, List.foldl_nil]
  exact ⟨alongX, alongY⟩

/-- The invariant over one more action. -/
theorem Consistent.acts (consistent : running.Consistent multiplier)
    (acts : Acts options multiplier running later log) (ready : later.counter.Ready)
    (awaits : Awaits later.counter.entries later.pending) : later.Consistent multiplier := by
  refine ⟨ready, awaits, ?_, ?_, ?_, ?_⟩
  · have counts := acts.momentumCount
    have before := consistent.momentumCount
    rw [acts.logs, List.length_append, List.length_singleton]
    push_cast
    omega
  · rw [acts.logs]
    exact fun fits => (consistent.follows acts fits).1.1
  · rw [acts.logs]
    exact fun fits => (consistent.follows acts fits).2.1
  · rw [acts.logs]
    intro before last isPrefix sent isSent
    rcases List.prefix_concat_iff.mp isPrefix with isLast | earlier
    · obtain ⟨rfl, isLog⟩ := List.append_inj' isLast rfl
      obtain rfl : last = log := by simpa using isLog
      have sends := acts.sends
      rw [Log.Sends, isSent] at sends
      split at sends
      · rw [Option.some.inj sends]
        refine ⟨⟨⟨rfl, rfl⟩, acts.oneAxis.imp id (by simp)⟩, fun fits => ?_⟩
        obtain ⟨⟨-, positiveX, negativeX⟩, -, positiveY, negativeY⟩ :=
          consistent.follows acts fits
        refine ⟨fun nonzero => ?_, fun nonzero => ?_⟩
        · simpa using sign_eq_of_along nonzero positiveX negativeX
        · have nonzeroY : last.y.converted ≠ 0 := by simpa using nonzero
          simpa using sign_eq_of_along nonzeroY positiveY negativeY
      · exact absurd sends (Option.some_ne_none sent)
    · exact consistent.motions before last earlier sent isSent

variable [OutOfRangeConversion]

/-- An action either leaves the range of `int` or keeps the invariant. -/
theorem Consistent.step (options : Options) (parameters : Parameters)
    (consistent : running.Consistent (Counter.multiplier options parameters)) (action : Action) :
    UnlessOverflow (fun later => later.Consistent (Counter.multiplier options parameters) ∧
      ∃ log, Acts options (Counter.multiplier options parameters) running later log)
      (running.step options parameters action) := by
  have ready := consistent.ready
  have awaits := consistent.awaits
  cases action with
  | update motion timePoint =>
      have acts : Acts options (Counter.multiplier options parameters) running
          ⟨running.counter.update motion timePoint, running.pending ++ [motion],
            running.logs ++ [.still running.counter.counterDirection]⟩
          (.still running.counter.counterDirection) :=
        ⟨rfl, ⟨(ready.update motion timePoint).toSound, .refl options _ running.counter.x,
          .refl options _ running.counter.y⟩, by simp [Log.still, Log.motionX, AxisLog.still],
          by simp [Log.still, Log.motionY, AxisLog.still], rfl, .inl rfl, Int.le_add_one le_rfl⟩
      refine Yields.ok ⟨consistent.acts acts (ready.update motion timePoint) ?_, _, acts⟩
      constructor
      · simp [Counter.update, awaits.x]
      · simp [Counter.update, awaits.y]
  | asyncReset =>
      have emptied (axis : Axis) : AxisMoved options (Counter.multiplier options parameters) axis
          .empty ⟨true, 0, 0, 0⟩ :=
        ⟨by simp [Axis.empty], fun _ accumulated _ =>
          ⟨Axis.empty_isIdle.follows _, by simp, by simp⟩⟩
      have acts : Acts options (Counter.multiplier options parameters) running
          ⟨running.counter.asyncReset, [], running.logs ++ [.reset]⟩ .reset :=
        ⟨rfl, ⟨ready.asyncReset.toSound, emptied _, emptied _⟩, by simp [Log.reset, Log.motionX],
          by simp [Log.reset, Log.motionY], rfl, .inl rfl,
          ready.count_nonneg.trans (Int.le_add_one le_rfl)⟩
      exact Yields.ok ⟨consistent.acts acts ready.asyncReset ⟨rfl, rfl⟩, _, acts⟩
  | tick now scrollNow =>
      refine (Counter.tick_spec options parameters now scrollNow ready).bind
        fun ticked isTicked => Yields.pure ?_
      obtain ⟨taken, ticks, -⟩ := isTicked
      have count : running.taken ticked = taken.length := by
        rw [Running.taken, ticks.entries, List.length_append]
        omega
      rw [ticks.entries] at awaits
      obtain ⟨given, left⟩ := awaits.split
      rw [← count] at given left
      have acts : Acts options (Counter.multiplier options parameters) running
          (running.afterTick ticked) (running.tickLog ticked) :=
        ⟨rfl, ticks.moves, ticks.x_added.trans (congrArg _ given.x),
          ticks.y_added.trans (congrArg _ given.y), ticks.scrolls.motion, ticks.oneAxis,
          ticks.scrolls.momentumCount.trans
            (Int.add_le_add_right ticks.processes.momentumCount 1)⟩
      exact ⟨consistent.acts acts ⟨ticks.moves.sound, ticks.scrolls.bounded⟩ left, _, acts⟩

/-- A run either leaves the range of `int` or keeps the invariant. -/
theorem Consistent.run (options : Options) (parameters : Parameters)
    (consistent : running.Consistent (Counter.multiplier options parameters))
    (actions : List Action) :
    UnlessOverflow (Running.Consistent (Counter.multiplier options parameters))
      (running.run options parameters actions) :=
  Yields.foldlM actions (fun _ kept action _ =>
    (kept.step options parameters action).imp fun _ result => result.1) consistent

/-- Scrolling never mixes axes, and goes with the motion as far as the products fit. In every
run and for all settings, unless an `int` leaves its range: at most one axis has a total, the
axis that is not selected has no momentum, and every scroll event is on one axis. If each
motion that an axis was given is in the range of `int` after it is multiplied, no axis has a
momentum against its total, and a scroll event goes with the motion that its axis was given
since it was last reset. -/
theorem scrollsAlong (options : Options) (parameters : Parameters) (actions : List Action) :
    UnlessOverflow (fun running =>
      (running.counter.x.total = 0 ∨ running.counter.y.total = 0) ∧
      (running.counter.counterDirection ≠ .horizontal → running.counter.x.momentum = 0) ∧
      (running.counter.counterDirection ≠ .vertical → running.counter.y.momentum = 0) ∧
      ((∀ log ∈ running.logs, log.Fits (Counter.multiplier options parameters)) →
        ¬ running.counter.x.Opposed ∧ ¬ running.counter.y.Opposed) ∧
      ∀ before log after, running.logs = before ++ log :: after →
        ∀ motion, log.motion = some motion → ScrollsOneAxis motion ∧
          ((∀ earlier ∈ before ++ [log], earlier.Fits (Counter.multiplier options parameters)) →
            ScrollsAlong motion (accumulatedX (before ++ [log]))
              (accumulatedY (before ++ [log]))))
      (initial.run options parameters actions) := by
  refine ((consistent_initial _).run options parameters actions).imp fun running consistent => ?_
  have sound := consistent.ready.toSound
  refine ⟨sound.total_zero, fun other => (sound.x_idle other).2,
    fun other => (sound.y_idle other).2, fun fits =>
      ⟨(consistent.x fits).not_opposed, (consistent.y fits).not_opposed⟩, ?_⟩
  intro before log after isLogs motion isMotion
  refine consistent.motions before log ⟨after, ?_⟩ motion isMotion
  rw [isLogs, List.append_assoc, List.singleton_append]

end Running

/-! ## Runs on fixed motions -/

namespace Running

/-- A machine with one result for every `double` that no `int` holds, the least `int`. -/
@[reducible] def leastInt : OutOfRangeConversion := ⟨fun _ => -2147483648, fun _ => by decide⟩

/-- A run is known by what its actions did. -/
theorem exists_run_of_logs [OutOfRangeConversion] (options : Options) (parameters : Parameters)
    (actions : List Action) (logs : List Log)
    (isLogs : (initial.run options parameters actions).map Running.logs = .ok logs) :
    ∃ running, initial.run options parameters actions = .ok running ∧ running.logs = logs := by
  cases isRun : initial.run options parameters actions with
  | error fault =>
      rw [isRun] at isLogs
      cases isLogs
  | ok running =>
      rw [isRun] at isLogs
      exact ⟨running, rfl, Except.ok.inj isLogs⟩

/-- A motion to the right that is mostly horizontal scrolls to the right. -/
theorem scrollsAlong_steadyMotion :
    ∃ running, @run leastInt .default (.ofSpeed 100) initial
        [.update ⟨10, 3, 0, 0⟩ 0, .tick 200 200] = .ok running ∧
      running.logs.getLast?.bind Log.motion = some ⟨0, 0, 0, 1⟩ ∧
      accumulatedX running.logs = 10 ∧ accumulatedY running.logs = 0 ∧
      ScrollsOneAxis ⟨0, 0, 0, 1⟩ ∧ ScrollsAlong ⟨0, 0, 0, 1⟩ 10 0 := by
  let _ := leastInt
  have along := scrollsAlong .default (.ofSpeed 100) [.update ⟨10, 3, 0, 0⟩ 0, .tick 200 200]
  obtain ⟨running, run, isLogs⟩ := exists_run_of_logs .default (.ofSpeed 100)
    [.update ⟨10, 3, 0, 0⟩ 0, .tick 200 200]
    [.still .none, ⟨[⟨10, 3, 0, 0⟩], .horizontal, ⟨true, 10, 128, 1⟩, ⟨true, 0, 0, 0⟩,
      some ⟨0, 0, 0, 1⟩⟩] (by decide +kernel)
  obtain ⟨-, -, -, -, motions⟩ := along.of_ok run
  obtain ⟨oneAxis, follows⟩ := motions [.still .none] _ [] isLogs _ rfl
  refine ⟨running, run, by rw [isLogs]; rfl, by rw [isLogs]; rfl, by rw [isLogs]; rfl, oneAxis,
    follows ?_⟩
  decide +kernel

/-- With a large speed multiplier the product of a motion to the right is out of the range of
`int`, and a machine that makes the least `int` of it scrolls to the left. -/
theorem scrollsAlong_fastMotion_against :
    ∃ running motion, @run leastInt (Options.default.setSpeedMultiplier 100000000) (.ofSpeed 100)
        initial [.update ⟨1, 0, 0, 0⟩ 0, .tick 200 200, .update ⟨100, 0, 0, 0⟩ 300,
          .tick 500 500] = .ok running ∧
      running.logs.getLast?.bind Log.motion = some motion ∧
      accumulatedX running.logs = 101 ∧ motion.horizontalWheel = -1 ∧
      ¬ ScrollsAlong motion (accumulatedX running.logs) (accumulatedY running.logs) := by
  let _ := leastInt
  obtain ⟨running, run, isLogs⟩ := exists_run_of_logs
    (Options.default.setSpeedMultiplier 100000000) (.ofSpeed 100)
    [.update ⟨1, 0, 0, 0⟩ 0, .tick 200 200, .update ⟨100, 0, 0, 0⟩ 300, .tick 500 500]
    [.still .none,
      ⟨[⟨1, 0, 0, 0⟩], .horizontal, ⟨true, 1, 100000000, 1⟩, ⟨true, 0, 0, 0⟩,
        some ⟨0, 0, 0, 1⟩⟩,
      .still .horizontal,
      ⟨[⟨100, 0, 0, 0⟩], .horizontal, ⟨false, 100, -2047483650, -1⟩, ⟨false, 0, 0, 0⟩,
        some ⟨0, 0, 0, -1⟩⟩] (by decide +kernel)
  have motion : accumulatedX running.logs = 101 := by rw [isLogs]; rfl
  refine ⟨running, ⟨0, 0, 0, -1⟩, run, by rw [isLogs]; rfl, motion, rfl, fun along => ?_⟩
  have same := along.horizontal (by decide)
  rw [motion] at same
  exact absurd same (by decide)

end Running

end Karabiner.MouseMotionToScroll

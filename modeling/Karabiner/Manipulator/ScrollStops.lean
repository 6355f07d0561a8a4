import Karabiner.Foundation.Ranking
import Karabiner.Manipulator.ScrollRuns
import Mathlib.Data.Prod.Lex
import Mathlib.Data.Set.Finite.Lattice

/-! # The scroll counter comes to rest

Without further updates the timer stops, unless an `int` leaves its range: each tick that goes
on takes an entry, or lessens what is left to be scrolled, or the time to wait. And the
counter loses no motion: what is added to a momentum is scrolled or still there
(`Running.comesToRest`).
-/

namespace Karabiner.MouseMotionToScroll

open Foundation Foundation.Ranking

/-! ## Conservation -/

namespace Log

/-- The `x` of the scroll event that was sent. -/
def emittedX (log : Log) : Int := (log.motion.map PointingMotion.horizontalWheel).getD 0

/-- The `y` of the scroll event that was sent, whose vertical wheel is `-y`. -/
def emittedY (log : Log) : Int := (log.motion.map fun motion => -motion.verticalWheel).getD 0

theorem emitted_eq {log : Log} (sends : log.Sends) :
    log.emittedX = log.x.converted ∧ log.emittedY = log.y.converted := by
  rw [Sends] at sends
  rw [emittedX, emittedY, sends]
  split
  · simp
  · rename_i still
    simp only [not_or, not_not] at still
    simp [still]

end Log

/-- The momentum of an axis over some actions that did not reset it. -/
structure Conserves (options : Options) (before after : Axis) (logs : List AxisLog)
    (emitted : List Int) : Prop where
  balance : (∀ log ∈ logs, log.reset = false) →
    (logs.map AxisLog.delta).sum =
      options.threshold * emitted.sum + (after.momentum - before.momentum)

theorem Conserves.nil (options : Options) (axis : Axis) : Conserves options axis axis [] [] :=
  ⟨by simp⟩

theorem Conserves.cons {options : Options} {multiplier : ℚ} {before between after : Axis}
    {log : AxisLog} {logs : List AxisLog} {emitted : List Int}
    (moved : AxisMoved options multiplier before between log)
    (rest : Conserves options between after logs emitted) :
    Conserves options before after (log :: logs) (log.converted :: emitted) := by
  refine ⟨fun noReset => ?_⟩
  have balance := rest.balance fun log member => noReset log (List.mem_cons_of_mem _ member)
  have momentum := moved.momentum
  rw [noReset log List.mem_cons_self] at momentum
  simp only [Bool.false_eq_true, if_false] at momentum
  simp only [List.map_cons, List.sum_cons, mul_add]
  linarith

namespace Running

variable [OutOfRangeConversion] {running : Running}

/-- What was done since a counter, and where it left both momenta. -/
structure Conserved (options : Options) (running later : Running) (logs : List Log) : Prop where
  isLogs : later.logs = running.logs ++ logs
  x : Conserves options running.counter.x later.counter.x (logs.map Log.x) (logs.map Log.emittedX)
  y : Conserves options running.counter.y later.counter.y (logs.map Log.y) (logs.map Log.emittedY)

omit [OutOfRangeConversion] in
/-- One more action at the beginning. -/
theorem Conserved.cons {options : Options} {multiplier : ℚ} {next later : Running} {log : Log}
    {logs : List Log} (acts : Acts options multiplier running next log)
    (rest : Conserved options next later logs) : Conserved options running later (log :: logs) := by
  obtain ⟨emittedX, emittedY⟩ := Log.emitted_eq acts.sends
  refine ⟨?_, ?_, ?_⟩
  · rw [rest.isLogs, acts.logs, List.append_assoc, List.singleton_append]
  · rw [List.map_cons, List.map_cons, emittedX]
    exact rest.x.cons acts.moves.x
  · rw [List.map_cons, List.map_cons, emittedY]
    exact rest.y.cons acts.moves.y

/-- A run of ticks conserves the motion of each axis, unless an integer overflows on the way. -/
theorem Consistent.conserves (options : Options) (parameters : Parameters)
    (consistent : running.Consistent (Counter.multiplier options parameters))
    (actions : List Action) :
    UnlessOverflow (fun later => ∃ logs, Conserved options running later logs)
      (running.run options parameters actions) := by
  induction actions generalizing running with
  | nil => exact Yields.ok ⟨[], by simp, .nil options _, .nil options _⟩
  | cons action rest ih =>
      rw [Running.run, List.foldlM_cons]
      refine (consistent.step options parameters action).bind fun next ⟨goesOn, log, acts⟩ => ?_
      exact (ih goesOn).imp fun later ⟨logs, conserved⟩ => ⟨log :: logs, conserved.cons acts⟩

end Running

/-! ## Rest -/

/-- No update comes any more, ticks keep coming, and their time passes every bound. -/
structure Quiet (rest : ℕ → Action) : Prop where
  noUpdate : ∀ n motion timePoint, rest n ≠ .update motion timePoint
  ticks : ∀ n, ∃ m, n ≤ m ∧ ∃ now scrollNow, rest m = .tick now scrollNow
  passes : ∀ time, ∃ n, ∀ m, n ≤ m → ∀ now scrollNow, rest m = .tick now scrollNow → time < now

namespace Counter

variable {options : Options} {multiplier : ℚ} {counter : Counter}

/-- What a tick that goes on makes smaller: the entries, else what is left to be scrolled,
else the time to wait. -/
def rank (counter : Counter) : ℕ ×ₗ ℕ ×ₗ ℕ :=
  toLex (counter.entries.length, toLex (counter.remaining, counter.momentumWait.toNat))

theorem rank_asyncReset (counter : Counter) : counter.asyncReset.rank ≤ counter.rank := by
  have least : counter.asyncReset.rank = toLex (0, toLex (0, 0)) := rfl
  rw [least, rank, Prod.Lex.toLex_le_toLex]
  rcases Nat.eq_zero_or_pos counter.entries.length with empty | nonempty
  · refine .inr ⟨empty.symm, ?_⟩
    rw [Prod.Lex.toLex_le_toLex]
    omega
  · exact .inl nonempty

/-- A tick after the entries have become old lowers the rank when it goes on. -/
theorem Ticks.rank_lt {now : Int} {taken : List CounterEntry} {ticked : Ticked}
    (ticks : Ticks options multiplier counter taken ticked)
    (takes : TakesOld options now counter.entries taken)
    (old : ∀ entry ∈ counter.entries,
      options.recentTimeDurationMilliseconds < now - entry.timePoint)
    (goesOn : ¬ (ticked.processed.continues = false ∧ ticked.scrolled.continues = false)) :
    ticked.scrolled.counter.rank < counter.rank := by
  have entries := ticks.entries
  obtain ⟨processes, scrolls, moves, -⟩ := ticks
  rw [rank, rank, Prod.Lex.toLex_lt_toLex]
  by_cases empty : counter.entries = []
  · right
    have same := processes.idle empty
    have continues : ticked.scrolled.continues = true := by
      simpa [processes.continues.mpr empty] using goesOn
    have progress := scrolls.progress continues
    have waits := moves.sound.wait_nonneg
    rw [scrolls.entries]
    rw [same] at progress ⊢
    refine ⟨rfl, ?_⟩
    rw [Prod.Lex.toLex_lt_toLex]
    dsimp only
    omega
  · left
    have some := List.length_pos_iff.mpr (takes empty old)
    have length := congrArg List.length entries
    rw [List.length_append] at length
    dsimp only
    omega

end Counter

namespace Running

variable [OutOfRangeConversion] {running : Running}

theorem run_range_succ (options : Options) (parameters : Parameters) (running : Running)
    (rest : ℕ → Action) (n : ℕ) :
    running.run options parameters ((List.range (n + 1)).map rest) =
      running.run options parameters ((List.range n).map rest) >>= fun before =>
        before.step options parameters (rest n) := by
  rw [run, List.range_succ, List.map_append, List.foldlM_append]
  simp [run]

/-- A tick with a result is one of the counter, and leads to the counter that it left. -/
theorem Consistent.ticks_of_step {options : Options} {parameters : Parameters}
    (consistent : running.Consistent (Counter.multiplier options parameters))
    {now scrollNow : Int} {next : Running}
    (isNext : running.step options parameters (.tick now scrollNow) = .ok next) :
    ∃ ticked taken, running.counter.tick options parameters now scrollNow = .ok ticked ∧
      Counter.Ticks options (Counter.multiplier options parameters) running.counter taken ticked ∧
      Counter.TakesOld options now running.counter.entries taken ∧
      next.counter = ticked.scrolled.counter := by
  rw [Running.step] at isNext
  cases run : running.counter.tick options parameters now scrollNow with
  | error fault =>
      rw [run] at isNext
      cases isNext
  | ok ticked =>
      rw [run] at isNext
      obtain ⟨taken, ticks, takes⟩ :=
        (Counter.tick_spec options parameters now scrollNow consistent.ready).of_ok run
      exact ⟨ticked, taken, rfl, ticks, takes,
        (congrArg Running.counter (Except.ok.inj isNext)).symm⟩

theorem counter_of_asyncReset {options : Options} {parameters : Parameters} {next : Running}
    (isNext : running.step options parameters .asyncReset = .ok next) :
    next.counter = running.counter.asyncReset :=
  (congrArg Running.counter (Except.ok.inj isNext)).symm

/-- An action that is no update only takes entries away. -/
theorem Consistent.entries_suffix {options : Options} {parameters : Parameters}
    (consistent : running.Consistent (Counter.multiplier options parameters)) {action : Action}
    (noUpdate : ∀ motion timePoint, action ≠ .update motion timePoint) {next : Running}
    (isNext : running.step options parameters action = .ok next) :
    next.counter.entries <:+ running.counter.entries := by
  cases action with
  | update motion timePoint => exact absurd rfl (noUpdate motion timePoint)
  | asyncReset =>
      rw [counter_of_asyncReset isNext]
      exact List.nil_suffix
  | tick now scrollNow =>
      obtain ⟨ticked, taken, -, ticks, -, same⟩ := consistent.ticks_of_step isNext
      rw [same]
      exact ⟨taken, ticks.entries.symm⟩

/-- Without updates some tick ends with nothing to go on with, if every action has a result. -/
theorem Consistent.stops (options : Options) (parameters : Parameters)
    (consistent : running.Consistent (Counter.multiplier options parameters))
    {rest : ℕ → Action} (quiet : Quiet rest) {states : ℕ → Running}
    (runs : ∀ n, running.run options parameters ((List.range n).map rest) = .ok (states n)) :
    ∃ n now scrollNow ticked, rest n = .tick now scrollNow ∧
      (states n).counter.tick options parameters now scrollNow = .ok ticked ∧
      ticked.processed.continues = false ∧ ticked.scrolled.continues = false := by
  have isConsistent (n : ℕ) : (states n).Consistent (Counter.multiplier options parameters) :=
    (consistent.run options parameters _).of_ok (runs n)
  have next (n : ℕ) : (states n).step options parameters (rest n) = .ok (states (n + 1)) := by
    have := runs (n + 1)
    rwa [run_range_succ, runs n] at this
  have suffix (n : ℕ) : (states n).counter.entries <:+ (states 0).counter.entries := by
    induction n with
    | zero => exact List.suffix_rfl
    | succ n ih => exact ((isConsistent n).entries_suffix (quiet.noUpdate n) (next n)).trans ih
  obtain ⟨latest, isLatest⟩ :=
    ((states 0).counter.entries.map CounterEntry.timePoint).finite_toSet.bddAbove
  obtain ⟨start, isStart⟩ := quiet.passes (latest + options.recentTimeDurationMilliseconds)
  have old (n : ℕ) (late : start ≤ n) {now scrollNow : Int}
      (isTick : rest n = .tick now scrollNow) :
      ∀ entry ∈ (states n).counter.entries,
        options.recentTimeDurationMilliseconds < now - entry.timePoint := by
    intro entry member
    have early : entry.timePoint ≤ latest :=
      isLatest (List.mem_map_of_mem ((suffix n).subset member))
    have := isStart n late now scrollNow isTick
    omega
  let stops (n : ℕ) : Prop := ∃ now scrollNow ticked, rest n = .tick now scrollNow ∧
    (states n).counter.tick options parameters now scrollNow = .ok ticked ∧
    ticked.processed.continues = false ∧ ticked.scrolled.continues = false
  have kept (n : ℕ) (_ : start ≤ n) (notBusy : ¬ ∃ now scrollNow, rest n = .tick now scrollNow) :
      (states (n + 1)).counter.rank ≤ (states n).counter.rank := by
    cases isAction : rest n with
    | update motion timePoint => exact absurd isAction (quiet.noUpdate n _ _)
    | asyncReset =>
        rw [counter_of_asyncReset (isAction ▸ next n)]
        exact Counter.rank_asyncReset _
    | tick now scrollNow => exact absurd ⟨now, scrollNow, isAction⟩ notBusy
  have falls (n : ℕ) (late : start ≤ n) (isBusy : ∃ now scrollNow, rest n = .tick now scrollNow)
      (goesOn : ¬ stops n) :
      (states (n + 1)).counter.rank < (states n).counter.rank := by
    obtain ⟨now, scrollNow, isTick⟩ := isBusy
    obtain ⟨result, taken, run, ticks, takes, isNext⟩ :=
      (isConsistent n).ticks_of_step (isTick ▸ next n)
    rw [isNext]
    exact ticks.rank_lt takes (old n late isTick)
      fun stopped => goesOn ⟨now, scrollNow, result, isTick, run, stopped⟩
  obtain ⟨n, -, -, stopped⟩ := @exists_stop _ _ _ (fun n => (states n).counter.rank) _ stops
    start quiet.ticks kept falls
  exact ⟨n, stopped⟩

/-- The actions end in a tick at which both calls return false. -/
def Rests (options : Options) (parameters : Parameters) (running : Running) (rest : ℕ → Action) :
    Prop :=
  ∃ n before now scrollNow ticked,
    running.run options parameters ((List.range n).map rest) = .ok before ∧
    rest n = .tick now scrollNow ∧
    before.counter.tick options parameters now scrollNow = .ok ticked ∧
    ticked.processed.continues = false ∧ ticked.scrolled.continues = false

/-- Quiet actions either leave the range of `int` or come to rest. -/
theorem Consistent.rests (options : Options) (parameters : Parameters)
    (consistent : running.Consistent (Counter.multiplier options parameters))
    {rest : ℕ → Action} (quiet : Quiet rest) :
    (∃ n, running.run options parameters ((List.range n).map rest) = .error .overflow) ∨
      running.Rests options parameters rest := by
  by_cases overflows :
      ∃ n, running.run options parameters ((List.range n).map rest) = .error .overflow
  · exact .inl overflows
  · have result (n : ℕ) :
        ∃ state, running.run options parameters ((List.range n).map rest) = .ok state := by
      cases run : running.run options parameters ((List.range n).map rest) with
      | ok state => exact ⟨state, rfl⟩
      | error fault =>
          have isOverflow := (consistent.run options parameters _).of_error run
          exact absurd ⟨n, isOverflow ▸ run⟩ overflows
    choose states runs using result
    obtain ⟨n, now, scrollNow, ticked, isTick, run, stopped⟩ :=
      consistent.stops options parameters quiet runs
    exact .inr ⟨n, states n, now, scrollNow, ticked, runs n, isTick, run, stopped⟩

/-- Momentum scrolling stops and conserves motion. In every reachable counter and for all
settings, unless an `int` leaves its range: a quiet sequence of actions has a tick at which
both `process_entries` and `scroll` return false; every tick has a result, so it uses no
unassigned value, divides by no zero and ends its loops; `momentum_minus_` is at least one
when a total is reduced; `convert` needs no more turns than its value is large; over any
actions that do not reset the momentum of an axis, what was added to it was emitted or is
still there; and `momentum_count_` is at most the number of actions. -/
theorem comesToRest (options : Options) (parameters : Parameters) (actions : List Action) :
    UnlessOverflow (fun running =>
      running.counter.momentumCount ≤ running.logs.length ∧
      (∀ rest, Quiet rest →
        (∃ n, running.run options parameters ((List.range n).map rest) = .error .overflow) ∨
          running.Rests options parameters rest) ∧
      (∀ now scrollNow, UnlessOverflow (fun ticked =>
        ticked.processed.counter.x.total ≠ 0 ∨ ticked.processed.counter.y.total ≠ 0 →
          ∃ minus, ticked.processed.counter.momentumMinus = some minus ∧ 1 ≤ minus)
        (running.counter.tick options parameters now scrollNow)) ∧
      (∀ value turns, value.natAbs ≤ turns → ∃ converted,
        convertWithin options turns value = .ok converted ∧
        convert options value = .ok converted) ∧
      ∀ stretch, UnlessOverflow (fun later => ∃ logs, later.logs = running.logs ++ logs ∧
        ((∀ log ∈ logs, log.x.reset = false) →
          (logs.map fun log => log.x.delta).sum =
            options.threshold * (logs.map Log.emittedX).sum +
              (later.counter.x.momentum - running.counter.x.momentum)) ∧
        ((∀ log ∈ logs, log.y.reset = false) →
          (logs.map fun log => log.y.delta).sum =
            options.threshold * (logs.map Log.emittedY).sum +
              (later.counter.y.momentum - running.counter.y.momentum)))
        (running.run options parameters stretch))
      (initial.run options parameters actions) := by
  refine ((consistent_initial _).run options parameters actions).imp fun running consistent => ?_
  refine ⟨consistent.momentumCount,
    fun rest quiet => consistent.rests options parameters quiet, ?_, ?_, ?_⟩
  · intro now scrollNow
    exact (Counter.tick_spec options parameters now scrollNow consistent.ready).imp
      fun ticked ⟨_, ticks, _⟩ nonzero => ticks.processes.moves.sound.minus nonzero
  · intro value turns enough
    obtain ⟨left, result, converts, -⟩ := convert_spec options value
    exact ⟨(left, result), convertWithin_of_le enough converts, converts⟩
  · intro stretch
    refine (consistent.conserves options parameters stretch).imp
      fun later ⟨logs, isLogs, conservesX, conservesY⟩ =>
        ⟨logs, isLogs, fun noReset => ?_, fun noReset => ?_⟩
    · have balance := conservesX.balance (by simpa using noReset)
      rwa [List.map_map] at balance
    · have balance := conservesY.balance (by simpa using noReset)
      rwa [List.map_map] at balance

end Running

/-! ## Runs on fixed motions -/

/-- The ticks of a timer whose interval is 20 milliseconds. -/
theorem quiet_ticks (start : Int) :
    Quiet fun n => .tick (start + 20 * n) (start + 20 * n) := by
  refine ⟨fun n motion timePoint => by simp, fun n => ⟨n, le_rfl, _, _, rfl⟩, fun time => ?_⟩
  refine ⟨(time - start).toNat + 1, fun m late now scrollNow isTick => ?_⟩
  have isNow := (Action.tick.inj isTick).1
  omega

namespace Running

/-- Two thresholds of a motion to the right are scrolled, then the timer stops, and between the
first two scroll events what was added to the momentum was scrolled or is left. -/
theorem comesToRest_afterOneMotion :
    ∃ running later logs,
      @run leastInt .default (.ofSpeed 100) initial
        [.update ⟨200, 3, 0, 0⟩ 0, .tick 200 200] = .ok running ∧
      @Rests leastInt .default (.ofSpeed 100) running
        (fun n => .tick (220 + 20 * n) (220 + 20 * n)) ∧
      @run leastInt .default (.ofSpeed 100) running [.tick 220 220, .tick 240 240] = .ok later ∧
      later.logs = running.logs ++ logs ∧ (logs.map fun log => log.x.delta).sum = 90 ∧
      (logs.map Log.emittedX).sum = 1 ∧
      90 = 128 * 1 + (later.counter.x.momentum - running.counter.x.momentum) := by
  let _ := leastInt
  let running : Running := {
    counter := ⟨[], some 0, some 200, .horizontal, ⟨[(0, 200)], 179, 72⟩, ⟨[(0, 3)], 0, 0⟩,
      some 21, 1, 1⟩
    pending := []
    logs := [.still .none,
      ⟨[⟨200, 3, 0, 0⟩], .horizontal, ⟨true, 200, 200, 1⟩, ⟨true, 0, 0, 0⟩,
        some ⟨0, 0, 0, 1⟩⟩] }
  let logs : List Log := [.still .horizontal,
    ⟨[], .horizontal, ⟨false, 0, 90, 1⟩, ⟨false, 0, 0, 0⟩, some ⟨0, 0, 0, 1⟩⟩]
  let later : Running := {
    counter := ⟨[], some 0, some 240, .horizontal, ⟨[(0, 200)], 158, 34⟩, ⟨[(0, 3)], 0, 0⟩,
      some 21, 2, 2⟩
    pending := []
    logs := running.logs ++ logs }
  have isRunning : initial.run .default (.ofSpeed 100)
      [.update ⟨200, 3, 0, 0⟩ 0, .tick 200 200] = .ok running := by
    decide +kernel
  have isLater : running.run .default (.ofSpeed 100) [.tick 220 220, .tick 240 240] =
      .ok later := by
    decide +kernel
  have stops : (do
      let before ← running.run .default (.ofSpeed 100)
        ((List.range 8).map fun n : ℕ => .tick (220 + 20 * n) (220 + 20 * n))
      let ticked ← before.counter.tick .default (.ofSpeed 100) 380 380
      return (ticked.processed.continues, ticked.scrolled.continues)) = .ok (false, false) := by
    decide +kernel
  obtain ⟨before, isBefore, stops⟩ := exists_of_bind_eq_ok stops
  obtain ⟨ticked, isTicked, stopped⟩ := exists_of_bind_eq_ok stops
  have rests : running.Rests .default (.ofSpeed 100)
      fun n => .tick (220 + 20 * n) (220 + 20 * n) :=
    ⟨8, before, 380, 380, ticked, isBefore, rfl, isTicked, Prod.mk.inj (Except.ok.inj stopped)⟩
  obtain ⟨-, -, -, -, conserves⟩ := (comesToRest .default (.ofSpeed 100)
    [.update ⟨200, 3, 0, 0⟩ 0, .tick 200 200]).of_ok isRunning
  obtain ⟨given, isGiven, balance, -⟩ := (conserves _).of_ok isLater
  obtain rfl : logs = given := List.append_cancel_left isGiven
  exact ⟨running, later, logs, isRunning, rests, isLater, rfl, rfl, rfl, balance (by decide)⟩

/-- A sequence does not come to rest if its first action is a tick without a result. -/
theorem not_rests [OutOfRangeConversion] {options : Options} {parameters : Parameters}
    {running : Running} {rest : ℕ → Action} {now scrollNow : Int} {fault : Fault}
    (isTick : rest 0 = .tick now scrollNow)
    (stopped : running.counter.tick options parameters now scrollNow = .error fault) :
    ¬ running.Rests options parameters rest := by
  rintro ⟨n, before, later, scrollLater, ticked, runs, isLater, tick, -⟩
  cases n with
  | zero =>
      obtain rfl := Except.ok.inj runs
      obtain ⟨rfl, rfl⟩ := Action.tick.inj (isTick.symm.trans isLater)
      rw [stopped] at tick
      cases tick
  | succ n =>
      rw [Running.run, List.range_succ_eq_map, List.map_cons, List.foldlM_cons, isTick,
        Running.step, stopped] at runs
      cases runs

/-- With a large speed multiplier the product of a motion is out of the range of `int`. A
machine that makes the least `int` of it has no `int` for the absolute value of the total,
and no tick comes to an end. -/
theorem comesToRest_fastMotion_overflows :
    ∃ running rest, Quiet rest ∧
      @run leastInt (Options.default.setSpeedMultiplier 10000000000) (.ofSpeed 100) initial
        [.update ⟨1, 0, 0, 0⟩ 0] = .ok running ∧
      ¬ @Rests leastInt (Options.default.setSpeedMultiplier 10000000000) (.ofSpeed 100) running
        rest := by
  let _ := leastInt
  refine ⟨⟨Counter.initial.update ⟨1, 0, 0, 0⟩ 0, [⟨1, 0, 0, 0⟩], [.still .none]⟩, _,
    quiet_ticks 200, rfl, ?_⟩
  have isOverflow : ((Counter.initial.update ⟨1, 0, 0, 0⟩ 0).tick
      (Options.default.setSpeedMultiplier 10000000000) (.ofSpeed 100) 200 200).map (fun _ => ()) =
        .error .overflow := by
    decide +kernel
  exact not_rests (Eq.refl (Action.tick 200 200)) (eq_error_of_map isOverflow)

end Running

end Karabiner.MouseMotionToScroll

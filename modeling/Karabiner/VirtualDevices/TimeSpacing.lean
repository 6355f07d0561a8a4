import Karabiner.Foundation.Execution
import Karabiner.VirtualDevices.Queue

/-! # The distance of posted events

`adjust_time_stamp` keeps posted events five milliseconds apart, but for releases that follow a
release and for events that are neither presses nor releases. Time points have 64 bits here, and
their sums wrap around. The last time stamp is the latest one that was assigned, and an event that
has to keep its distance keeps it from every earlier one, unless the last time stamp is too close
to 2^64 (`SpacedRun.distance_iff`). While it is not, the integers of `PostedEventQueue` agree with
these time stamps (`SpacedRun.refines_run`).
-/

namespace Karabiner

/-- What `adjust_time_stamp` reads and writes of the queue. -/
structure SpacedTimes where
  lastEventType : EventType
  lastEventTimeStamp : UInt64

namespace SpacedTimes

def initial : SpacedTimes := ⟨.single, 0⟩

variable [MachTimebase]

/-- Five milliseconds. -/
def wait : UInt64 := .ofInt (MachTimebase.makeAbsoluteTimeDuration 5)

omit [MachTimebase] in
/-- The `skip` of `queue::adjust_time_stamp`. -/
def skip (times : SpacedTimes) (isModifierKeyEvent : Bool) : EventType → Bool
  | .keyDown => false
  | .keyUp => times.lastEventType == .keyUp && !isModifierKeyEvent
  | .single => true

/-- `queue::adjust_time_stamp`: the adjusted time stamp and what is remembered. -/
def adjustTimeStamp (times : SpacedTimes) (timeStamp : UInt64) (eventType : EventType)
    (isModifierKeyEvent : Bool) : UInt64 × SpacedTimes :=
  let skip := times.skip isModifierKeyEvent eventType
  let adjusted :=
    if skip then timeStamp
    else if timeStamp < times.lastEventTimeStamp + wait then times.lastEventTimeStamp + wait
    else timeStamp
  (adjusted,
    { lastEventType := if skip then times.lastEventType else eventType
      lastEventTimeStamp :=
        if times.lastEventTimeStamp < adjusted then adjusted else times.lastEventTimeStamp })

end SpacedTimes

/-- The functions of the queue that adjust a time stamp. -/
inductive SpacedCall where
  | emplaceBackKeyEvent (usagePair : UsagePair) (eventType : EventType) (timeStamp : UInt64)
  | emplaceBackPointingInput (eventType : EventType) (timeStamp : UInt64)

namespace SpacedCall

def eventType : SpacedCall → EventType
  | .emplaceBackKeyEvent _ eventType _ => eventType
  | .emplaceBackPointingInput eventType _ => eventType

def timeStamp : SpacedCall → UInt64
  | .emplaceBackKeyEvent _ _ timeStamp => timeStamp
  | .emplaceBackPointingInput _ timeStamp => timeStamp

/-- The third argument of `adjust_time_stamp`. -/
def isModifierKeyEvent : SpacedCall → Bool
  | .emplaceBackKeyEvent usagePair _ _ => MomentarySwitchEvent.modifierFlag ⟨usagePair⟩
  | .emplaceBackPointingInput _ _ => false

end SpacedCall

/-- What is remembered, and the time stamps that were assigned. -/
structure SpacedRun where
  times : SpacedTimes
  assigned : List UInt64

namespace SpacedRun

open SpacedTimes

def initial : SpacedRun := ⟨.initial, []⟩

variable [MachTimebase]

/-- The time stamp that a call assigns, and what it remembers. -/
def adjust (run : SpacedRun) (call : SpacedCall) : UInt64 × SpacedTimes :=
  run.times.adjustTimeStamp call.timeStamp call.eventType call.isModifierKeyEvent

def step (run : SpacedRun) (call : SpacedCall) : SpacedRun where
  times := (run.adjust call).2
  assigned := run.assigned ++ [(run.adjust call).1]

omit [MachTimebase] in
/-- A press, a release of a modifier key, or a release that does not follow a release. -/
def IsSpaced (run : SpacedRun) (call : SpacedCall) : Prop :=
  call.eventType = .keyDown ∨
    call.eventType = .keyUp ∧
      (call.isModifierKeyEvent = true ∨ run.times.lastEventType ≠ .keyUp)

/-- The call keeps its distance from everything that was assigned before. -/
def KeepsDistance (run : SpacedRun) (call : SpacedCall) : Prop :=
  run.IsSpaced call →
    ∀ earlier ∈ run.assigned, earlier.toNat + wait.toNat ≤ (run.adjust call).1.toNat

/-- The last time stamp is not too close to 2^64. -/
def Fits (run : SpacedRun) (call : SpacedCall) : Prop :=
  run.IsSpaced call → run.times.lastEventTimeStamp.toNat + wait.toNat < 2 ^ 64

omit [MachTimebase] in
/-- The last time stamp is the latest one that was assigned. -/
structure LastIsMaximum (run : SpacedRun) : Prop where
  latest : ∀ earlier ∈ run.assigned, earlier ≤ run.times.lastEventTimeStamp
  assigned : run.assigned ≠ [] → run.times.lastEventTimeStamp ∈ run.assigned
  zero : run.assigned = [] → run.times.lastEventTimeStamp = 0

omit [MachTimebase] in
instance (run : SpacedRun) (call : SpacedCall) : Decidable (run.IsSpaced call) :=
  inferInstanceAs (Decidable (_ ∨ _ ∧ (_ ∨ _)))

instance (run : SpacedRun) (call : SpacedCall) : Decidable (run.KeepsDistance call) :=
  have := List.decidableBAll
    (fun earlier : UInt64 => earlier.toNat + wait.toNat ≤ (run.adjust call).1.toNat) run.assigned
  inferInstanceAs (Decidable (_ → ∀ earlier ∈ run.assigned, _))

/-! ## The last time stamp -/

omit [MachTimebase] in
theorem lastIsMaximum_initial : initial.LastIsMaximum :=
  ⟨fun _ member => absurd member List.not_mem_nil, fun notNil => absurd rfl notNil, fun _ => rfl⟩

/-- What is remembered is the later one of the last time stamp and the assigned one. -/
theorem lastEventTimeStamp_step (run : SpacedRun) (call : SpacedCall) :
    (run.step call).times.lastEventTimeStamp =
      if run.times.lastEventTimeStamp < (run.adjust call).1 then (run.adjust call).1
      else run.times.lastEventTimeStamp := rfl

/-- The last time stamp stays the greatest of all, as each new one is at least that. -/
theorem LastIsMaximum.step {run : SpacedRun} (isMaximum : run.LastIsMaximum) (call : SpacedCall) :
    (run.step call).LastIsMaximum := by
  have last := lastEventTimeStamp_step run call
  refine ⟨fun earlier member => ?_, fun _ => ?_, fun isNil => ?_⟩
  · rw [last]
    rcases List.mem_append.mp member with before | now
    · have le := isMaximum.latest earlier before
      split
      · rename_i later
        exact UInt64.le_trans le (UInt64.le_of_lt later)
      · exact le
    · obtain rfl := List.mem_singleton.mp now
      split
      · exact UInt64.le_refl _
      · rename_i notLater
        exact UInt64.not_lt.mp notLater
  · rw [last]
    split
    · exact List.mem_append_right _ List.mem_cons_self
    · rename_i notLater
      by_cases nothing : run.assigned = []
      · -- The first time stamp is zero.
        have zero := isMaximum.zero nothing
        rw [zero] at notLater ⊢
        have same : (run.adjust call).1 = 0 := UInt64.le_zero_iff.mp (UInt64.not_lt.mp notLater)
        exact List.mem_append_right _ (List.mem_singleton.mpr same.symm)
      · exact List.mem_append_left _ (isMaximum.assigned nothing)
  · cases List.append_eq_nil_iff.mp isNil with
    | intro _ isNil => cases isNil

theorem lastIsMaximum_foldl (calls : List SpacedCall) :
    (calls.foldl step initial).LastIsMaximum :=
  Foundation.Execution.invariant_of_steps (fun _ call isMaximum => isMaximum.step call)
    lastIsMaximum_initial calls

/-! ## The distance -/

omit [MachTimebase] in
theorem isSpaced_iff (run : SpacedRun) (call : SpacedCall) :
    run.IsSpaced call ↔ run.times.skip call.isModifierKeyEvent call.eventType = false := by
  simp only [IsSpaced, skip]
  cases call.eventType with
  | keyDown => simp only [true_or]
  | single => simp only [reduceCtorEq, false_and, or_self, Bool.true_eq_false]
  | keyUp =>
      simp only [reduceCtorEq, false_or, true_and]
      rw [Bool.and_eq_false_iff, Bool.not_eq_false', beq_eq_false_iff_ne]
      exact or_comm

/-- A call that has to keep its distance is put at least five milliseconds after the last time
stamp, where the sum wraps around. -/
theorem adjust_of_isSpaced {run : SpacedRun} {call : SpacedCall} (isSpaced : run.IsSpaced call) :
    (run.adjust call).1 =
      if call.timeStamp < run.times.lastEventTimeStamp + wait then
        run.times.lastEventTimeStamp + wait
      else call.timeStamp := by
  have notSkipped := (run.isSpaced_iff call).mp isSpaced
  simp only [adjust, adjustTimeStamp, notSkipped, Bool.false_eq_true, if_false]

theorem le_adjust_of_isSpaced {run : SpacedRun} {call : SpacedCall}
    (isSpaced : run.IsSpaced call) :
    run.times.lastEventTimeStamp + wait ≤ (run.adjust call).1 := by
  rw [adjust_of_isSpaced isSpaced]
  split
  · exact UInt64.le_refl _
  · rename_i notBefore
    exact UInt64.not_lt.mp notBefore

theorem Fits.toNat_add {run : SpacedRun} {call : SpacedCall} (fits : run.Fits call)
    (isSpaced : run.IsSpaced call) :
    (run.times.lastEventTimeStamp + wait).toNat =
      run.times.lastEventTimeStamp.toNat + wait.toNat := by
  rw [UInt64.toNat_add]
  exact Nat.mod_eq_of_lt (fits isSpaced)

theorem LastIsMaximum.keepsDistance {run : SpacedRun} (isMaximum : run.LastIsMaximum)
    {call : SpacedCall} (fits : run.Fits call) : run.KeepsDistance call := by
  intro isSpaced earlier member
  have before : earlier.toNat ≤ run.times.lastEventTimeStamp.toNat :=
    UInt64.le_iff_toNat_le.mp (isMaximum.latest earlier member)
  have after : (run.times.lastEventTimeStamp + wait).toNat ≤ (run.adjust call).1.toNat :=
    UInt64.le_iff_toNat_le.mp (le_adjust_of_isSpaced isSpaced)
  rw [fits.toNat_add isSpaced] at after
  exact (Nat.add_le_add_right before _).trans after

theorem LastIsMaximum.fits {run : SpacedRun} (isMaximum : run.LastIsMaximum) {call : SpacedCall}
    (keeps : run.KeepsDistance call) : run.Fits call := by
  intro isSpaced
  by_cases nothing : run.assigned = []
  · rw [isMaximum.zero nothing, UInt64.toNat_zero, Nat.zero_add]
    exact wait.toNat_lt
  · exact (keeps isSpaced _ (isMaximum.assigned nothing)).trans_lt
      (run.adjust call).1.toNat_lt

/-- After all calls, the last time stamp is the latest one that was assigned, and the next call
that has to keep its distance keeps it if and only if the last time stamp is not too close to
2^64. -/
theorem distance_iff (calls : List SpacedCall) (call : SpacedCall) :
    (calls.foldl step initial).LastIsMaximum ∧
      ((calls.foldl step initial).KeepsDistance call ↔
        (calls.foldl step initial).Fits call) := by
  have isMaximum := lastIsMaximum_foldl calls
  exact ⟨isMaximum, isMaximum.fits, isMaximum.keepsDistance⟩

omit [MachTimebase] in
/-- A press at the last time there is, and a press of another key at time zero: the second one is
put before the first. -/
theorem pressAtTheEnd_losesDistance :
    let _ : MachTimebase := nanosecondTimebase
    ¬ ([SpacedCall.emplaceBackKeyEvent ⟨7, 4⟩ .keyDown 18446744073709551615].foldl step
        initial).KeepsDistance (.emplaceBackKeyEvent ⟨7, 5⟩ .keyDown 0) := by
  decide +kernel

/-! ## The queue -/

variable [HidReportLibrary]

omit [MachTimebase] in
/-- The queue remembers the same, and each of its events has a time stamp that was assigned. -/
structure Refines (queue : PostedEventQueue) (run : SpacedRun) : Prop where
  lastEventType : queue.lastEventType = run.times.lastEventType
  lastEventTimeStamp : queue.lastEventTimeStamp = run.times.lastEventTimeStamp.toNat
  assigned : ∀ event ∈ queue.events, ∃ stamp ∈ run.assigned, event.timeStamp = stamp.toNat

/-- A call as the queue gets it, with the report of a pointing input. -/
def perform (queue : PostedEventQueue) :
    SpacedCall × PointingInput → PostedEventQueue
  | (.emplaceBackKeyEvent usagePair eventType timeStamp, _) =>
      queue.emplaceBackKeyEvent usagePair eventType timeStamp.toNat
  | (.emplaceBackPointingInput eventType timeStamp, report) =>
      queue.emplaceBackPointingInput report eventType timeStamp.toNat

omit [MachTimebase] in
theorem refines_initial : Refines .initial initial :=
  ⟨rfl, rfl, fun _ member => absurd member List.not_mem_nil⟩

/-- The queue skips a call when its time stamps do. -/
theorem Refines.adjustTimeStamp_eq {queue : PostedEventQueue} {run : SpacedRun}
    (refines : Refines queue run) (timeStamp : Int) (eventType : EventType)
    (isModifierKeyEvent : Bool) :
    queue.adjustTimeStamp timeStamp eventType isModifierKeyEvent =
      let skip := run.times.skip isModifierKeyEvent eventType
      let adjusted :=
        if skip then timeStamp
        else max timeStamp (queue.lastEventTimeStamp + MachTimebase.makeAbsoluteTimeDuration 5)
      (adjusted,
        { queue with
          lastEventType := if skip then queue.lastEventType else eventType
          lastEventTimeStamp := max queue.lastEventTimeStamp adjusted }) := by
  simp only [PostedEventQueue.adjustTimeStamp, skip, refines.lastEventType]
  cases eventType <;> rfl

omit [MachTimebase] [HidReportLibrary] in
theorem toNat_later (first second : UInt64) :
    ((if first < second then second else first).toNat : Int) =
      max (first.toNat : Int) (second.toNat : Int) := by
  split
  · rename_i later
    have le := (UInt64.lt_iff_toNat_lt.mp later).le
    exact (max_eq_right (Int.ofNat_le.mpr le)).symm
  · rename_i notLater
    have le := UInt64.le_iff_toNat_le.mp (UInt64.not_lt.mp notLater)
    exact (max_eq_left (Int.ofNat_le.mpr le)).symm

/-- While the last time stamp is not too close to 2^64, time stamps with 64 bits are adjusted as
integers are. -/
theorem Refines.adjust {queue : PostedEventQueue} {run : SpacedRun}
    (refines : Refines queue run) {call : SpacedCall} (fits : run.Fits call)
    (wait_eq : MachTimebase.makeAbsoluteTimeDuration 5 = (wait.toNat : Int)) :
    let adjusted := queue.adjustTimeStamp call.timeStamp.toNat call.eventType
      call.isModifierKeyEvent
    adjusted.1 = (run.adjust call).1.toNat ∧
      adjusted.2.lastEventType = (run.step call).times.lastEventType ∧
      adjusted.2.lastEventTimeStamp = (run.step call).times.lastEventTimeStamp.toNat := by
  have same : (queue.adjustTimeStamp call.timeStamp.toNat call.eventType
      call.isModifierKeyEvent).1 = (run.adjust call).1.toNat := by
    rw [refines.adjustTimeStamp_eq]
    by_cases isSpaced : run.IsSpaced call
    · have notSkipped := (run.isSpaced_iff call).mp isSpaced
      rw [adjust_of_isSpaced isSpaced, toNat_later, fits.toNat_add isSpaced]
      simp only [notSkipped, Bool.false_eq_true, if_false, refines.lastEventTimeStamp, wait_eq,
        Int.natCast_add]
    · have skipped : run.times.skip call.isModifierKeyEvent call.eventType = true :=
        Bool.not_eq_false _ ▸ fun notSkipped => isSpaced ((run.isSpaced_iff call).mpr notSkipped)
      simp only [skipped, if_true, SpacedRun.adjust, SpacedTimes.adjustTimeStamp]
  refine ⟨same, ?_, ?_⟩
  · rw [refines.adjustTimeStamp_eq]
    simp only [refines.lastEventType]
    rfl
  · rw [lastEventTimeStamp_step, toNat_later, ← same, ← refines.lastEventTimeStamp]
    rw [refines.adjustTimeStamp_eq]

omit [MachTimebase] in
theorem changeReports_times (queue : PostedEventQueue) (page : KeyPage)
    (event : MomentarySwitchEvent) (eventType : EventType) :
    (queue.changeReports page event eventType).lastEventType = queue.lastEventType ∧
      (queue.changeReports page event eventType).lastEventTimeStamp =
        queue.lastEventTimeStamp := by
  simp only [PostedEventQueue.changeReports]
  split <;> exact ⟨rfl, rfl⟩

omit [MachTimebase] in
theorem mem_append_events {queue : PostedEventQueue} {added event : PostedEvent}
    (member : event ∈ (queue.append added).events) :
    event ∈ queue.events ∨ event.timeStamp = added.timeStamp := by
  rcases List.mem_append.mp member with before | now
  · exact Or.inl before
  · exact Or.inr (congrArg PostedEvent.timeStamp (List.mem_singleton.mp now))

/-- A call remembers what the adjustment remembers, and it appends at most one event, which has
the adjusted time stamp. -/
theorem perform_spec (queue : PostedEventQueue) (call : SpacedCall × PointingInput) :
    let adjusted := queue.adjustTimeStamp call.1.timeStamp.toNat call.1.eventType
      call.1.isModifierKeyEvent
    (perform queue call).lastEventType = adjusted.2.lastEventType ∧
      (perform queue call).lastEventTimeStamp = adjusted.2.lastEventTimeStamp ∧
      ∀ event ∈ (perform queue call).events,
        event ∈ queue.events ∨ event.timeStamp = adjusted.1 := by
  obtain ⟨⟨usagePair, eventType, timeStamp⟩ | ⟨eventType, timeStamp⟩, report⟩ := call
  · intro adjusted
    simp only [perform, PostedEventQueue.emplaceBackKeyEvent]
    split
    · rename_i page _
      obtain ⟨type_eq, last_eq⟩ := changeReports_times adjusted.2 page ⟨usagePair⟩ eventType
      refine ⟨type_eq, last_eq, fun event member => ?_⟩
      have added := mem_append_events member
      rw [PostedEventQueue.changeReports_events] at added
      exact added
    · exact ⟨rfl, rfl, fun event member => Or.inl member⟩
  · exact ⟨rfl, rfl, fun event member => mem_append_events member⟩

/-- A call on the queue is the step of the spaced run, if its time stamps fit into 64 bits. -/
theorem Refines.perform {queue : PostedEventQueue} {run : SpacedRun} (refines : Refines queue run)
    (call : SpacedCall × PointingInput) (fits : run.Fits call.1)
    (wait_eq : MachTimebase.makeAbsoluteTimeDuration 5 = (wait.toNat : Int)) :
    Refines (perform queue call) (run.step call.1) := by
  obtain ⟨type_eq, last_eq, events⟩ := perform_spec queue call
  obtain ⟨stamp_eq, type_eq', last_eq'⟩ := refines.adjust fits wait_eq
  refine ⟨type_eq.trans type_eq', last_eq.trans last_eq', fun event member => ?_⟩
  rcases events event member with before | now
  · obtain ⟨stamp, wasAssigned, same⟩ := refines.assigned event before
    exact ⟨stamp, List.mem_append_left _ wasAssigned, same⟩
  · exact ⟨_, List.mem_append_right _ List.mem_cons_self, now.trans stamp_eq⟩

theorem Refines.foldl {queue : PostedEventQueue} {run : SpacedRun} (refines : Refines queue run)
    (wait_eq : MachTimebase.makeAbsoluteTimeDuration 5 = (wait.toNat : Int))
    (calls : List (SpacedCall × PointingInput))
    (fits : Foundation.Execution.StepsMeet step Fits run (calls.map Prod.fst)) :
    Refines (calls.foldl SpacedRun.perform queue) ((calls.map Prod.fst).foldl step run) := by
  induction calls generalizing queue run with
  | nil => exact refines
  | cons call rest ih => exact ih (refines.perform call fits.1 wait_eq) fits.2

/-- While the last time stamp stays away from 2^64, a queue whose time stamps are integers computes
what a queue with 64 bits does. -/
theorem refines_run (wait_eq : MachTimebase.makeAbsoluteTimeDuration 5 = (wait.toNat : Int))
    (calls : List (SpacedCall × PointingInput))
    (fits : Foundation.Execution.StepsMeet step Fits initial (calls.map Prod.fst)) :
    Refines (calls.foldl perform .initial) ((calls.map Prod.fst).foldl step initial) :=
  refines_initial.foldl wait_eq calls fits

end SpacedRun

end Karabiner

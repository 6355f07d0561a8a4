import Karabiner.Foundation.Execution
import Karabiner.Grabber.EventTapMonitor
import Karabiner.Grabber.DeliveredReleases

/-! # The event tap fallback of the grabber

The keyboard events a monitor swallows are queued for the dispatcher and pushed for
device 0. A monitor that is being replaced is disconnected at once, so that what it
has queued is lost. A key that was taken is released when its key_up passes the same
filters as its key_down did (`EventTapFallback.released_of_steps`); a suspension in
between leaves it down.
-/

namespace Karabiner

/-- A job of the dispatcher. -/
inductive DispatcherJob where
  | keyboardEventArrived (monitorId : Nat) (eventType : EventType) (event : MomentarySwitchEvent)
  | startTap (monitorId : Nat)
  | stopCompleted
deriving DecidableEq

/-- The members of `device_grabber` that have to do with the event tap. -/
structure EventTapFallback where
  cgeventtapFallbackEnabled : Bool
  /-- The monitor in use, or the one that is being stopped. -/
  monitor : Option EventTapMonitor
  monitorStopping : Bool
  pendingConfiguration : Option Bool
  /-- The number of monitors created so far. -/
  created : Nat
  jobs : List DispatcherJob
  posted : PostedState
  input : MergedInput
  /-- The physical keys that are down and whose key_down was swallowed, with the event
  it was normalized to. -/
  taken : List (MomentarySwitchEvent × MomentarySwitchEvent)

namespace EventTapFallback

/-- `create_pending_event_tap_monitor`, which starts the monitor. -/
def createPendingEventTapMonitor (state : EventTapFallback) : EventTapFallback :=
  match state.pendingConfiguration with
  | some enabled =>
      { state with
        monitor := some (.create (state.created + 1) enabled)
        pendingConfiguration := none
        created := state.created + 1
        jobs := state.jobs ++ [.startTap (state.created + 1)] }
  | none => { state with monitor := none }

/-- `setup_event_tap_monitor`; the slots of the previous monitor are disconnected at
once (`event_tap_monitor::async_stop`). -/
def setupEventTapMonitor (state : EventTapFallback) (enabled : Bool) : EventTapFallback :=
  let pending := { state with pendingConfiguration := some enabled }
  if state.monitorStopping then pending
  else
    match state.monitor with
    | some monitor =>
        { pending with
          monitorStopping := true
          monitor := some { monitor with connected := false } }
    | none => pending.createPendingEventTapMonitor

/-- `set_cgeventtap_fallback_enabled`. -/
def setCgeventtapFallbackEnabled (state : EventTapFallback) (value : Bool) : EventTapFallback :=
  if state.cgeventtapFallbackEnabled = value then state
  else { state with cgeventtapFallbackEnabled := value }.setupEventTapMonitor value

/-- The event tap calls back for keyboard events. -/
def observesKeyboard (monitor : EventTapMonitor) : Bool :=
  monitor.tap == .attached && monitor.cgeventtapFallbackEnabled

/-- A keyboard event reaches the callback of the monitor. The event handed to the
grabber is queued as a job. -/
def callback (state : EventTapFallback) (eventType : EventType) (event : MomentarySwitchEvent)
    (autorepeat : Bool) (steadyNow now : Int) : Option MomentarySwitchEvent × EventTapFallback :=
  match state.monitor with
  | some monitor =>
      if observesKeyboard monitor then
        let (handed, after, posted) :=
          monitor.callback state.posted eventType event autorepeat steadyNow now
        (handed,
          { state with
            monitor := some after
            posted := posted
            jobs := state.jobs ++ handed.toList.map (.keyboardEventArrived monitor.id eventType) })
      else (none, state)
  | none => (none, state)

/-- The swallowed keys after an event of a physical key. -/
def noteTaken (taken : List (MomentarySwitchEvent × MomentarySwitchEvent))
    (eventType : EventType) (event : MomentarySwitchEvent)
    (handed : Option MomentarySwitchEvent) : List (MomentarySwitchEvent × MomentarySwitchEvent) :=
  match eventType with
  | .keyDown => handed.toList.map (fun normalized => (event, normalized)) ++ taken
  | .keyUp => taken.filter fun pair => !(pair.1 == event)
  | .single => taken

/-- A physical key goes down, repeats or goes up. -/
def keyboardEvent (state : EventTapFallback) (eventType : EventType)
    (event : MomentarySwitchEvent) (autorepeat : Bool) (steadyNow now : Int) : EventTapFallback :=
  let (handed, after) := state.callback eventType event autorepeat steadyNow now
  { after with taken := noteTaken state.taken eventType event handed }

/-- An event of the virtual keyboard comes back and is recognised; an event that is
not recognised is an event of a physical key. -/
def returnedEvent (state : EventTapFallback) (eventType : EventType)
    (event : MomentarySwitchEvent) (autorepeat : Bool) (steadyNow now : Int) : EventTapFallback :=
  match state.callback eventType event autorepeat steadyNow now with
  | (none, after) => after
  | (some _, _) => state

/-- The run loop of a monitor that is being stopped takes its event tap away and
reports the completion. -/
def cleanUp (state : EventTapFallback) : EventTapFallback :=
  match state.monitor with
  | some monitor =>
      if monitor.connected || monitor.tap == .cleanedUp then state
      else
        { state with
          monitor := some { monitor with tap := .cleanedUp }
          jobs := state.jobs ++ [.stopCompleted] }
  | none => state

/-- The slots of `keyboard_event_arrived` of the monitor are connected. -/
def receives (state : EventTapFallback) (monitorId : Nat) : Bool :=
  match state.monitor with
  | some monitor => monitor.id == monitorId && monitor.connected
  | none => false

/-- The part of `event_tap_monitor::async_start` that is run by the dispatcher. -/
def startTap (state : EventTapFallback) (monitorId : Nat) : EventTapFallback :=
  match state.monitor with
  | some monitor =>
      if monitor.id = monitorId ∧ monitor.tap = .notStarted then
        { state with monitor := some { monitor with tap := .attached } }
      else state
  | none => state

variable [ExpressionLibrary]

/-- Run a job of the dispatcher. -/
def runJob (state : EventTapFallback) (now : Int) : DispatcherJob → EventTapFallback
  | .keyboardEventArrived monitorId eventType event =>
      if state.receives monitorId then
        { state with
          input := state.input.eventTapKeyboardEventArrived eventType
            (.momentarySwitchEvent event) now }
      else state
  | .startTap monitorId => state.startTap monitorId
  | .stopCompleted => { state with monitorStopping := false }.createPendingEventTapMonitor

/-- What can happen to the fallback. What is shared with the stage that posts events
changes freely. -/
inductive Action where
  | keyboardEvent (eventType : EventType) (event : MomentarySwitchEvent) (autorepeat : Bool)
      (steadyNow now : Int)
  | returnedEvent (eventType : EventType) (event : MomentarySwitchEvent) (autorepeat : Bool)
      (steadyNow now : Int)
  | postedChanged (posted : PostedState)
  | setFallbackEnabled (value : Bool)
  | cleanUp
  | runJob (now : Int)

def step (state : EventTapFallback) : Action → EventTapFallback
  | .keyboardEvent eventType event autorepeat steadyNow now =>
      state.keyboardEvent eventType event autorepeat steadyNow now
  | .returnedEvent eventType event autorepeat steadyNow now =>
      state.returnedEvent eventType event autorepeat steadyNow now
  | .postedChanged posted => { state with posted := posted }
  | .setFallbackEnabled value => state.setCgeventtapFallbackEnabled value
  | .cleanUp => state.cleanUp
  | .runJob now =>
      match state.jobs with
      | job :: rest => { state with jobs := rest }.runJob now job
      | [] => state

omit [ExpressionLibrary] in
/-- The grabber sets up a monitor that does not observe the keyboard. -/
def initial : EventTapFallback :=
  setupEventTapMonitor
    ⟨false, none, false, none, 0, [], ⟨⟨[]⟩, .initial⟩, .initial, []⟩ false

/-! ## What the jobs say about a key -/

/-- Whether a key is down after a job, given whether it was before. -/
def noteJob (state : EventTapFallback) (key : MomentarySwitchEvent) (down : Bool) :
    DispatcherJob → Bool
  | .keyboardEventArrived monitorId eventType event =>
      if state.receives monitorId then noteKey key down (event, eventType) else down
  | .startTap _ => down
  | .stopCompleted => down

omit [ExpressionLibrary] in
theorem noteJob_keyboardEventArrived (state : EventTapFallback) (key : MomentarySwitchEvent)
    (down : Bool) (monitorId : Nat) (eventType : EventType) (event : MomentarySwitchEvent) :
    state.noteJob key down (.keyboardEventArrived monitorId eventType event) =
      if state.receives monitorId then noteKey key down (event, eventType) else down := rfl

/-- Whether a key is down for device 0 when the jobs have run. -/
def downAfterJobs (state : EventTapFallback) (key : MomentarySwitchEvent) : Bool :=
  state.jobs.foldl (state.noteJob key) (MergedInput.lastKeyDown 0 key state.input.pushed)

omit [ExpressionLibrary] in
theorem noteJob_congr {state after : EventTapFallback}
    (receives : ∀ monitorId, after.receives monitorId = state.receives monitorId)
    (key : MomentarySwitchEvent) : after.noteJob key = state.noteJob key := by
  funext down job
  cases job with
  | keyboardEventArrived monitorId eventType event =>
      rw [noteJob_keyboardEventArrived, noteJob_keyboardEventArrived, receives monitorId]
  | startTap _ => rfl
  | stopCompleted => rfl

omit [ExpressionLibrary] in
/-- Jobs that hand nothing to the grabber say nothing about the keys. -/
theorem foldl_noteJob_of_silent {state : EventTapFallback} {jobs : List DispatcherJob}
    (silent : ∀ monitorId eventType event,
      .keyboardEventArrived monitorId eventType event ∈ jobs → state.receives monitorId = false)
    (key : MomentarySwitchEvent) (down : Bool) : jobs.foldl (state.noteJob key) down = down := by
  induction jobs with
  | nil => rfl
  | cons job rest ih =>
      have same : state.noteJob key down job = down := by
        cases job with
        | keyboardEventArrived monitorId eventType event =>
            rw [noteJob_keyboardEventArrived,
              silent monitorId eventType event List.mem_cons_self, if_neg Bool.false_ne_true]
        | startTap _ => rfl
        | stopCompleted => rfl
      rw [List.foldl_cons, same]
      exact ih fun monitorId eventType event member =>
        silent monitorId eventType event (List.mem_cons_of_mem _ member)

/-- What a callback leaves as it is. -/
structure CallbackFrame (state after : EventTapFallback) : Prop where
  input : after.input = state.input
  taken : after.taken = state.taken
  created : after.created = state.created
  monitorStopping : after.monitorStopping = state.monitorStopping
  monitor : ∀ reached, after.monitor = some reached →
    ∃ monitor, state.monitor = some monitor ∧ monitor.SameTap reached
  receives : ∀ monitorId, after.receives monitorId = state.receives monitorId

omit [ExpressionLibrary] in
theorem CallbackFrame.refl (state : EventTapFallback) : CallbackFrame state state :=
  ⟨rfl, rfl, rfl, rfl, fun reached monitor => ⟨reached, monitor, rfl, rfl, rfl⟩, fun _ => rfl⟩

omit [ExpressionLibrary] in
/-- A callback queues the event it hands over, if any. -/
theorem callback_spec (state : EventTapFallback) (eventType : EventType)
    (event : MomentarySwitchEvent) (autorepeat : Bool) (steadyNow now : Int) :
    CallbackFrame state (state.callback eventType event autorepeat steadyNow now).2 ∧
      ((state.callback eventType event autorepeat steadyNow now).1 = none ∧
          (state.callback eventType event autorepeat steadyNow now).2.jobs = state.jobs ∨
        ∃ monitor normalized, state.monitor = some monitor ∧
          (state.callback eventType event autorepeat steadyNow now).1 = some normalized ∧
          (state.callback eventType event autorepeat steadyNow now).2.jobs =
            state.jobs ++ [.keyboardEventArrived monitor.id eventType normalized]) := by
  unfold callback
  cases using_ : state.monitor with
  | none => exact ⟨.refl state, .inl ⟨rfl, rfl⟩⟩
  | some monitor =>
      dsimp only
      split
      · have same := monitor.sameTap_callback state.posted eventType event autorepeat steadyNow now
        refine ⟨⟨rfl, rfl, rfl, rfl, ?_, fun monitorId => ?_⟩, ?_⟩
        · intro reached equal
          obtain rfl := Option.some.inj equal
          exact ⟨monitor, using_, same⟩
        · unfold receives
          rw [using_]
          dsimp only
          rw [same.1, same.2.1]
        · dsimp only
          cases handed :
              (monitor.callback state.posted eventType event autorepeat steadyNow now).1 with
          | none => exact .inl ⟨rfl, List.append_nil _⟩
          | some normalized => exact .inr ⟨monitor, normalized, rfl, rfl, rfl⟩
      · exact ⟨.refl state, .inl ⟨rfl, rfl⟩⟩

omit [ExpressionLibrary] in
/-- On the keys a callback counts as the event it hands over. -/
theorem downAfterJobs_callback (state : EventTapFallback) (eventType : EventType)
    (event : MomentarySwitchEvent) (autorepeat : Bool) (steadyNow now : Int)
    (key : MomentarySwitchEvent) :
    (state.callback eventType event autorepeat steadyNow now).2.downAfterJobs key =
      match (state.callback eventType event autorepeat steadyNow now).1, state.monitor with
      | some normalized, some monitor =>
          if monitor.connected then noteKey key (state.downAfterJobs key) (normalized, eventType)
          else state.downAfterJobs key
      | _, _ => state.downAfterJobs key := by
  obtain ⟨frame, cases⟩ := state.callback_spec eventType event autorepeat steadyNow now
  unfold downAfterJobs
  rw [noteJob_congr frame.receives, frame.input]
  rcases cases with ⟨handed, jobs⟩ | ⟨monitor, normalized, using_, handed, jobs⟩
  · rw [handed, jobs]
  · rw [handed, jobs, using_, List.foldl_append]
    simp [noteJob_keyboardEventArrived, receives, using_]

/-! ## Runs -/

/-- What holds in every reachable state while the steps let the releases through. -/
structure Invariant (state : EventTapFallback) : Prop where
  balanced : state.input.Balanced
  /-- A key that is down when the jobs have run is held by a physical key. -/
  held : ∀ key, state.downAfterJobs key = true → ∃ physical, (physical, key) ∈ state.taken
  monitorId : ∀ monitor, state.monitor = some monitor → monitor.id ≤ state.created
  jobId : ∀ monitorId eventType event,
    .keyboardEventArrived monitorId eventType event ∈ state.jobs → monitorId ≤ state.created
  /-- A monitor is disconnected while it is being stopped. -/
  stopping : ∀ monitor, state.monitor = some monitor →
    (monitor.connected = false ↔ state.monitorStopping = true)
  completed : .stopCompleted ∈ state.jobs → state.monitorStopping = true ∧
    ∀ monitor, state.monitor = some monitor → monitor.tap = .cleanedUp
  completedOnce : state.jobs.count .stopCompleted ≤ 1

/-- The key_up of a physical key is handed over as each key that nothing else holds;
a monitor is only replaced when no key_up of a released key waits for the dispatcher. -/
def LetsReleasesThrough (state : EventTapFallback) : Action → Prop
  | .keyboardEvent .keyUp physical _ steadyNow now =>
      ∀ key, (physical, key) ∈ state.taken → state.downAfterJobs key = true →
        (∀ other, (other, key) ∈ state.taken → other = physical) →
        ∃ monitor, state.monitor = some monitor ∧ monitor.connected = true ∧
          monitor.tap = .attached ∧
          monitor.LetsKeyUpThrough state.posted physical steadyNow now key
  | .setFallbackEnabled value =>
      value ≠ state.cgeventtapFallbackEnabled → state.monitorStopping = false →
        ∀ key, MergedInput.lastKeyDown 0 key state.input.pushed = true →
          ∃ physical, (physical, key) ∈ state.taken
  | _ => True

omit [ExpressionLibrary] in
/-- A callback keeps everything but what is known of the keys. -/
theorem Invariant.callback {state : EventTapFallback} (invariant : state.Invariant)
    (eventType : EventType) (event : MomentarySwitchEvent) (autorepeat : Bool)
    (steadyNow now : Int) (taken : List (MomentarySwitchEvent × MomentarySwitchEvent))
    (held : ∀ key,
      (state.callback eventType event autorepeat steadyNow now).2.downAfterJobs key = true →
        ∃ physical, (physical, key) ∈ taken) :
    Invariant { (state.callback eventType event autorepeat steadyNow now).2 with
      taken := taken } := by
  obtain ⟨frame, cases⟩ := state.callback_spec eventType event autorepeat steadyNow now
  generalize (state.callback eventType event autorepeat steadyNow now).2 = after at *
  have jobs : ∀ job, job ∈ after.jobs → job ∈ state.jobs ∨ ∃ monitor normalized,
      state.monitor = some monitor ∧
        job = .keyboardEventArrived monitor.id eventType normalized := by
    intro job member
    rcases cases with ⟨_, same⟩ | ⟨monitor, normalized, using_, _, added⟩
    · exact .inl (same ▸ member)
    · rw [added] at member
      rcases List.mem_append.mp member with old | new
      · exact .inl old
      · exact .inr ⟨monitor, normalized, using_, List.mem_singleton.mp new⟩
  refine
    { balanced := ?_, held := held, monitorId := ?_, jobId := ?_, stopping := ?_,
      completed := ?_, completedOnce := ?_ }
  · change after.input.Balanced
    rw [frame.input]
    exact invariant.balanced
  · intro reached isReached
    obtain ⟨monitor, using_, same⟩ := frame.monitor reached isReached
    change reached.id ≤ after.created
    rw [frame.created, same.1]
    exact invariant.monitorId monitor using_
  · intro monitorId type handed member
    change monitorId ≤ after.created
    rw [frame.created]
    rcases jobs _ member with old | ⟨monitor, normalized, using_, equal⟩
    · exact invariant.jobId _ _ _ old
    · obtain ⟨rfl, _, _⟩ := DispatcherJob.keyboardEventArrived.inj equal
      exact invariant.monitorId monitor using_
  · intro reached isReached
    obtain ⟨monitor, using_, same⟩ := frame.monitor reached isReached
    change reached.connected = false ↔ after.monitorStopping = true
    rw [frame.monitorStopping, same.2.1]
    exact invariant.stopping monitor using_
  · intro member
    rcases jobs _ member with old | ⟨monitor, normalized, _, equal⟩
    · obtain ⟨stopping, cleanedUp⟩ := invariant.completed old
      refine ⟨frame.monitorStopping.trans stopping, fun reached isReached => ?_⟩
      obtain ⟨monitor, using_, same⟩ := frame.monitor reached isReached
      exact same.2.2.trans (cleanedUp monitor using_)
    · cases equal
  · change after.jobs.count .stopCompleted ≤ 1
    rcases cases with ⟨_, same⟩ | ⟨monitor, normalized, _, _, added⟩
    · rw [same]
      exact invariant.completedOnce
    · rw [added, List.count_append]
      simpa using invariant.completedOnce

omit [ExpressionLibrary] in
/-- A key that is down after a physical key has gone up is held by another one. -/
theorem held_keyUp {state : EventTapFallback} (invariant : state.Invariant)
    {physical : MomentarySwitchEvent} {autorepeat : Bool} {steadyNow now : Int}
    (through : state.LetsReleasesThrough (.keyboardEvent .keyUp physical autorepeat steadyNow now))
    {key : MomentarySwitchEvent}
    (down : (state.callback .keyUp physical autorepeat steadyNow now).2.downAfterJobs key = true) :
    ∃ other, (other, key) ∈ state.taken.filter fun pair => !(pair.1 == physical) := by
  rw [downAfterJobs_callback] at down
  have before : state.downAfterJobs key = true := by
    split at down
    · split at down
      · unfold noteKey at down
        exact (Bool.and_eq_true _ _ ▸ down).2
      · exact down
    · exact down
  by_contra nothingElse
  have onlyHolder : ∀ other, (other, key) ∈ state.taken → other = physical := by
    intro other member
    by_contra different
    exact nothingElse ⟨other, List.mem_filter.mpr ⟨member, by simpa using different⟩⟩
  obtain ⟨holder, holds⟩ := invariant.held key before
  obtain rfl := onlyHolder holder holds
  obtain ⟨monitor, using_, connected, attached, filters⟩ := through key holds before onlyHolder
  have handed : (state.callback .keyUp holder autorepeat steadyNow now).1 = some key := by
    have observes : observesKeyboard monitor = true := by
      unfold observesKeyboard
      rw [attached, filters.1]
      rfl
    unfold callback
    rw [using_]
    dsimp only
    rw [if_pos observes]
    exact EventTapMonitor.callback_of_letsKeyUpThrough filters autorepeat
  rw [handed, using_] at down
  dsimp only at down
  rw [connected, if_pos rfl] at down
  simp [noteKey] at down

omit [ExpressionLibrary] in
/-- An event of the keyboard keeps the invariant, if the fallback lets its releases through. -/
theorem Invariant.keyboardEvent {state : EventTapFallback} (invariant : state.Invariant)
    (eventType : EventType) (event : MomentarySwitchEvent) (autorepeat : Bool)
    (steadyNow now : Int)
    (through : state.LetsReleasesThrough
      (.keyboardEvent eventType event autorepeat steadyNow now)) :
    (state.keyboardEvent eventType event autorepeat steadyNow now).Invariant := by
  have shape : state.keyboardEvent eventType event autorepeat steadyNow now =
      { (state.callback eventType event autorepeat steadyNow now).2 with
        taken := noteTaken state.taken eventType event
          (state.callback eventType event autorepeat steadyNow now).1 } := rfl
  rw [shape]
  refine invariant.callback eventType event autorepeat steadyNow now _ fun key down => ?_
  cases eventType with
  | keyUp => exact held_keyUp invariant through down
  | single =>
      refine invariant.held key ?_
      rw [downAfterJobs_callback] at down
      split at down
      · simpa [noteKey] using down
      · exact down
  | keyDown =>
      rw [downAfterJobs_callback] at down
      cases handed : (state.callback .keyDown event autorepeat steadyNow now).1 with
      | none =>
          rw [handed] at down
          obtain ⟨physical, member⟩ := invariant.held key down
          exact ⟨physical, List.mem_append_right _ member⟩
      | some normalized =>
          by_cases same : normalized = key
          · exact ⟨event, by simp [noteTaken, same]⟩
          · have before : state.downAfterJobs key = true := by
              rw [handed] at down
              split at down
              · rename_i equal _
                obtain rfl := Option.some.inj equal
                simpa [noteKey, same] using down
              · exact down
            obtain ⟨physical, member⟩ := invariant.held key before
            exact ⟨physical, List.mem_append_right _ member⟩

omit [ExpressionLibrary] in
/-- An event that the event tap returns keeps the invariant. -/
theorem Invariant.returnedEvent {state : EventTapFallback} (invariant : state.Invariant)
    (eventType : EventType) (event : MomentarySwitchEvent) (autorepeat : Bool)
    (steadyNow now : Int) :
    (state.returnedEvent eventType event autorepeat steadyNow now).Invariant := by
  unfold EventTapFallback.returnedEvent
  have frame := (state.callback_spec eventType event autorepeat steadyNow now).1
  split
  · rename_i after equal
    have kept := invariant.callback eventType event autorepeat steadyNow now state.taken
      fun key down => by
        rw [downAfterJobs_callback, equal] at down
        exact invariant.held key down
    rw [equal] at kept frame
    have same : after = { after with taken := state.taken } := by
      rw [← frame.taken]
    rw [same]
    exact kept
  · exact invariant

omit [ExpressionLibrary] in
theorem downAfterJobs_of_silent {state : EventTapFallback}
    (silent : ∀ monitorId eventType event,
      .keyboardEventArrived monitorId eventType event ∈ state.jobs →
        state.receives monitorId = false) (key : MomentarySwitchEvent) :
    state.downAfterJobs key = MergedInput.lastKeyDown 0 key state.input.pushed :=
  foldl_noteJob_of_silent silent key _

omit [ExpressionLibrary] in
/-- A new monitor has no event of an earlier one. -/
theorem invariant_create {state : EventTapFallback} (balanced : state.input.Balanced)
    (held : ∀ key, MergedInput.lastKeyDown 0 key state.input.pushed = true →
      ∃ physical, (physical, key) ∈ state.taken)
    (jobId : ∀ monitorId eventType event,
      .keyboardEventArrived monitorId eventType event ∈ state.jobs → monitorId ≤ state.created)
    (running : state.monitorStopping = false) (notCompleted : .stopCompleted ∉ state.jobs) :
    state.createPendingEventTapMonitor.Invariant := by
  unfold createPendingEventTapMonitor
  cases pending : state.pendingConfiguration with
  | none =>
      refine
        { balanced := balanced, held := fun key down => held key ?_, monitorId := ?_,
          jobId := jobId, stopping := ?_, completed := fun member => absurd member notCompleted,
          completedOnce := by simp [List.count_eq_zero_of_not_mem notCompleted] }
      · rwa [downAfterJobs_of_silent fun _ _ _ _ => rfl] at down
      · intro monitor isNone
        cases isNone
      · intro monitor isNone
        cases isNone
  | some enabled =>
      have jobs : ∀ monitorId eventType event,
          DispatcherJob.keyboardEventArrived monitorId eventType event ∈
            state.jobs ++ [.startTap (state.created + 1)] → monitorId ≤ state.created := by
        intro monitorId eventType event member
        refine jobId monitorId eventType event ?_
        simpa using member
      have notLater : DispatcherJob.stopCompleted ∉
          state.jobs ++ [.startTap (state.created + 1)] := by
        simpa using notCompleted
      refine
        { balanced := balanced, held := fun key down => held key ?_, monitorId := ?_,
          jobId := ?_, stopping := ?_, completed := fun member => absurd member notLater,
          completedOnce := ?_ }
      · rwa [downAfterJobs_of_silent fun monitorId eventType event member => ?_] at down
        have earlier := jobs monitorId eventType event member
        simp only [receives, EventTapMonitor.create, Bool.and_true, beq_eq_false_iff_ne]
        omega
      · intro monitor isNew
        obtain rfl := Option.some.inj isNew
        exact Nat.le_refl _
      · intro monitorId eventType event member
        exact Nat.le_succ_of_le (jobs monitorId eventType event member)
      · intro monitor isNew
        obtain rfl := Option.some.inj isNew
        change true = false ↔ state.monitorStopping = true
        rw [running]
        exact iff_of_false Bool.noConfusion Bool.noConfusion
      · change List.count _ (state.jobs ++ [.startTap (state.created + 1)]) ≤ 1
        rw [List.count_eq_zero_of_not_mem notLater]
        exact Nat.zero_le 1

omit [ExpressionLibrary] in
theorem Invariant.notCompleted {state : EventTapFallback} (invariant : state.Invariant)
    (running : state.monitorStopping = false) : .stopCompleted ∉ state.jobs := by
  intro member
  have stopping := (invariant.completed member).1
  rw [running] at stopping
  cases stopping

omit [ExpressionLibrary] in
/-- Switching the fallback keeps the invariant, if no key that was released is down when the monitor
is replaced. -/
theorem Invariant.setCgeventtapFallbackEnabled {state : EventTapFallback}
    (invariant : state.Invariant) (value : Bool)
    (through : state.LetsReleasesThrough (.setFallbackEnabled value)) :
    (state.setCgeventtapFallbackEnabled value).Invariant := by
  unfold EventTapFallback.setCgeventtapFallbackEnabled
  split
  · exact invariant
  · rename_i changed
    unfold setupEventTapMonitor
    dsimp only
    cases stopping : state.monitorStopping with
    | true =>
        rw [if_pos rfl]
        have unchanged := invariant.stopping
        have finished := invariant.completed
        rw [stopping] at unchanged finished
        exact ⟨invariant.balanced, invariant.held, invariant.monitorId, invariant.jobId,
          unchanged, finished, invariant.completedOnce⟩
    | false =>
        have held := through (fun same => changed same.symm) stopping
        have notCompleted := invariant.notCompleted stopping
        rw [if_neg Bool.false_ne_true]
        cases using_ : state.monitor with
        | none =>
            exact invariant_create invariant.balanced held invariant.jobId rfl notCompleted
        | some monitor =>
            refine ⟨invariant.balanced, fun key down => held key ?_, ?_, invariant.jobId, ?_,
              fun member => absurd member notCompleted, invariant.completedOnce⟩
            · rwa [downAfterJobs_of_silent fun monitorId _ _ _ => ?_] at down
              exact Bool.and_false (monitor.id == monitorId)
            · intro reached isReached
              obtain rfl := Option.some.inj isReached
              exact invariant.monitorId monitor using_
            · intro reached isReached
              obtain rfl := Option.some.inj isReached
              exact iff_of_true rfl rfl

omit [ExpressionLibrary] in
/-- Cleaning up the monitor keeps the invariant. -/
theorem Invariant.cleanUp {state : EventTapFallback} (invariant : state.Invariant) :
    state.cleanUp.Invariant := by
  unfold EventTapFallback.cleanUp
  cases using_ : state.monitor with
  | none => exact invariant
  | some monitor =>
      dsimp only
      split
      · exact invariant
      · rename_i stopped
        rw [Bool.or_eq_true, not_or, Bool.not_eq_true, beq_iff_eq] at stopped
        have stopping := (invariant.stopping monitor using_).mp stopped.1
        have notCompleted : .stopCompleted ∉ state.jobs := fun member =>
          stopped.2 ((invariant.completed member).2 monitor using_)
        have receives : ∀ monitorId, EventTapFallback.receives { state with
            monitor := some { monitor with tap := .cleanedUp }
            jobs := state.jobs ++ [.stopCompleted] } monitorId = state.receives monitorId := by
          intro monitorId
          unfold EventTapFallback.receives
          rw [using_]
        refine
          { balanced := invariant.balanced, held := fun key down => invariant.held key ?_,
            monitorId := ?_, jobId := ?_, stopping := ?_, completed := ?_, completedOnce := ?_ }
        · unfold downAfterJobs at down ⊢
          rw [noteJob_congr receives, List.foldl_append] at down
          exact down
        · intro reached isReached
          obtain rfl := Option.some.inj isReached
          exact invariant.monitorId monitor using_
        · intro monitorId eventType event member
          refine invariant.jobId monitorId eventType event ?_
          simpa using member
        · intro reached isReached
          obtain rfl := Option.some.inj isReached
          exact invariant.stopping monitor using_
        · refine fun _ => ⟨stopping, fun reached isReached => ?_⟩
          obtain rfl := Option.some.inj isReached
          rfl
        · change List.count _ (state.jobs ++ [.stopCompleted]) ≤ 1
          rw [List.count_append, List.count_eq_zero_of_not_mem notCompleted]
          exact Nat.le_refl 1

omit [ExpressionLibrary] in
theorem Invariant.completed_rest {state : EventTapFallback} (invariant : state.Invariant)
    {job : DispatcherJob} {rest : List DispatcherJob} (jobs : state.jobs = job :: rest) :
    rest.count .stopCompleted ≤ 1 := by
  have once := invariant.completedOnce
  rw [jobs] at once
  exact List.count_le_count_cons.trans once

omit [ExpressionLibrary] in
/-- A job that says nothing about the keys can be dropped. -/
theorem Invariant.pop {state : EventTapFallback} (invariant : state.Invariant)
    {job : DispatcherJob} {rest : List DispatcherJob} (jobs : state.jobs = job :: rest)
    (silent : ∀ key down, state.noteJob key down job = down) :
    Invariant { state with jobs := rest } := by
  have later : ∀ other, other ∈ rest → other ∈ state.jobs :=
    fun other member => jobs ▸ List.mem_cons_of_mem _ member
  refine ⟨invariant.balanced, fun key down => invariant.held key ?_, invariant.monitorId,
    fun monitorId eventType event member =>
      invariant.jobId monitorId eventType event (later _ member),
    invariant.stopping, fun member => invariant.completed (later _ member),
    invariant.completed_rest jobs⟩
  unfold downAfterJobs at down ⊢
  rw [jobs, List.foldl_cons, silent]
  exact down

/-- An event that arrives is noted by the pushed entries as by its job. -/
theorem Invariant.arrive {state : EventTapFallback} (invariant : state.Invariant)
    {monitorId : Nat} {eventType : EventType} {event : MomentarySwitchEvent}
    {rest : List DispatcherJob}
    (jobs : state.jobs = .keyboardEventArrived monitorId eventType event :: rest)
    (receives : state.receives monitorId = true) (now : Int) :
    Invariant { state with
      jobs := rest
      input := state.input.eventTapKeyboardEventArrived eventType
        (.momentarySwitchEvent event) now } := by
  have later : ∀ other, other ∈ rest → other ∈ state.jobs :=
    fun other member => jobs ▸ List.mem_cons_of_mem _ member
  refine ⟨invariant.balanced.pushBalanced Event.noConfusion,
    fun key down => invariant.held key ?_, invariant.monitorId,
    fun id type handed member => invariant.jobId id type handed (later _ member),
    invariant.stopping, fun member => invariant.completed (later _ member),
    invariant.completed_rest jobs⟩
  have pushed := invariant.balanced.lastKeyDown_pushBalanced
    (.original 0 now (.momentarySwitchEvent event) eventType) 0 key
  have noted : noteKey key (MergedInput.lastKeyDown 0 key state.input.pushed) (event, eventType) =
      MergedInput.lastKeyDown 0 key (state.input.eventTapKeyboardEventArrived eventType
        (.momentarySwitchEvent event) now).pushed := by
    refine Eq.trans ?_ pushed.symm
    cases eventType <;> rfl
  unfold downAfterJobs at down ⊢
  rw [jobs, List.foldl_cons, noteJob_keyboardEventArrived, receives, if_pos rfl, noted]
  exact down

omit [ExpressionLibrary] in
/-- Starting an event tap keeps the invariant. -/
theorem Invariant.startTap {state : EventTapFallback} (invariant : state.Invariant)
    (monitorId : Nat) : (state.startTap monitorId).Invariant := by
  unfold EventTapFallback.startTap
  cases using_ : state.monitor with
  | none => exact invariant
  | some monitor =>
      dsimp only
      split
      · rename_i starts
        have notCompleted : .stopCompleted ∉ state.jobs := fun member => by
          have cleanedUp := (invariant.completed member).2 monitor using_
          rw [starts.2] at cleanedUp
          cases cleanedUp
        have receives : ∀ monitorId, EventTapFallback.receives { state with
            monitor := some { monitor with tap := .attached } } monitorId =
              state.receives monitorId := by
          intro monitorId
          unfold EventTapFallback.receives
          rw [using_]
        refine ⟨invariant.balanced, fun key down => invariant.held key ?_, ?_, invariant.jobId, ?_,
          fun member => absurd member notCompleted, invariant.completedOnce⟩
        · unfold downAfterJobs at down ⊢
          rwa [noteJob_congr receives] at down
        · intro reached isReached
          obtain rfl := Option.some.inj isReached
          exact invariant.monitorId monitor using_
        · intro reached isReached
          obtain rfl := Option.some.inj isReached
          exact invariant.stopping monitor using_
      · exact invariant

/-- A job of the dispatcher keeps the invariant. -/
theorem Invariant.runJob {state : EventTapFallback} (invariant : state.Invariant)
    {job : DispatcherJob} {rest : List DispatcherJob} (jobs : state.jobs = job :: rest)
    (now : Int) : (EventTapFallback.runJob { state with jobs := rest } now job).Invariant := by
  cases job with
  | keyboardEventArrived monitorId eventType event =>
      have popped : EventTapFallback.receives { state with jobs := rest } monitorId =
          state.receives monitorId := rfl
      unfold EventTapFallback.runJob
      dsimp only
      rw [popped]
      cases receives : state.receives monitorId with
      | false =>
          refine invariant.pop jobs fun key down => ?_
          rw [noteJob_keyboardEventArrived, receives, if_neg Bool.false_ne_true]
      | true => exact invariant.arrive jobs receives now
  | startTap monitorId => exact (invariant.pop jobs fun _ _ => rfl).startTap monitorId
  | stopCompleted =>
      have popped := invariant.pop jobs fun _ _ => rfl
      have notLater : .stopCompleted ∉ rest := by
        have once := invariant.completedOnce
        rw [jobs, List.count_cons_self] at once
        exact List.count_eq_zero.mp (Nat.le_zero.mp (Nat.le_of_succ_le_succ once))
      have stopping := (invariant.completed (jobs ▸ List.mem_cons_self)).1
      refine invariant_create popped.balanced (fun key down => popped.held key ?_) popped.jobId rfl
        notLater
      rw [downAfterJobs_of_silent fun monitorId eventType event _ => ?_]
      · exact down
      · unfold receives
        cases using_ : state.monitor with
        | none => rfl
        | some monitor =>
            dsimp only
            rw [(invariant.stopping monitor using_).mpr stopping, Bool.and_false]

/-- Every callback, job and change of the configuration keeps the invariant, if it lets releases
through. -/
theorem invariant_step (state : EventTapFallback) (action : Action) (invariant : state.Invariant)
    (through : state.LetsReleasesThrough action) : (state.step action).Invariant := by
  cases action with
  | keyboardEvent eventType event autorepeat steadyNow now =>
      exact invariant.keyboardEvent eventType event autorepeat steadyNow now through
  | returnedEvent eventType event autorepeat steadyNow now =>
      exact invariant.returnedEvent eventType event autorepeat steadyNow now
  | postedChanged posted =>
      exact ⟨invariant.balanced, invariant.held, invariant.monitorId, invariant.jobId,
        invariant.stopping, invariant.completed, invariant.completedOnce⟩
  | setFallbackEnabled value => exact invariant.setCgeventtapFallbackEnabled value through
  | cleanUp => exact invariant.cleanUp
  | runJob now =>
      simp only [step]
      cases jobs : state.jobs with
      | nil => exact invariant
      | cons job rest => exact invariant.runJob jobs now

omit [ExpressionLibrary] in
theorem invariant_initial : EventTapFallback.initial.Invariant := by
  change (createPendingEventTapMonitor
    ⟨false, none, false, some false, 0, [], ⟨⟨[]⟩, .initial⟩, .initial, []⟩).Invariant
  refine invariant_create MergedInput.balanced_initial (fun key down => ?_) ?_ rfl ?_
  · cases down
  · intro monitorId eventType event member
    cases member
  · exact List.not_mem_nil

/-- When the jobs have run, a key that no physical key holds has been released since it
was pushed, is not in the balance filter, and its next key_down is not dropped. -/
def Released (state : EventTapFallback) : Prop :=
  state.jobs = [] → ∀ key, (∀ physical, (physical, key) ∉ state.taken) →
    MergedInput.lastKeyDown 0 key state.input.pushed = false ∧
      (key.valid = true → key ∉ state.input.physicalPressed 0) ∧
      (state.input.unbalancedMomentarySwitchEvent 0 (.momentarySwitchEvent key) .keyDown).1 = false

omit [ExpressionLibrary] in
/-- By the invariant a key that no physical key holds is up when the jobs have run. -/
theorem Invariant.released {state : EventTapFallback} (invariant : state.Invariant) :
    state.Released := by
  intro idle key notHeld
  have up : MergedInput.lastKeyDown 0 key state.input.pushed = false := by
    refine Bool.eq_false_iff.mpr fun down => ?_
    obtain ⟨physical, member⟩ := invariant.held key (by
      unfold downAfterJobs
      rw [idle]
      exact down)
    exact notHeld physical member
  have forgotten : key.valid = true → key ∉ state.input.physicalPressed 0 := by
    intro valid member
    rw [invariant.balanced 0 key valid, up] at member
    cases member
  refine ⟨up, forgotten, ?_⟩
  unfold MergedInput.unbalancedMomentarySwitchEvent
  cases valid : key.valid with
  | false => simp [valid]
  | true => simp [valid, forgotten valid]

/-- In every run whose steps let the releases through, every key taken by the fallback
is released. -/
theorem released_of_steps (actions : List Action)
    (through : Foundation.Execution.StepsMeet step LetsReleasesThrough .initial actions) :
    (actions.foldl step .initial).Released :=
  (Foundation.Execution.invariant_of_stepsMeet invariant_step invariant_initial through).released

def keyA : MomentarySwitchEvent := .make UsagePage.keyboardOrKeypad Usage.keyboardA

def keyB : MomentarySwitchEvent := .make UsagePage.keyboardOrKeypad Usage.keyboardB

/-- An event of a physical key at a number of milliseconds, and the job it queues, if any. -/
def keyboardEventAt (eventType : EventType) (event : MomentarySwitchEvent) (milliseconds : Int) :
    List Action :=
  [.keyboardEvent eventType event false (milliseconds * 1000000) (milliseconds * 1000000),
    .runJob (milliseconds * 1000000)]

/-- The monitor of the start is replaced by one that observes the keyboard. -/
def fallbackEnabled : List Action :=
  [.runJob 0, .setFallbackEnabled true, .cleanUp, .runJob 0, .runJob 0]

/-- The key `a` goes down and up while nothing else happens. -/
def heldBriefly : List Action :=
  fallbackEnabled ++ keyboardEventAt .keyDown keyA 10 ++ keyboardEventAt .keyUp keyA 60

omit [ExpressionLibrary] in
/-- A key is held briefly while the fallback is enabled, and it is released when the jobs have run.
-/
theorem released_of_steps_heldBriefly :
    let _ := zeroExpressions
    (heldBriefly.foldl step .initial).Released := by
  let _ := zeroExpressions
  refine released_of_steps heldBriefly ⟨trivial, fun _ _ key down => absurd down ?_, trivial,
    trivial, trivial, trivial, trivial, fun key member _ _ => ?_, trivial, trivial⟩
  · exact Bool.false_ne_true
  · have taken : ((fallbackEnabled ++ keyboardEventAt .keyDown keyA 10).foldl step .initial).taken =
        [(keyA, keyA)] := by decide
    have same : (keyA, key) = (keyA, keyA) := List.mem_singleton.mp (taken ▸ member)
    obtain rfl : key = keyA := congrArg Prod.snd same
    exact ⟨_, rfl, by decide, by decide, by decide, by decide, by decide, by decide⟩

/-! ## A suspension while a key is held -/

/-- The fallback is enabled, `a` goes down, `b` goes down for the sixth time within 100
milliseconds, which suspends the fallback, and `a` goes up. -/
def suspendedWhileHeld : List Action :=
  fallbackEnabled ++ keyboardEventAt .keyDown keyA 10 ++
    [12, 14, 16, 18, 20].flatMap (fun milliseconds =>
      keyboardEventAt .keyDown keyB milliseconds ++
        keyboardEventAt .keyUp keyB (milliseconds + 1)) ++
    keyboardEventAt .keyDown keyB 22 ++ keyboardEventAt .keyUp keyB 23 ++
    keyboardEventAt .keyUp keyA 30

omit [ExpressionLibrary] in
theorem not_released_of_down {state : EventTapFallback} {key : MomentarySwitchEvent}
    (idle : state.jobs = []) (notHeld : state.taken = [])
    (down : MergedInput.lastKeyDown 0 key state.input.pushed = true) : ¬ state.Released := by
  intro released
  have up := (released idle key fun physical => by
    rw [notHeld]
    exact List.not_mem_nil).1
  rw [down] at up
  cases up

omit [ExpressionLibrary] in
/-- The state after `suspendedWhileHeld`. -/
def suspended : EventTapFallback :=
  let _ := zeroExpressions
  suspendedWhileHeld.foldl step .initial

omit [ExpressionLibrary] in
/-- The key_up of `a` is passed through: `a` stays down for the manipulators, and its
next key_down is dropped. -/
theorem suspended_notReleased :
    suspended.jobs = [] ∧ suspended.taken = [] ∧
      MergedInput.lastKeyDown 0 keyA suspended.input.pushed = true ∧
      keyA ∈ suspended.input.physicalPressed 0 ∧
      (suspended.input.unbalancedMomentarySwitchEvent 0 (.momentarySwitchEvent keyA) .keyDown).1 =
        true ∧
      ¬ suspended.Released := by
  have idle : suspended.jobs = [] := by decide
  have notHeld : suspended.taken = [] := by decide
  have down : MergedInput.lastKeyDown 0 keyA suspended.input.pushed = true := by decide
  exact ⟨idle, notHeld, down, by decide, by decide, not_released_of_down idle notHeld down⟩

end EventTapFallback

end Karabiner

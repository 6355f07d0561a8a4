import Karabiner.Lifecycle.SleepMessages

/-! # Every sleep message is answered once

The kernel waits for the answer to a sleep message, and three parties may give it: the manager, the
run loop thread when its wait times out, and the destructor of the monitor. In every interleaving of
the threads one of them does, and only one (`Lifecycle.answered_once`).
-/

namespace Karabiner

/-- The message whose callback a job is. -/
def LifecycleJob.notification : LifecycleJob → Option Nat
  | .signalSleep notificationId => some notificationId
  | _ => none

/-- The responses that are still to be released. -/
def LifecycleWorker.responses : LifecycleWorker → List Nat
  | .releasing responses _ => responses
  | _ => []

namespace Lifecycle

variable {l next : Lifecycle} {id : Nat}

/-- The messages whose callbacks are queued. -/
def signals (l : Lifecycle) : List Nat := l.queue.filterMap (·.job.notification)

/-- The run loop thread is done with a message, but for removing it. -/
def HasLeft (l : Lifecycle) (id : Nat) : Prop :=
  id < l.received ∧ (l.runLoop.current = some id → l.runLoop = .finished id)

/-- The wait for a message has timed out while its callback is under way. -/
def Late (l : Lifecycle) (id : Nat) : Prop :=
  (l.response id).timedOut = true ∧ (l.response id).callbackStarted = true

/-- What holds of one message. -/
structure Accounted (l : Lifecycle) (id : Nat) : Prop where
  fresh : l.received ≤ id →
    ((l.response id).callbackStarted = false ∧ (l.response id).closed = false ∧
      (l.response id).notified = false) ∧
      id ∉ l.answers ∧ id ∉ l.signals ∧ l.runLoop.current ≠ some id
  answered : id ∈ l.answers →
    (l.response id).closed = true ∨ (l.response id).callbackStarted = true
  closed : (l.response id).closed = true →
    id ∈ l.answers ∧ (l.response id).callbackStarted = false
  pending : l.pendingSystemSleepAcknowledgement = some id →
    (l.response id).callbackStarted = true ∧ id ∉ l.answers
  started : (l.response id).callbackStarted = true →
    id ∈ l.answers ∨ l.pendingSystemSleepAcknowledgement = some id ∨
      (l.response id).timedOut = true
  notified : (l.response id).notified = true → id ∈ l.answers ∨ l.Late id
  queued : id ∈ l.signals → (l.response id).callbackStarted = false ∧
    (l.runLoop = .waiting id ∨ l.runLoop = .unanswered id ∨ (l.response id).closed = true)
  inserted : l.runLoop = .inserted id →
    (l.response id).callbackStarted = false ∧ id ∉ l.signals
  unanswered : l.runLoop = .unanswered id → (l.response id).timedOut = true ∨
    (l.response id).callbackStarted = false ∧ id ∉ l.signals
  left : l.HasLeft id → id ∈ l.answers ∨ l.Late id

/-- Where the response of a message that is waited for is while the monitor is destroyed. -/
def WillBeReleased (l : Lifecycle) (id : Nat) : Prop :=
  match l.worker with
  | .idle | .detached _ => id ∈ l.pendingPowerResponses
  | .releasing responses _ => id ∈ responses
  | .stopping _ => False

/-- What holds of the messages, the answers and the callbacks that are queued. -/
structure Sound (l : Lifecycle) : Prop where
  accounted : ∀ id, l.Accounted id
  nodup : l.answers.Nodup
  once : l.signals.Nodup
  received : ∀ id ∈ l.pendingPowerResponses ++ l.worker.responses, id < l.received
  owned : ∀ entry ∈ l.queue, entry.objectId = entry.job.objectId

theorem willBeReleased_of_idle (isIdle : l.worker = .idle)
    (pending : id ∈ l.pendingPowerResponses) : l.WillBeReleased id := by
  unfold WillBeReleased
  rwa [isIdle]

/-- What every step keeps. -/
structure Kept (l : Lifecycle) : Prop where
  sound : l.Sound
  detached : l.monitorAttached = false → l.signals = []
  busy : l.worker ≠ .idle →
    l.monitorAttached = false ∧ l.pendingSystemSleepAcknowledgement = none
  acknowledged : l.pendingSystemSleepAcknowledgement ≠ none → l.functionToEnqueue = true ∨
    ∃ entry ∈ l.queue, entry.job = .acknowledgePendingSystemSleep ∨ entry.job = .destroy
  registered : l.monitorAttached = true → ∀ id, l.runLoop = .inserted id →
    id ∈ l.pendingPowerResponses
  awaited : ∀ id, l.runLoop = .waiting id →
    (l.response id).notified = true ∨ l.WillBeReleased id

theorem kept_initial (systemWillSleepDelay : Nat) : (initial systemWillSleepDelay).Kept := by
  refine ⟨⟨fun id => ⟨?_, ?_, ?_, ?_, ?_, ?_, ?_, ?_, ?_, ?_⟩, ?_, ?_, ?_, ?_⟩,
    ?_, ?_, ?_, ?_, ?_⟩ <;>
    simp [initial, signals, HasLeft, PendingPowerResponse.ofMessage, RunLoopPhase.current,
      LifecycleWorker.responses]

/-! ## Jobs come and go -/

theorem signals_push (l : Lifecycle) (job : LifecycleJob) (when_ : Nat) :
    (l.push job when_).signals.Perm (job.notification.toList ++ l.signals) := by
  have perm := (Dispatcher.perm_insertEntry ⟨job.objectId, job, when_⟩ l.queue).filterMap
    (fun entry => entry.job.notification)
  refine perm.trans (List.Perm.of_eq ?_)
  cases job <;> rfl

/-- A message for which nothing has changed but that its callback may be gone. -/
theorem Accounted.of_same (accounted : l.Accounted id)
    (response : next.response id = l.response id) (answers : id ∈ next.answers ↔ id ∈ l.answers)
    (pending : next.pendingSystemSleepAcknowledgement = some id ↔
      l.pendingSystemSleepAcknowledgement = some id)
    (received : next.received = l.received) (runLoop : next.runLoop = l.runLoop)
    (signals : id ∈ next.signals → id ∈ l.signals) : next.Accounted id := by
  obtain ⟨fresh, answered, closed, isPending, started, notified, queued, inserted, unanswered,
    left⟩ := accounted
  constructor <;> grind [HasLeft, Late]

/-- Nothing of the messages and the jobs has changed. -/
theorem Sound.of_fields (sound : l.Sound) (response : next.response = l.response)
    (answers : next.answers = l.answers)
    (pending : next.pendingSystemSleepAcknowledgement = l.pendingSystemSleepAcknowledgement)
    (sameReceived : next.received = l.received) (runLoop : next.runLoop = l.runLoop)
    (queue : next.queue = l.queue)
    (received : ∀ id ∈ next.pendingPowerResponses ++ next.worker.responses, id < l.received) :
    next.Sound := by
  have signals : next.signals = l.signals := congrArg (List.filterMap _) queue
  refine ⟨fun id => ?_, answers ▸ sound.nodup, signals ▸ sound.once, sameReceived ▸ received,
    queue ▸ sound.owned⟩
  exact (sound.accounted id).of_same (congrFun response id) (by rw [answers]) (by rw [pending])
    sameReceived runLoop fun queued => signals ▸ queued

/-! ## Answers -/

/-- Who finds that the callback has not started answers in its place. -/
theorem Sound.allowPowerChangeIfCallbackNotStarted (sound : l.Sound) {target : Nat}
    (received : target < l.received) :
    let next := l.allowPowerChangeIfCallbackNotStarted target
    next.Sound ∧
      (target ∈ next.answers ∨ (next.response target).callbackStarted = true) := by
  obtain ⟨accounted, nodup, once, known, owned⟩ := sound
  obtain ⟨-, answered, closed, pending, -, -, -, inserted, unanswered, -⟩ := accounted target
  unfold Lifecycle.allowPowerChangeIfCallbackNotStarted
  dsimp only
  split
  · exact ⟨⟨accounted, nodup, once, known, owned⟩, by grind⟩
  · rename_i notYet
    refine ⟨⟨fun id => ?_, ?_, once, known, owned⟩, .inl List.mem_concat_self⟩
    · obtain ⟨fresh, answered, closed, pending, started, notified, queued, inserted, unanswered,
        left⟩ := accounted id
      constructor <;> grind [HasLeft, Late, allowPowerChange, setResponse, signals]
    · grind [allowPowerChange, setResponse]

/-- A wait is notified once its message has been answered, or too late. -/
theorem Sound.notifyWait (sound : l.Sound) {target : Nat} (received : target < l.received)
    (answered : target ∈ l.answers ∨ l.Late target) : (l.notifyWait target).Sound := by
  obtain ⟨accounted, nodup, once, known, owned⟩ := sound
  refine ⟨fun id => ?_, nodup, once, known, owned⟩
  obtain rfl | other := eq_or_ne id target
  · have response : (l.notifyWait id).response id = { l.response id with notified := true } :=
      if_pos rfl
    obtain ⟨fresh, answered, closed, pending, started, notified, queued, inserted, unanswered,
      left⟩ := accounted id
    constructor <;> rw [Lifecycle.notifyWait, setResponse] at * <;> grind [HasLeft, Late, signals]
  · exact (accounted id).of_same (if_neg other) .rfl .rfl rfl rfl fun queued => queued

/-- Acknowledging the pending sleep allows the power change of a response that was received, and
forgets it. -/
theorem Sound.acknowledgePendingSystemSleep (sound : l.Sound) :
    l.acknowledgePendingSystemSleep.Sound := by
  unfold Lifecycle.acknowledgePendingSystemSleep
  split
  · rename_i target isPending
    obtain ⟨accounted, nodup, once, known, owned⟩ := sound
    have fresh := (accounted target).fresh
    have pending := (accounted target).pending isPending
    have received : target < l.received := by grind
    let answered : Lifecycle :=
      { l with pendingSystemSleepAcknowledgement := none }.allowPowerChange target
    have isSound : answered.Sound := by
      refine ⟨fun id => ?_, ?_, once, known, owned⟩
      · obtain ⟨fresh, answered, closed, pending, started, notified, queued, inserted, unanswered,
          left⟩ := accounted id
        constructor <;> grind [HasLeft, Late, allowPowerChange, signals]
      · grind [allowPowerChange]
    exact isSound.notifyWait received (.inl List.mem_concat_self)
  · exact sound

/-! ## The jobs -/

/-- Jobs may go. -/
theorem Sound.of_sublist (sound : l.Sound) {queue : List (DispatcherEntry LifecycleJob)}
    (sublist : queue.Sublist l.queue) : Sound { l with queue := queue } := by
  obtain ⟨accounted, nodup, once, received, owned⟩ := sound
  have signals : (signals { l with queue := queue }).Sublist l.signals := sublist.filterMap _
  exact ⟨fun id => (accounted id).of_same rfl .rfl .rfl rfl rfl fun queued => signals.subset queued,
    nodup, once.sublist signals, received, fun entry member => owned entry (sublist.subset member)⟩

/-- A job comes that is not the callback of a message. -/
theorem Sound.push (sound : l.Sound) {job : LifecycleJob} (other : job.notification = none)
    (when_ : Nat) : (l.push job when_).Sound := by
  obtain ⟨accounted, nodup, once, received, owned⟩ := sound
  have signals := signals_push l job when_
  rw [other, Option.toList_none, List.nil_append] at signals
  exact ⟨fun id => (accounted id).of_same rfl .rfl .rfl rfl rfl signals.mem_iff.mp, nodup,
    signals.nodup_iff.mpr once, received, fun entry member => by
      obtain rfl | member := Dispatcher.mem_insertEntry.mp member
      · rfl
      · exact owned entry member⟩

/-- The callback of a message that is no longer queued. When another message waits for its delayed
answer, the run loop thread has not waited for it. -/
theorem Sound.signalSleep (sound : l.Sound) {target : Nat} (received : target < l.received)
    (notStarted : (l.response target).callbackStarted = false)
    (awaited : l.runLoop = .waiting target ∨ l.runLoop = .unanswered target ∨
      (l.response target).closed = true)
    (late : l.runLoop = .unanswered target → (l.response target).timedOut = true)
    (notQueued : target ∉ l.signals) (now : Nat) : (l.signalSleep target now).Sound := by
  unfold Lifecycle.signalSleep
  dsimp only
  split
  · exact sound
  rename_i notClosed
  obtain ⟨accounted, nodup, once, known, owned⟩ := sound
  have isNew : target ∉ l.answers := by grind [(accounted target).answered]
  split
  · let stopped : Lifecycle :=
      { (l.setResponse target
          { l.response target with callbackStarted := true }).stopComponents with
        pendingSystemSleepAcknowledgement := some target }
    have isSound : stopped.Sound := by
      refine ⟨fun id => ?_, nodup, once, known, owned⟩
      obtain ⟨fresh, answered, closed, pending, started, notified, queued, inserted, unanswered,
        left⟩ := accounted id
      unfold stopped
      constructor <;>
        grind [HasLeft, Late, setResponse, stopComponents, signals, RunLoopPhase.current]
    unfold Lifecycle.systemWillSleep
    dsimp only
    split
    · exact isSound.push rfl _
    · exact isSound.acknowledgePendingSystemSleep
  · let answered : Lifecycle :=
      (l.setResponse target { l.response target with callbackStarted := true }).allowPowerChange
        target
    have isSound : answered.Sound := by
      refine ⟨fun id => ?_, by grind [allowPowerChange, setResponse], once, known,
        owned⟩
      obtain ⟨fresh, answered, closed, pending, started, notified, queued, inserted, unanswered,
        left⟩ := accounted id
      constructor <;> grind [HasLeft, Late, setResponse, allowPowerChange, signals]
    exact isSound.notifyWait received (.inl List.mem_concat_self)

/-! ## The worker thread -/

/-- What a job leaves to the run loop thread. -/
structure Frame (l next : Lifecycle) : Prop where
  runLoop : next.runLoop = l.runLoop
  pendingPowerResponses : next.pendingPowerResponses = l.pendingPowerResponses
  received : next.received = l.received
  notified : ∀ id, (l.response id).notified = true → (next.response id).notified = true

theorem Frame.refl (l : Lifecycle) : Frame l l := ⟨rfl, rfl, rfl, fun _ => id⟩

variable {first : Lifecycle}

theorem Frame.setResponse (frame : Frame first l) (target : Nat) (response : PendingPowerResponse)
    (notified : (l.response target).notified = true → response.notified = true) :
    Frame first (l.setResponse target response) := by
  refine ⟨frame.runLoop, frame.pendingPowerResponses, frame.received, fun id before => ?_⟩
  unfold Lifecycle.setResponse
  dsimp only
  split
  · rename_i same
    exact notified (same ▸ frame.notified id before)
  · exact frame.notified id before

theorem Frame.notifyWait (frame : Frame first l) (target : Nat) :
    Frame first (l.notifyWait target) :=
  frame.setResponse target _ fun _ => rfl

theorem Frame.acknowledgePendingSystemSleep (frame : Frame first l) :
    Frame first l.acknowledgePendingSystemSleep := by
  unfold Lifecycle.acknowledgePendingSystemSleep
  split
  · refine Frame.notifyWait ?_ _
    exact ⟨frame.runLoop, frame.pendingPowerResponses, frame.received, frame.notified⟩
  · exact frame

theorem Frame.shutDown (frame : Frame first l) (completes : Bool) :
    Frame first (l.shutDown completes) := by
  have stopped : Frame first l.stopComponents :=
    ⟨frame.runLoop, frame.pendingPowerResponses, frame.received, frame.notified⟩
  have acknowledged := stopped.acknowledgePendingSystemSleep
  unfold Lifecycle.shutDown
  dsimp only
  split <;> exact ⟨acknowledged.runLoop, acknowledged.pendingPowerResponses,
    acknowledged.received, acknowledged.notified⟩

/-- Signalling that the system sleeps leaves the run loop as it is. -/
theorem Frame.signalSleep (frame : Frame first l) (target now : Nat) :
    Frame first (l.signalSleep target now) := by
  unfold Lifecycle.signalSleep
  dsimp only
  split
  · exact frame
  have started := frame.setResponse target
    { l.response target with callbackStarted := true } fun notified => notified
  split
  · unfold Lifecycle.systemWillSleep
    dsimp only
    split
    · exact ⟨started.runLoop, started.pendingPowerResponses, started.received, started.notified⟩
    · refine Frame.acknowledgePendingSystemSleep ?_
      exact ⟨started.runLoop, started.pendingPowerResponses, started.received, started.notified⟩
  · refine Frame.notifyWait ?_ target
    exact ⟨started.runLoop, started.pendingPowerResponses, started.received, started.notified⟩

theorem exists_startComponents (l : Lifecycle) (made : Bool) :
    ∃ components, l.startComponents made = { l with componentsManager := components } := by
  unfold startComponents
  split
  · exact ⟨l.componentsManager, rfl⟩
  · exact ⟨made, rfl⟩

theorem Frame.startComponents (frame : Frame first l) (made : Bool) :
    Frame first (l.startComponents made) := by
  obtain ⟨components, started⟩ := exists_startComponents l made
  rw [started]
  exact ⟨frame.runLoop, frame.pendingPowerResponses, frame.received, frame.notified⟩

/-- A job of the worker leaves the run loop thread as it is, but for notifying it. -/
theorem Frame.perform (frame : Frame first l) (now : Nat) (made : Bool) (job : LifecycleJob) :
    Frame first (l.perform now made job) := by
  cases job with
  | signalSleep target => exact frame.signalSleep target now
  | signalWake _ => exact frame.startComponents made
  | acknowledgePendingSystemSleep => exact frame.acknowledgePendingSystemSleep
  | start =>
      have started := frame.startComponents made
      unfold Lifecycle.perform
      dsimp only
      split
      · exact frame
      · exact ⟨started.runLoop, started.pendingPowerResponses, started.received, started.notified⟩
  | requestTermination =>
      unfold Lifecycle.perform
      dsimp only
      split
      · exact frame
      · refine Frame.shutDown ?_ true
        exact ⟨frame.runLoop, frame.pendingPowerResponses, frame.received, frame.notified⟩
  | destroy => exact frame.shutDown false

theorem acknowledgePendingSystemSleep_cases (l : Lifecycle) :
    l.acknowledgePendingSystemSleep.pendingSystemSleepAcknowledgement = none ∧
      l.acknowledgePendingSystemSleep.worker = l.worker ∧
      l.acknowledgePendingSystemSleep.functionToEnqueue = l.functionToEnqueue ∧
      l.acknowledgePendingSystemSleep.monitorAttached = l.monitorAttached ∧
      l.acknowledgePendingSystemSleep.queue = l.queue := by
  unfold acknowledgePendingSystemSleep
  split
  · exact ⟨rfl, rfl, rfl, rfl, rfl⟩
  · rename_i isNone
    exact ⟨isNone, rfl, rfl, rfl, rfl⟩

/-- A job that destroys the monitor. -/
def Destroys (next : Lifecycle) : Prop :=
  (∃ completes, next.worker = .detached completes) ∧ next.monitorAttached = false ∧
    next.signals = [] ∧ next.pendingSystemSleepAcknowledgement = none

/-- A job that leaves the monitor. An answer that is left to a delayed job has one. -/
structure Leaves (l next : Lifecycle) (job : LifecycleJob) : Prop where
  worker : next.worker = l.worker
  functionToEnqueue : next.functionToEnqueue = l.functionToEnqueue
  monitorAttached : next.monitorAttached = l.monitorAttached
  signals : next.signals.Perm l.signals
  pending : next.pendingSystemSleepAcknowledgement ≠ none →
    (∃ entry ∈ next.queue, entry.job = .acknowledgePendingSystemSleep) ∨
      next.pendingSystemSleepAcknowledgement = l.pendingSystemSleepAcknowledgement ∧
        next.queue = l.queue ∧ job ≠ .acknowledgePendingSystemSleep ∧ job ≠ .destroy

/-- Shutting down destroys the monitor, or leaves it with the pending answer and its job. -/
theorem shutDown_cases (owned : ∀ entry ∈ l.queue, entry.objectId = entry.job.objectId)
    (completes : Bool) (job : LifecycleJob) :
    (l.shutDown completes).Destroys ∨ l.Leaves (l.shutDown completes) job := by
  obtain ⟨pending, worker, between, attached, queue⟩ :=
    acknowledgePendingSystemSleep_cases l.stopComponents
  unfold shutDown
  dsimp only
  split
  · refine .inl ⟨⟨completes, rfl⟩, rfl, ?_, pending⟩
    unfold signals destroyMonitor
    dsimp only
    rw [List.filterMap_eq_nil_iff]
    intro entry member
    obtain ⟨member, other⟩ := List.mem_filter.mp member
    rw [queue] at member
    rw [owned entry member] at other
    cases isJob : entry.job with
    | signalSleep _ =>
        rw [isJob] at other
        cases other
    | _ => rfl
  · exact .inr ⟨worker, between, attached, .of_eq (congrArg (List.filterMap _) queue),
      fun isPending => absurd pending isPending⟩

theorem Leaves.of_same {job : LifecycleJob} (worker : next.worker = l.worker)
    (between : next.functionToEnqueue = l.functionToEnqueue)
    (attached : next.monitorAttached = l.monitorAttached) (queue : next.queue = l.queue)
    (pending : next.pendingSystemSleepAcknowledgement = none ∨
      next.pendingSystemSleepAcknowledgement = l.pendingSystemSleepAcknowledgement ∧
        job ≠ .acknowledgePendingSystemSleep ∧ job ≠ .destroy) : l.Leaves next job := by
  refine ⟨worker, between, attached, .of_eq (congrArg (List.filterMap _) queue),
    fun isPending => ?_⟩
  obtain isNone | ⟨same, other⟩ := pending
  · exact absurd isNone isPending
  · exact .inr ⟨same, queue, other⟩

/-- Signalling that the system sleeps leaves the monitor, and an answer that is left to a delayed
job has it queued. -/
theorem signalSleep_cases (l : Lifecycle) (target now : Nat) :
    l.Leaves (l.signalSleep target now) (.signalSleep target) := by
  unfold signalSleep
  dsimp only
  split
  · exact .of_same rfl rfl rfl rfl (.inr ⟨rfl, nofun, nofun⟩)
  split
  · unfold systemWillSleep
    dsimp only
    split
    · exact ⟨rfl, rfl, rfl, signals_push _ _ _, fun _ =>
        .inl ⟨_, Dispatcher.mem_insertEntry.mpr (.inl rfl), rfl⟩⟩
    · rename_i started _
      obtain ⟨pending, worker, between, attached, queue⟩ := acknowledgePendingSystemSleep_cases
        { (l.setResponse target { l.response target with callbackStarted := true }).stopComponents
          with pendingSystemSleepAcknowledgement := some target }
      exact .of_same worker between attached queue (.inl pending)
  · exact .of_same rfl rfl rfl rfl (.inr ⟨rfl, nofun, nofun⟩)

/-- Each job of the worker destroys the monitor or leaves it. -/
theorem perform_cases (owned : ∀ entry ∈ l.queue, entry.objectId = entry.job.objectId) (now : Nat)
    (made : Bool) (job : LifecycleJob) :
    (l.perform now made job).Destroys ∨ l.Leaves (l.perform now made job) job := by
  cases job with
  | signalSleep target => exact .inr (signalSleep_cases l target now)
  | signalWake message =>
      obtain ⟨components, started⟩ := exists_startComponents l made
      change Destroys (l.startComponents made) ∨ l.Leaves (l.startComponents made) _
      rw [started]
      exact .inr (.of_same rfl rfl rfl rfl (.inr ⟨rfl, nofun, nofun⟩))
  | acknowledgePendingSystemSleep =>
      obtain ⟨pending, worker, between, attached, queue⟩ := acknowledgePendingSystemSleep_cases l
      exact .inr (.of_same worker between attached queue (.inl pending))
  | start =>
      obtain ⟨components, started⟩ := exists_startComponents l made
      unfold perform
      dsimp only
      rw [started]
      split <;> exact .inr (.of_same rfl rfl rfl rfl (.inr ⟨rfl, nofun, nofun⟩))
  | requestTermination =>
      unfold perform
      dsimp only
      split
      · exact .inr (.of_same rfl rfl rfl rfl (.inr ⟨rfl, nofun, nofun⟩))
      · obtain destroys | leaves :=
          @shutDown_cases { l with terminationRequested := true } owned true .requestTermination
        · exact .inl destroys
        · exact .inr ⟨leaves.worker, leaves.functionToEnqueue, leaves.monitorAttached,
            leaves.signals, leaves.pending⟩
  | destroy => exact shutDown_cases owned false .destroy

/-- A shutdown keeps the answers sound, whether or not it completes the termination. -/
theorem Sound.shutDown (sound : l.Sound) (isIdle : l.worker = .idle) (completes : Bool) :
    (l.shutDown completes).Sound := by
  have stopped : l.stopComponents.acknowledgePendingSystemSleep.Sound := by
    refine Sound.acknowledgePendingSystemSleep ?_
    exact sound.of_fields rfl rfl rfl rfl rfl rfl sound.received
  obtain ⟨-, worker, -⟩ := acknowledgePendingSystemSleep_cases l.stopComponents
  let queue := l.stopComponents.acknowledgePendingSystemSleep.queue
  have filtered := stopped.of_sublist
    (List.filter_sublist (p := (·.objectId != LifecycleJob.monitorId)) (l := queue))
  have received := filtered.received
  rw [worker.trans isIdle] at received
  unfold Lifecycle.shutDown
  dsimp only
  split
  · exact filtered.of_fields rfl rfl rfl rfl rfl rfl received
  · exact stopped.of_fields rfl rfl rfl rfl rfl rfl stopped.received

/-- A job keeps the answers sound, if the callback that it may make does. -/
theorem Sound.perform (sound : l.Sound) (isIdle : l.worker = .idle) (now : Nat) (made : Bool)
    {job : LifecycleJob} (callback : ∀ target, job = .signalSleep target →
      (l.perform now made job).Sound) : (l.perform now made job).Sound := by
  have same {next : Lifecycle} {components requested : Bool}
      (isNext : next = { l with componentsManager := components, startRequested := requested }) :
      next.Sound := by
    subst isNext
    exact sound.of_fields rfl rfl rfl rfl rfl rfl sound.received
  obtain ⟨components, started⟩ := exists_startComponents l made
  cases job with
  | signalSleep target => exact callback target rfl
  | signalWake _ => exact same started
  | acknowledgePendingSystemSleep => exact sound.acknowledgePendingSystemSleep
  | start =>
      unfold Lifecycle.perform
      dsimp only
      rw [started]
      split
      · exact sound
      · exact same rfl
  | requestTermination =>
      unfold Lifecycle.perform
      dsimp only
      split
      · exact sound
      · refine @Sound.shutDown { l with terminationRequested := true } ?_ isIdle true
        exact sound.of_fields rfl rfl rfl rfl rfl rfl sound.received
  | destroy => exact sound.shutDown isIdle false

/-- A job that the worker thread takes. -/
theorem Kept.perform (kept : l.Kept) (isIdle : l.worker = .idle)
    {entry : DispatcherEntry LifecycleJob} {rest : List (DispatcherEntry LifecycleJob)}
    (isQueue : l.queue = entry :: rest) (now : Nat) (made : Bool) :
    (perform { l with queue := rest } now made entry.job).Kept := by
  let popped : Lifecycle := { l with queue := rest }
  have sublist : rest.Sublist l.queue := isQueue ▸ List.sublist_cons_self entry rest
  have sound : popped.Sound := kept.sound.of_sublist sublist
  have signals : l.signals = entry.job.notification.toList ++ popped.signals := by
    unfold Lifecycle.signals
    rw [isQueue, List.filterMap_cons]
    cases entry.job.notification <;> rfl
  have start : Frame l popped := ⟨rfl, rfl, rfl, fun _ => id⟩
  have frame : Frame l (popped.perform now made entry.job) := start.perform now made entry.job
  have isSound : (popped.perform now made entry.job).Sound := by
    refine sound.perform isIdle now made fun target isJob => ?_
    rw [isJob] at signals ⊢
    have once := kept.sound.once
    rw [signals] at once
    have notQueued : target ∉ popped.signals := (List.nodup_cons.mp once).1
    have isQueued : target ∈ l.signals := signals ▸ List.mem_cons_self
    obtain ⟨fresh, -, -, -, -, -, queued, -, unanswered, -⟩ := kept.sound.accounted target
    have received : target < l.received := Nat.lt_of_not_le fun isFresh =>
      (fresh isFresh).2.2.1 isQueued
    have late (isUnanswered : l.runLoop = .unanswered target) :
        (l.response target).timedOut = true :=
      (unanswered isUnanswered).resolve_right fun refused => refused.2 isQueued
    obtain ⟨notStarted, awaited⟩ := queued isQueued
    exact Sound.signalSleep sound received notStarted awaited late notQueued now
  have willBeReleased (id : Nat) (waits : l.runLoop = .waiting id)
      (worker : (popped.perform now made entry.job).worker = .idle ∨
        ∃ completes, (popped.perform now made entry.job).worker = .detached completes) :
      ((popped.perform now made entry.job).response id).notified = true ∨
        (popped.perform now made entry.job).WillBeReleased id := by
    obtain notified | released := kept.awaited id waits
    · exact .inl (frame.notified id notified)
    · right
      unfold WillBeReleased at released ⊢
      rw [isIdle] at released
      rw [← frame.pendingPowerResponses] at released
      obtain isIdle | ⟨completes, isDetached⟩ := worker
      · rwa [isIdle]
      · rwa [isDetached]
  obtain ⟨⟨completes, isDetached⟩, attached, noSignals, noPending⟩ | leaves :=
    perform_cases sound.owned now made entry.job
  · refine ⟨isSound, fun _ => noSignals, fun _ => ⟨attached, noPending⟩,
      fun isPending => absurd noPending isPending, fun isAttached => ?_, fun id waits => ?_⟩
    · rw [attached] at isAttached
      cases isAttached
    · exact willBeReleased id (frame.runLoop ▸ waits) (.inr ⟨completes, isDetached⟩)
  · have worker : (popped.perform now made entry.job).worker = .idle := leaves.worker.trans isIdle
    refine ⟨isSound, fun isDetached => ?_, fun busy => absurd worker busy, fun isPending => ?_,
      fun isAttached id inserted => ?_, fun id waits => ?_⟩
    · rw [leaves.monitorAttached] at isDetached
      have none := kept.detached isDetached
      rw [signals, List.append_eq_nil_iff] at none
      exact List.perm_nil.mp (none.2 ▸ leaves.signals)
    · obtain ⟨acknowledges, member, isJob⟩ | ⟨same, queue, notAcknowledge, notDestroy⟩ :=
        leaves.pending isPending
      · exact .inr ⟨acknowledges, member, .inl isJob⟩
      · obtain between | ⟨other, member, isJob⟩ := kept.acknowledged (same ▸ isPending)
        · exact .inl (leaves.functionToEnqueue.trans between)
        rw [isQueue] at member
        obtain rfl | member := List.mem_cons.mp member
        · exact absurd isJob (by rintro (isJob | isJob) <;> contradiction)
        · exact .inr ⟨other, queue ▸ member, isJob⟩
    · rw [frame.pendingPowerResponses]
      exact kept.registered (leaves.monitorAttached ▸ isAttached) id (frame.runLoop ▸ inserted)
    · exact willBeReleased id (frame.runLoop ▸ waits) (.inl worker)

theorem Kept.work (kept : l.Kept) (now : Nat) (made : Bool) : (l.work now made).Kept := by
  unfold Lifecycle.work
  split
  · rename_i isIdle isQueue
    split
    · exact kept.perform isIdle isQueue now made
    · exact kept
  · exact kept

/-- What is left as it is when somebody answers in place of a callback. -/
theorem allowPowerChangeIfCallbackNotStarted_cases (l : Lifecycle) (target : Nat) :
    Frame l (l.allowPowerChangeIfCallbackNotStarted target) ∧
      (l.allowPowerChangeIfCallbackNotStarted target).signals = l.signals ∧
      (l.allowPowerChangeIfCallbackNotStarted target).queue = l.queue ∧
      (l.allowPowerChangeIfCallbackNotStarted target).worker = l.worker ∧
      (l.allowPowerChangeIfCallbackNotStarted target).functionToEnqueue = l.functionToEnqueue ∧
      (l.allowPowerChangeIfCallbackNotStarted target).monitorAttached = l.monitorAttached ∧
      (l.allowPowerChangeIfCallbackNotStarted target).pendingSystemSleepAcknowledgement =
        l.pendingSystemSleepAcknowledgement ∧
      (∀ id, ((l.allowPowerChangeIfCallbackNotStarted target).response id).timedOut =
          (l.response id).timedOut ∧
        ((l.allowPowerChangeIfCallbackNotStarted target).response id).callbackStarted =
          (l.response id).callbackStarted) := by
  unfold allowPowerChangeIfCallbackNotStarted
  dsimp only
  split
  · exact ⟨.refl l, rfl, rfl, rfl, rfl, rfl, rfl, fun _ => ⟨rfl, rfl⟩⟩
  · refine ⟨?_, rfl, rfl, rfl, rfl, rfl, rfl, fun id => ?_⟩
    · have frame := (Frame.refl l).setResponse target { l.response target with closed := true }
        fun notified => notified
      exact ⟨frame.runLoop, frame.pendingPowerResponses, frame.received, frame.notified⟩
    · unfold allowPowerChange setResponse
      dsimp only
      split
      · rename_i same
        exact ⟨by rw [same], by rw [same]⟩
      · exact ⟨rfl, rfl⟩

/-- Releasing the responses keeps the invariant: each of them is allowed unless its callback has
started. -/
theorem Kept.release (kept : l.Kept) : l.release.Kept := by
  unfold Lifecycle.release
  split
  · exact kept
  · rename_i completes isDetached
    have busy : l.worker ≠ .idle := by simp [isDetached]
    obtain ⟨sound, noSignals, isBusy, acknowledged, registered, awaited⟩ := kept
    refine ⟨sound.of_fields rfl rfl rfl rfl rfl rfl fun id member =>
      sound.received id (List.mem_append_left _ member), noSignals, fun _ => isBusy busy,
      acknowledged, fun isAttached => ?_, fun id waits => ?_⟩
    · rw [(isBusy busy).1] at isAttached
      cases isAttached
    · have := awaited id waits
      unfold WillBeReleased at this
      rwa [isDetached] at this
  · rename_i target rest completes isReleasing
    have busy : l.worker ≠ .idle := by simp [isReleasing]
    have received : target < l.received := kept.sound.received target
      (by simp [isReleasing, LifecycleWorker.responses])
    obtain ⟨sound, answered⟩ := kept.sound.allowPowerChangeIfCallbackNotStarted received
    obtain ⟨frame, signals, queue, -, -, attached, pending, same⟩ :=
      allowPowerChangeIfCallbackNotStarted_cases l target
    have isBusy := kept.busy busy
    have late : target ∈ (l.allowPowerChangeIfCallbackNotStarted target).answers ∨
        (l.allowPowerChangeIfCallbackNotStarted target).Late target := by
      refine answered.elim .inl fun started => ?_
      obtain answered | isPending | timedOut := (sound.accounted target).started started
      · exact .inl answered
      · rw [pending, isBusy.2] at isPending
        cases isPending
      · exact .inr ⟨timedOut, started⟩
    have isNotified := frame.notifyWait target
    have isSound := sound.notifyWait (frame.received ▸ received) late
    let released : Lifecycle :=
      { (l.allowPowerChangeIfCallbackNotStarted target).notifyWait target with
        worker := .releasing rest completes }
    have isDetached : released.monitorAttached = false := attached.trans isBusy.1
    have noPending : released.pendingSystemSleepAcknowledgement = none := pending.trans isBusy.2
    refine ⟨isSound.of_fields rfl rfl rfl rfl rfl rfl fun id member => ?_,
      fun _ => signals.trans (kept.detached isBusy.1), fun _ => ⟨isDetached, noPending⟩,
      fun isPending => absurd noPending isPending, fun isAttached => ?_, fun id waits => ?_⟩
    · refine lt_of_lt_of_eq (kept.sound.received id ?_) frame.received.symm
      rw [isReleasing, ← frame.pendingPowerResponses]
      exact (List.mem_append.mp member).elim (List.mem_append_left _)
        fun later => List.mem_append_right _ (List.mem_cons_of_mem _ later)
    · rw [isDetached] at isAttached
      cases isAttached
    · obtain notified | willBe := kept.awaited id (isNotified.runLoop ▸ waits)
      · exact .inl (isNotified.notified id notified)
      · unfold WillBeReleased at willBe
        rw [isReleasing] at willBe
        obtain rfl | later := List.mem_cons.mp willBe
        · exact .inl (congrArg PendingPowerResponse.notified (if_pos rfl))
        · exact .inr later
  · rename_i completes isReleasing
    obtain ⟨sound, noSignals, isBusy, acknowledged, registered, awaited⟩ := kept
    have busy : l.worker ≠ .idle := by simp [isReleasing]
    have received := sound.received
    rw [isReleasing] at received
    refine ⟨sound.of_fields rfl rfl rfl rfl rfl rfl received, noSignals, fun _ => isBusy busy,
      acknowledged, registered, fun id waits => ?_⟩
    have := awaited id waits
    unfold WillBeReleased at this ⊢
    rw [isReleasing] at this
    simpa using this
  · rename_i completes isStopping
    obtain ⟨⟨accounted, nodup, once, received, owned⟩, noSignals, isBusy, acknowledged, registered,
      awaited⟩ := kept
    split
    · rename_i isIdle
      refine ⟨⟨fun id => ?_, nodup, once, ?_, owned⟩, noSignals, fun busy => absurd rfl busy,
        acknowledged, fun _ _ => nofun, fun _ => nofun⟩
      · obtain ⟨fresh, answered, closed, pending, started, notified, queued, inserted, unanswered,
          left⟩ := accounted id
        constructor <;> grind [HasLeft, Late, signals, RunLoopPhase.current]
      · rwa [isStopping] at received
    · exact ⟨⟨accounted, nodup, once, received, owned⟩, noSignals, isBusy, acknowledged, registered,
        awaited⟩

/-! ## The run loop thread -/

/-- The callback of the message that has been inserted is enqueued. -/
theorem Kept.enqueueSignal (kept : l.Kept) {target : Nat}
    (isInserted : l.runLoop = .inserted target) (isAttached : l.monitorAttached = true) :
    Kept { l.push (.signalSleep target) Dispatcher.whenImmediately with
      runLoop := .waiting target } := by
  obtain ⟨⟨accounted, nodup, once, received, owned⟩, noSignals, isBusy, acknowledged, registered,
    awaited⟩ := kept
  have perm := signals_push l (.signalSleep target) Dispatcher.whenImmediately
  have new := (accounted target).inserted isInserted
  have isIdle : l.worker = .idle := by
    by_contra busy
    rw [(isBusy busy).1] at isAttached
    cases isAttached
  refine ⟨⟨fun id => ?_, nodup, perm.nodup_iff.mpr (List.nodup_cons.mpr ⟨new.2, once⟩), received,
    fun entry member => ?_⟩, fun isDetached => ?_, isBusy, fun isPending => ?_, fun _ _ => nofun,
    fun id waits => ?_⟩
  · have member : id ∈ (l.push (.signalSleep target) Dispatcher.whenImmediately).signals ↔
        id = target ∨ id ∈ l.signals := perm.mem_iff.trans List.mem_cons
    obtain ⟨fresh, answered, closed, pending, started, notified, queued, inserted, unanswered,
      left⟩ := accounted id
    constructor <;> grind [HasLeft, Late, Lifecycle.signals, RunLoopPhase.current, Lifecycle.push]
  · obtain rfl | member := Dispatcher.mem_insertEntry.mp member
    · rfl
    · exact owned entry member
  · exact Bool.noConfusion (isAttached.symm.trans isDetached)
  · exact (acknowledged isPending).imp_right fun ⟨entry, member, isJob⟩ =>
      ⟨entry, Dispatcher.mem_insertEntry.mpr (.inr member), isJob⟩
  · obtain rfl := RunLoopPhase.waiting.inj waits
    exact .inr (willBeReleased_of_idle isIdle (registered isAttached target isInserted))

/-- The run loop thread goes to another place in the function, about the same message. -/
theorem Kept.goesOn (kept : l.Kept) {target : Nat} {runLoop : RunLoopPhase}
    (before : l.runLoop.current = some target) (now : runLoop = .unanswered target ∧
        ((l.response target).timedOut = true ∨
          (l.response target).callbackStarted = false ∧ target ∉ l.signals) ∨
      runLoop = .finished target ∧ (target ∈ l.answers ∨ l.Late target)) :
    Kept { l with runLoop := runLoop } := by
  obtain ⟨⟨accounted, nodup, once, received, owned⟩, noSignals, isBusy, acknowledged, registered,
    awaited⟩ := kept
  refine ⟨⟨fun id => ?_, nodup, once, received, owned⟩, noSignals, isBusy, acknowledged,
    fun _ id inserted => ?_, fun id waits => ?_⟩
  · obtain ⟨fresh, answered, closed, pending, started, notified, queued, inserted, unanswered,
      left⟩ := accounted id
    constructor <;> grind [HasLeft, Late, signals, RunLoopPhase.current]
  · grind
  · grind

/-- Allowing the power change of a response that was received keeps the invariant. -/
theorem Kept.allowPowerChangeIfCallbackNotStarted (kept : l.Kept) {target : Nat}
    (received : target < l.received) : (l.allowPowerChangeIfCallbackNotStarted target).Kept := by
  obtain ⟨sound, -⟩ := kept.sound.allowPowerChangeIfCallbackNotStarted received
  obtain ⟨frame, signals, queue, worker, between, attached, pending, -⟩ :=
    allowPowerChangeIfCallbackNotStarted_cases l target
  refine ⟨sound, ?_, ?_, ?_, ?_, fun id waits => ?_⟩
  · rw [attached, signals]
    exact kept.detached
  · rw [worker, attached, pending]
    exact kept.busy
  · rw [pending, between, queue]
    exact kept.acknowledged
  · rw [attached, frame.runLoop, frame.pendingPowerResponses]
    exact kept.registered
  · unfold WillBeReleased
    rw [worker, frame.pendingPowerResponses]
    exact (kept.awaited id (frame.runLoop ▸ waits)).imp (frame.notified id) fun willBe => willBe

/-- A step of the run loop thread keeps the invariant. -/
theorem Kept.advance (kept : l.Kept) : l.advance.Kept := by
  unfold Lifecycle.advance
  split
  · exact kept
  · exact kept
  · rename_i target isInserted
    split
    · rename_i isAttached
      exact kept.enqueueSignal isInserted isAttached
    · have new := (kept.sound.accounted target).inserted isInserted
      exact kept.goesOn (congrArg RunLoopPhase.current isInserted) (.inl ⟨rfl, .inr new⟩)
  · rename_i target waits
    split
    · rename_i isNotified
      exact kept.goesOn (congrArg RunLoopPhase.current waits)
        (.inr ⟨rfl, (kept.sound.accounted target).notified isNotified⟩)
    · exact kept
  · rename_i target isUnanswered
    have isCurrent : l.runLoop.current = some target := congrArg _ isUnanswered
    obtain ⟨fresh, -, -, -, -, -, -, -, unanswered, -⟩ := kept.sound.accounted target
    have received : target < l.received :=
      Nat.lt_of_not_le fun isFresh => (fresh isFresh).2.2.2 isCurrent
    obtain ⟨-, answered⟩ := kept.sound.allowPowerChangeIfCallbackNotStarted received
    obtain ⟨frame, -, -, -, -, -, -, same⟩ := allowPowerChangeIfCallbackNotStarted_cases l target
    refine (kept.allowPowerChangeIfCallbackNotStarted received).goesOn
      (frame.runLoop ▸ isCurrent) (.inr ⟨rfl, answered.imp_right fun started => ?_⟩)
    refine ⟨?_, started⟩
    rw [(same target).2] at started
    rw [(same target).1]
    refine (unanswered isUnanswered).resolve_right fun refused => ?_
    exact Bool.noConfusion (refused.1.symm.trans started)
  · rename_i target isFinished
    obtain ⟨⟨accounted, nodup, once, received, owned⟩, noSignals, isBusy, acknowledged, registered,
      awaited⟩ := kept
    have left := (accounted target).left
    refine ⟨⟨fun id => ?_, nodup, once, fun id member => received id ?_, owned⟩, noSignals, isBusy,
      acknowledged, fun _ _ => nofun, fun _ => nofun⟩
    · obtain ⟨fresh, answered, closed, pending, started, notified, queued, inserted, unanswered,
        left⟩ := accounted id
      constructor <;> grind [HasLeft, Late, signals, RunLoopPhase.current]
    · exact (List.mem_append.mp member).elim
        (fun member => List.mem_append_left _ (List.mem_of_mem_filter member))
        (List.mem_append_right _)

/-- A response that times out keeps the invariant: it is allowed unless its callback has started. -/
theorem Kept.timeOut (kept : l.Kept) : l.timeOut.Kept := by
  unfold Lifecycle.timeOut
  split
  · rename_i target waits
    dsimp only
    split
    · exact kept
    · have timedOut : Kept (l.setResponse target { l.response target with timedOut := true }) := by
        obtain ⟨⟨accounted, nodup, once, received, owned⟩, noSignals, isBusy, acknowledged,
          registered, awaited⟩ := kept
        have frame := (Frame.refl l).setResponse target { l.response target with timedOut := true }
          fun notified => notified
        refine ⟨⟨fun id => ?_, nodup, once, received, owned⟩, noSignals, isBusy, acknowledged,
          registered, fun id waits => (awaited id waits).imp_left (frame.notified id)⟩
        obtain ⟨fresh, answered, closed, pending, started, notified, queued, inserted, unanswered,
          left⟩ := accounted id
        constructor <;> grind [HasLeft, Late, signals, setResponse]
      refine timedOut.goesOn (congrArg RunLoopPhase.current waits) (.inl ⟨rfl, .inl ?_⟩)
      exact congrArg PendingPowerResponse.timedOut (if_pos rfl)
  · exact kept

/-- A message of the system keeps the invariant, whether its answer is left to a callback or given
at once. -/
theorem Kept.receiveSleep (kept : l.Kept) (message : SleepMessage) :
    (l.receiveSleep message).Kept := by
  unfold Lifecycle.receiveSleep
  split
  · rename_i isIdle
    obtain ⟨⟨accounted, nodup, once, received, owned⟩, noSignals, isBusy, acknowledged, registered,
      awaited⟩ := kept
    have new := accounted l.received
    refine ⟨⟨fun id => ?_, nodup, once, fun id member => ?_, owned⟩, noSignals, isBusy,
      acknowledged, fun _ id isInserted => ?_, fun _ => nofun⟩
    · obtain ⟨fresh, answered, closed, pending, started, notified, queued, inserted, unanswered,
        left⟩ := accounted id
      constructor <;> grind [HasLeft, Late, signals, setResponse, RunLoopPhase.current,
        PendingPowerResponse.ofMessage]
    · obtain member | member := List.mem_append.mp member
      · obtain rfl | member := List.mem_cons.mp member
        · exact Nat.lt_succ_self _
        · exact Nat.lt_succ_of_lt (received id (List.mem_append_left _ member))
      · exact Nat.lt_succ_of_lt (received id (List.mem_append_right _ member))
    · obtain rfl := RunLoopPhase.inserted.inj isInserted
      exact List.mem_cons_self
  · exact kept

/-! ## Runs -/

theorem Kept.push (kept : l.Kept) {job : LifecycleJob} (other : job.notification = none)
    (when_ : Nat) : (l.push job when_).Kept := by
  have signals := signals_push l job when_
  rw [other, Option.toList_none, List.nil_append] at signals
  refine ⟨kept.sound.push other when_, fun isDetached => ?_, kept.busy, fun isPending => ?_,
    kept.registered, kept.awaited⟩
  · exact List.perm_nil.mp (kept.detached isDetached ▸ signals)
  · exact (kept.acknowledged isPending).imp_right fun ⟨entry, member, isJob⟩ =>
      ⟨entry, Dispatcher.mem_insertEntry.mpr (.inr member), isJob⟩

/-- Under the first lock of `detach` the delayed job of an answer may go: the destructor is left
with the answer. -/
theorem Kept.destruct (kept : l.Kept) : l.destruct.Kept := by
  unfold Lifecycle.destruct
  split
  · rename_i isIdle
    split
    · have sublist : (l.queue.filter (·.objectId != LifecycleJob.managerId)).Sublist l.queue :=
        List.filter_sublist
      have sound : Sound
          { l with
            managerAttached := false
            functionToEnqueue := true
            queue := l.queue.filter (·.objectId != LifecycleJob.managerId) } :=
        (kept.sound.of_sublist sublist).of_fields rfl rfl rfl rfl rfl rfl kept.sound.received
      refine ⟨sound, fun isDetached => ?_, fun busy => absurd isIdle busy, fun _ => .inl rfl,
        kept.registered, kept.awaited⟩
      have signals := sublist.filterMap (·.job.notification)
      exact List.sublist_nil.mp (kept.detached isDetached ▸ signals)
    · exact kept
  · exact kept

/-- The second lock of the detachment queues the job that the pending answer has been left to. -/
theorem Kept.enqueueFunction (kept : l.Kept) : l.enqueueFunction.Kept := by
  unfold Lifecycle.enqueueFunction
  split
  · obtain ⟨⟨accounted, nodup, once, received, owned⟩, noSignals, isBusy, -, registered, awaited⟩ :=
      kept
    refine ⟨⟨fun id => (accounted id).of_same rfl .rfl .rfl rfl rfl fun queued => queued, nodup,
      once, received, fun entry member => ?_⟩, noSignals, isBusy,
      fun _ => .inr ⟨_, List.mem_cons_self, .inr rfl⟩, registered, awaited⟩
    obtain rfl | member := List.mem_cons.mp member
    · rfl
    · exact owned entry member
  · exact kept

/-- Every step of a thread keeps the invariant. -/
theorem Kept.step (kept : l.Kept) (action : LifecycleAction) : (l.step action).Kept := by
  cases action with
  | asyncStart =>
      unfold Lifecycle.step
      dsimp only
      split
      · exact kept.push rfl _
      · exact kept
  | asyncRequestTermination =>
      unfold Lifecycle.step
      dsimp only
      split
      · exact kept.push rfl _
      · exact kept
  | terminateSharedInstance =>
      exact ⟨kept.sound.of_fields rfl rfl rfl rfl rfl rfl kept.sound.received, kept.detached,
        kept.busy, kept.acknowledged, kept.registered, kept.awaited⟩
  | destruct => exact kept.destruct
  | enqueueFunction => exact kept.enqueueFunction
  | register =>
      unfold Lifecycle.step
      dsimp only
      split
      · exact ⟨kept.sound.of_fields rfl rfl rfl rfl rfl rfl kept.sound.received, kept.detached,
        kept.busy, kept.acknowledged, kept.registered, kept.awaited⟩
      · exact kept
  | receiveSleep message => exact kept.receiveSleep message
  | receiveWake message =>
      unfold Lifecycle.step Lifecycle.receiveWake
      dsimp only
      split
      · exact kept.push rfl _
      · exact kept
  | runLoop => exact kept.advance
  | timeOut => exact kept.timeOut
  | work now made => exact kept.work now made
  | release => exact kept.release

theorem kept_foldl (systemWillSleepDelay : Nat) (actions : List LifecycleAction) :
    (actions.foldl step (initial systemWillSleepDelay)).Kept := by
  induction actions using List.reverseRecOn with
  | nil => exact kept_initial systemWillSleepDelay
  | append_singleton actions action ih =>
      rw [List.foldl_append]
      exact ih.step action

/-- In every interleaving of the threads: no message is answered twice. Once the run loop thread is
done with a message, the message has been answered, unless the wait has timed out while the callback
was under way. An answer that is left to a job has that job, or the destructor of the manager has
detached the manager and its function is to come. And when the destructor of the monitor waits for
the run loop thread, that thread does not wait for an answer. -/
theorem answered_once (systemWillSleepDelay : Nat) (actions : List LifecycleAction) :
    let l := actions.foldl step (initial systemWillSleepDelay)
    l.answers.Nodup ∧ (∀ id, l.HasLeft id → id ∈ l.answers ∨ l.Late id) ∧
      (l.pendingSystemSleepAcknowledgement ≠ none → l.functionToEnqueue = true ∨
        ∃ entry ∈ l.queue, entry.job = .acknowledgePendingSystemSleep ∨ entry.job = .destroy) ∧
      ∀ completes id, l.worker = .stopping completes → l.runLoop = .waiting id →
        (l.response id).notified = true := by
  have kept := kept_foldl systemWillSleepDelay actions
  refine ⟨kept.sound.nodup, fun id => (kept.sound.accounted id).left, kept.acknowledged,
    fun completes id isStopping waits => (kept.awaited id waits).resolve_right fun willBe => ?_⟩
  unfold WillBeReleased at willBe
  rwa [isStopping] at willBe

end Lifecycle

end Karabiner

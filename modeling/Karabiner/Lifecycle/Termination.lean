import Karabiner.Lifecycle.SleepAnswers
import Mathlib.Logic.Function.Iterate

/-! # Termination

A termination may be requested again and again, while the system is about to sleep and messages
still arrive. The components are stopped for good, every message has its answer, and the completion
handler is called once, after the run loop thread has stopped.
-/

namespace Karabiner

/-- Whether the completion handler is called at the end of the destructor. -/
def LifecycleWorker.completes : LifecycleWorker → Bool
  | .idle => false
  | .detached completes | .releasing _ completes | .stopping completes => completes

namespace Lifecycle

variable {l next : Lifecycle}

/-- What every step keeps of a termination. -/
structure Terminates (l : Lifecycle) : Prop where
  stopped : l.terminationRequested = true → l.componentsManager = false
  completions : l.completions + l.worker.completes.toNat ≤ l.terminationRequested.toNat
  monitor : l.powerManagementMonitor = false →
    l.terminationRequested = true ∨ l.managerAttached = false
  destroyed : l.powerManagementMonitor = true ↔ l.monitorAttached = true
  busy : l.worker ≠ .idle → l.powerManagementMonitor = false
  runLoop : l.runLoop = .stopped ↔ l.powerManagementMonitor = false ∧ l.worker = .idle
  /-- The destructor runs when nothing holds the manager. -/
  gone : l.managerAttached = false →
    l.hasInstance = false ∧ ∀ entry ∈ l.queue, entry.job.holdsManager = false
  destroys : ∀ entry ∈ l.queue, entry.job = .destroy → l.managerAttached = false
  completed : 0 < l.completions → l.powerManagementMonitor = false ∧ l.worker = .idle ∧
    l.pendingSystemSleepAcknowledgement = none
  between : l.functionToEnqueue = true → l.managerAttached = false

theorem terminates_initial (systemWillSleepDelay : Nat) :
    (initial systemWillSleepDelay).Terminates := by
  constructor <;> simp [initial, LifecycleWorker.completes]

/-- The run loop thread and the destructor of the monitor start nothing. -/
theorem Terminates.advance (terminates : l.Terminates) : l.advance.Terminates := by
  cases terminates
  unfold Lifecycle.advance allowPowerChangeIfCallbackNotStarted
  constructor <;> grind [setResponse, allowPowerChange, Lifecycle.push, Dispatcher.mem_insertEntry,
    LifecycleJob.holdsManager]

theorem Terminates.release (terminates : l.Terminates) (kept : l.Kept) : l.release.Terminates := by
  cases terminates
  have isBusy := kept.busy
  unfold Lifecycle.release allowPowerChangeIfCallbackNotStarted
  constructor <;> grind [setResponse, allowPowerChange, notifyWait, LifecycleWorker.completes]

/-- As long as there is an instance the manager is attached to the dispatcher. -/
theorem Terminates.attached (terminates : l.Terminates) (hasInstance : l.hasInstance = true) :
    l.managerAttached = true := by
  by_contra isDetached
  have noInstance := (terminates.gone (eq_false_of_ne_true isDetached)).1
  rw [noInstance] at hasInstance
  cases hasInstance

theorem Terminates.push (terminates : l.Terminates) {job : LifecycleJob}
    (notDestroy : job ≠ .destroy) (held : job.holdsManager = true → l.managerAttached = true)
    (when_ : Nat) : (l.push job when_).Terminates := by
  cases terminates
  constructor <;> grind [Lifecycle.push, Dispatcher.mem_insertEntry]

theorem Terminates.acknowledgePendingSystemSleep (terminates : l.Terminates) :
    l.acknowledgePendingSystemSleep.Terminates := by
  cases terminates
  unfold Lifecycle.acknowledgePendingSystemSleep
  constructor <;> grind [setResponse, allowPowerChange, notifyWait]

/-- Signalling that the system sleeps terminates nothing. -/
theorem Terminates.signalSleep (terminates : l.Terminates) (attached : l.monitorAttached = true)
    (target now : Nat) : (l.signalSleep target now).Terminates := by
  have destroyed := terminates.destroyed
  have completed := terminates.completed
  unfold Lifecycle.signalSleep
  dsimp only
  split
  · exact terminates
  split
  · have sleeps : Terminates { (l.setResponse target { l.response target with
        callbackStarted := true }).stopComponents with
          pendingSystemSleepAcknowledgement := some target } := by
      cases terminates
      constructor <;> grind [setResponse, stopComponents]
    unfold Lifecycle.systemWillSleep
    dsimp only
    split
    · exact @Terminates.push _ sleeps .acknowledgePendingSystemSleep
        (fun same => LifecycleJob.noConfusion same)
        (fun held => absurd held Bool.false_ne_true) _
    · exact sleeps.acknowledgePendingSystemSleep
  · exact ⟨terminates.stopped, terminates.completions, terminates.monitor, terminates.destroyed,
      terminates.busy, terminates.runLoop, terminates.gone, terminates.destroys,
      terminates.completed, terminates.between⟩

/-- A shutdown ends the termination that was requested, once, or what was detached by the
destructor. -/
theorem Terminates.shutDown (stopped : l.stopComponents.Terminates) (isIdle : l.worker = .idle)
    {completes : Bool} (requested : completes = true → l.terminationRequested = true ∧
      l.completions = 0 ∧ l.powerManagementMonitor = true)
    (ends : l.terminationRequested = true ∨ l.managerAttached = false) :
    (l.shutDown completes).Terminates := by
  have same : ∀ l : Lifecycle,
      l.acknowledgePendingSystemSleep.pendingSystemSleepAcknowledgement = none ∧
      l.acknowledgePendingSystemSleep.worker = l.worker ∧
      l.acknowledgePendingSystemSleep.completions = l.completions ∧
      l.acknowledgePendingSystemSleep.terminationRequested = l.terminationRequested ∧
      l.acknowledgePendingSystemSleep.managerAttached = l.managerAttached ∧
      l.acknowledgePendingSystemSleep.powerManagementMonitor = l.powerManagementMonitor := by
    intro l
    unfold Lifecycle.acknowledgePendingSystemSleep
    grind [allowPowerChange, notifyWait, setResponse]
  obtain ⟨noPending, worker, sameCompletions, sameRequest, attached, sameMonitor⟩ :=
    same l.stopComponents
  obtain ⟨stopped, completions, monitor, destroyed, busy, runLoop, gone, destroys, completed,
    between⟩ := stopped.acknowledgePendingSystemSleep
  unfold Lifecycle.shutDown destroyMonitor
  dsimp only
  split
  · cases completes <;> constructor <;>
      grind [stopComponents, LifecycleWorker.completes]
  · constructor <;> grind [stopComponents, LifecycleWorker.completes]

theorem Terminates.startComponents (terminates : l.Terminates) (made : Bool) :
    (l.startComponents made).Terminates := by
  cases terminates
  unfold Lifecycle.startComponents
  constructor <;> grind

/-- A job that the worker thread takes. -/
theorem Terminates.perform (terminates : l.Terminates) (kept : l.Kept) (isIdle : l.worker = .idle)
    {entry : DispatcherEntry LifecycleJob} {rest : List (DispatcherEntry LifecycleJob)}
    (isQueue : l.queue = entry :: rest) (now : Nat) (made : Bool) :
    (perform { l with queue := rest } now made entry.job).Terminates := by
  have member : entry ∈ l.queue := isQueue ▸ List.mem_cons_self
  have popped : Terminates { l with queue := rest } := by
    cases terminates
    constructor <;> grind
  cases isJob : entry.job with
  | signalSleep target =>
      refine popped.signalSleep ?_ target now
      by_contra isDetached
      have noSignals := kept.detached (eq_false_of_ne_true isDetached)
      have isSignal : target ∈ l.signals :=
        List.mem_filterMap.mpr ⟨entry, member, congrArg LifecycleJob.notification isJob⟩
      exact List.not_mem_nil (noSignals ▸ isSignal)
  | signalWake _ => exact popped.startComponents made
  | acknowledgePendingSystemSleep => exact popped.acknowledgePendingSystemSleep
  | start =>
      have started := popped.startComponents made
      unfold Lifecycle.perform
      dsimp only
      split
      · exact popped
      · exact ⟨started.stopped, started.completions, started.monitor, started.destroyed,
          started.busy, started.runLoop, started.gone, started.destroys, started.completed,
            started.between⟩
  | requestTermination =>
      unfold Lifecycle.perform
      dsimp only
      split
      · exact popped
      · rename_i notRequested
        have hasMonitor : l.powerManagementMonitor = true := by
          by_contra noMonitor
          obtain isRequested | isDetached := terminates.monitor (eq_false_of_ne_true noMonitor)
          · exact notRequested isRequested
          · have held := (terminates.gone isDetached).2 entry member
            rw [isJob] at held
            cases held
        have none : l.completions = 0 := by
          have bound := popped.completions
          rw [eq_false_of_ne_true notRequested] at bound
          exact Nat.eq_zero_of_add_eq_zero_right (Nat.le_zero.mp bound)
        refine @Terminates.shutDown { l with queue := rest, terminationRequested := true } ?_
          isIdle true (fun _ => ⟨rfl, none, hasMonitor⟩) (.inl rfl)
        obtain ⟨stopped, completions, monitor, destroyed, busy, runLoop, gone, destroys, completed,
          between⟩ := popped
        exact ⟨fun _ => rfl, by grind [stopComponents], fun _ => .inl rfl, destroyed, busy, runLoop,
          gone, destroys, completed, between⟩
  | destroy =>
      refine @Terminates.shutDown { l with queue := rest } ?_ isIdle false
        (fun completes => absurd completes Bool.false_ne_true)
        (.inr (terminates.destroys entry member isJob))
      obtain ⟨stopped, completions, monitor, destroyed, busy, runLoop, gone, destroys, completed,
        between⟩ := popped
      exact ⟨fun _ => rfl, completions, monitor, destroyed, busy, runLoop, gone, destroys,
        completed, between⟩

/-- The first lock of the destructor detaches the manager, which nothing held any more. -/
theorem Terminates.destruct (terminates : l.Terminates) : l.destruct.Terminates := by
  cases terminates
  unfold Lifecycle.destruct
  constructor <;> grind [LifecycleJob.holdsManager]

/-- The second lock queues the job of the detached manager. -/
theorem Terminates.enqueueFunction (terminates : l.Terminates) : l.enqueueFunction.Terminates := by
  cases terminates
  unfold Lifecycle.enqueueFunction
  constructor <;> grind [LifecycleJob.holdsManager]

/-- A message of the system is answered or handed to the monitor, and ends nothing. -/
theorem Terminates.receiveSleep (terminates : l.Terminates) (message : SleepMessage) :
    (l.receiveSleep message).Terminates := by
  cases terminates
  unfold Lifecycle.receiveSleep
  constructor <;> grind [setResponse]

/-- A response that times out ends nothing. -/
theorem Terminates.timeOut (terminates : l.Terminates) : l.timeOut.Terminates := by
  cases terminates
  unfold Lifecycle.timeOut
  constructor <;> grind [setResponse]

/-- Every step keeps what is known of a termination. -/
theorem Terminates.step (terminates : l.Terminates) (kept : l.Kept) (action : LifecycleAction) :
    (l.step action).Terminates := by
  cases action with
  | asyncStart =>
      unfold Lifecycle.step
      dsimp only
      split
      · rename_i hasInstance
        exact terminates.push (by decide) (fun _ => terminates.attached hasInstance) _
      · exact terminates
  | asyncRequestTermination =>
      unfold Lifecycle.step
      dsimp only
      split
      · rename_i hasInstance
        exact terminates.push (by decide) (fun _ => terminates.attached hasInstance) _
      · exact terminates
  | terminateSharedInstance =>
      obtain ⟨stopped, completions, monitor, destroyed, busy, runLoop, gone, destroys, completed,
        between⟩ := terminates
      exact ⟨stopped, completions, monitor, destroyed, busy, runLoop,
        fun isDetached => ⟨rfl, (gone isDetached).2⟩, destroys, completed, between⟩
  | destruct => exact terminates.destruct
  | enqueueFunction => exact terminates.enqueueFunction
  | register =>
      cases terminates
      unfold Lifecycle.step
      constructor <;> grind
  | receiveSleep message => exact terminates.receiveSleep message
  | receiveWake message =>
      unfold Lifecycle.step Lifecycle.receiveWake
      dsimp only
      split
      · exact @Terminates.push _ terminates (.signalWake message)
          (fun same => LifecycleJob.noConfusion same) (fun held => absurd held Bool.false_ne_true) _
      · exact terminates
  | runLoop => exact terminates.advance
  | timeOut => exact terminates.timeOut
  | work now made =>
      unfold Lifecycle.step Lifecycle.work
      dsimp only
      split
      · rename_i isIdle isQueue
        split
        · exact terminates.perform kept isIdle isQueue now made
        · exact terminates
      · exact terminates
  | release => exact terminates.release kept

theorem terminates_foldl (systemWillSleepDelay : Nat) (actions : List LifecycleAction) :
    (actions.foldl Lifecycle.step (initial systemWillSleepDelay)).Terminates := by
  induction actions using List.reverseRecOn with
  | nil => exact terminates_initial systemWillSleepDelay
  | append_singleton actions action ih =>
      rw [List.foldl_append]
      exact ih.step (kept_foldl systemWillSleepDelay actions) action

/-! ## The end of a termination -/

/-- The steps that the run loop thread may still take for its message. -/
def runLoopMeasure : RunLoopPhase → Nat
  | .idle | .stopped => 0
  | .finished _ => 1
  | .unanswered _ | .waiting _ => 2
  | .inserted _ => 3

/-- The steps of the destruction of the monitor but for the last one. -/
def workerMeasure (l : Lifecycle) : Nat :=
  match l.worker with
  | .idle | .stopping _ => 0
  | .releasing responses _ => responses.length + 1
  | .detached _ => l.pendingPowerResponses.length + 2

/-- The run loop thread and the worker thread go on. -/
def goOn (l : Lifecycle) : Lifecycle := l.advance.release

/-- The run loop thread goes on unless it waits for an answer. -/
theorem advance_measure (isDetached : l.monitorAttached = false) :
    l.advance.worker = l.worker ∧ l.advance.workerMeasure ≤ l.workerMeasure ∧
      runLoopMeasure l.advance.runLoop ≤ runLoopMeasure l.runLoop ∧
      (l.runLoop.current ≠ none →
        (∀ id, l.runLoop = .waiting id → (l.response id).notified = true) →
        runLoopMeasure l.advance.runLoop < runLoopMeasure l.runLoop) := by
  unfold advance
  split
  · rename_i isIdle
    exact ⟨rfl, le_rfl, le_rfl, fun isCurrent => absurd (congrArg _ isIdle) isCurrent⟩
  · rename_i isStopped
    exact ⟨rfl, le_rfl, le_rfl, fun isCurrent => absurd (congrArg _ isStopped) isCurrent⟩
  · rename_i target isInserted
    rw [if_neg (by rw [isDetached]; decide), isInserted]
    exact ⟨rfl, le_rfl, Nat.le_succ 2, fun _ _ => Nat.lt_succ_self 2⟩
  · rename_i target waits
    split
    · rw [waits]
      exact ⟨rfl, le_rfl, Nat.le_succ 1, fun _ _ => Nat.lt_succ_self 1⟩
    · rename_i notNotified
      exact ⟨rfl, le_rfl, le_rfl, fun _ notified => absurd (notified target waits) notNotified⟩
  · rename_i target isUnanswered
    obtain ⟨frame, -, -, worker, -, -, -⟩ := allowPowerChangeIfCallbackNotStarted_cases l target
    rw [isUnanswered]
    refine ⟨worker, ?_, Nat.le_succ 1, fun _ _ => Nat.lt_succ_self 1⟩
    unfold workerMeasure
    dsimp only
    rw [worker, frame.pendingPowerResponses]
  · rename_i target isFinished
    rw [isFinished]
    refine ⟨rfl, ?_, Nat.le_succ 0, fun _ _ => Nat.lt_succ_self 0⟩
    unfold workerMeasure
    dsimp only
    have fewer := List.length_filter_le (· != target) l.pendingPowerResponses
    split
    · exact le_rfl
    · exact le_rfl
    · exact le_rfl
    · exact Nat.add_le_add_right fewer 2

/-- The worker thread goes on unless it waits for the run loop thread. -/
theorem release_measure (busy : l.worker ≠ .idle) :
    l.release.worker = .idle ∨ l.release.runLoop = l.runLoop ∧
      (l.release.workerMeasure < l.workerMeasure ∨
        l.release = l ∧ (∃ completes, l.worker = .stopping completes) ∧ l.runLoop ≠ .idle) := by
  unfold release
  split
  · rename_i isIdle
    exact absurd isIdle busy
  · rename_i completes isDetached
    refine .inr ⟨rfl, .inl ?_⟩
    unfold workerMeasure
    rw [isDetached]
    exact Nat.lt_succ_self _
  · rename_i target rest completes isReleasing
    obtain ⟨frame, -⟩ := allowPowerChangeIfCallbackNotStarted_cases l target
    refine .inr ⟨frame.runLoop, .inl ?_⟩
    unfold workerMeasure
    rw [isReleasing]
    exact Nat.lt_succ_self _
  · rename_i completes isReleasing
    refine .inr ⟨rfl, .inl ?_⟩
    unfold workerMeasure
    rw [isReleasing]
    exact Nat.lt_succ_self _
  · rename_i completes isStopping
    split
    · exact .inl rfl
    · rename_i notIdle
      exact .inr ⟨rfl, .inr ⟨rfl, ⟨completes, isStopping⟩, notIdle⟩⟩

/-- When only the two threads go on, the destruction of the monitor ends. -/
theorem exists_goOn_idle (kept : l.Kept) (terminates : l.Terminates) (busy : l.worker ≠ .idle) :
    ∃ rounds ≤ runLoopMeasure l.runLoop + l.workerMeasure + 1,
      (goOn^[rounds] l).worker = .idle := by
  generalize isMeasure : runLoopMeasure l.runLoop + l.workerMeasure = measure
  induction measure using Nat.strong_induction_on generalizing l with
  | _ measure ih =>
      have isDetached := (kept.busy busy).1
      obtain ⟨sameWorker, worker, runLoop, strictly⟩ := advance_measure isDetached
      have busyNext : l.advance.worker ≠ .idle := sameWorker ▸ busy
      obtain ended | ⟨sameRunLoop, less⟩ := release_measure busyNext
      · exact ⟨1, Nat.le_add_left _ _, ended⟩
      have notStopped : l.runLoop ≠ .stopped := fun isStopped =>
        busy (terminates.runLoop.mp isStopped).2
      have shorter : runLoopMeasure l.goOn.runLoop + l.goOn.workerMeasure < measure := by
        unfold goOn
        rw [sameRunLoop]
        obtain less | ⟨same, ⟨completes, isStopping⟩, notIdle⟩ := less
        · omega
        · have isCurrent : l.runLoop.current ≠ none := fun none => by
            cases isRunLoop : l.runLoop with
            | idle =>
                refine notIdle ?_
                unfold advance
                rw [isRunLoop]
                exact isRunLoop
            | stopped => exact notStopped isRunLoop
            | _ =>
                rw [isRunLoop] at none
                cases none
          have notified (id : Nat) (waits : l.runLoop = .waiting id) :
              (l.response id).notified = true := by
            refine (kept.awaited id waits).resolve_right fun willBe => ?_
            unfold WillBeReleased at willBe
            rwa [← sameWorker, isStopping] at willBe
          have := strictly isCurrent notified
          rw [same]
          omega
      by_cases isIdle : l.goOn.worker = .idle
      · exact ⟨1, Nat.le_add_left _ _, isIdle⟩
      · obtain ⟨rounds, few, idle⟩ := ih _ shorter kept.advance.release
          (terminates.advance.release kept.advance) isIdle rfl
        exact ⟨rounds + 1, by omega, idle⟩

/-- In every interleaving of the threads: once a termination is requested, the components are
stopped and are not started any more, and the completion handler is called at most once. When it has
been called, the run loop thread has stopped, and every message has been answered or its wait has
timed out. And a destruction of the monitor that has begun ends when the two threads go on. -/
theorem terminates_for_good (systemWillSleepDelay : Nat) (actions : List LifecycleAction) :
    let l := actions.foldl Lifecycle.step (initial systemWillSleepDelay)
    (l.terminationRequested = true → l.componentsManager = false) ∧ l.completions ≤ 1 ∧
      (0 < l.completions → l.runLoop = .stopped ∧
        ∀ id < l.received, id ∈ l.answers ∨ (l.response id).timedOut = true) ∧
      (l.worker ≠ .idle → ∃ rounds ≤ runLoopMeasure l.runLoop + l.workerMeasure + 1,
        (goOn^[rounds] l).worker = .idle) := by
  have kept := kept_foldl systemWillSleepDelay actions
  have terminates := terminates_foldl systemWillSleepDelay actions
  refine ⟨terminates.stopped, ?_, fun isComplete => ?_, exists_goOn_idle kept terminates⟩
  · have := terminates.completions
    have := Bool.toNat_le
      (actions.foldl Lifecycle.step (initial systemWillSleepDelay)).terminationRequested
    omega
  · obtain ⟨noMonitor, isIdle, -⟩ := terminates.completed isComplete
    have isStopped := terminates.runLoop.mpr ⟨noMonitor, isIdle⟩
    refine ⟨isStopped, fun id received => ?_⟩
    refine ((kept.sound.accounted id).left ⟨received, fun isCurrent => ?_⟩).imp_right And.left
    rw [isStopped] at isCurrent
    cases isCurrent

end Lifecycle

end Karabiner

import Karabiner.Dispatcher.Dispatcher

/-! # Sleep, wake and termination

`process_lifecycle_manager` stops the components of a process before the system sleeps and starts
them again afterwards. The power messages of the kernel arrive in a run loop thread: there
`iokit_power_management::monitor` hands each of them to the dispatcher and, when the kernel waits
for an answer, waits for it as well. The answer is given by a delayed job of the manager, by the monitor
when the job of the message has not started in time, or by whoever destroys the two.

The steps of the threads are interleaved in any way. A step of the run loop thread, of the owner or
of the thread that destroys the manager is what it does under one lock; a job of the worker thread
is a single step, but for the destructor of the monitor, which waits for the run loop thread. Errors of
the registration with the kernel are left out.
-/

namespace Karabiner

/-- The messages that the kernel wants an answer to. -/
inductive SleepMessage where
  | systemWillSleep
  | canSystemSleep
deriving DecidableEq

inductive WakeMessage where
  | systemWillPowerOn
  | systemHasPoweredOn
  | systemWillNotSleep
deriving DecidableEq

/-- `pending_power_response`, with what has come of its `thread_wait`. -/
structure PendingPowerResponse where
  message : SleepMessage
  callbackStarted : Bool
  closed : Bool
  notified : Bool
  timedOut : Bool

def PendingPowerResponse.ofMessage (message : SleepMessage) : PendingPowerResponse :=
  ⟨message, false, false, false, false⟩

/-- The jobs of the dispatcher. A notification id is the number of messages before it. -/
inductive LifecycleJob where
  | signalSleep (notificationId : Nat)
  | signalWake (message : WakeMessage)
  | acknowledgePendingSystemSleep
  | start
  | requestTermination
  /-- The function of the destructor, which runs with the object id of the dispatcher. -/
  | destroy
deriving DecidableEq

namespace LifecycleJob

def dispatcherId : Nat := 0

def managerId : Nat := 1

def monitorId : Nat := 2

def objectId : LifecycleJob → Nat
  | .signalSleep _ | .signalWake _ => monitorId
  | .acknowledgePendingSystemSleep | .start | .requestTermination => managerId
  | .destroy => dispatcherId

/-- The lambda of the job holds the shared pointer to the manager. -/
def holdsManager : LifecycleJob → Bool
  | .start | .requestTermination => true
  | _ => false

end LifecycleJob

/-- Where the run loop thread is in `handle_sleep_prevention_message`. -/
inductive RunLoopPhase where
  | idle
  | inserted (notificationId : Nat)
  | waiting (notificationId : Nat)
  /-- The callback has not been enqueued, or the wait has timed out. -/
  | unanswered (notificationId : Nat)
  | finished (notificationId : Nat)
  | stopped
deriving DecidableEq

namespace RunLoopPhase

def current : RunLoopPhase → Option Nat
  | .inserted notificationId | .waiting notificationId | .unanswered notificationId
  | .finished notificationId => some notificationId
  | .idle | .stopped => none

end RunLoopPhase

/-- Where the worker thread is in the destructor of the monitor. -/
inductive LifecycleWorker where
  | idle
  | detached (completes : Bool)
  | releasing (responses : List Nat) (completes : Bool)
  | stopping (completes : Bool)

/-- `process_lifecycle_manager` with its monitor, the run loop thread and the dispatcher. -/
structure Lifecycle where
  /-- `instance_` is not null. -/
  hasInstance : Bool
  systemWillSleepDelay : Nat
  componentsManager : Bool
  powerManagementMonitor : Bool
  terminationRequested : Bool
  /-- How often `termination_completion_handler_` has been called. -/
  completions : Nat
  pendingSystemSleepAcknowledgement : Option Nat
  managerAttached : Bool
  /-- The destructor has detached the manager and has not enqueued its function yet. -/
  functionToEnqueue : Bool
  startRequested : Bool
  registered : Bool
  monitorAttached : Bool
  received : Nat
  response : Nat → PendingPowerResponse
  pendingPowerResponses : List Nat
  runLoop : RunLoopPhase
  queue : List (DispatcherEntry LifecycleJob)
  worker : LifecycleWorker
  /-- The calls of `IOAllowPowerChange`. -/
  answers : List Nat

inductive LifecycleAction where
  | asyncStart
  | asyncRequestTermination
  | terminateSharedInstance
  /-- The last pointer to the manager goes. -/
  | destruct
  /-- The destructor of the manager enqueues its function. -/
  | enqueueFunction
  /-- The run loop thread registers with the kernel. -/
  | register
  | receiveSleep (message : SleepMessage)
  | receiveWake (message : WakeMessage)
  /-- The run loop thread goes on in the function that it is in. -/
  | runLoop
  | timeOut
  /-- The worker thread does a job; `made` is whether `components_manager_maker_` makes any. -/
  | work (now : Nat) (made : Bool)
  /-- The worker thread goes on in the destructor of the monitor. -/
  | release

namespace Lifecycle

def initial (systemWillSleepDelay : Nat) : Lifecycle where
  hasInstance := true
  systemWillSleepDelay := systemWillSleepDelay
  componentsManager := false
  powerManagementMonitor := true
  terminationRequested := false
  completions := 0
  pendingSystemSleepAcknowledgement := none
  managerAttached := true
  functionToEnqueue := false
  startRequested := false
  registered := false
  monitorAttached := true
  received := 0
  response := fun _ => .ofMessage .canSystemSleep
  pendingPowerResponses := []
  runLoop := .idle
  queue := []
  worker := .idle
  answers := []

/-- `enqueue_to_dispatcher` of an attached object. -/
def push (l : Lifecycle) (job : LifecycleJob) (when_ : Nat) : Lifecycle :=
  { l with queue := Dispatcher.insertEntry ⟨job.objectId, job, when_⟩ l.queue }

def setResponse (l : Lifecycle) (notificationId : Nat) (response : PendingPowerResponse) :
    Lifecycle :=
  { l with
    response := fun other => if other = notificationId then response else l.response other }

/-- `IOAllowPowerChange`. -/
def allowPowerChange (l : Lifecycle) (notificationId : Nat) : Lifecycle :=
  { l with answers := l.answers ++ [notificationId] }

/-- `wait->notify()`. -/
def notifyWait (l : Lifecycle) (notificationId : Nat) : Lifecycle :=
  l.setResponse notificationId { l.response notificationId with notified := true }

/-- `allow_power_change_if_callback_not_started`. -/
def allowPowerChangeIfCallbackNotStarted (l : Lifecycle) (notificationId : Nat) : Lifecycle :=
  let response := l.response notificationId
  if response.callbackStarted || response.closed then l
  else (l.setResponse notificationId { response with closed := true }).allowPowerChange
    notificationId

/-! ## The manager -/

/-- `start_components`. -/
def startComponents (l : Lifecycle) (made : Bool) : Lifecycle :=
  if l.componentsManager || l.terminationRequested then l else { l with componentsManager := made }

/-- `stop_components`. -/
def stopComponents (l : Lifecycle) : Lifecycle := { l with componentsManager := false }

/-- `acknowledge_pending_system_sleep`. -/
def acknowledgePendingSystemSleep (l : Lifecycle) : Lifecycle :=
  match l.pendingSystemSleepAcknowledgement with
  | some notificationId =>
      ({ l with pendingSystemSleepAcknowledgement := none }.allowPowerChange
        notificationId).notifyWait notificationId
  | none => l

/-- What is connected to `system_will_sleep`. -/
def systemWillSleep (l : Lifecycle) (notificationId now : Nat) : Lifecycle :=
  let stopped := { l.stopComponents with pendingSystemSleepAcknowledgement := some notificationId }
  if stopped.managerAttached then
    stopped.push .acknowledgePendingSystemSleep (now + stopped.systemWillSleepDelay)
  else stopped.acknowledgePendingSystemSleep

/-- What is connected to `can_system_sleep`. -/
def canSystemSleep (l : Lifecycle) (notificationId : Nat) : Lifecycle :=
  (l.allowPowerChange notificationId).notifyWait notificationId

/-- The destructor of the monitor up to the end of `detach_from_dispatcher`. -/
def destroyMonitor (l : Lifecycle) (completes : Bool) : Lifecycle :=
  { l with
    powerManagementMonitor := false
    monitorAttached := false
    queue := l.queue.filter (·.objectId != LifecycleJob.monitorId)
    worker := .detached completes }

/-- The part that termination and destruction share. Without a monitor the termination is complete
at once. -/
def shutDown (l : Lifecycle) (completes : Bool) : Lifecycle :=
  let stopped := l.stopComponents.acknowledgePendingSystemSleep
  if stopped.powerManagementMonitor then stopped.destroyMonitor completes
  else { stopped with completions := stopped.completions + completes.toNat }

/-! ## The jobs -/

/-- The callback of a sleep message. -/
def signalSleep (l : Lifecycle) (notificationId now : Nat) : Lifecycle :=
  let response := l.response notificationId
  if response.closed then l
  else
    let started := l.setResponse notificationId { response with callbackStarted := true }
    match response.message with
    | .systemWillSleep => started.systemWillSleep notificationId now
    | .canSystemSleep => started.canSystemSleep notificationId

def perform (l : Lifecycle) (now : Nat) (made : Bool) : LifecycleJob → Lifecycle
  | .signalSleep notificationId => l.signalSleep notificationId now
  | .signalWake _ => l.startComponents made
  | .acknowledgePendingSystemSleep => l.acknowledgePendingSystemSleep
  | .start =>
      if l.terminationRequested || !l.powerManagementMonitor then l
      else { l.startComponents made with startRequested := true }
  | .requestTermination =>
      if l.terminationRequested then l else { l with terminationRequested := true }.shutDown true
  | .destroy => l.shutDown false

/-- The worker thread takes the first job when its time has come. -/
def work (l : Lifecycle) (now : Nat) (made : Bool) : Lifecycle :=
  match l.worker, l.queue with
  | .idle, entry :: rest =>
      if entry.when_ ≤ max Dispatcher.whenImmediately now then
        { l with queue := rest }.perform now made entry.job
      else l
  | _, _ => l

/-- The rest of the destructor of the monitor: the responses are released, and the worker thread
waits until the run loop thread has stopped. -/
def release (l : Lifecycle) : Lifecycle :=
  match l.worker with
  | .idle => l
  | .detached completes =>
      { l with pendingPowerResponses := [], worker := .releasing l.pendingPowerResponses completes }
  | .releasing (notificationId :: rest) completes =>
      { (l.allowPowerChangeIfCallbackNotStarted notificationId).notifyWait notificationId with
        worker := .releasing rest completes }
  | .releasing [] completes => { l with worker := .stopping completes }
  | .stopping completes =>
      if l.runLoop = .idle then
        { l with
          registered := false
          runLoop := .stopped
          completions := l.completions + completes.toNat
          worker := .idle }
      else l

/-! ## The run loop thread -/

def receiveSleep (l : Lifecycle) (message : SleepMessage) : Lifecycle :=
  if l.registered ∧ l.runLoop = .idle then
    { l.setResponse l.received (.ofMessage message) with
      received := l.received + 1
      pendingPowerResponses := l.received :: l.pendingPowerResponses
      runLoop := .inserted l.received }
  else l

def receiveWake (l : Lifecycle) (message : WakeMessage) : Lifecycle :=
  if l.registered ∧ l.runLoop = .idle ∧ l.monitorAttached then
    l.push (.signalWake message) Dispatcher.whenImmediately
  else l

/-- The rest of `handle_sleep_prevention_message`. -/
def advance (l : Lifecycle) : Lifecycle :=
  match l.runLoop with
  | .idle | .stopped => l
  | .inserted notificationId =>
      if l.monitorAttached then
        { l.push (.signalSleep notificationId) Dispatcher.whenImmediately with
          runLoop := .waiting notificationId }
      else { l with runLoop := .unanswered notificationId }
  | .waiting notificationId =>
      if (l.response notificationId).notified then { l with runLoop := .finished notificationId }
      else l
  | .unanswered notificationId =>
      { l.allowPowerChangeIfCallbackNotStarted notificationId with
        runLoop := .finished notificationId }
  | .finished notificationId =>
      { l with
        pendingPowerResponses := l.pendingPowerResponses.filter (· != notificationId)
        runLoop := .idle }

/-- The wait times out. -/
def timeOut (l : Lifecycle) : Lifecycle :=
  match l.runLoop with
  | .waiting notificationId =>
      let response := l.response notificationId
      if response.notified then l
      else
        { l.setResponse notificationId { response with timedOut := true } with
          runLoop := .unanswered notificationId }
  | _ => l

/-! ## Steps -/

/-- The destructor runs once nothing holds the manager any more. Under the first lock of `detach`
the manager and its jobs go. -/
def destruct (l : Lifecycle) : Lifecycle :=
  match l.worker with
  | .idle =>
      if !l.hasInstance && l.managerAttached && !(l.queue.any (·.job.holdsManager)) then
        { l with
          managerAttached := false
          functionToEnqueue := true
          queue := l.queue.filter (·.objectId != LifecycleJob.managerId) }
      else l
  | _ => l

/-- Under the second lock the function of the destructor comes first in the queue. Jobs of the
monitor may have run since the first one. In the worker thread `detach` calls the function itself,
which is this step with the job after it. -/
def enqueueFunction (l : Lifecycle) : Lifecycle :=
  if l.functionToEnqueue then
    { l with
      functionToEnqueue := false
      queue :=
        ⟨LifecycleJob.dispatcherId, .destroy, Dispatcher.whenInternalDetached⟩ :: l.queue }
  else l

def step (l : Lifecycle) : LifecycleAction → Lifecycle
  | .asyncStart => if l.hasInstance then l.push .start Dispatcher.whenImmediately else l
  | .asyncRequestTermination =>
      if l.hasInstance then l.push .requestTermination Dispatcher.whenImmediately else l
  | .terminateSharedInstance => { l with hasInstance := false }
  | .destruct => l.destruct
  | .enqueueFunction => l.enqueueFunction
  | .register =>
      if l.startRequested ∧ l.runLoop = .idle then { l with registered := true } else l
  | .receiveSleep message => l.receiveSleep message
  | .receiveWake message => l.receiveWake message
  | .runLoop => l.advance
  | .timeOut => l.timeOut
  | .work now made => l.work now made
  | .release => l.release

end Lifecycle

end Karabiner

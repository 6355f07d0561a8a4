import Mathlib.Data.List.Basic

/-! # Replacing the event tap monitor

`device_grabber` owns one `event_tap_monitor` and replaces it when another configuration
is requested. The old monitor is stopped on its run loop, which hands a completion to the
dispatcher; the completion keeps the monitor alive, and goes on with the pending
configuration if the grabber still exists. Here the monitors are objects: one is destroyed
when the last reference to it goes.
-/

namespace Karabiner

/-- The completion given to `event_tap_monitor::async_stop`. It retains the monitor;
`continues` says that it is the one of `setup_event_tap_monitor`. -/
structure StopCompletion where
  monitorId : Nat
  continues : Bool
deriving DecidableEq

/-- A job of the dispatcher whose client is a monitor. -/
inductive MonitorJob where
  | asyncStart (monitorId : Nat)
  | eventArrived (monitorId : Nat)
  | stopCompleted (completion : StopCompletion)
deriving DecidableEq

namespace MonitorJob

/-- The monitor the job is enqueued by. -/
def monitorId : MonitorJob → Nat
  | .asyncStart monitorId => monitorId
  | .eventArrived monitorId => monitorId
  | .stopCompleted completion => completion.monitorId

/-- The monitor the captures of the job retain. -/
def retained : MonitorJob → Option Nat
  | .stopCompleted completion => some completion.monitorId
  | _ => none

end MonitorJob

/-- An object of `event_tap_monitor`. -/
structure MonitorObject where
  id : Nat
  cgeventtapFallbackEnabled : Bool
  /-- The slots of the grabber are connected. -/
  connected : Bool
  /-- `event_tap_` is set. -/
  eventTap : Bool
  cleanupCompleted : Bool
deriving DecidableEq

/-- A call of a slot: whether the grabber existed, and whether the monitor was the one it
uses. -/
structure SlotCall where
  alive : Bool
  inUse : Bool
deriving DecidableEq

/-- The members of `device_grabber` that have to do with the replacement, the monitors that
exist, the blocks of their run loops and the jobs of the dispatcher. -/
structure MonitorReplacement where
  /-- `event_tap_monitor_lifetime_` is set. -/
  alive : Bool
  eventTapMonitor : Option Nat
  pendingConfiguration : Option Bool
  stopping : Bool
  objects : List MonitorObject
  /-- The number of monitors created so far. -/
  created : Nat
  blocks : List StopCompletion
  jobs : List MonitorJob
  /-- The job that runs, with its captures. -/
  running : Option MonitorJob
  /-- The destructor of a monitor called `std::abort`. -/
  aborted : Bool
  slotCalls : List SlotCall
  /-- The value of the last request. -/
  requested : Option Bool

inductive MonitorReplacementAction where
  | setupEventTapMonitor (cgeventtapFallbackEnabled : Bool)
  | destroyDeviceGrabber
  | cleanup (monitorId : Nat)
  | callback (monitorId : Nat)
  /-- `tapCreated` tells whether the system creates the event tap that is asked for. -/
  | startJob (tapCreated : Bool)
  | finishJob

namespace MonitorReplacement

def initial : MonitorReplacement :=
  { alive := true, eventTapMonitor := none, pendingConfiguration := none, stopping := false
    objects := [], created := 0, blocks := [], jobs := [], running := none, aborted := false
    slotCalls := [], requested := none }

def object? (state : MonitorReplacement) (id : Nat) : Option MonitorObject :=
  state.objects.find? (·.id = id)

def modifyObject (state : MonitorReplacement) (id : Nat) (modify : MonitorObject → MonitorObject) :
    MonitorReplacement :=
  { state with objects := state.objects.map fun object =>
      if object.id = id then modify object else object }

/-- Something refers to the monitor. -/
def retains (state : MonitorReplacement) (id : Nat) : Bool :=
  state.eventTapMonitor = some id || state.blocks.any (·.monitorId = id) ||
    state.jobs.any (·.retained = some id) ||
    (state.running.bind MonitorJob.retained) = some id

/-- A reference is given up. With the last one the destructor runs, which detaches the
monitor from the dispatcher. -/
def release (state : MonitorReplacement) (id : Nat) : MonitorReplacement :=
  if state.retains id then state
  else
    match state.object? id with
    | none => state
    | some object =>
        { state with
          objects := state.objects.filter (·.id ≠ id)
          jobs := state.jobs.filter (·.monitorId ≠ id)
          aborted := state.aborted || !object.cleanupCompleted }

/-- `create_pending_event_tap_monitor`. -/
def createPendingEventTapMonitor (state : MonitorReplacement) : MonitorReplacement :=
  match state.pendingConfiguration with
  | none => state
  | some cgeventtapFallbackEnabled =>
      let id := state.created + 1
      let assigned : MonitorReplacement := { state with
        pendingConfiguration := none
        eventTapMonitor := some id
        objects := state.objects ++ [⟨id, cgeventtapFallbackEnabled, true, false, false⟩]
        created := id }
      let replaced : MonitorReplacement := match state.eventTapMonitor with
        | none => assigned
        | some previous => assigned.release previous
      { replaced with jobs := replaced.jobs ++ [.asyncStart id] }

/-- What the completion of `setup_event_tap_monitor` does. -/
def continueReplacement (state : MonitorReplacement) : MonitorReplacement :=
  if state.alive then { state with stopping := false }.createPendingEventTapMonitor else state

/-- `event_tap_monitor::async_stop`, up to the block it enqueues to the run loop. -/
def asyncStop (state : MonitorReplacement) (completion : StopCompletion) : MonitorReplacement :=
  let disconnected := state.modifyObject completion.monitorId fun object =>
    { object with connected := false }
  { disconnected with blocks := disconnected.blocks ++ [completion] }

/-- `async_stop_event_tap_monitor`; `continues` says that there is a completion. -/
def asyncStopEventTapMonitor (state : MonitorReplacement) (continues : Bool) :
    MonitorReplacement :=
  match state.eventTapMonitor with
  | none => if continues then state.continueReplacement else state
  | some id => ({ state with eventTapMonitor := none }.asyncStop ⟨id, continues⟩).release id

/-- `setup_event_tap_monitor`. -/
def setupEventTapMonitor (state : MonitorReplacement) (cgeventtapFallbackEnabled : Bool) :
    MonitorReplacement :=
  let pending := { state with
    pendingConfiguration := some cgeventtapFallbackEnabled
    requested := some cgeventtapFallbackEnabled }
  if pending.stopping then pending
  else if pending.eventTapMonitor.isSome then
    { pending with stopping := true }.asyncStopEventTapMonitor true
  else pending.createPendingEventTapMonitor

/-- The function `~device_grabber` runs when it is detached, as far as it is about the
monitors. -/
def destroyDeviceGrabber (state : MonitorReplacement) : MonitorReplacement :=
  { state with alive := false, pendingConfiguration := none }.asyncStopEventTapMonitor false

/-- The block `async_stop` enqueued runs and is released. -/
def cleanup (state : MonitorReplacement) (id : Nat) : MonitorReplacement :=
  match state.blocks.find? (·.monitorId = id) with
  | none => state
  | some completion =>
      let cleaned := state.modifyObject id fun object =>
        { object with eventTap := false, cleanupCompleted := true }
      let queued : MonitorReplacement := { cleaned with
        blocks := cleaned.blocks.erase completion
        jobs := cleaned.jobs ++ [.stopCompleted completion] }
      queued.release id

/-- `event_tap_monitor::callback` with an event that it hands on. -/
def callback (state : MonitorReplacement) (id : Nat) : MonitorReplacement :=
  match state.object? id with
  | none => state
  | some object =>
      if object.eventTap then { state with jobs := state.jobs ++ [.eventArrived id] } else state

/-- What a job does. -/
def runJob (state : MonitorReplacement) (tapCreated : Bool) : MonitorJob → MonitorReplacement
  | .asyncStart id =>
      state.modifyObject id fun object =>
        if object.eventTap then object else { object with eventTap := tapCreated }
  | .eventArrived id =>
      match state.object? id with
      | none => state
      | some object =>
          if object.connected then
            { state with
              slotCalls := state.slotCalls ++ [⟨state.alive, state.eventTapMonitor = some id⟩] }
          else state
  | .stopCompleted completion => if completion.continues then state.continueReplacement else state

/-- The dispatcher takes the first job. -/
def startJob (state : MonitorReplacement) (tapCreated : Bool) : MonitorReplacement :=
  match state.running, state.jobs with
  | none, job :: rest => { state with jobs := rest, running := some job }.runJob tapCreated job
  | _, _ => state

/-- The job is over and its captures are released. -/
def finishJob (state : MonitorReplacement) : MonitorReplacement :=
  match state.running with
  | none => state
  | some job =>
      match job.retained with
      | none => { state with running := none }
      | some id => { state with running := none }.release id

/-- A request is made by a job of the grabber, and the grabber is destroyed by a job or
between two: neither happens while a job of a monitor runs. -/
def step (state : MonitorReplacement) : MonitorReplacementAction → MonitorReplacement
  | .setupEventTapMonitor cgeventtapFallbackEnabled =>
      if state.alive ∧ state.running = none then
        state.setupEventTapMonitor cgeventtapFallbackEnabled
      else state
  | .destroyDeviceGrabber =>
      if state.alive ∧ state.running = none then state.destroyDeviceGrabber else state
  | .cleanup id => state.cleanup id
  | .callback id => state.callback id
  | .startJob tapCreated => state.startJob tapCreated
  | .finishJob => state.finishJob

end MonitorReplacement

end Karabiner

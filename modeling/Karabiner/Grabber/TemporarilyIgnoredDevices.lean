import Mathlib.Logic.Function.Basic
import Karabiner.Console.ConsoleUserIdChangedReceiver
import Karabiner.EventQueue.Event
import Karabiner.Foundation.Execution

/-! # Devices that are ignored for a time

A peer of the receiver may ask that all devices are ignored until it closes its connection.
The receiver keeps the peers that have asked, and `device_grabber`, which comes and goes with
the console user server, keeps the flag. A new `device_grabber` is given all that the receiver
knows but this flag, so after a restart the flag is right exactly when it would not be set, or
once another request has come (`flagCorrect_iff`).
-/

namespace Karabiner

/-- `krbn::focused_ui_element`. The numbers are `double` in the source and only cast to
`int64_t`; here they are what the cast gives. -/
structure FocusedUiElement where
  role : Option String
  subrole : Option String
  title : Option String
  windowPositionX : Option Int
  windowPositionY : Option Int
  windowSizeWidth : Option Int
  windowSizeHeight : Option Int
deriving DecidableEq

/-- The command that sets a variable to a value. -/
def SetVariable.ofValue (name : String) (value : VariableValue) : SetVariable :=
  ⟨some name, some value, none, none, none, .set⟩

/-- The commands of `set_focused_ui_element_variables`. -/
def FocusedUiElement.setVariables (element : FocusedUiElement) : List SetVariable :=
  [.ofValue "accessibility.focused_ui_element.role_string" (.string (element.role.getD "")),
    .ofValue "accessibility.focused_ui_element.subrole_string"
      (.string (element.subrole.getD "")),
    .ofValue "accessibility.focused_ui_element.title_string" (.string (element.title.getD "")),
    .ofValue "accessibility.focused_ui_element.window_position_x"
      (.integer (element.windowPositionX.getD 0)),
    .ofValue "accessibility.focused_ui_element.window_position_y"
      (.integer (element.windowPositionY.getD 0)),
    .ofValue "accessibility.focused_ui_element.window_size_width"
      (.integer (element.windowSizeWidth.getD 0)),
    .ofValue "accessibility.focused_ui_element.window_size_height"
      (.integer (element.windowSizeHeight.getD 0))]

/-! ## The device grabber -/

/-- A job that `device_grabber` has queued on its dispatcher. -/
inductive DeviceGrabberJob where
  | setTemporarilyIgnoreAllDevices (value : Bool)
  | setSystemPreferencesProperties (properties : SystemPreferencesProperties)
  | postSetVariableEvent (command : SetVariable)
  | postFrontmostApplicationChangedEvent (application : Application)
  | postInputSourceChangedEvent (properties : InputSourceProperties)
  | start (userCoreConfigurationFilePath : Option String)
deriving DecidableEq

/-- The job does not set the flag. -/
def DeviceGrabberJob.KeepsFlag (job : DeviceGrabberJob) : Prop :=
  ∀ value, job ≠ .setTemporarilyIgnoreAllDevices value

/-- `device_grabber`: the flag, the flags of its entries, and what the jobs set and post. -/
structure DeviceGrabber where
  temporarilyIgnoreAllDevices : Bool
  /-- The devices of `entries_` with the flag each was given. -/
  entries : List (DeviceId × Bool)
  systemPreferencesProperties : SystemPreferencesProperties
  /-- The events that are pushed to the merged input queue. -/
  posted : List (Event × EventType)
  startedWith : Option (Option String)
  jobs : List DeviceGrabberJob

namespace DeviceGrabber

/-- The constructor. -/
def create : DeviceGrabber := ⟨false, [], ⟨true, false⟩, [], none, []⟩

def enqueue (grabber : DeviceGrabber) (jobs : List DeviceGrabberJob) : DeviceGrabber :=
  { grabber with jobs := grabber.jobs ++ jobs }

def post (grabber : DeviceGrabber) (event : Event) (eventTypes : List EventType) :
    DeviceGrabber :=
  { grabber with posted := grabber.posted ++ eventTypes.map fun eventType => (event, eventType) }

/-- What a job does when it is run. -/
def run (grabber : DeviceGrabber) : DeviceGrabberJob → DeviceGrabber
  | .setTemporarilyIgnoreAllDevices value =>
      -- The devices are then grabbed anew.
      { grabber with
        temporarilyIgnoreAllDevices := value
        entries := grabber.entries.map fun entry : DeviceId × Bool => (entry.1, value)
      }.enqueue [.postSetVariableEvent
        (.ofValue "system.temporarily_ignore_all_devices" (.boolean value))]
  | .setSystemPreferencesProperties properties =>
      { grabber with systemPreferencesProperties := properties }.post
        (.systemPreferencesPropertiesChanged properties) [.single]
  | .postSetVariableEvent command => grabber.post (.setVariable command) [.keyDown, .keyUp]
  | .postFrontmostApplicationChangedEvent application =>
      grabber.post (.frontmostApplicationChanged application) [.single]
  | .postInputSourceChangedEvent properties =>
      grabber.post (.inputSourceChanged properties) [.single]
  | .start path => { grabber with startedWith := some path }

/-- The dispatcher runs the job at the front. -/
def runJob (grabber : DeviceGrabber) : DeviceGrabber :=
  match grabber.jobs with
  | [] => grabber
  | job :: rest => { grabber with jobs := rest }.run job

/-- `device_matched`: a device is given the flag. -/
def deviceMatched (grabber : DeviceGrabber) (deviceId : DeviceId) : DeviceGrabber :=
  { grabber with
    entries := (deviceId, grabber.temporarilyIgnoreAllDevices) ::
      grabber.entries.filter fun entry => entry.1 != deviceId }

/-- `device_terminated`. -/
def deviceTerminated (grabber : DeviceGrabber) (deviceId : DeviceId) : DeviceGrabber :=
  { grabber with entries := grabber.entries.filter fun entry => entry.1 != deviceId }

/-- The flag once the queued jobs have run. -/
def settled (grabber : DeviceGrabber) : Bool :=
  grabber.jobs.foldl (fun flag job =>
    match job with
    | .setTemporarilyIgnoreAllDevices value => value
    | _ => flag) grabber.temporarilyIgnoreAllDevices

@[simp] theorem settled_of_noJobs {grabber : DeviceGrabber} (none : grabber.jobs = []) :
    grabber.settled = grabber.temporarilyIgnoreAllDevices := by
  simp [settled, none]

theorem settled_enqueue_set (grabber : DeviceGrabber) (value : Bool) :
    (grabber.enqueue [.setTemporarilyIgnoreAllDevices value]).settled = value := by
  simp [settled, enqueue]

/-- Jobs that do not set the flag leave it as it will be. -/
theorem settled_enqueue (grabber : DeviceGrabber) {jobs : List DeviceGrabberJob}
    (keep : ∀ job ∈ jobs, job.KeepsFlag) :
    (grabber.enqueue jobs).settled = grabber.settled := by
  have kept : ∀ flag, jobs.foldl (fun flag job =>
      match job with
      | .setTemporarilyIgnoreAllDevices value => value
      | _ => flag) flag = flag := by
    induction jobs with
    | nil => exact fun _ => rfl
    | cons job rest ih =>
        intro flag
        have later := ih (fun job member => keep job (List.mem_cons_of_mem _ member)) flag
        cases job with
        | setTemporarilyIgnoreAllDevices value => exact absurd rfl (keep _ List.mem_cons_self value)
        | setSystemPreferencesProperties => exact later
        | postSetVariableEvent => exact later
        | postFrontmostApplicationChangedEvent => exact later
        | postInputSourceChangedEvent => exact later
        | start => exact later
  rw [settled, enqueue, List.foldl_append, kept]
  rfl

/-- Running a job does not change what the flag will be. -/
theorem settled_runJob (grabber : DeviceGrabber) : grabber.runJob.settled = grabber.settled := by
  cases jobs : grabber.jobs with
  | nil => rw [runJob, jobs]
  | cons job rest =>
      rw [runJob, jobs]
      cases job with
      | setTemporarilyIgnoreAllDevices value =>
          simp only [run]
          rw [settled_enqueue _ (by simp [DeviceGrabberJob.KeepsFlag])]
          simp [settled, jobs]
      | setSystemPreferencesProperties => simp [run, settled, jobs, post]
      | postSetVariableEvent => simp [run, settled, jobs, post]
      | postFrontmostApplicationChangedEvent => simp [run, settled, jobs, post]
      | postInputSourceChangedEvent => simp [run, settled, jobs, post]
      | start => simp [run, settled, jobs]

end DeviceGrabber

/-! ## The receiver -/

/-- `core_service::daemon::receiver`. -/
structure Receiver where
  deviceGrabber : Option DeviceGrabber
  /-- How many `device_grabber` have been made. -/
  deviceGrabbersMade : Nat
  consoleUserServerPeerId : Option PeerId
  temporarilyIgnoreAllDevicesPeerIds : List PeerId
  systemPreferencesProperties : SystemPreferencesProperties
  frontmostApplication : Application
  focusedUiElement : FocusedUiElement
  inputSourceProperties : InputSourceProperties

/-- The state of the machine that is asked before a `device_grabber` is started. -/
structure StartConditions where
  requiredPermissionsGranted : Bool
  systemCoreConfigurationFileExists : Bool
deriving DecidableEq

/-- The requests that change what is modelled here. -/
inductive ReceiverRequest where
  /-- The path is missing in a malformed request. -/
  | startDeviceGrabber (userCoreConfigurationFilePath : Option String)
  | temporarilyIgnoreAllDevices (value : Bool)
  | systemPreferencesUpdated (properties : SystemPreferencesProperties)
  | frontmostApplicationChanged (application : Application)
  | focusedUiElementChanged (element : FocusedUiElement)
  | inputSourceChanged (properties : InputSourceProperties)
deriving DecidableEq

namespace Receiver

/-- Give jobs to the `device_grabber`, if there is one. -/
def enqueue (receiver : Receiver) (jobs : List DeviceGrabberJob) : Receiver :=
  { receiver with deviceGrabber := receiver.deviceGrabber.map fun grabber => grabber.enqueue jobs }

/-- `stop_device_grabber`: its jobs are gone with it. -/
def stopDeviceGrabber (receiver : Receiver) : Receiver :=
  { receiver with deviceGrabber := none }

/-- The jobs that `start_device_grabber` queues. -/
def startJobs (receiver : Receiver) (userCoreConfigurationFilePath : Option String) :
    List DeviceGrabberJob :=
  [.setSystemPreferencesProperties receiver.systemPreferencesProperties,
    .postFrontmostApplicationChangedEvent receiver.frontmostApplication] ++
  receiver.focusedUiElement.setVariables.map .postSetVariableEvent ++
  [.postInputSourceChangedEvent receiver.inputSourceProperties,
    .start userCoreConfigurationFilePath]

/-- `start_device_grabber`. -/
def startDeviceGrabber (receiver : Receiver) (requiredPermissionsGranted : Bool)
    (userCoreConfigurationFilePath : Option String) : Receiver :=
  if receiver.deviceGrabber.isSome then receiver
  else if !requiredPermissionsGranted then receiver
  else
    { receiver with
      deviceGrabber :=
        some (DeviceGrabber.create.enqueue (receiver.startJobs userCoreConfigurationFilePath))
      deviceGrabbersMade := receiver.deviceGrabbersMade + 1 }

/-- `start_grabbing_if_system_core_configuration_file_exists`. -/
def startGrabbingIfSystemCoreConfigurationFileExists (receiver : Receiver)
    (conditions : StartConditions) : Receiver :=
  if !conditions.requiredPermissionsGranted then receiver
  else if conditions.systemCoreConfigurationFileExists then
    receiver.stopDeviceGrabber.startDeviceGrabber conditions.requiredPermissionsGranted none
  else receiver

/-- The constructor. -/
def create (conditions : StartConditions) : Receiver :=
  startGrabbingIfSystemCoreConfigurationFileExists
    ⟨none, 0, none, [], ⟨true, false⟩, ⟨none, none, none⟩,
      ⟨none, none, none, none, none, none, none⟩, ⟨none, none, none⟩⟩ conditions

/-- `handle_peer_closed`. -/
def handlePeerClosed (receiver : Receiver) (peerId : PeerId) (conditions : StartConditions) :
    Receiver :=
  let peerIds := receiver.temporarilyIgnoreAllDevicesPeerIds.filter fun other => other != peerId
  let erased := { receiver with temporarilyIgnoreAllDevicesPeerIds := peerIds }
  -- The flag is restored when all clients have closed.
  let restored :=
    if peerIds = [] then erased.enqueue [.setTemporarilyIgnoreAllDevices false] else erased
  if receiver.consoleUserServerPeerId = some peerId then
    { restored with consoleUserServerPeerId := none
    }.stopDeviceGrabber.startGrabbingIfSystemCoreConfigurationFileExists conditions
  else restored

/-- `handle_request`. -/
def handleRequest (receiver : Receiver) (peerId : PeerId) (request : ReceiverRequest)
    (conditions : StartConditions) : Receiver :=
  match request with
  | .startDeviceGrabber path =>
      let stopped := { receiver with consoleUserServerPeerId := some peerId }.stopDeviceGrabber
      match path with
      | some path =>
          stopped.startDeviceGrabber conditions.requiredPermissionsGranted (some path)
      -- The path is read after the old `device_grabber` has been stopped.
      | none => stopped
  | .temporarilyIgnoreAllDevices value =>
      { receiver.enqueue [.setTemporarilyIgnoreAllDevices value] with
        temporarilyIgnoreAllDevicesPeerIds :=
          receiver.temporarilyIgnoreAllDevicesPeerIds.insert peerId }
  | .systemPreferencesUpdated properties =>
      { receiver with systemPreferencesProperties := properties
      }.enqueue [.setSystemPreferencesProperties properties]
  | .frontmostApplicationChanged application =>
      if application.bundleIdentifier ≠ some "org.pqrs.Karabiner-EventViewer" then
        { receiver with frontmostApplication := application
        }.enqueue [.postFrontmostApplicationChangedEvent application]
      else receiver
  | .focusedUiElementChanged element =>
      { receiver with focusedUiElement := element
      }.enqueue (element.setVariables.map .postSetVariableEvent)
  | .inputSourceChanged properties =>
      { receiver with inputSourceProperties := properties
      }.enqueue [.postInputSourceChangedEvent properties]

/-- Something happens to the `device_grabber`, if there is one. -/
def onDeviceGrabber (receiver : Receiver) (change : DeviceGrabber → DeviceGrabber) : Receiver :=
  { receiver with deviceGrabber := receiver.deviceGrabber.map change }

/-- A restart leaves no `device_grabber`, or a new one that will not have its flag set. -/
structure Restarts (receiver after : Receiver) : Prop where
  peerIds : after.temporarilyIgnoreAllDevicesPeerIds = receiver.temporarilyIgnoreAllDevicesPeerIds
  made : receiver.deviceGrabbersMade ≤ after.deviceGrabbersMade
  fresh : ∀ grabber, after.deviceGrabber = some grabber →
    grabber.settled = false ∧ receiver.deviceGrabbersMade < after.deviceGrabbersMade

theorem keepsFlag_startJobs (receiver : Receiver) (path : Option String) :
    ∀ job ∈ receiver.startJobs path, job.KeepsFlag := by
  intro job member value
  rintro rfl
  simp [startJobs] at member

theorem restarts_startDeviceGrabber (receiver : Receiver) (granted : Bool)
    (path : Option String) :
    receiver.Restarts (receiver.stopDeviceGrabber.startDeviceGrabber granted path) := by
  cases granted with
  | false => exact ⟨rfl, le_rfl, nofun⟩
  | true =>
      refine ⟨rfl, Nat.le_succ _, ?_⟩
      rintro grabber made
      obtain rfl := Option.some.inj made
      refine ⟨?_, Nat.lt_succ_self _⟩
      exact DeviceGrabber.settled_enqueue _ (keepsFlag_startJobs _ path)

/-- Starting to grab if the system file exists is a restart as well, which may leave no
`device_grabber`. -/
theorem restarts_startGrabbing (receiver : Receiver) (conditions : StartConditions) :
    receiver.Restarts
      (receiver.stopDeviceGrabber.startGrabbingIfSystemCoreConfigurationFileExists
        conditions) := by
  unfold startGrabbingIfSystemCoreConfigurationFileExists
  split
  · exact ⟨rfl, le_rfl, nofun⟩
  · split
    · exact restarts_startDeviceGrabber receiver _ none
    · exact ⟨rfl, le_rfl, nofun⟩

end Receiver

/-! ## Runs -/

/-- What happens to the receiver. -/
inductive ReceiverAction where
  | peerConnected (peerId : PeerId)
  | request (peerId : PeerId) (request : ReceiverRequest) (conditions : StartConditions)
  | peerClosed (peerId : PeerId) (conditions : StartConditions)
  | runJob
  | deviceMatched (deviceId : DeviceId)
  | deviceTerminated (deviceId : DeviceId)
deriving DecidableEq

/-- The receiver with what its peers have asked for. -/
structure ReceiverRun where
  receiver : Receiver
  connected : List PeerId
  /-- The peer has asked on its connection that all devices are ignored or not. -/
  asked : PeerId → Bool
  /-- The value of the last such request, and how many `device_grabber` had been made by then. -/
  lastRequest : Option (Bool × Nat)

namespace ReceiverRun

def start (conditions : StartConditions) : ReceiverRun :=
  ⟨.create conditions, [], fun _ => false, none⟩

def step (run : ReceiverRun) : ReceiverAction → ReceiverRun
  | .peerConnected peerId =>
      { run with
        connected := peerId :: run.connected
        asked := Function.update run.asked peerId false }
  | .request peerId request conditions =>
      let handled := { run with receiver := run.receiver.handleRequest peerId request conditions }
      match request with
      | .temporarilyIgnoreAllDevices value =>
          { handled with
            asked := Function.update run.asked peerId true
            lastRequest := some (value, run.receiver.deviceGrabbersMade) }
      | _ => handled
  | .peerClosed peerId conditions =>
      { run with
        receiver := run.receiver.handlePeerClosed peerId conditions
        connected := run.connected.filter fun other => other != peerId
        asked := Function.update run.asked peerId false }
  | .runJob => { run with receiver := run.receiver.onDeviceGrabber .runJob }
  | .deviceMatched deviceId =>
      { run with receiver := run.receiver.onDeviceGrabber fun g => g.deviceMatched deviceId }
  | .deviceTerminated deviceId =>
      { run with receiver := run.receiver.onDeviceGrabber fun g => g.deviceTerminated deviceId }

/-- Only a peer that is not connected connects, and only a connected one asks or closes. -/
def WellFormed (run : ReceiverRun) : ReceiverAction → Prop
  | .peerConnected peerId => peerId ∉ run.connected
  | .request peerId _ _ => peerId ∈ run.connected
  | .peerClosed peerId _ => peerId ∈ run.connected
  | _ => True

/-- The connected peers that have made a request. -/
def requesters (run : ReceiverRun) : List PeerId := run.connected.filter run.asked

/-- What the flag should be: the value of the last request, while a peer that has made one is
connected. -/
def expected (run : ReceiverRun) : Bool :=
  match run.lastRequest with
  | some (value, _) => !run.requesters.isEmpty && value
  | none => false

/-- When its queued jobs have run, the flag of the `device_grabber` is what it should be. -/
def FlagCorrect (run : ReceiverRun) : Prop :=
  ∀ grabber, run.receiver.deviceGrabber = some grabber → grabber.jobs = [] →
    grabber.temporarilyIgnoreAllDevices = run.expected

/-- A request has come since the last `device_grabber` was made, unless no connected peer has
made one or the last one was to ignore no devices. -/
def AskedSinceMade (run : ReceiverRun) : Prop :=
  run.requesters = [] ∨ ∀ made, run.lastRequest = some (true, made) →
    made = run.receiver.deviceGrabbersMade

/-- The set of the receiver is that of the connected peers which have made a request, and the
flag will be the value of the last one if it came since the `device_grabber` was made. -/
structure Sound (run : ReceiverRun) : Prop where
  peerIds : ∀ peerId, peerId ∈ run.receiver.temporarilyIgnoreAllDevicesPeerIds ↔
    peerId ∈ run.requesters
  asked : ∀ peerId, run.asked peerId = true → run.lastRequest ≠ none
  made : ∀ value made, run.lastRequest = some (value, made) →
    made ≤ run.receiver.deviceGrabbersMade
  settled : ∀ grabber, run.receiver.deviceGrabber = some grabber →
    (grabber.settled = true ↔ run.requesters ≠ [] ∧
      run.lastRequest = some (true, run.receiver.deviceGrabbersMade))

theorem sound_start (conditions : StartConditions) : (start conditions).Sound := by
  have restarts : Receiver.Restarts _ (start conditions).receiver :=
    Receiver.restarts_startGrabbing
    ⟨none, 0, none, [], ⟨true, false⟩, ⟨none, none, none⟩,
      ⟨none, none, none, none, none, none, none⟩, ⟨none, none, none⟩⟩ conditions
  refine ⟨fun peerId => ?_, nofun, nofun, fun grabber isGrabber => ?_⟩
  · rw [restarts.peerIds]
    exact Iff.rfl
  · rw [(restarts.fresh grabber isGrabber).1]
    exact iff_of_false Bool.false_ne_true fun both => both.1 rfl

/-- What does not touch the set of peers, the number of `device_grabber` and what the flag will
be keeps the invariant. -/
theorem Sound.of_same {run after : ReceiverRun} (sound : run.Sound)
    (peerIds : after.receiver.temporarilyIgnoreAllDevicesPeerIds =
      run.receiver.temporarilyIgnoreAllDevicesPeerIds)
    (requesters : after.requesters = run.requesters)
    (asked : ∀ peerId, after.asked peerId = true → run.asked peerId = true)
    (lastRequest : after.lastRequest = run.lastRequest)
    (made : after.receiver.deviceGrabbersMade = run.receiver.deviceGrabbersMade)
    (settled : ∀ grabber, after.receiver.deviceGrabber = some grabber →
      ∃ before, run.receiver.deviceGrabber = some before ∧ grabber.settled = before.settled) :
    after.Sound where
  peerIds peerId := by rw [peerIds, requesters, sound.peerIds]
  asked peerId isAsked := lastRequest ▸ sound.asked peerId (asked peerId isAsked)
  made value count last := made ▸ sound.made value count (lastRequest ▸ last)
  settled grabber isGrabber := by
    obtain ⟨before, isBefore, same⟩ := settled grabber isGrabber
    rw [same, requesters, lastRequest, made, sound.settled before isBefore]

/-- A restart keeps the invariant: no request has come since. -/
theorem Sound.of_restarts {run : ReceiverRun} (sound : run.Sound) {receiver : Receiver}
    (restarts : run.receiver.Restarts receiver) :
    ({ run with receiver := receiver } : ReceiverRun).Sound where
  peerIds peerId := by rw [restarts.peerIds]; exact sound.peerIds peerId
  asked := sound.asked
  made value made last := (sound.made value made last).trans restarts.made
  settled grabber isGrabber := by
    obtain ⟨notSet, newer⟩ := restarts.fresh grabber isGrabber
    rw [notSet]
    refine iff_of_false Bool.false_ne_true fun both => ?_
    exact absurd (sound.made true _ both.2) (Nat.not_le_of_lt newer)

/-- Jobs that do not set the flag keep the invariant, whatever else changes. -/
theorem Sound.enqueue {run : ReceiverRun} (sound : run.Sound) {receiver : Receiver}
    {jobs : List DeviceGrabberJob} (keep : ∀ job ∈ jobs, job.KeepsFlag)
    (peerIds : receiver.temporarilyIgnoreAllDevicesPeerIds =
      run.receiver.temporarilyIgnoreAllDevicesPeerIds)
    (made : receiver.deviceGrabbersMade = run.receiver.deviceGrabbersMade)
    (grabber : receiver.deviceGrabber = run.receiver.deviceGrabber) :
    ({ run with receiver := receiver.enqueue jobs } : ReceiverRun).Sound := by
  refine sound.of_same peerIds rfl (fun _ => id) rfl made ?_
  intro after isGrabber
  obtain ⟨before, isBefore, rfl⟩ := Option.map_eq_some_iff.mp isGrabber
  exact ⟨before, grabber ▸ isBefore, DeviceGrabber.settled_enqueue before keep⟩

/-- A job that is run, or a device that comes or goes, keeps the invariant. -/
theorem Sound.onDeviceGrabber {run : ReceiverRun} (sound : run.Sound)
    {change : DeviceGrabber → DeviceGrabber}
    (keeps : ∀ grabber, (change grabber).settled = grabber.settled) :
    ({ run with receiver := run.receiver.onDeviceGrabber change } : ReceiverRun).Sound := by
  refine sound.of_same rfl rfl (fun _ => id) rfl rfl ?_
  intro after isGrabber
  obtain ⟨before, isBefore, rfl⟩ := Option.map_eq_some_iff.mp isGrabber
  exact ⟨before, isBefore, keeps before⟩

/-- A request to ignore all devices is the last request. -/
theorem Sound.temporarilyIgnoreAllDevices {run : ReceiverRun} (sound : run.Sound)
    {peerId : PeerId} (isConnected : peerId ∈ run.connected) (value : Bool)
    (conditions : StartConditions) :
    (run.step (.request peerId (.temporarilyIgnoreAllDevices value) conditions)).Sound := by
  have requester : peerId ∈
      (run.step (.request peerId (.temporarilyIgnoreAllDevices value) conditions)).requesters :=
    List.mem_filter.mpr ⟨isConnected, Function.update_self ..⟩
  refine ⟨fun other => ?_, fun _ _ => Option.some_ne_none _, ?_, ?_⟩
  · change other ∈ run.receiver.temporarilyIgnoreAllDevicesPeerIds.insert peerId ↔ _
    rw [List.mem_insert_iff, sound.peerIds]
    by_cases own : other = peerId
    · exact iff_of_true (.inl own) (own ▸ requester)
    · simp [requesters, step, own]
  · intro _ made last
    exact (congrArg Prod.snd (Option.some.inj last)).symm.le
  · intro grabber isGrabber
    obtain ⟨before, _, rfl⟩ := Option.map_eq_some_iff.mp isGrabber
    rw [DeviceGrabber.settled_enqueue_set, and_iff_right (List.ne_nil_of_mem requester)]
    change _ ↔ some (value, run.receiver.deviceGrabbersMade) =
      some (true, run.receiver.deviceGrabbersMade)
    simp

/-- A peer that closes is no requester any more. -/
theorem mem_requesters_step_peerClosed (run : ReceiverRun) (peerId : PeerId)
    (conditions : StartConditions) (other : PeerId) :
    other ∈ (run.step (.peerClosed peerId conditions)).requesters ↔
      other ∈ run.requesters ∧ other ≠ peerId := by
  by_cases own : other = peerId
  · simp [requesters, step, own]
  · simp [requesters, step, own]

/-- When a peer closes, the flag is restored with the last of the requesters. -/
theorem Sound.peerClosed {run : ReceiverRun} (sound : run.Sound) (peerId : PeerId)
    (conditions : StartConditions) : (run.step (.peerClosed peerId conditions)).Sound := by
  have members := run.mem_requesters_step_peerClosed peerId conditions
  let peerIds := run.receiver.temporarilyIgnoreAllDevicesPeerIds.filter fun other =>
    other != peerId
  let erased := { run.receiver with temporarilyIgnoreAllDevicesPeerIds := peerIds }
  let restored :=
    if peerIds = [] then erased.enqueue [.setTemporarilyIgnoreAllDevices false] else erased
  have memPeerIds : ∀ other, other ∈ peerIds ↔
      other ∈ (run.step (.peerClosed peerId conditions)).requesters := by
    intro other
    rw [members, ← sound.peerIds]
    simp [peerIds]
  have asked : ∀ other, Function.update run.asked peerId false other = true →
      run.lastRequest ≠ none := by
    intro other isAsked
    by_cases own : other = peerId
    · rw [own, Function.update_self] at isAsked
      cases isAsked
    · rw [Function.update_of_ne own] at isAsked
      exact sound.asked other isAsked
  have soundRestored :
      ({ run.step (.peerClosed peerId conditions) with receiver := restored } :
        ReceiverRun).Sound := by
    by_cases last : peerIds = []
    · have isRestored : restored = erased.enqueue [.setTemporarilyIgnoreAllDevices false] :=
        if_pos last
      rw [isRestored]
      refine ⟨memPeerIds, asked, sound.made, fun grabber isGrabber => ?_⟩
      obtain ⟨before, _, rfl⟩ := Option.map_eq_some_iff.mp isGrabber
      rw [DeviceGrabber.settled_enqueue_set]
      refine iff_of_false Bool.false_ne_true fun both => both.1 ?_
      exact List.eq_nil_iff_forall_not_mem.mpr fun other member =>
        List.ne_nil_of_mem ((memPeerIds other).mpr member) last
    · have isRestored : restored = erased := if_neg last
      rw [isRestored]
      refine ⟨memPeerIds, asked, sound.made, fun grabber isGrabber => ?_⟩
      obtain ⟨other, member⟩ := List.exists_mem_of_ne_nil _ last
      have isRequester := (memPeerIds other).mp member
      have wasRequester := ((members other).mp isRequester).1
      rw [sound.settled grabber isGrabber,
        and_iff_right (List.ne_nil_of_mem wasRequester)]
      exact (and_iff_right (List.ne_nil_of_mem isRequester)).symm
  by_cases console : run.receiver.consoleUserServerPeerId = some peerId
  · have restarts := Receiver.restarts_startGrabbing
      { restored with consoleUserServerPeerId := none } conditions
    have after : run.receiver.handlePeerClosed peerId conditions = _ := if_pos console
    have restarted := soundRestored.of_restarts ⟨restarts.peerIds, restarts.made, restarts.fresh⟩
    rw [step, after]
    exact restarted
  · have after : run.receiver.handlePeerClosed peerId conditions = restored := if_neg console
    rw [step, after]
    exact soundRestored

/-- Every action keeps the invariant. -/
theorem Sound.step {run : ReceiverRun} {action : ReceiverAction} (sound : run.Sound)
    (wellFormed : run.WellFormed action) : (run.step action).Sound := by
  cases action with
  | peerConnected peerId =>
      refine sound.of_same rfl ?_ ?_ rfl rfl fun grabber isGrabber => ⟨grabber, isGrabber, rfl⟩
      · have notAsked : Function.update run.asked peerId false peerId ≠ true := by simp
        rw [requesters, ReceiverRun.step, List.filter_cons_of_neg notAsked]
        apply List.filter_congr
        intro other member
        refine Function.update_of_ne ?_ _ _
        rintro rfl
        exact wellFormed member
      · intro other isAsked
        change Function.update run.asked peerId false other = true at isAsked
        by_cases own : other = peerId
        · rw [own, Function.update_self] at isAsked
          cases isAsked
        · rwa [Function.update_of_ne own] at isAsked
  | request peerId request conditions =>
      cases request with
      | startDeviceGrabber path =>
          cases path with
          | none => exact sound.of_restarts ⟨rfl, le_rfl, nofun⟩
          | some path =>
              have restarts := Receiver.restarts_startDeviceGrabber
                { run.receiver with consoleUserServerPeerId := some peerId }
                conditions.requiredPermissionsGranted (some path)
              exact sound.of_restarts ⟨restarts.peerIds, restarts.made, restarts.fresh⟩
      | temporarilyIgnoreAllDevices value =>
          exact sound.temporarilyIgnoreAllDevices wellFormed value conditions
      | systemPreferencesUpdated =>
          exact sound.enqueue (by simp [DeviceGrabberJob.KeepsFlag]) rfl rfl rfl
      | frontmostApplicationChanged application =>
          simp only [ReceiverRun.step, Receiver.handleRequest]
          split
          · exact sound.enqueue (by simp [DeviceGrabberJob.KeepsFlag]) rfl rfl rfl
          · exact sound
      | focusedUiElementChanged =>
          exact sound.enqueue (by simp [DeviceGrabberJob.KeepsFlag]) rfl rfl rfl
      | inputSourceChanged =>
          exact sound.enqueue (by simp [DeviceGrabberJob.KeepsFlag]) rfl rfl rfl
  | peerClosed peerId conditions => exact sound.peerClosed peerId conditions
  | runJob => exact sound.onDeviceGrabber DeviceGrabber.settled_runJob
  | deviceMatched => exact sound.onDeviceGrabber fun _ => rfl
  | deviceTerminated => exact sound.onDeviceGrabber fun _ => rfl

/-- In every state that a run reaches, the flag of a `device_grabber` whose jobs have run is
what it should be exactly when a request has come since it was made, unless the flag should
not be set. -/
theorem flagCorrect_iff (conditions : StartConditions) (actions : List ReceiverAction)
    (wellFormed : Foundation.Execution.StepsMeet step WellFormed (start conditions) actions) :
    let run := actions.foldl step (start conditions)
    ∀ grabber, run.receiver.deviceGrabber = some grabber → grabber.jobs = [] →
      (grabber.temporarilyIgnoreAllDevices = run.expected ↔ run.AskedSinceMade) := by
  intro run grabber isGrabber noJobs
  have sound : run.Sound := Foundation.Execution.invariant_of_stepsMeet
    (fun _ _ sound meets => Sound.step sound meets) (sound_start conditions) wellFormed
  have settled := sound.settled grabber isGrabber
  rw [DeviceGrabber.settled_of_noJobs noJobs] at settled
  rw [Bool.eq_iff_iff, settled, expected, AskedSinceMade]
  cases last : run.lastRequest with
  | none => simp
  | some request =>
      obtain ⟨value, made⟩ := request
      cases value with
      | false => simp
      | true => by_cases none : run.requesters = [] <;> simp [none]

end ReceiverRun

/-! ## The devices -/

/-- Every device has been given the flag of the `device_grabber`. -/
def DeviceGrabber.EntriesFollow (grabber : DeviceGrabber) : Prop :=
  ∀ entry ∈ grabber.entries, entry.2 = grabber.temporarilyIgnoreAllDevices

/-- A job of the `device_grabber` keeps its devices at the flag, which it sets for each of them. -/
theorem DeviceGrabber.entriesFollow_runJob {grabber : DeviceGrabber}
    (follow : grabber.EntriesFollow) : grabber.runJob.EntriesFollow := by
  unfold runJob
  split
  · exact follow
  · rename_i job rest _
    cases job with
    | setTemporarilyIgnoreAllDevices value =>
        intro entry member
        obtain ⟨before, _, rfl⟩ := List.mem_map.mp member
        rfl
    | setSystemPreferencesProperties => exact follow
    | postSetVariableEvent => exact follow
    | postFrontmostApplicationChangedEvent => exact follow
    | postInputSourceChangedEvent => exact follow
    | start => exact follow

theorem DeviceGrabber.entriesFollow_deviceMatched {grabber : DeviceGrabber}
    (follow : grabber.EntriesFollow) (deviceId : DeviceId) :
    (grabber.deviceMatched deviceId).EntriesFollow := by
  intro entry member
  rcases List.mem_cons.mp member with rfl | before
  · rfl
  · exact follow entry (List.mem_of_mem_filter before)

namespace Receiver

/-- The devices of the `device_grabber`, if there is one, have its flag. -/
def EntriesFollow (receiver : Receiver) : Prop :=
  ∀ grabber, receiver.deviceGrabber = some grabber → grabber.EntriesFollow

theorem EntriesFollow.onDeviceGrabber {receiver : Receiver} (follow : receiver.EntriesFollow)
    {change : DeviceGrabber → DeviceGrabber}
    (keeps : ∀ grabber, grabber.EntriesFollow → (change grabber).EntriesFollow) :
    (receiver.onDeviceGrabber change).EntriesFollow := by
  intro after isGrabber
  obtain ⟨before, isBefore, rfl⟩ := Option.map_eq_some_iff.mp isGrabber
  exact keeps before (follow before isBefore)

theorem EntriesFollow.enqueue {receiver : Receiver} (follow : receiver.EntriesFollow)
    (jobs : List DeviceGrabberJob) : (receiver.enqueue jobs).EntriesFollow :=
  follow.onDeviceGrabber fun _ follow => follow

theorem EntriesFollow.startDeviceGrabber {receiver : Receiver} (follow : receiver.EntriesFollow)
    (granted : Bool) (path : Option String) :
    (receiver.startDeviceGrabber granted path).EntriesFollow := by
  unfold Receiver.startDeviceGrabber
  split
  · exact follow
  · split
    · exact follow
    · rintro grabber isGrabber entry member
      obtain rfl := Option.some.inj isGrabber
      cases member

theorem entriesFollow_stopDeviceGrabber (receiver : Receiver) :
    receiver.stopDeviceGrabber.EntriesFollow := nofun

theorem EntriesFollow.startGrabbing {receiver : Receiver} (follow : receiver.EntriesFollow)
    (conditions : StartConditions) :
    (receiver.startGrabbingIfSystemCoreConfigurationFileExists conditions).EntriesFollow := by
  unfold startGrabbingIfSystemCoreConfigurationFileExists
  split
  · exact follow
  · split
    · exact receiver.entriesFollow_stopDeviceGrabber.startDeviceGrabber _ none
    · exact follow

theorem EntriesFollow.handlePeerClosed {receiver : Receiver} (follow : receiver.EntriesFollow)
    (peerId : PeerId) (conditions : StartConditions) :
    (receiver.handlePeerClosed peerId conditions).EntriesFollow := by
  unfold Receiver.handlePeerClosed
  dsimp only
  split
  · exact (entriesFollow_stopDeviceGrabber _).startGrabbing conditions
  · split
    · exact EntriesFollow.enqueue follow _
    · exact follow

/-- A request keeps the devices at the flag of the `device_grabber`. -/
theorem EntriesFollow.handleRequest {receiver : Receiver} (follow : receiver.EntriesFollow)
    (peerId : PeerId) (request : ReceiverRequest) (conditions : StartConditions) :
    (receiver.handleRequest peerId request conditions).EntriesFollow := by
  cases request with
  | startDeviceGrabber path =>
      cases path with
      | none => exact entriesFollow_stopDeviceGrabber _
      | some path => exact (entriesFollow_stopDeviceGrabber _).startDeviceGrabber _ _
  | temporarilyIgnoreAllDevices value => exact follow.enqueue _
  | systemPreferencesUpdated => exact EntriesFollow.enqueue follow _
  | frontmostApplicationChanged application =>
      unfold Receiver.handleRequest
      dsimp only
      split
      · exact EntriesFollow.enqueue follow _
      · exact follow
  | focusedUiElementChanged => exact EntriesFollow.enqueue follow _
  | inputSourceChanged => exact EntriesFollow.enqueue follow _

end Receiver

namespace ReceiverRun

/-- In every run the devices have the flag of their `device_grabber`. -/
theorem entriesFollow (conditions : StartConditions) (actions : List ReceiverAction) :
    (actions.foldl step (start conditions)).receiver.EntriesFollow := by
  refine @Foundation.Execution.invariant_of_steps _ _ step (fun run => run.receiver.EntriesFollow)
    ?_ _ ?_ actions
  · intro run action follow
    cases action with
    | peerConnected => exact follow
    | request peerId request conditions =>
        have handled := follow.handleRequest peerId request conditions
        cases request <;> exact handled
    | peerClosed peerId conditions => exact follow.handlePeerClosed peerId conditions
    | runJob => exact follow.onDeviceGrabber fun _ => DeviceGrabber.entriesFollow_runJob
    | deviceMatched deviceId =>
        exact follow.onDeviceGrabber fun _ follow =>
          DeviceGrabber.entriesFollow_deviceMatched follow deviceId
    | deviceTerminated =>
        exact follow.onDeviceGrabber fun _ follow entry member =>
          follow entry (List.mem_of_mem_filter member)
  · refine Receiver.EntriesFollow.startGrabbing ?_ conditions
    intro grabber isGrabber
    cases isGrabber

/-! ## A restart under a request -/

/-- One peer asks that all devices are ignored, then another one, the console user server,
starts a new `device_grabber`, of which all eleven jobs are run. -/
def restartedWhileIgnored : List ReceiverAction :=
  [.peerConnected 1, .request 1 (.temporarilyIgnoreAllDevices true) ⟨true, true⟩,
    .peerConnected 2, .request 2 (.startDeviceGrabber (some "karabiner.json")) ⟨true, true⟩] ++
  List.replicate 11 .runJob

/-- A request that comes after the start is followed. -/
theorem flagCorrect_asked :
    let actions := [.peerConnected 1,
      .request 1 (.temporarilyIgnoreAllDevices true) ⟨true, true⟩] ++ List.replicate 13 .runJob
    let run := actions.foldl step (start ⟨true, true⟩)
    ∃ grabber, run.receiver.deviceGrabber = some grabber ∧ grabber.jobs = [] ∧
      (grabber.temporarilyIgnoreAllDevices = run.expected ↔ run.AskedSinceMade) := by
  intro actions run
  refine ⟨_, rfl, rfl, ?_⟩
  apply flagCorrect_iff ⟨true, true⟩ actions
  · refine ⟨?_, ?_, trivial, trivial, trivial, trivial, trivial, trivial, trivial, trivial,
      trivial, trivial, trivial, trivial, trivial, trivial⟩
    · exact List.not_mem_nil
    · exact List.mem_cons_self
  · rfl
  · rfl

/-- After the restart the devices are not ignored, though a request to do so stands. -/
theorem not_ignored_after_restart :
    Foundation.Execution.StepsMeet step WellFormed (start ⟨true, true⟩) restartedWhileIgnored ∧
      ¬(restartedWhileIgnored.foldl step (start ⟨true, true⟩)).FlagCorrect := by
  constructor
  · refine ⟨?_, ?_, ?_, ?_, trivial, trivial, trivial, trivial, trivial, trivial, trivial,
      trivial, trivial, trivial, trivial, trivial⟩
    all_goals simp [WellFormed, step, start]
  · intro correct
    exact absurd (correct _ rfl rfl) Bool.false_ne_true

end ReceiverRun

end Karabiner

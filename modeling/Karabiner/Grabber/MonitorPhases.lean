import Karabiner.Grabber.MonitorReplacement

/-! # The phases of a replacement

A monitor is in use, being stopped, stopped, or handing over to its successor. Every action
leads from one phase to another one; what each does in each phase is said here once.
-/

namespace Karabiner

/-- A job of the monitor that is not a completion. -/
structure MonitorJob.Plain (id : Nat) (job : MonitorJob) : Prop where
  monitorId : job.monitorId = id
  retained : job.retained = none

theorem MonitorJob.plain_asyncStart (id : Nat) : (MonitorJob.asyncStart id).Plain id := ⟨rfl, rfl⟩

theorem MonitorJob.plain_eventArrived (id : Nat) : (MonitorJob.eventArrived id).Plain id :=
  ⟨rfl, rfl⟩

namespace MonitorReplacement

/-- No monitor exists. -/
structure Idle (state : MonitorReplacement) : Prop where
  objects : state.objects = []
  eventTapMonitor : state.eventTapMonitor = none
  blocks : state.blocks = []
  jobs : state.jobs = []
  running : state.running = none
  unrequested : state.alive = true →
    state.stopping = false ∧ state.pendingConfiguration = none ∧ state.requested = none

/-- The monitor is the one of the grabber. -/
structure InUse (state : MonitorReplacement) (object : MonitorObject) : Prop where
  objects : state.objects = [object]
  eventTapMonitor : state.eventTapMonitor = some object.id
  blocks : state.blocks = []
  jobs : ∀ job ∈ state.jobs, job.Plain object.id
  running : ∀ job ∈ state.running, job.Plain object.id
  alive : state.alive = true
  stopping : state.stopping = false
  pendingConfiguration : state.pendingConfiguration = none
  requested : state.requested = some object.cgeventtapFallbackEnabled
  created : object.id ≤ state.created

/-- The grabber waits for the completion, if it still exists. -/
structure Awaited (state : MonitorReplacement) (completion : StopCompletion) : Prop where
  stopping : state.stopping = true
  continues : completion.continues = true
  pendingConfiguration : state.pendingConfiguration = state.requested
  requested : state.requested.isSome

/-- The grabber has given up the monitor, which is still kept alive. -/
structure Left (state : MonitorReplacement) (object : MonitorObject)
    (completion : StopCompletion) : Prop where
  objects : state.objects = [object]
  eventTapMonitor : state.eventTapMonitor = none
  connected : object.connected = false
  monitorId : completion.monitorId = object.id
  created : object.id ≤ state.created

/-- The block that stops the monitor is enqueued. -/
structure Stopping (state : MonitorReplacement) (object : MonitorObject)
    (completion : StopCompletion) : Prop extends state.Left object completion where
  blocks : state.blocks = [completion]
  jobs : ∀ job ∈ state.jobs, job.Plain object.id
  running : ∀ job ∈ state.running, job.Plain object.id
  awaited : state.alive = true → state.Awaited completion

/-- The completion is enqueued. -/
structure Stopped (state : MonitorReplacement) (object : MonitorObject)
    (completion : StopCompletion) : Prop extends state.Left object completion where
  cleanupCompleted : object.cleanupCompleted = true
  blocks : state.blocks = []
  jobs : ∃ before after, state.jobs = before ++ .stopCompleted completion :: after ∧
    (∀ job ∈ before, job.Plain object.id) ∧ ∀ job ∈ after, job.Plain object.id
  running : ∀ job ∈ state.running, job.Plain object.id
  awaited : state.alive = true → state.Awaited completion

/-- The completion runs after the grabber is gone. -/
structure Completing (state : MonitorReplacement) (object : MonitorObject)
    (completion : StopCompletion) : Prop extends state.Left object completion where
  cleanupCompleted : object.cleanupCompleted = true
  blocks : state.blocks = []
  jobs : ∀ job ∈ state.jobs, job.Plain object.id
  running : state.running = some (.stopCompleted completion)
  destroyed : state.alive = false

/-- The completion has created the next monitor, which waits for its job to start. -/
structure Handover (state : MonitorReplacement) (object next : MonitorObject)
    (completion : StopCompletion) : Prop where
  objects : state.objects = [object, next]
  eventTapMonitor : state.eventTapMonitor = some next.id
  monitorId : completion.monitorId = object.id
  cleanupCompleted : object.cleanupCompleted = true
  noEventTap : next.eventTap = false
  newer : object.id < next.id
  created : next.id ≤ state.created
  blocks : state.blocks = []
  jobs : ∀ job ∈ state.jobs, job.Plain object.id ∨ job.Plain next.id
  running : state.running = some (.stopCompleted completion)
  alive : state.alive = true
  stopping : state.stopping = false
  pendingConfiguration : state.pendingConfiguration = none
  requested : state.requested = some next.cgeventtapFallbackEnabled

inductive Phase (state : MonitorReplacement) : Prop
  | idle (phase : state.Idle)
  | inUse (object : MonitorObject) (phase : state.InUse object)
  | stopping (object : MonitorObject) (completion : StopCompletion)
      (phase : state.Stopping object completion)
  | stopped (object : MonitorObject) (completion : StopCompletion)
      (phase : state.Stopped object completion)
  | completing (object : MonitorObject) (completion : StopCompletion)
      (phase : state.Completing object completion)
  | handover (object next : MonitorObject) (completion : StopCompletion)
      (phase : state.Handover object next completion)

/-- What is recorded of the run so far. -/
structure Unharmed (state : MonitorReplacement) : Prop where
  aborted : state.aborted = false
  slotCalls : ∀ call ∈ state.slotCalls, call.alive = true ∧ call.inUse = true

variable {state : MonitorReplacement}

/-! ## References -/

/-- A monitor is retained by the grabber, by the block of a stop that is to complete, or by a job
that is queued or running. -/
theorem retains_iff (id : Nat) :
    state.retains id = true ↔
      state.eventTapMonitor = some id ∨ (∃ completion ∈ state.blocks, completion.monitorId = id) ∨
        (∃ job ∈ state.jobs, job.retained = some id) ∨
        ∃ job ∈ state.running, job.retained = some id := by
  have ofRunning : state.running.bind MonitorJob.retained = some id ↔
      ∃ job ∈ state.running, job.retained = some id := by
    rw [Option.bind_eq_some_iff]
    exact Iff.rfl
  unfold retains
  simp only [Bool.or_eq_true, decide_eq_true_eq, List.any_eq_true, ofRunning, or_assoc]

theorem release_of_retains {id : Nat} (retained : state.retains id = true) :
    state.release id = state := if_pos retained

/-- The last reference to a monitor that was cleaned up is given up. -/
theorem release_last {id : Nat} {object : MonitorObject} (unretained : state.retains id = false)
    (found : state.object? id = some object) (cleaned : object.cleanupCompleted = true) :
    state.release id = { state with
      objects := state.objects.filter (·.id ≠ id)
      jobs := state.jobs.filter (·.monitorId ≠ id) } := by
  unfold release
  rw [if_neg (Bool.eq_false_iff.mp unretained), found]
  dsimp only
  rw [cleaned, Bool.not_true, Bool.or_false]

/-! ## Single steps of the grabber -/

/-- Without a monitor the pending configuration makes a new one, which the grabber uses from then
on. -/
theorem createPendingEventTapMonitor_of_none (noMonitor : state.eventTapMonitor = none)
    {cgeventtapFallbackEnabled : Bool}
    (pending : state.pendingConfiguration = some cgeventtapFallbackEnabled) :
    state.createPendingEventTapMonitor = { state with
      pendingConfiguration := none
      eventTapMonitor := some (state.created + 1)
      objects := state.objects ++
        [⟨state.created + 1, cgeventtapFallbackEnabled, true, false, false⟩]
      created := state.created + 1
      jobs := state.jobs ++ [.asyncStart (state.created + 1)] } := by
  unfold createPendingEventTapMonitor
  rw [pending, noMonitor]

/-- A monitor that is stopped is disconnected, and its block keeps it alive. -/
theorem asyncStopEventTapMonitor_of_inUse {object : MonitorObject}
    (objects : state.objects = [object]) (inUse : state.eventTapMonitor = some object.id)
    (blocks : state.blocks = []) (continues : Bool) :
    state.asyncStopEventTapMonitor continues = { state with
      eventTapMonitor := none
      objects := [{ object with connected := false }]
      blocks := [⟨object.id, continues⟩] } := by
  unfold asyncStopEventTapMonitor
  rw [inUse]
  dsimp only
  rw [release_of_retains]
  · simp [asyncStop, modifyObject, objects, blocks]
  · rw [retains_iff]
    refine .inr (.inl ⟨⟨object.id, continues⟩, ?_, rfl⟩)
    exact List.mem_append_right _ (List.mem_singleton_self _)

theorem setupEventTapMonitor_of_stopping (stopping : state.stopping = true)
    (cgeventtapFallbackEnabled : Bool) :
    state.setupEventTapMonitor cgeventtapFallbackEnabled = { state with
      pendingConfiguration := some cgeventtapFallbackEnabled
      requested := some cgeventtapFallbackEnabled } := if_pos stopping

/-- Without a monitor and while nothing is stopping, a request makes a new monitor at once. -/
theorem setupEventTapMonitor_of_none (notStopping : state.stopping = false)
    (noMonitor : state.eventTapMonitor = none) (cgeventtapFallbackEnabled : Bool) :
    state.setupEventTapMonitor cgeventtapFallbackEnabled = { state with
      requested := some cgeventtapFallbackEnabled
      pendingConfiguration := none
      eventTapMonitor := some (state.created + 1)
      objects := state.objects ++
        [⟨state.created + 1, cgeventtapFallbackEnabled, true, false, false⟩]
      created := state.created + 1
      jobs := state.jobs ++ [.asyncStart (state.created + 1)] } := by
  unfold setupEventTapMonitor
  dsimp only
  rw [if_neg (Bool.eq_false_iff.mp notStopping), if_neg (by simp [noMonitor])]
  exact @createPendingEventTapMonitor_of_none { state with
    pendingConfiguration := some cgeventtapFallbackEnabled
    requested := some cgeventtapFallbackEnabled } noMonitor _ rfl

/-- A request for a monitor in use begins to stop that one, and the new one has to wait. -/
theorem setupEventTapMonitor_of_inUse {object : MonitorObject} (notStopping : state.stopping = false)
    (objects : state.objects = [object]) (inUse : state.eventTapMonitor = some object.id)
    (blocks : state.blocks = []) (cgeventtapFallbackEnabled : Bool) :
    state.setupEventTapMonitor cgeventtapFallbackEnabled = { state with
      requested := some cgeventtapFallbackEnabled
      pendingConfiguration := some cgeventtapFallbackEnabled
      stopping := true
      eventTapMonitor := none
      objects := [{ object with connected := false }]
      blocks := [⟨object.id, true⟩] } := by
  unfold setupEventTapMonitor
  dsimp only
  rw [if_neg (Bool.eq_false_iff.mp notStopping), if_pos (by simp [inUse])]
  exact @asyncStopEventTapMonitor_of_inUse { state with
    pendingConfiguration := some cgeventtapFallbackEnabled
    requested := some cgeventtapFallbackEnabled, stopping := true } _ objects inUse blocks true

theorem destroyDeviceGrabber_of_none (noMonitor : state.eventTapMonitor = none) :
    state.destroyDeviceGrabber =
      { state with alive := false, pendingConfiguration := none } := by
  unfold destroyDeviceGrabber asyncStopEventTapMonitor
  dsimp only
  split
  case h_1 => exact if_neg Bool.false_ne_true
  case h_2 id inUse =>
    rw [noMonitor] at inUse
    cases inUse

theorem destroyDeviceGrabber_of_inUse {object : MonitorObject} (objects : state.objects = [object])
    (inUse : state.eventTapMonitor = some object.id) (blocks : state.blocks = []) :
    state.destroyDeviceGrabber = { state with
      alive := false
      pendingConfiguration := none
      eventTapMonitor := none
      objects := [{ object with connected := false }]
      blocks := [⟨object.id, false⟩] } :=
  @asyncStopEventTapMonitor_of_inUse { state with alive := false, pendingConfiguration := none } _
    objects inUse blocks false

/-! ## Single steps of the run loop and the dispatcher -/

theorem cleanup_of_noBlocks (blocks : state.blocks = []) (id : Nat) : state.cleanup id = state := by
  unfold cleanup
  rw [blocks]
  rfl

/-- A callback comes from an event tap, and only enqueues. -/
theorem callback_cases (state : MonitorReplacement) (id : Nat) :
    state.callback id = state ∨ ∃ object ∈ state.objects, object.id = id ∧
      object.eventTap = true ∧
      state.callback id = { state with jobs := state.jobs ++ [.eventArrived id] } := by
  unfold callback
  cases found : state.object? id with
  | none => exact .inl rfl
  | some object =>
      dsimp only
      split
      case isFalse => exact .inl rfl
      case isTrue tap =>
        have same := List.find?_some found
        exact .inr ⟨object, List.mem_of_find?_eq_some found, of_decide_eq_true same, tap, rfl⟩

theorem callback_unharmed (state : MonitorReplacement) (id : Nat) :
    (state.callback id).aborted = state.aborted ∧
      (state.callback id).slotCalls = state.slotCalls := by
  rcases state.callback_cases id with same | ⟨_, _, _, _, called⟩
  · rw [same]
    exact ⟨rfl, rfl⟩
  · rw [called]
    exact ⟨rfl, rfl⟩

/-- A job of the only monitor sets its event tap or calls the slots that are connected. -/
theorem runJob_of_plain {object : MonitorObject} (objects : state.objects = [object])
    {job : MonitorJob} (plain : job.Plain object.id) (tapCreated : Bool) :
    ∃ eventTap called, state.runJob tapCreated job = { state with
        objects := [{ object with eventTap }], slotCalls := state.slotCalls ++ called } ∧
      ∀ call ∈ called, object.connected = true ∧
        call = ⟨state.alive, state.eventTapMonitor = some object.id⟩ := by
  have unchanged : { state with
      objects := [{ object with eventTap := object.eventTap }]
      slotCalls := state.slotCalls ++ [] } = state := by
    rw [List.append_nil, ← objects]
  cases job with
  | asyncStart id =>
      have same : object.id = id := plain.monitorId.symm
      have modified : state.runJob tapCreated (.asyncStart id) = { state with
          objects := [if object.eventTap then object else { object with eventTap := tapCreated }] } := by
        simp only [runJob, modifyObject, objects, List.map_cons, List.map_nil, if_pos same]
      rw [modified]
      split
      · exact ⟨object.eventTap, [], by rw [List.append_nil], nofun⟩
      · exact ⟨tapCreated, [], by rw [List.append_nil], nofun⟩
  | eventArrived id =>
      obtain rfl : object.id = id := plain.monitorId.symm
      have found : state.object? object.id = some object := by simp [object?, objects]
      unfold runJob
      dsimp only
      rw [found]
      dsimp only
      split
      case isTrue connected =>
        refine ⟨object.eventTap, [⟨state.alive, state.eventTapMonitor = some object.id⟩], ?_, ?_⟩
        · rw [← objects]
        · rintro call member
          exact ⟨connected, List.mem_singleton.mp member⟩
      case isFalse => exact ⟨object.eventTap, [], unchanged.symm, nofun⟩
  | stopCompleted completion => cases plain.retained

theorem startJob_of_cons {job : MonitorJob} {rest : List MonitorJob} (idle : state.running = none)
    (jobs : state.jobs = job :: rest) (tapCreated : Bool) :
    state.startJob tapCreated =
      { state with jobs := rest, running := some job }.runJob tapCreated job := by
  unfold startJob
  rw [idle, jobs]

theorem finishJob_of_plain {id : Nat} (running : ∀ job ∈ state.running, job.Plain id) :
    state.finishJob = { state with running := none } := by
  unfold finishJob
  cases found : state.running with
  | none =>
      dsimp only
      rw [← found]
  | some job =>
      have plain := (running job found).retained
      dsimp only
      rw [plain]

/-- Either no job starts, or the first one does. -/
theorem startJob_cases (state : MonitorReplacement) (tapCreated : Bool) :
    state.startJob tapCreated = state ∨
      ∃ job rest, state.running = none ∧ state.jobs = job :: rest ∧
        state.startJob tapCreated =
          { state with jobs := rest, running := some job }.runJob tapCreated job := by
  cases running : state.running with
  | some job =>
      left
      unfold startJob
      rw [running]
  | none =>
      cases jobs : state.jobs with
      | nil =>
          left
          unfold startJob
          rw [running, jobs]
      | cons job rest => exact .inr ⟨job, rest, rfl, rfl, startJob_of_cons running jobs tapCreated⟩

/-! ## Plain jobs -/

theorem plain_snoc {id : Nat} {jobs : List MonitorJob} (plain : ∀ job ∈ jobs, job.Plain id) :
    ∀ job ∈ jobs ++ [.eventArrived id], job.Plain id := by
  intro job member
  rcases List.mem_append.mp member with earlier | new
  · exact plain job earlier
  · rw [List.mem_singleton.mp new]
    exact MonitorJob.plain_eventArrived id

theorem plain_some {id : Nat} {job : MonitorJob} (plain : job.Plain id) :
    ∀ running ∈ some job, running.Plain id := by
  rintro _ ⟨⟩
  exact plain

/-- In every phase with one monitor only that monitor calls back. -/
theorem callback_cases_single {object : MonitorObject} (objects : state.objects = [object])
    (id : Nat) :
    state.callback id = state ∨
      state.callback id = { state with jobs := state.jobs ++ [.eventArrived object.id] } := by
  rcases state.callback_cases id with same | ⟨other, member, sameId, _, called⟩
  · exact .inl same
  · rw [objects] at member
    rw [called, ← sameId, List.mem_singleton.mp member]
    exact .inr rfl

/-! ## The phases -/

/-- A monitor is created for the first request. -/
theorem Idle.setup (idle : state.Idle) (alive : state.alive = true)
    (cgeventtapFallbackEnabled : Bool) :
    (state.setupEventTapMonitor cgeventtapFallbackEnabled).InUse
      ⟨state.created + 1, cgeventtapFallbackEnabled, true, false, false⟩ := by
  obtain ⟨notStopping, _, _⟩ := idle.unrequested alive
  rw [setupEventTapMonitor_of_none notStopping idle.eventTapMonitor]
  refine ⟨?_, rfl, idle.blocks, ?_, ?_, alive, notStopping, rfl, rfl, Nat.le_refl _⟩
  · simp [idle.objects]
  · intro job member
    rw [idle.jobs] at member
    rw [List.mem_singleton.mp member]
    exact MonitorJob.plain_asyncStart _
  · intro job running
    rw [idle.running] at running
    cases running

theorem Idle.destroy (idle : state.Idle) : state.destroyDeviceGrabber.Idle := by
  rw [destroyDeviceGrabber_of_none idle.eventTapMonitor]
  exact ⟨idle.objects, idle.eventTapMonitor, idle.blocks, idle.jobs, idle.running, nofun⟩

/-- The monitor in use is replaced by the one requested. -/
theorem InUse.setup {object : MonitorObject} (inUse : state.InUse object)
    (cgeventtapFallbackEnabled : Bool) :
    (state.setupEventTapMonitor cgeventtapFallbackEnabled).Stopping
      { object with connected := false } ⟨object.id, true⟩ := by
  rw [setupEventTapMonitor_of_inUse inUse.stopping inUse.objects inUse.eventTapMonitor inUse.blocks]
  exact ⟨⟨rfl, rfl, rfl, rfl, inUse.created⟩, rfl, inUse.jobs, inUse.running,
    fun _ => ⟨rfl, rfl, rfl, rfl⟩⟩

theorem InUse.destroy {object : MonitorObject} (inUse : state.InUse object) :
    state.destroyDeviceGrabber.Stopping { object with connected := false } ⟨object.id, false⟩ := by
  rw [destroyDeviceGrabber_of_inUse inUse.objects inUse.eventTapMonitor inUse.blocks]
  exact ⟨⟨rfl, rfl, rfl, rfl, inUse.created⟩, rfl, inUse.jobs, inUse.running, nofun⟩

theorem InUse.callback {object : MonitorObject} (inUse : state.InUse object) (id : Nat) :
    (state.callback id).InUse object := by
  rcases callback_cases_single inUse.objects id with same | called
  · rw [same]
    exact inUse
  · rw [called]
    exact { inUse with jobs := plain_snoc inUse.jobs }

/-- A slot is called for the monitor in use only. -/
theorem InUse.startJob {object : MonitorObject} (inUse : state.InUse object)
    (unharmed : state.Unharmed) (tapCreated : Bool) :
    (state.startJob tapCreated).Unharmed ∧ ∃ next, (state.startJob tapCreated).InUse next := by
  rcases state.startJob_cases tapCreated with same | ⟨job, rest, _, jobs, started⟩
  · rw [same]
    exact ⟨unharmed, object, inUse⟩
  · have plain := inUse.jobs
    rw [jobs] at plain
    have first := plain job List.mem_cons_self
    obtain ⟨eventTap, called, ran, calls⟩ := @runJob_of_plain
      { state with jobs := rest, running := some job } _ inUse.objects _ first tapCreated
    rw [started, ran]
    refine ⟨⟨unharmed.aborted, ?_⟩, { object with eventTap }, ?_⟩
    · intro call member
      rcases List.mem_append.mp member with earlier | new
      · exact unharmed.slotCalls call earlier
      · rw [(calls call new).2]
        exact ⟨inUse.alive, decide_eq_true inUse.eventTapMonitor⟩
    · exact { inUse with
        objects := rfl
        jobs := fun other member => plain other (List.mem_cons_of_mem _ member)
        running := plain_some first }

/-- No slot of a disconnected monitor is called. -/
theorem runJob_of_disconnected {object : MonitorObject} (objects : state.objects = [object])
    (disconnected : object.connected = false) {job : MonitorJob} (plain : job.Plain object.id)
    (tapCreated : Bool) :
    ∃ eventTap,
      state.runJob tapCreated job = { state with objects := [{ object with eventTap }] } := by
  obtain ⟨eventTap, called, ran, calls⟩ := runJob_of_plain objects plain tapCreated
  have none_ : called = [] := by
    apply List.eq_nil_iff_forall_not_mem.mpr
    intro call member
    have connected := (calls call member).1
    rw [disconnected] at connected
    cases connected
  refine ⟨eventTap, ?_⟩
  rw [ran, none_, List.append_nil]

theorem Awaited.setup {completion : StopCompletion} (awaited : state.Awaited completion)
    (cgeventtapFallbackEnabled : Bool) :
    (state.setupEventTapMonitor cgeventtapFallbackEnabled).Awaited completion := by
  rw [setupEventTapMonitor_of_stopping awaited.stopping]
  exact ⟨awaited.stopping, awaited.continues, rfl, rfl⟩

/-- A completion stays awaited as long as the stop, the pending configuration and the request are
the same. -/
theorem Awaited.transfer {completion : StopCompletion} (awaited : state.Awaited completion)
    {next : MonitorReplacement} (stopping : next.stopping = state.stopping)
    (pendingConfiguration : next.pendingConfiguration = state.pendingConfiguration)
    (requested : next.requested = state.requested) : next.Awaited completion where
  stopping := stopping.trans awaited.stopping
  continues := awaited.continues
  pendingConfiguration := by
    rw [pendingConfiguration, requested]
    exact awaited.pendingConfiguration
  requested := requested ▸ awaited.requested

section Leaving

variable {object : MonitorObject} {completion : StopCompletion}

/-- While a monitor stops, only the configuration to come is noted. -/
theorem Stopping.setup (stopping : state.Stopping object completion) (alive : state.alive = true)
    (cgeventtapFallbackEnabled : Bool) :
    (state.setupEventTapMonitor cgeventtapFallbackEnabled).Stopping object completion := by
  have awaited := (stopping.awaited alive).setup cgeventtapFallbackEnabled
  rw [setupEventTapMonitor_of_stopping (stopping.awaited alive).stopping] at awaited ⊢
  exact { stopping with awaited := fun _ => awaited }

theorem Stopping.destroy (stopping : state.Stopping object completion) :
    state.destroyDeviceGrabber.Stopping object completion := by
  rw [destroyDeviceGrabber_of_none stopping.eventTapMonitor]
  exact { stopping with awaited := nofun }

/-- The completion follows every job of the monitor that was enqueued before. -/
theorem Stopping.cleanup (stopping : state.Stopping object completion) (id : Nat) :
    state.cleanup id = state ∨ ∃ cleaned, (state.cleanup id).Stopped cleaned completion ∧
      (state.cleanup id).aborted = state.aborted ∧
      (state.cleanup id).slotCalls = state.slotCalls := by
  by_cases same : completion.monitorId = id
  · have own : object.id = id := stopping.monitorId.symm.trans same
    have found : state.blocks.find? (·.monitorId = id) = some completion := by
      simp [stopping.blocks, same]
    have cleaned : state.cleanup id = { state with
        objects := [{ object with eventTap := false, cleanupCompleted := true }]
        blocks := []
        jobs := state.jobs ++ [.stopCompleted completion] } := by
      unfold MonitorReplacement.cleanup
      rw [found]
      dsimp only
      rw [release_of_retains]
      · simp [modifyObject, stopping.objects, stopping.blocks, own]
      · rw [retains_iff]
        refine .inr (.inr (.inl ⟨.stopCompleted completion, ?_, congrArg some same⟩))
        exact List.mem_append_right _ (List.mem_singleton_self _)
    rw [cleaned]
    exact .inr ⟨{ object with eventTap := false, cleanupCompleted := true },
      { stopping with
        objects := rfl
        cleanupCompleted := rfl
        blocks := rfl
        jobs := ⟨state.jobs, [], rfl, stopping.jobs, nofun⟩
        awaited := fun alive => (stopping.awaited alive).transfer rfl rfl rfl }, rfl, rfl⟩
  · left
    have notFound : state.blocks.find? (·.monitorId = id) = none := by
      simp [stopping.blocks, same]
    unfold MonitorReplacement.cleanup
    rw [notFound]

theorem Stopping.callback (stopping : state.Stopping object completion) (id : Nat) :
    (state.callback id).Stopping object completion := by
  rcases callback_cases_single stopping.objects id with same | called
  · rw [same]
    exact stopping
  · rw [called]
    exact { stopping with
      jobs := plain_snoc stopping.jobs
      awaited := fun alive => (stopping.awaited alive).transfer rfl rfl rfl }

/-- A job that starts leaves the monitor stopping. -/
theorem Stopping.startJob (stopping : state.Stopping object completion) (tapCreated : Bool) :
    state.startJob tapCreated = state ∨
      ∃ next, (state.startJob tapCreated).Stopping next completion ∧
        (state.startJob tapCreated).aborted = state.aborted ∧
        (state.startJob tapCreated).slotCalls = state.slotCalls := by
  rcases state.startJob_cases tapCreated with same | ⟨job, rest, _, jobs, started⟩
  · exact .inl same
  · right
    have plain := stopping.jobs
    rw [jobs] at plain
    have first := plain job List.mem_cons_self
    obtain ⟨eventTap, ran⟩ := @runJob_of_disconnected
      { state with jobs := rest, running := some job } _ stopping.objects stopping.connected _ first
      tapCreated
    rw [started, ran]
    exact ⟨{ object with eventTap }, { stopping with
      objects := rfl
      jobs := fun other member => plain other (List.mem_cons_of_mem _ member)
      running := plain_some first
      awaited := fun alive => (stopping.awaited alive).transfer rfl rfl rfl }, rfl, rfl⟩

theorem Stopping.finishJob (stopping : state.Stopping object completion) :
    state.finishJob.Stopping object completion := by
  rw [finishJob_of_plain stopping.running]
  exact { stopping with
    running := nofun
    awaited := fun alive => (stopping.awaited alive).transfer rfl rfl rfl }

theorem Stopped.setup (stopped : state.Stopped object completion) (alive : state.alive = true)
    (cgeventtapFallbackEnabled : Bool) :
    (state.setupEventTapMonitor cgeventtapFallbackEnabled).Stopped object completion := by
  have awaited := (stopped.awaited alive).setup cgeventtapFallbackEnabled
  rw [setupEventTapMonitor_of_stopping (stopped.awaited alive).stopping] at awaited ⊢
  exact { stopped with awaited := fun _ => awaited }

theorem Stopped.destroy (stopped : state.Stopped object completion) :
    state.destroyDeviceGrabber.Stopped object completion := by
  rw [destroyDeviceGrabber_of_none stopped.eventTapMonitor]
  exact { stopped with awaited := nofun }

theorem Stopped.callback (stopped : state.Stopped object completion) (id : Nat) :
    (state.callback id).Stopped object completion := by
  rcases callback_cases_single stopped.objects id with same | called
  · rw [same]
    exact stopped
  · obtain ⟨before, after, jobs, first, second⟩ := stopped.jobs
    have pushed : state.jobs ++ [.eventArrived object.id] =
        before ++ .stopCompleted completion :: (after ++ [.eventArrived object.id]) := by
      rw [jobs, List.append_assoc, List.cons_append]
    rw [called]
    exact { stopped with
      jobs := ⟨before, after ++ [.eventArrived object.id], pushed, first, plain_snoc second⟩
      awaited := fun alive => (stopped.awaited alive).transfer rfl rfl rfl }

theorem Stopped.finishJob (stopped : state.Stopped object completion) :
    state.finishJob.Stopped object completion := by
  rw [finishJob_of_plain stopped.running]
  exact { stopped with
    running := nofun
    awaited := fun alive => (stopped.awaited alive).transfer rfl rfl rfl }

/-- Without the grabber the completion does nothing. -/
theorem runJob_of_destroyed (destroyed : state.alive = false) (tapCreated : Bool) :
    state.runJob tapCreated (.stopCompleted completion) = state := by
  unfold runJob continueReplacement
  rw [if_neg (Bool.eq_false_iff.mp destroyed)]
  exact ite_self _

/-- The completion creates the monitor that is pending, if the grabber waits for it. -/
theorem runJob_of_awaited (continues : completion.continues = true) (alive : state.alive = true)
    (noMonitor : state.eventTapMonitor = none) {cgeventtapFallbackEnabled : Bool}
    (pending : state.pendingConfiguration = some cgeventtapFallbackEnabled) (tapCreated : Bool) :
    state.runJob tapCreated (.stopCompleted completion) = { state with
      stopping := false
      pendingConfiguration := none
      eventTapMonitor := some (state.created + 1)
      objects := state.objects ++
        [⟨state.created + 1, cgeventtapFallbackEnabled, true, false, false⟩]
      created := state.created + 1
      jobs := state.jobs ++ [.asyncStart (state.created + 1)] } := by
  unfold runJob continueReplacement
  dsimp only
  rw [if_pos continues, if_pos alive]
  exact @createPendingEventTapMonitor_of_none { state with stopping := false } noMonitor _ pending

/-- The completion destroys its monitor or hands over to the next one. -/
theorem Stopped.complete (stopped : state.Stopped object completion) {rest : List MonitorJob}
    (plain : ∀ job ∈ rest, job.Plain object.id) (tapCreated : Bool) :
    let next := { state with jobs := rest, running := some (.stopCompleted completion) }.runJob
      tapCreated (.stopCompleted completion)
    next.Phase ∧ next.aborted = state.aborted ∧ next.slotCalls = state.slotCalls := by
  dsimp only
  cases alive : state.alive with
  | false =>
      rw [@runJob_of_destroyed _ completion rfl]
      exact ⟨.completing object completion { stopped with
        jobs := plain, running := rfl, destroyed := rfl }, rfl, rfl⟩
  | true =>
      have awaited := stopped.awaited alive
      obtain ⟨requested, same⟩ := Option.isSome_iff_exists.mp awaited.requested
      rw [@runJob_of_awaited { state with
        alive := true, jobs := rest, running := some (.stopCompleted completion) } completion
        awaited.continues rfl stopped.eventTapMonitor requested
        (awaited.pendingConfiguration.trans same)]
      refine ⟨.handover object ⟨state.created + 1, requested, true, false, false⟩ completion
        { objects := ?_, eventTapMonitor := rfl, monitorId := stopped.monitorId
          cleanupCompleted := stopped.cleanupCompleted, noEventTap := rfl
          newer := Nat.lt_succ_of_le stopped.created, created := Nat.le_refl _
          blocks := stopped.blocks, jobs := ?_, running := rfl, alive := rfl, stopping := rfl
          pendingConfiguration := rfl, requested := same }, rfl, rfl⟩
      · simp [stopped.objects]
      · intro job member
        rcases List.mem_append.mp member with earlier | new
        · exact .inl (plain job earlier)
        · rw [List.mem_singleton.mp new]
          exact .inr (MonitorJob.plain_asyncStart _)

/-- Starting a job after the stop keeps the phases, and nothing is aborted. -/
theorem Stopped.startJob (stopped : state.Stopped object completion) (tapCreated : Bool) :
    (state.startJob tapCreated).Phase ∧ (state.startJob tapCreated).aborted = state.aborted ∧
      (state.startJob tapCreated).slotCalls = state.slotCalls := by
  rcases state.startJob_cases tapCreated with same | ⟨job, rest, _, jobs, started⟩
  · rw [same]
    exact ⟨.stopped object completion stopped, rfl, rfl⟩
  · rw [started]
    obtain ⟨before, after, split, first, second⟩ := stopped.jobs
    rw [jobs] at split
    cases before with
    | nil =>
        obtain ⟨rfl, rfl⟩ := List.cons.inj split
        exact stopped.complete second tapCreated
    | cons head before =>
        rw [List.cons_append] at split
        obtain ⟨rfl, rfl⟩ := List.cons.inj split
        have plain := first job List.mem_cons_self
        obtain ⟨eventTap, ran⟩ := @runJob_of_disconnected
          { state with jobs := before ++ .stopCompleted completion :: after, running := some job } _
          stopped.objects stopped.connected _ plain tapCreated
        rw [ran]
        exact ⟨.stopped { object with eventTap } completion { stopped with
          objects := rfl
          jobs := ⟨before, after, rfl, fun other member =>
            first other (List.mem_cons_of_mem _ member), second⟩
          running := plain_some plain
          awaited := fun alive => (stopped.awaited alive).transfer rfl rfl rfl }, rfl, rfl⟩

theorem Completing.callback (completing : state.Completing object completion) (id : Nat) :
    (state.callback id).Completing object completion := by
  rcases callback_cases_single completing.objects id with same | called
  · rw [same]
    exact completing
  · rw [called]
    exact { completing with jobs := plain_snoc completing.jobs }

/-- A plain job retains no monitor. -/
theorem not_retained_of_plain {jobs : List MonitorJob} {id : Nat}
    (plain : ∀ job ∈ jobs, ∃ other, job.Plain other) :
    ¬ ∃ job ∈ jobs, job.retained = some id := by
  rintro ⟨job, member, retained⟩
  obtain ⟨_, isPlain⟩ := plain job member
  rw [isPlain.retained] at retained
  cases retained

/-- The captures of a completion are the last reference to its monitor. -/
theorem finishJob_of_completion (running : state.running = some (.stopCompleted completion))
    (unused : state.eventTapMonitor ≠ some completion.monitorId) (blocks : state.blocks = [])
    (plain : ∀ job ∈ state.jobs, ∃ other, job.Plain other)
    (found : state.object? completion.monitorId = some object)
    (cleaned : object.cleanupCompleted = true) :
    state.finishJob = { state with
      running := none
      objects := state.objects.filter (·.id ≠ completion.monitorId)
      jobs := state.jobs.filter (·.monitorId ≠ completion.monitorId) } := by
  unfold MonitorReplacement.finishJob
  rw [running]
  have unretained : { state with running := none }.retains completion.monitorId = false := by
    rw [Bool.eq_false_iff, Ne, retains_iff]
    rintro (inUse | ⟨_, member, _⟩ | retained | ⟨_, member, _⟩)
    · exact unused inUse
    · rw [blocks] at member
      cases member
    · exact not_retained_of_plain plain retained
    · cases member
  exact @release_last { state with running := none } _ _ unretained found cleaned

/-- The completion that ends leaves the grabber idle, with nothing aborted. -/
theorem Completing.finishJob (completing : state.Completing object completion) :
    state.finishJob.Idle ∧ state.finishJob.aborted = state.aborted ∧
      state.finishJob.slotCalls = state.slotCalls := by
  have unused : state.eventTapMonitor ≠ some completion.monitorId := by
    rw [completing.eventTapMonitor]
    nofun
  have found : state.object? completion.monitorId = some object := by
    simp [object?, completing.objects, completing.monitorId]
  rw [finishJob_of_completion completing.running unused completing.blocks
    (fun job member => ⟨_, completing.jobs job member⟩) found completing.cleanupCompleted]
  refine ⟨⟨?_, completing.eventTapMonitor, completing.blocks, ?_, rfl, fun alive => ?_⟩, rfl, rfl⟩
  · simp [completing.objects, completing.monitorId]
  · apply List.filter_eq_nil_iff.mpr
    intro job member
    have own := (completing.jobs job member).monitorId
    simp [own, completing.monitorId]
  · rw [show state.alive = false from completing.destroyed] at alive
    cases alive

end Leaving

section Successor

variable {object successor : MonitorObject} {completion : StopCompletion}

/-- Until its job starts, only the old monitor may hold an event tap. -/
theorem Handover.callback (handover : state.Handover object successor completion) (id : Nat) :
    (state.callback id).Handover object successor completion := by
  rcases state.callback_cases id with same | ⟨other, member, own, tap, called⟩
  · rw [same]
    exact handover
  · have isOld : other = object := by
      rw [handover.objects] at member
      rcases List.mem_cons.mp member with old | new
      · exact old
      · rw [List.mem_singleton.mp new, handover.noEventTap] at tap
        cases tap
    rw [called]
    refine { handover with jobs := fun job member => ?_ }
    rcases List.mem_append.mp member with earlier | new
    · exact handover.jobs job earlier
    · rw [List.mem_singleton.mp new, ← own, isOld]
      exact .inl (MonitorJob.plain_eventArrived _)

/-- The old monitor is destroyed before the job of the new one starts. -/
theorem Handover.finishJob (handover : state.Handover object successor completion) :
    state.finishJob.InUse successor ∧ state.finishJob.aborted = state.aborted ∧
      state.finishJob.slotCalls = state.slotCalls := by
  have newId : successor.id ≠ object.id := Nat.ne_of_gt handover.newer
  have unused : state.eventTapMonitor ≠ some completion.monitorId := by
    rw [handover.eventTapMonitor, handover.monitorId]
    exact fun same => newId (Option.some.inj same)
  have found : state.object? completion.monitorId = some object := by
    simp [object?, handover.objects, handover.monitorId]
  have plain : ∀ job ∈ state.jobs, ∃ other, job.Plain other := by
    intro job member
    rcases handover.jobs job member with old | new
    · exact ⟨_, old⟩
    · exact ⟨_, new⟩
  rw [finishJob_of_completion handover.running unused handover.blocks plain found
    handover.cleanupCompleted]
  refine ⟨⟨?_, handover.eventTapMonitor, handover.blocks, ?_, nofun, handover.alive,
    handover.stopping, handover.pendingConfiguration, handover.requested, handover.created⟩,
    rfl, rfl⟩
  · simp [handover.objects, handover.monitorId, newId]
  · intro job member
    obtain ⟨member, other⟩ := List.mem_filter.mp member
    rcases handover.jobs job member with old | new
    · rw [old.monitorId, handover.monitorId] at other
      exact absurd rfl (of_decide_eq_true other)
    · exact new

end Successor

end MonitorReplacement

end Karabiner

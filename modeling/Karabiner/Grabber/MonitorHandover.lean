import Karabiner.Foundation.Execution
import Karabiner.Grabber.MonitorPhases

/-! # One event tap at a time

The successor of a monitor gets its event tap from a job behind the completion whose
captures are the last reference to the old one. So two monitors never hold an event tap
together, none is destroyed before its cleanup, and what was requested last is what is in
use in the end (`Karabiner.MonitorReplacement.replacedSafely`).
-/

namespace Karabiner

namespace MonitorReplacement

variable {state : MonitorReplacement}

/-- Nothing is allowed of the grabber while a job of a monitor runs. -/
theorem step_of_running {job : MonitorJob} (running : state.running = some job) :
    (∀ cgeventtapFallbackEnabled,
      state.step (.setupEventTapMonitor cgeventtapFallbackEnabled) = state) ∧
      state.step .destroyDeviceGrabber = state ∧
      ∀ tapCreated, state.step (.startJob tapCreated) = state := by
  have busy : ¬ (state.alive = true ∧ state.running = none) := by
    rw [running]
    nofun
  refine ⟨fun _ => if_neg busy, if_neg busy, fun tapCreated => ?_⟩
  change state.startJob tapCreated = state
  unfold startJob
  rw [running]

theorem step_setup_cases (state : MonitorReplacement) (cgeventtapFallbackEnabled : Bool) :
    state.step (.setupEventTapMonitor cgeventtapFallbackEnabled) = state ∨
      state.alive = true ∧ state.step (.setupEventTapMonitor cgeventtapFallbackEnabled) =
        state.setupEventTapMonitor cgeventtapFallbackEnabled := by
  unfold MonitorReplacement.step
  dsimp only
  split
  case isTrue allowed => exact .inr ⟨allowed.1, rfl⟩
  case isFalse => exact .inl rfl

theorem step_destroy_cases (state : MonitorReplacement) :
    state.step .destroyDeviceGrabber = state ∨
      state.step .destroyDeviceGrabber = state.destroyDeviceGrabber := by
  unfold MonitorReplacement.step
  dsimp only
  split
  · exact .inr rfl
  · exact .inl rfl

/-- A step that neither aborts nor calls a slot. -/
structure Continues (state next : MonitorReplacement) : Prop where
  phase : next.Phase
  aborted : next.aborted = state.aborted
  slotCalls : next.slotCalls = state.slotCalls

theorem Continues.of_eq {next : MonitorReplacement} (phase : state.Phase) (same : next = state) :
    state.Continues next := by
  subst same
  exact ⟨phase, rfl, rfl⟩

theorem Continues.callback {id : Nat} (phase : (state.callback id).Phase) :
    state.Continues (state.callback id) :=
  ⟨phase, (state.callback_unharmed id).1, (state.callback_unharmed id).2⟩

theorem Continues.finishJob {id : Nat} (running : ∀ job ∈ state.running, job.Plain id)
    (phase : state.finishJob.Phase) : state.Continues state.finishJob := by
  refine ⟨phase, ?_, ?_⟩ <;> rw [finishJob_of_plain running]

theorem Continues.unharmed {next : MonitorReplacement} (continues : state.Continues next)
    (unharmed : state.Unharmed) : next.Unharmed :=
  ⟨continues.aborted.trans unharmed.aborted, continues.slotCalls ▸ unharmed.slotCalls⟩

/-- From idle every action leads to a phase, with nothing aborted and no call of a monitor. -/
theorem Idle.step (idle : state.Idle) (action : MonitorReplacementAction) :
    state.Continues (state.step action) := by
  have unchanged : ∀ {next}, next = state → state.Continues next :=
    Continues.of_eq (.idle idle)
  cases action with
  | setupEventTapMonitor cgeventtapFallbackEnabled =>
      rcases state.step_setup_cases cgeventtapFallbackEnabled with same | ⟨alive, requested⟩
      · exact unchanged same
      · have created := setupEventTapMonitor_of_none (idle.unrequested alive).1
          idle.eventTapMonitor cgeventtapFallbackEnabled
        rw [requested]
        exact ⟨.inUse _ (idle.setup alive cgeventtapFallbackEnabled), by rw [created], by rw [created]⟩
  | destroyDeviceGrabber =>
      rcases state.step_destroy_cases with same | destroyed
      · exact unchanged same
      · have gone := destroyDeviceGrabber_of_none idle.eventTapMonitor
        rw [destroyed]
        exact ⟨.idle idle.destroy, by rw [gone], by rw [gone]⟩
  | cleanup id => exact unchanged (cleanup_of_noBlocks idle.blocks id)
  | callback id =>
      rcases state.callback_cases id with same | ⟨object, member, _⟩
      · exact unchanged same
      · rw [idle.objects] at member
        cases member
  | startJob tapCreated =>
      rcases state.startJob_cases tapCreated with same | ⟨job, rest, _, jobs, _⟩
      · exact unchanged same
      · rw [idle.jobs] at jobs
        cases jobs
  | finishJob =>
      apply unchanged
      change state.finishJob = state
      unfold finishJob
      rw [idle.running]

/-- From a monitor in use every action leads to a phase, and what it calls is that monitor while it
is alive. -/
theorem InUse.step {object : MonitorObject} (inUse : state.InUse object)
    (unharmed : state.Unharmed) (action : MonitorReplacementAction) :
    (state.step action).Unharmed ∧ (state.step action).Phase := by
  -- Only a job that starts can call a slot.
  have continued : ∀ {next}, state.Continues next → next.Unharmed ∧ next.Phase :=
    fun continues => ⟨continues.unharmed unharmed, continues.phase⟩
  have unchanged : ∀ {next}, next = state → next.Unharmed ∧ next.Phase :=
    fun same => continued (Continues.of_eq (.inUse object inUse) same)
  cases action with
  | setupEventTapMonitor cgeventtapFallbackEnabled =>
      rcases state.step_setup_cases cgeventtapFallbackEnabled with same | ⟨_, requested⟩
      · exact unchanged same
      · have stopped := setupEventTapMonitor_of_inUse inUse.stopping inUse.objects
          inUse.eventTapMonitor inUse.blocks cgeventtapFallbackEnabled
        rw [requested]
        exact continued ⟨.stopping _ _ (inUse.setup cgeventtapFallbackEnabled), by rw [stopped],
          by rw [stopped]⟩
  | destroyDeviceGrabber =>
      rcases state.step_destroy_cases with same | destroyed
      · exact unchanged same
      · have stopped := destroyDeviceGrabber_of_inUse inUse.objects inUse.eventTapMonitor
          inUse.blocks
        rw [destroyed]
        exact continued ⟨.stopping _ _ inUse.destroy, by rw [stopped], by rw [stopped]⟩
  | cleanup id => exact unchanged (cleanup_of_noBlocks inUse.blocks id)
  | callback id => exact continued (.callback (.inUse object (inUse.callback id)))
  | startJob tapCreated =>
      obtain ⟨stillUnharmed, next, phase⟩ := inUse.startJob unharmed tapCreated
      exact ⟨stillUnharmed, .inUse next phase⟩
  | finishJob =>
      have finished : state.finishJob.InUse object := by
        rw [finishJob_of_plain inUse.running]
        exact { inUse with running := nofun }
      exact continued (.finishJob inUse.running (.inUse object finished))

section Leaving

variable {object : MonitorObject} {completion : StopCompletion}

/-- While a monitor is stopping every action leads to a phase and calls no monitor. -/
theorem Stopping.step (stopping : state.Stopping object completion)
    (action : MonitorReplacementAction) : state.Continues (state.step action) := by
  have unchanged : ∀ {next}, next = state → state.Continues next :=
    Continues.of_eq (.stopping object completion stopping)
  cases action with
  | setupEventTapMonitor cgeventtapFallbackEnabled =>
      rcases state.step_setup_cases cgeventtapFallbackEnabled with same | ⟨alive, requested⟩
      · exact unchanged same
      · have noted := setupEventTapMonitor_of_stopping (stopping.awaited alive).stopping
          cgeventtapFallbackEnabled
        rw [requested]
        exact ⟨.stopping _ _ (stopping.setup alive cgeventtapFallbackEnabled), by rw [noted],
          by rw [noted]⟩
  | destroyDeviceGrabber =>
      rcases state.step_destroy_cases with same | destroyed
      · exact unchanged same
      · have gone := destroyDeviceGrabber_of_none stopping.eventTapMonitor
        rw [destroyed]
        exact ⟨.stopping _ _ stopping.destroy, by rw [gone], by rw [gone]⟩
  | cleanup id =>
      rcases stopping.cleanup id with same | ⟨cleaned, stopped, aborted, slotCalls⟩
      · exact unchanged same
      · exact ⟨.stopped cleaned completion stopped, aborted, slotCalls⟩
  | callback id => exact .callback (.stopping object completion (stopping.callback id))
  | startJob tapCreated =>
      rcases stopping.startJob tapCreated with same | ⟨next, phase, aborted, slotCalls⟩
      · exact unchanged same
      · exact ⟨.stopping next completion phase, aborted, slotCalls⟩
  | finishJob =>
      exact .finishJob stopping.running (.stopping object completion stopping.finishJob)

/-- Once a monitor has stopped every action leads to a phase, from which its completion may start.
-/
theorem Stopped.step (stopped : state.Stopped object completion)
    (action : MonitorReplacementAction) : state.Continues (state.step action) := by
  have unchanged : ∀ {next}, next = state → state.Continues next :=
    Continues.of_eq (.stopped object completion stopped)
  cases action with
  | setupEventTapMonitor cgeventtapFallbackEnabled =>
      rcases state.step_setup_cases cgeventtapFallbackEnabled with same | ⟨alive, requested⟩
      · exact unchanged same
      · have noted := setupEventTapMonitor_of_stopping (stopped.awaited alive).stopping
          cgeventtapFallbackEnabled
        rw [requested]
        exact ⟨.stopped _ _ (stopped.setup alive cgeventtapFallbackEnabled), by rw [noted],
          by rw [noted]⟩
  | destroyDeviceGrabber =>
      rcases state.step_destroy_cases with same | destroyed
      · exact unchanged same
      · have gone := destroyDeviceGrabber_of_none stopped.eventTapMonitor
        rw [destroyed]
        exact ⟨.stopped _ _ stopped.destroy, by rw [gone], by rw [gone]⟩
  | cleanup id => exact unchanged (cleanup_of_noBlocks stopped.blocks id)
  | callback id => exact .callback (.stopped object completion (stopped.callback id))
  | startJob tapCreated =>
      obtain ⟨phase, aborted, slotCalls⟩ := stopped.startJob tapCreated
      exact ⟨phase, aborted, slotCalls⟩
  | finishJob =>
      exact .finishJob stopped.running (.stopped object completion stopped.finishJob)

theorem Completing.step (completing : state.Completing object completion)
    (action : MonitorReplacementAction) : state.Continues (state.step action) := by
  obtain ⟨noSetup, noDestroy, noStart⟩ := step_of_running completing.running
  have unchanged : ∀ {next}, next = state → state.Continues next :=
    Continues.of_eq (.completing object completion completing)
  cases action with
  | setupEventTapMonitor cgeventtapFallbackEnabled => exact unchanged (noSetup _)
  | destroyDeviceGrabber => exact unchanged noDestroy
  | cleanup id => exact unchanged (cleanup_of_noBlocks completing.blocks id)
  | callback id => exact .callback (.completing object completion (completing.callback id))
  | startJob tapCreated => exact unchanged (noStart _)
  | finishJob =>
      obtain ⟨idle, aborted, slotCalls⟩ := completing.finishJob
      exact ⟨.idle idle, aborted, slotCalls⟩

end Leaving

/-- While the completion hands over to a successor every action leads to a phase, and the successor
is not called yet. -/
theorem Handover.step {object successor : MonitorObject} {completion : StopCompletion}
    (handover : state.Handover object successor completion) (action : MonitorReplacementAction) :
    state.Continues (state.step action) := by
  obtain ⟨noSetup, noDestroy, noStart⟩ := step_of_running handover.running
  have unchanged : ∀ {next}, next = state → state.Continues next :=
    Continues.of_eq (.handover object successor completion handover)
  cases action with
  | setupEventTapMonitor cgeventtapFallbackEnabled => exact unchanged (noSetup _)
  | destroyDeviceGrabber => exact unchanged noDestroy
  | cleanup id => exact unchanged (cleanup_of_noBlocks handover.blocks id)
  | callback id =>
      exact .callback (.handover object successor completion (handover.callback id))
  | startJob tapCreated => exact unchanged (noStart _)
  | finishJob =>
      obtain ⟨inUse, aborted, slotCalls⟩ := handover.finishJob
      exact ⟨.inUse successor inUse, aborted, slotCalls⟩

/-- From each phase every action leads to a phase again and harms nothing. -/
theorem Phase.step (phase : state.Phase) (unharmed : state.Unharmed)
    (action : MonitorReplacementAction) :
    (state.step action).Unharmed ∧ (state.step action).Phase := by
  have continued : ∀ {next}, state.Continues next → next.Unharmed ∧ next.Phase :=
    fun continues => ⟨continues.unharmed unharmed, continues.phase⟩
  cases phase with
  | idle idle => exact continued (idle.step action)
  | inUse object inUse => exact inUse.step unharmed action
  | stopping object completion stopping => exact continued (stopping.step action)
  | stopped object completion stopped => exact continued (stopped.step action)
  | completing object completion completing => exact continued (completing.step action)
  | handover object successor completion handover => exact continued (handover.step action)

/-- Nothing is left to do. -/
structure Quiescent (state : MonitorReplacement) : Prop where
  blocks : state.blocks = []
  jobs : state.jobs = []
  running : state.running = none

/-- What the replacement guarantees: no two monitors hold an event tap, no destructor
aborts, slots are called by the monitor in use for the grabber that exists, and the monitor
that remains is the one requested last. -/
structure ReplacedSafely (state : MonitorReplacement) : Prop where
  oneEventTap : state.objects.Pairwise fun first second =>
    ¬ (first.eventTap = true ∧ second.eventTap = true)
  aborted : state.aborted = false
  slotCalls : ∀ call ∈ state.slotCalls, call.alive = true ∧ call.inUse = true
  requested : state.Quiescent → state.alive = true →
    state.objects.map MonitorObject.cgeventtapFallbackEnabled = state.requested.toList ∧
      state.eventTapMonitor = state.objects.head?.map MonitorObject.id

/-- In each phase at most one monitor object has an event tap. -/
theorem Phase.oneEventTap (phase : state.Phase) : state.objects.Pairwise fun first second =>
    ¬ (first.eventTap = true ∧ second.eventTap = true) := by
  have single : ∀ {object}, state.objects = [object] → state.objects.Pairwise fun first second =>
      ¬ (first.eventTap = true ∧ second.eventTap = true) := by
    intro object objects
    rw [objects]
    exact List.pairwise_singleton _ _
  cases phase with
  | idle idle =>
      rw [idle.objects]
      exact List.Pairwise.nil
  | inUse object inUse => exact single inUse.objects
  | stopping object completion stopping => exact single stopping.objects
  | stopped object completion stopped => exact single stopped.objects
  | completing object completion completing => exact single completing.objects
  | handover object successor completion handover =>
      rw [handover.objects, List.pairwise_pair]
      rintro ⟨_, tap⟩
      rw [handover.noEventTap] at tap
      cases tap

/-- When nothing is left to do, no monitor is being stopped. -/
theorem Phase.requested (phase : state.Phase) (quiescent : state.Quiescent)
    (alive : state.alive = true) :
    state.objects.map MonitorObject.cgeventtapFallbackEnabled = state.requested.toList ∧
      state.eventTapMonitor = state.objects.head?.map MonitorObject.id := by
  cases phase with
  | idle idle =>
      rw [idle.objects, idle.eventTapMonitor, (idle.unrequested alive).2.2]
      exact ⟨rfl, rfl⟩
  | inUse object inUse =>
      rw [inUse.objects, inUse.eventTapMonitor, inUse.requested]
      exact ⟨rfl, rfl⟩
  | stopping object completion stopping =>
      cases quiescent.blocks.symm.trans stopping.blocks
  | stopped object completion stopped =>
      obtain ⟨before, after, jobs, _⟩ := stopped.jobs
      rw [quiescent.jobs] at jobs
      cases before <;> cases jobs
  | completing object completion completing =>
      cases quiescent.running.symm.trans completing.running
  | handover object successor completion handover =>
      cases quiescent.running.symm.trans handover.running

end MonitorReplacement

end Karabiner

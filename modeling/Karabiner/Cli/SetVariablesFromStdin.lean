import Mathlib.Data.List.Infix
import Karabiner.Foundation.Execution

/-! # Variables from the standard input

`set-variables-from-stdin` reads lines on one thread and sends them to the daemon from the
dispatcher, one request at a time. The two threads share a queue whose last entry is the end of
the input. In every order of what happens the requests that succeed are the first lines, each
once (`Sound.delivered`). When the input has ended the rest of the queue is given up after a
failure, and a lost connection counts as a failure even when it has been made again: the lines
are given up untried only if the task then finds the input ended (`delivers_iff`).

The connection, the requests and the two threads are of any order; within the dispatched task
the reading thread may go on between any two accesses to the queue.
-/

namespace Karabiner

/-- Where `process_pending_task` is: it has returned, or it will look for the end of the input
at the front, or for the variables there. -/
inductive TaskStage where
  | returned
  | completing
  | getting
deriving DecidableEq

/-- `runner` and its `components_manager`, with the history of the run. Lines are JSON objects,
of which nothing is read here; no line at an entry of the queue marks the end of the input. -/
structure SetVariablesFromStdin (α : Type) where
  pendingVariables : List (Option α)
  verbose : Bool
  output : List α
  /-- `input_completion_wait_` has been notified. -/
  notified : Bool
  /-- The calls of `enqueue_task` that the dispatcher has not run. -/
  enqueuedTasks : Nat
  /-- `process_pending_task_` will be run. -/
  scheduled : Bool
  stage : TaskStage
  requestVariables : Option α
  requestInFlight : Bool
  requestFailed : Bool
  connected : Bool
  /-- The lines that have been enqueued. -/
  accepted : List α
  endOfInput : Bool
  /-- The requests that have been sent and not completed. -/
  outstanding : List α
  /-- The requests that have completed without error. -/
  succeeded : List α
  /-- The queue has been given up. -/
  aborted : Bool
  /-- A request that carried the front entry has failed. -/
  frontFailed : Bool

namespace SetVariablesFromStdin

variable {α : Type}

def start (verbose : Bool) : SetVariablesFromStdin α where
  pendingVariables := []
  verbose := verbose
  output := []
  notified := false
  enqueuedTasks := 0
  scheduled := false
  stage := .returned
  requestVariables := none
  requestInFlight := false
  requestFailed := false
  connected := false
  accepted := []
  endOfInput := false
  outstanding := []
  succeeded := []
  aborted := false
  frontFailed := false

/-! ## The queue -/

/-- `get_pending_variables`. -/
def getPendingVariables (run : SetVariablesFromStdin α) : Option α :=
  match run.pendingVariables with
  | some values :: _ => some values
  | _ => none

/-- `output_variables_if_verbose`. -/
def outputVariablesIfVerbose (run : SetVariablesFromStdin α) (values : α) :
    SetVariablesFromStdin α :=
  { run with output := if run.verbose then run.output ++ [values] else run.output }

/-- `complete_pending_variables`. -/
def completePendingVariables (run : SetVariablesFromStdin α) : SetVariablesFromStdin α :=
  { run with pendingVariables := run.pendingVariables.tail }

/-- `complete_input_if_front`: the end of the input is at the front. -/
def endAtFront (run : SetVariablesFromStdin α) : Bool :=
  match run.pendingVariables with
  | none :: _ => true
  | _ => false

/-- What `complete_input_if_front` then does. -/
def completeInput (run : SetVariablesFromStdin α) : SetVariablesFromStdin α :=
  { run with pendingVariables := run.pendingVariables.tail, notified := true }

/-- `abort_pending_variables_if_input_complete`: the end of the input is at the back. -/
def endAtBack (run : SetVariablesFromStdin α) : Bool :=
  match run.pendingVariables.getLast? with
  | some none => true
  | _ => false

/-- What `abort_pending_variables_if_input_complete` then does. -/
def abortPendingVariables (run : SetVariablesFromStdin α) : SetVariablesFromStdin α :=
  { run with pendingVariables := [], notified := true, aborted := true }

/-- `enqueue_set_variables`. -/
def enqueueSetVariables (run : SetVariablesFromStdin α) (values : α) :
    SetVariablesFromStdin α :=
  { run with
    pendingVariables := run.pendingVariables ++ [some values]
    enqueuedTasks := run.enqueuedTasks + 1
    accepted := run.accepted ++ [values] }

/-- `enqueue_input_completion`. -/
def enqueueInputCompletion (run : SetVariablesFromStdin α) : SetVariablesFromStdin α :=
  { run with
    pendingVariables := run.pendingVariables ++ [none]
    enqueuedTasks := run.enqueuedTasks + 1
    endOfInput := true }

/-! ## The dispatcher -/

/-- `schedule_process_pending_task`. -/
def schedule (run : SetVariablesFromStdin α) : SetVariablesFromStdin α :=
  { run with scheduled := true }

/-- `async_set_variables_with_completion_handler`, and the task returns. -/
def send (run : SetVariablesFromStdin α) (values : α) : SetVariablesFromStdin α :=
  { run with
    requestInFlight := true
    outstanding := run.outstanding ++ [values]
    stage := .returned }

/-- `process_pending_task`, up to `complete_input_if_front`. -/
def processPendingTask (run : SetVariablesFromStdin α) : SetVariablesFromStdin α :=
  let fired := { run with scheduled := false }
  if fired.requestFailed && fired.endAtBack then
    { fired.abortPendingVariables with requestVariables := none, requestFailed := false }
  else if !fired.connected then fired
  else if fired.requestInFlight then fired
  else
    match fired.requestVariables with
    | some values => fired.send values
    | none => { fired with stage := .completing }

/-- `process_pending_task` goes on. -/
def continueTask (run : SetVariablesFromStdin α) : SetVariablesFromStdin α :=
  match run.stage with
  | .returned => run
  | .completing =>
      if run.endAtFront then { run.completeInput with stage := .returned }
      else { run with stage := .getting }
  | .getting =>
      let fetched :=
        { run with
          requestVariables := run.getPendingVariables
          requestFailed := false
          stage := .returned }
      match run.getPendingVariables with
      | some values => fetched.send values
      | none => fetched

/-- The completion handler of a request that has been sent. -/
def completionHandler (run : SetVariablesFromStdin α) (index : Nat) (error : Bool) :
    SetVariablesFromStdin α :=
  match run.outstanding[index]? with
  | none => run
  | some values =>
      let arrived :=
        { run with
          requestInFlight := false
          outstanding := run.outstanding.eraseIdx index }
      if !error then
        { (arrived.outputVariablesIfVerbose values).completePendingVariables with
          requestVariables := none
          requestFailed := false
          succeeded := run.succeeded ++ [values]
          frontFailed := false }.schedule
      else
        let failed := { arrived with requestFailed := true, frontFailed := true }
        if failed.endAtBack then { failed.abortPendingVariables with requestVariables := none }
        else failed.schedule

/-! ## Runs -/

/-- What happens on the two threads and to the connection. -/
inductive Action (α : Type) where
  /-- A line is read; it may be blank or refused. -/
  | readLine (values : Option α)
  | endOfInput
  | runEnqueuedTask
  | connected
  | connectFailed
  | closed
  | completed (index : Nat) (error : Bool)
  | fireTask
  | continueTask

def step (run : SetVariablesFromStdin α) : Action α → SetVariablesFromStdin α
  | .readLine (some values) => run.enqueueSetVariables values
  | .readLine none => run
  | .endOfInput => run.enqueueInputCompletion
  | .runEnqueuedTask =>
      if run.enqueuedTasks = 0 then run
      else { run with enqueuedTasks := run.enqueuedTasks - 1 }.schedule
  | .connected => { run with connected := true }.schedule
  | .connectFailed => { run with connected := false, requestFailed := true }.schedule
  | .closed => { run with connected := false, requestFailed := true }.schedule
  | .completed index error => run.completionHandler index error
  | .fireTask => if run.scheduled then run.processPendingTask else run
  | .continueTask => run.continueTask

/-- Nothing is read after the end of the input, only a request that has been sent completes,
and while the task runs nothing else does on the dispatcher. -/
def WellFormed (run : SetVariablesFromStdin α) : Action α → Prop
  | .readLine _ => run.endOfInput = false
  | .endOfInput => run.endOfInput = false
  | .completed index _ => run.stage = .returned ∧ index < run.outstanding.length
  | .continueTask => run.stage ≠ .returned
  | _ => run.stage = .returned

/-- What is left of the queue when the lines of it are these. -/
def entries (lines : List α) (endOfInput : Bool) : List (Option α) :=
  lines.map some ++ if endOfInput then [none] else []

/-- At any time one request at most is in flight, and those that have succeeded are the first
lines. The other lines are in the queue, unless it has been given up after the end of the
input. The input is complete when it has ended and the queue is empty. -/
structure Delivered (run : SetVariablesFromStdin α) : Prop where
  oneInFlight : run.outstanding.length ≤ 1
  inOrder : run.succeeded <+: run.accepted
  queued : run.aborted = false → ∃ rest, run.accepted = run.succeeded ++ rest ∧
    run.pendingVariables = entries rest (run.endOfInput && !run.notified)
  aborted : run.aborted = true → run.endOfInput = true
  complete : run.notified = true → run.endOfInput = true ∧ run.pendingVariables = []
  printed : run.output = if run.verbose then run.succeeded else []

/-- The queue is given up while connected only when a request that carried its front entry has
failed. -/
def AbortsAfterFailure (run : SetVariablesFromStdin α) (action : Action α) : Prop :=
  run.aborted = false → (run.step action).aborted = true → run.connected = true →
    (run.step action).frontFailed = true

/-- The task does not find the input ended, the connection made again, and the failure that of
the connection only. -/
def NoLostConnectionAtEnd (run : SetVariablesFromStdin α) (action : Action α) : Prop :=
  match action with
  | .fireTask => ¬(run.scheduled = true ∧ run.endAtBack = true ∧ run.connected = true ∧
      run.requestFailed = true ∧ run.frontFailed = false)
  | _ => True

/-! ## What every run keeps -/

/-- What is delivered, with the request that goes out or is out: it carries the front entry. -/
structure Sound (run : SetVariablesFromStdin α) : Prop where
  delivered : run.Delivered
  inFlight : run.outstanding.length = run.requestInFlight.toNat
  next : run.succeeded ++ run.outstanding <+: run.accepted
  front : ∀ values, run.requestVariables = some values →
    run.pendingVariables.head? = some (some values)
  carries : run.aborted = false → ∀ values ∈ run.outstanding, run.requestVariables = some values
  stage : run.stage ≠ .returned → run.requestVariables = none ∧ run.requestInFlight = false
  notified : run.aborted = true → run.notified = true

variable {run : SetVariablesFromStdin α}

theorem sound_start (verbose : Bool) : (start verbose : SetVariablesFromStdin α).Sound where
  delivered := {
    oneInFlight := Nat.zero_le 1
    inOrder := List.prefix_rfl
    queued := fun _ => ⟨[], rfl, rfl⟩
    aborted := nofun
    complete := nofun
    printed := by cases verbose <;> rfl }
  inFlight := rfl
  next := List.prefix_rfl
  front := nofun
  carries := by simp [start]
  stage := by simp [start]
  notified := nofun

/-- While the input has not ended nothing is given up or complete. -/
theorem Delivered.open_of_input (delivered : run.Delivered) (input : run.endOfInput = false) :
    run.aborted = false ∧ run.notified = false := by
  have notEnded := Bool.eq_false_iff.mp input
  exact ⟨Bool.eq_false_iff.mpr fun isAborted => notEnded (delivered.aborted isAborted),
    Bool.eq_false_iff.mpr fun isNotified => notEnded (delivered.complete isNotified).1⟩

/-- What does not concern the queue and the requests keeps the invariant. -/
theorem Sound.withFlags (sound : run.Sound) (enqueuedTasks : Nat)
    (scheduled requestFailed connected frontFailed : Bool) :
    { run with
      enqueuedTasks := enqueuedTasks
      scheduled := scheduled
      requestFailed := requestFailed
      connected := connected
      frontFailed := frontFailed }.Sound :=
  have delivered := sound.delivered
  ⟨⟨delivered.oneInFlight, delivered.inOrder, delivered.queued, delivered.aborted,
      delivered.complete, delivered.printed⟩,
    sound.inFlight, sound.next, sound.front, sound.carries, sound.stage, sound.notified⟩

/-- Variables that are read from a line join the tasks behind those that are there. -/
theorem Sound.enqueueSetVariables (sound : run.Sound) (input : run.endOfInput = false)
    (values : α) : (run.enqueueSetVariables values).Sound := by
  obtain ⟨isOpen, isRunning⟩ := sound.delivered.open_of_input input
  obtain ⟨rest, split, pending⟩ := sound.delivered.queued isOpen
  have longer : run.accepted <+: run.accepted ++ [values] := List.prefix_append _ _
  refine ⟨⟨sound.delivered.oneInFlight, sound.delivered.inOrder.trans longer, fun _ => ?_,
      sound.delivered.aborted, fun isNotified => ?_, sound.delivered.printed⟩,
    sound.inFlight, sound.next.trans longer, fun front isFront => ?_, sound.carries, sound.stage,
    sound.notified⟩
  · refine ⟨rest ++ [values], ?_, ?_⟩
    · simp [SetVariablesFromStdin.enqueueSetVariables, split]
    · simp [SetVariablesFromStdin.enqueueSetVariables, pending, entries, input]
  · rw [SetVariablesFromStdin.enqueueSetVariables, isRunning] at isNotified
    cases isNotified
  · simp [SetVariablesFromStdin.enqueueSetVariables, sound.front front isFront]

theorem Sound.enqueueInputCompletion (sound : run.Sound) (input : run.endOfInput = false) :
    run.enqueueInputCompletion.Sound := by
  obtain ⟨isOpen, isRunning⟩ := sound.delivered.open_of_input input
  obtain ⟨rest, split, pending⟩ := sound.delivered.queued isOpen
  refine ⟨⟨sound.delivered.oneInFlight, sound.delivered.inOrder, fun _ => ⟨rest, split, ?_⟩,
      fun _ => rfl, fun isNotified => ?_, sound.delivered.printed⟩,
    sound.inFlight, sound.next, fun front isFront => ?_, sound.carries, sound.stage,
    sound.notified⟩
  · simp [SetVariablesFromStdin.enqueueInputCompletion, pending, entries, input, isRunning]
  · rw [SetVariablesFromStdin.enqueueInputCompletion, isRunning] at isNotified
    cases isNotified
  · simp [SetVariablesFromStdin.enqueueInputCompletion, sound.front front isFront]

/-- While something is in the queue nothing is given up or complete. -/
theorem Sound.open_of_pending (sound : run.Sound) (pending : run.pendingVariables ≠ []) :
    run.aborted = false ∧ run.notified = false := by
  have isRunning : run.notified ≠ true := fun isNotified =>
    pending (sound.delivered.complete isNotified).2
  exact ⟨Bool.eq_false_iff.mpr fun isAborted => isRunning (sound.notified isAborted),
    Bool.eq_false_iff.mpr isRunning⟩

/-- The end of the input is at the back of the queue only when the input has ended and nothing
is given up or complete. -/
theorem Sound.ended_of_endAtBack (sound : run.Sound) (atBack : run.endAtBack = true) :
    run.endOfInput = true ∧ run.aborted = false ∧ run.notified = false := by
  have some : run.pendingVariables ≠ [] := by
    intro empty
    simp [endAtBack, empty] at atBack
  obtain ⟨isOpen, isRunning⟩ := sound.open_of_pending some
  obtain ⟨rest, _, pending⟩ := sound.delivered.queued isOpen
  refine ⟨?_, isOpen, isRunning⟩
  cases input : run.endOfInput with
  | true => rfl
  | false =>
      rw [input, Bool.false_and, entries] at pending
      cases last : rest.getLast? <;> simp [endAtBack, pending, last] at atBack

/-- The queue is given up after the end of the input. -/
theorem Sound.abort (sound : run.Sound) (atBack : run.endAtBack = true) :
    { run.abortPendingVariables with requestVariables := none }.Sound := by
  obtain ⟨ended, _, _⟩ := sound.ended_of_endAtBack atBack
  refine ⟨⟨sound.delivered.oneInFlight, sound.delivered.inOrder, nofun, fun _ => ended,
      fun _ => ⟨ended, rfl⟩, sound.delivered.printed⟩,
    sound.inFlight, sound.next, nofun, nofun, fun running => ⟨rfl, (sound.stage running).2⟩,
    fun _ => rfl⟩

/-- A request that goes out carries the first line that has not been delivered. -/
theorem Sound.send (sound : run.Sound) {values : α} (front : run.requestVariables = some values)
    (idle : run.requestInFlight = false) : (run.send values).Sound := by
  have none : run.outstanding = [] := by
    rw [← List.length_eq_zero_iff, sound.inFlight, idle]
    rfl
  have head := sound.front values front
  obtain ⟨isOpen, isRunning⟩ := sound.open_of_pending fun empty => by
    rw [empty] at head
    cases head
  obtain ⟨rest, split, pending⟩ := sound.delivered.queued isOpen
  have first : ∃ later, rest = values :: later := by
    cases rest with
    | nil =>
        rw [pending, entries] at head
        cases endOfInput : run.endOfInput <;> simp [endOfInput, isRunning] at head
    | cons line later =>
        rw [pending, entries] at head
        obtain rfl : line = values := by simpa using head
        exact ⟨later, rfl⟩
  obtain ⟨later, rfl⟩ := first
  refine ⟨⟨?_, sound.delivered.inOrder, sound.delivered.queued, sound.delivered.aborted,
      sound.delivered.complete, sound.delivered.printed⟩, ?_, ?_, sound.front, ?_, nofun,
    sound.notified⟩
  · simp [SetVariablesFromStdin.send, none]
  · simp [SetVariablesFromStdin.send, none]
  · rw [SetVariablesFromStdin.send, none, split]
    exact ⟨later, by simp⟩
  · intro _ other member
    obtain rfl : other = values := by simpa [SetVariablesFromStdin.send, none] using member
    exact front

theorem Sound.withStage (sound : run.Sound) {stage : TaskStage}
    (idle : run.requestVariables = none ∧ run.requestInFlight = false) :
    { run with stage := stage }.Sound :=
  have delivered := sound.delivered
  ⟨⟨delivered.oneInFlight, delivered.inOrder, delivered.queued, delivered.aborted,
      delivered.complete, delivered.printed⟩,
    sound.inFlight, sound.next, sound.front, sound.carries, fun _ => idle, sound.notified⟩

/-- A call of `process_pending_task` keeps the run sound, up to the request that it sends. -/
theorem Sound.processPendingTask (sound : run.Sound) : run.processPendingTask.Sound := by
  have fired := sound.withFlags run.enqueuedTasks false run.requestFailed run.connected
    run.frontFailed
  unfold SetVariablesFromStdin.processPendingTask
  dsimp only
  split
  · rename_i failed
    exact (fired.abort (Bool.and_eq_true_iff.mp failed).2).withFlags _ _ _ _ _
  · split
    · exact fired
    · split
      · exact fired
      · rename_i idle
        have idle := Bool.eq_false_iff.mpr idle
        split
        · rename_i values front
          exact fired.send front idle
        · rename_i front
          exact fired.withStage ⟨front, idle⟩

/-- The end of the input is at the front when all lines have been delivered. -/
theorem Sound.completeInput (sound : run.Sound) (stage : run.stage ≠ .returned)
    (atFront : run.endAtFront = true) : run.completeInput.Sound := by
  obtain ⟨noRequest, idle⟩ := sound.stage stage
  have some : run.pendingVariables ≠ [] := by
    intro empty
    simp [endAtFront, empty] at atFront
  obtain ⟨isOpen, isRunning⟩ := sound.open_of_pending some
  obtain ⟨rest, split, pending⟩ := sound.delivered.queued isOpen
  have delivered : rest = [] ∧ run.endOfInput = true := by
    cases rest with
    | nil =>
        cases input : run.endOfInput with
        | true => exact ⟨rfl, rfl⟩
        | false => simp [endAtFront, pending, entries, input] at atFront
    | cons line later => simp [endAtFront, pending, entries] at atFront
  obtain ⟨rfl, ended⟩ := delivered
  have empty : run.pendingVariables.tail = [] := by
    simp [pending, entries, ended, isRunning]
  refine ⟨⟨sound.delivered.oneInFlight, sound.delivered.inOrder, fun _ => ⟨[], split, ?_⟩,
      sound.delivered.aborted, fun _ => ⟨ended, empty⟩, sound.delivered.printed⟩,
    sound.inFlight, sound.next, fun values isFront => ?_, sound.carries, sound.stage,
    fun _ => rfl⟩
  · simp [SetVariablesFromStdin.completeInput, empty, entries]
  · rw [SetVariablesFromStdin.completeInput, noRequest] at isFront
    cases isFront

/-- What `process_pending_task` does behind the request keeps the run sound. -/
theorem Sound.continueTask (sound : run.Sound) : run.continueTask.Sound := by
  cases stage : run.stage with
  | returned => simpa only [SetVariablesFromStdin.continueTask, stage] using sound
  | completing =>
      have running : run.stage ≠ .returned := by simp [stage]
      simp only [SetVariablesFromStdin.continueTask, stage]
      split
      · rename_i atFront
        exact (sound.completeInput running atFront).withStage (sound.stage running)
      · exact sound.withStage (sound.stage running)
  | getting =>
      obtain ⟨noRequest, idle⟩ := sound.stage (by simp [stage])
      have none : run.outstanding = [] := by
        rw [← List.length_eq_zero_iff, sound.inFlight, idle]
        rfl
      have fetched : { run with
          requestVariables := run.getPendingVariables
          requestFailed := false
          stage := .returned }.Sound := by
        have delivered := sound.delivered
        refine ⟨⟨delivered.oneInFlight, delivered.inOrder, delivered.queued, delivered.aborted,
            delivered.complete, delivered.printed⟩, sound.inFlight, sound.next, ?_, ?_, nofun,
          sound.notified⟩
        · intro values isFront
          change run.getPendingVariables = some values at isFront
          unfold getPendingVariables at isFront
          split at isFront
          · rename_i pending
            rw [Option.some.inj isFront] at pending
            exact congrArg List.head? pending
          · cases isFront
        · intro _ values member
          rw [none] at member
          cases member
      simp only [SetVariablesFromStdin.continueTask, stage]
      cases front : run.getPendingVariables with
      | some values =>
          rw [front] at fetched
          exact fetched.send rfl idle
      | none =>
          rw [front] at fetched
          exact fetched

/-- The request that completes is the only one. -/
theorem Sound.outstanding_eq (sound : run.Sound) {index : Nat} {values : α}
    (sent : run.outstanding[index]? = some values) :
    run.outstanding = [values] ∧ run.outstanding.eraseIdx index = [] := by
  have one := sound.delivered.oneInFlight
  match outstanding : run.outstanding with
  | [] => simp [outstanding] at sent
  | [only] =>
      rw [outstanding] at sent
      cases index with
      | zero => exact ⟨by simpa using sent, rfl⟩
      | succ index => simp at sent
  | _ :: _ :: _ => simp [outstanding] at one

/-- A request that fails leaves the queue as it is. -/
theorem Sound.arrived (sound : run.Sound) :
    { run with requestInFlight := false, outstanding := [] }.Sound :=
  have delivered := sound.delivered
  ⟨⟨Nat.zero_le 1, delivered.inOrder, delivered.queued, delivered.aborted, delivered.complete,
      delivered.printed⟩,
    rfl, by simpa using delivered.inOrder, sound.front, fun _ _ => nofun,
    fun running => ⟨(sound.stage running).1, rfl⟩, sound.notified⟩

/-- A request that succeeds takes its line from the queue, unless the queue is given up. -/
theorem Sound.succeeded (sound : run.Sound) {values : α} (sent : run.outstanding = [values]) :
    { ({ run with requestInFlight := false, outstanding := [] }.outputVariablesIfVerbose
        values).completePendingVariables with
      requestVariables := none
      requestFailed := false
      succeeded := run.succeeded ++ [values]
      frontFailed := false }.schedule.Sound := by
  have next : run.succeeded ++ [values] <+: run.accepted := sent ▸ sound.next
  have printed : (if run.verbose then run.output ++ [values] else run.output) =
      if run.verbose then run.succeeded ++ [values] else [] := by
    rw [sound.delivered.printed]
    split <;> rfl
  refine ⟨⟨Nat.zero_le 1, next, fun isOpen => ?_, sound.delivered.aborted, fun isNotified => ?_,
      printed⟩, rfl, ?_, nofun, fun _ _ => nofun, fun _ => ⟨rfl, rfl⟩, sound.notified⟩
  · have isFront := sound.front values (sound.carries isOpen values (sent ▸ List.mem_singleton_self _))
    obtain ⟨rest, split, pending⟩ := sound.delivered.queued isOpen
    have isRunning := (sound.open_of_pending fun empty => by
      rw [empty] at isFront
      cases isFront).2
    cases rest with
    | nil =>
        rw [pending, entries] at isFront
        cases input : run.endOfInput <;> simp [input, isRunning] at isFront
    | cons line later =>
        rw [pending, entries] at isFront
        obtain rfl : line = values := by simpa using isFront
        refine ⟨later, ?_, ?_⟩
        · change run.accepted = (run.succeeded ++ [line]) ++ later
          simp [split]
        · change run.pendingVariables.tail = entries later (run.endOfInput && !run.notified)
          simp [pending, entries]
  · obtain ⟨ended, empty⟩ := sound.delivered.complete isNotified
    exact ⟨ended, congrArg List.tail empty⟩
  · change (run.succeeded ++ [values]) ++ [] <+: run.accepted
    rwa [List.append_nil]

/-- The completion handler of a request keeps the run sound, whether or not the request has failed.
-/
theorem Sound.completionHandler (sound : run.Sound) (index : Nat) (error : Bool) :
    (run.completionHandler index error).Sound := by
  unfold SetVariablesFromStdin.completionHandler
  cases sent : run.outstanding[index]? with
  | none => exact sound
  | some values =>
      obtain ⟨only, erased⟩ := sound.outstanding_eq sent
      simp only [erased]
      cases error with
      | false => exact sound.succeeded only
      | true =>
          have failed := sound.arrived.withFlags run.enqueuedTasks run.scheduled true run.connected
            true
          simp only [Bool.not_true, Bool.false_eq_true, if_false]
          split
          · rename_i atBack
            exact failed.abort atBack
          · exact failed.withFlags _ true _ _ _

/-- Every action keeps the invariant. -/
theorem Sound.step (sound : run.Sound) {action : Action α} (wellFormed : run.WellFormed action) :
    (run.step action).Sound := by
  cases action with
  | readLine values =>
      cases values with
      | none => exact sound
      | some values => exact sound.enqueueSetVariables wellFormed values
  | endOfInput => exact sound.enqueueInputCompletion wellFormed
  | runEnqueuedTask =>
      simp only [SetVariablesFromStdin.step]
      split
      · exact sound
      · exact sound.withFlags _ true _ _ _
  | connected => exact sound.withFlags _ true _ true _
  | connectFailed => exact sound.withFlags _ true true false _
  | closed => exact sound.withFlags _ true true false _
  | completed index error => exact sound.completionHandler index error
  | fireTask =>
      simp only [SetVariablesFromStdin.step]
      split
      · exact sound.processPendingTask
      · exact sound
  | continueTask => exact sound.continueTask

theorem aborted_continueTask (run : SetVariablesFromStdin α) :
    run.continueTask.aborted = run.aborted := by
  cases stage : run.stage with
  | returned => simp [SetVariablesFromStdin.continueTask, stage]
  | completing =>
      simp only [SetVariablesFromStdin.continueTask, stage]
      split <;> rfl
  | getting =>
      simp only [SetVariablesFromStdin.continueTask, stage]
      split <;> rfl

/-- A request that fails has carried the front entry. -/
theorem completionHandler_aborted (index : Nat) (error : Bool) :
    (run.completionHandler index error).aborted = run.aborted ∨
      (run.completionHandler index error).frontFailed = true := by
  unfold SetVariablesFromStdin.completionHandler
  cases run.outstanding[index]? with
  | none => exact .inl rfl
  | some values =>
      cases error with
      | false => exact .inl rfl
      | true =>
          right
          dsimp only
          split
          · rename_i noError
            cases noError
          · split <;> rfl

/-- The task gives up the queue when it finds a failure and the end of the input. -/
theorem processPendingTask_aborted (run : SetVariablesFromStdin α) :
    run.processPendingTask.aborted = (run.aborted || run.requestFailed && run.endAtBack) ∧
      run.processPendingTask.frontFailed = run.frontFailed := by
  have atBack : { run with scheduled := false }.endAtBack = run.endAtBack := rfl
  unfold SetVariablesFromStdin.processPendingTask
  dsimp only
  rw [atBack]
  cases failed : run.requestFailed && run.endAtBack with
  | true => exact ⟨by simp [abortPendingVariables], rfl⟩
  | false =>
      rw [if_neg Bool.false_ne_true, Bool.or_false]
      split
      · exact ⟨rfl, rfl⟩
      · split
        · exact ⟨rfl, rfl⟩
        · split <;> exact ⟨rfl, rfl⟩

/-- What does not give up the queue gives up nothing out of order. -/
theorem abortsAfterFailure_of_same {action : Action α}
    (same : (run.step action).aborted = run.aborted) : run.AbortsAfterFailure action := by
  intro isOpen isAborted
  rw [same, isOpen] at isAborted
  cases isAborted

/-- Only the task gives up the queue without a request that has failed. -/
theorem Sound.abortsAfterFailure_iff (sound : run.Sound) (action : Action α) :
    run.AbortsAfterFailure action ↔ run.NoLostConnectionAtEnd action := by
  cases action with
  | readLine values =>
      exact iff_of_true (abortsAfterFailure_of_same (by cases values <;> rfl)) trivial
  | runEnqueuedTask =>
      refine iff_of_true (abortsAfterFailure_of_same ?_) trivial
      simp only [SetVariablesFromStdin.step]
      split <;> rfl
  | completed index error =>
      refine iff_of_true ?_ trivial
      rcases completionHandler_aborted index error with same | failed
      · exact abortsAfterFailure_of_same same
      · exact fun _ _ _ => failed
  | continueTask =>
      exact iff_of_true (abortsAfterFailure_of_same run.aborted_continueTask) trivial
  | fireTask =>
      cases scheduled : run.scheduled with
      | false =>
          refine iff_of_true (abortsAfterFailure_of_same ?_) ?_
          · simp [SetVariablesFromStdin.step, scheduled]
          · simp [NoLostConnectionAtEnd, scheduled]
      | true =>
          obtain ⟨aborted, frontFailed⟩ := run.processPendingTask_aborted
          have isTask : run.step .fireTask = run.processPendingTask := if_pos scheduled
          rw [AbortsAfterFailure, NoLostConnectionAtEnd, isTask, aborted, frontFailed]
          cases atBack : run.endAtBack with
          | false => simp +contextual
          | true =>
              have isOpen := (sound.ended_of_endAtBack atBack).2.1
              simp only [isOpen, scheduled, Bool.false_or, Bool.and_true, true_and]
              cases run.connected <;> cases run.requestFailed <;> cases run.frontFailed <;> simp
  | endOfInput => exact iff_of_true (abortsAfterFailure_of_same rfl) trivial
  | connected => exact iff_of_true (abortsAfterFailure_of_same rfl) trivial
  | connectFailed => exact iff_of_true (abortsAfterFailure_of_same rfl) trivial
  | closed => exact iff_of_true (abortsAfterFailure_of_same rfl) trivial

open Foundation.Execution in
/-- Every run delivers its lines once and in order, and it gives up lines only after a failure of
the front one or while not connected exactly when the task never finds the input ended, the
connection made again, and the failure that of the connection only. -/
theorem delivers_iff (verbose : Bool) (actions : List (Action α))
    (wellFormed : StepsMeet step WellFormed (start verbose) actions) :
    StepsMeet step (fun run action => (run.step action).Delivered ∧ run.AbortsAfterFailure action)
        (start verbose) actions ↔
      StepsMeet step NoLostConnectionAtEnd (start verbose) actions := by
  have agree := @stepsMeet_iff _ _ (step (α := α)) Sound
    (fun run action => run.WellFormed action ∧
      (run.step action).Delivered ∧ run.AbortsAfterFailure action)
    (fun run action => run.WellFormed action ∧ run.NoLostConnectionAtEnd action)
    (fun run action sound => and_congr_right fun wellFormed => by
      rw [sound.abortsAfterFailure_iff action]
      exact and_iff_right (sound.step wellFormed).delivered)
    (fun run action sound meets => sound.step meets.1) _ actions (sound_start verbose)
  constructor
  · exact fun delivers => (agree.mp (wellFormed.and delivers)).imp fun _ _ both => both.2
  · exact fun noLoss => (agree.mpr (wellFormed.and noLoss)).imp fun _ _ both => both.2

/-! ## A connection that is lost and made again -/

/-- A line is delivered. -/
def delivery : List (Action Nat) :=
  [.connected, .readLine (some 1), .fireTask, .continueTask, .continueTask, .completed 0 false,
    .endOfInput, .fireTask, .continueTask]

/-- The daemon cannot be reached at first. A line is read, the connection is made, and the input
ends before the task runs. -/
def endedAfterReconnect : List (Action Nat) :=
  [.connectFailed, .fireTask, .readLine (some 1), .connected, .endOfInput, .fireTask]

/-- The line is delivered, and nothing more. -/
theorem delivers_delivery :
    Foundation.Execution.StepsMeet step
        (fun run action => (run.step action).Delivered ∧ run.AbortsAfterFailure action)
        (start true) delivery ∧
      (delivery.foldl step (start true)).succeeded = [1] := by
  refine ⟨(delivers_iff true delivery ?_).mpr ?_, rfl⟩
  · exact ⟨rfl, rfl, rfl, nofun, nofun, ⟨rfl, Nat.zero_lt_one⟩, rfl, rfl, nofun, trivial⟩
  · exact ⟨trivial, trivial, fun lost => absurd lost.2.1 Bool.false_ne_true, trivial, trivial,
      trivial, trivial, fun lost => absurd lost.2.2.2.1 Bool.false_ne_true, trivial, trivial⟩

/-- The line is given up untried though the daemon is connected. -/
theorem line_given_up_while_connected :
    Foundation.Execution.StepsMeet step WellFormed (start true) endedAfterReconnect ∧
      ¬Foundation.Execution.StepsMeet step
        (fun run action => (run.step action).Delivered ∧ run.AbortsAfterFailure action)
        (start true) endedAfterReconnect := by
  constructor
  · exact ⟨rfl, rfl, rfl, rfl, rfl, rfl, trivial⟩
  · rintro ⟨_, _, _, _, _, ⟨_, inOrder⟩, _⟩
    exact absurd (inOrder rfl rfl rfl) Bool.false_ne_true

end SetVariablesFromStdin

end Karabiner

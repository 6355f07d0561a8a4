import Karabiner.Dispatcher.Client

/-! # Timers

`pqrs::dispatcher::extra::timer` does its work in jobs of its client: what a caller asks for is done
later, and so is each call of its function. In every run `enabled` says what the timer and the jobs
that are queued come to, and a timer with a function has exactly one call of it to come
(`TimerClient.one_call_to_come`).
-/

namespace Karabiner

/-- The jobs of a client that has a timer. The functions of the timer are among the client's own
jobs. -/
inductive TimerJob (φ : Type) where
  | start (function : φ) (interval : Nat)
  | stop
  | setInterval (interval : Nat)
  | callFunction (functionId : Nat)
  | run (function : φ)

namespace TimerJob

variable {φ : Type}

/-- Whether the job turns the timer on or off. -/
def request : TimerJob φ → Option Bool
  | .start _ _ => some true
  | .stop => some false
  | _ => none

def callId : TimerJob φ → Option Nat
  | .callFunction functionId => some functionId
  | _ => none

end TimerJob

/-- `timer`. -/
structure Timer (φ : Type) where
  currentFunctionId : Nat
  function : Option φ
  interval : Nat
  enabled : Bool

/-- A timer and the jobs of its client. -/
structure TimerClient (φ : Type) where
  timer : Timer φ
  queue : List (DispatcherEntry (TimerJob φ))

/-- What happens to a timer: the client asks for something, or the worker thread does a job. -/
inductive TimerAction (φ : Type) where
  | start (function : φ) (interval : Nat)
  | stop
  | setInterval (interval : Nat)
  /-- The client enqueues a job of its own. -/
  | enqueue (function : φ)
  | work (now : Nat)

namespace TimerClient

variable {φ : Type}

def initial : TimerClient φ := ⟨⟨0, none, 0, false⟩, []⟩

/-- `enqueue_to_dispatcher`. All jobs are of the same object. -/
def push (client : TimerClient φ) (job : TimerJob φ) (when_ : Nat) : TimerClient φ :=
  { client with queue := Dispatcher.insertEntry ⟨0, job, when_⟩ client.queue }

def pushNow (client : TimerClient φ) (job : TimerJob φ) : TimerClient φ :=
  client.push job Dispatcher.whenImmediately

def setEnabled (client : TimerClient φ) (enabled : Bool) : TimerClient φ :=
  { client with timer := { client.timer with enabled := enabled } }

/-- `start`. -/
def start (client : TimerClient φ) (function : φ) (interval : Nat) : TimerClient φ :=
  (client.pushNow (.start function interval)).setEnabled true

/-- `stop`. -/
def stop (client : TimerClient φ) : TimerClient φ := (client.setEnabled false).pushNow .stop

/-- `set_interval`. -/
def setInterval (client : TimerClient φ) (interval : Nat) : TimerClient φ :=
  if interval = 0 then client.stop else client.pushNow (.setInterval interval)

/-- `enqueue`. -/
def enqueueCall (client : TimerClient φ) (functionId now : Nat) : TimerClient φ :=
  client.push (.callFunction functionId) (now + client.timer.interval)

/-- `call_function`. -/
def callFunction (client : TimerClient φ) (functionId now : Nat) : TimerClient φ :=
  if client.timer.currentFunctionId = functionId then
    match client.timer.function with
    | some function => (client.pushNow (.run function)).enqueueCall functionId now
    | none => client.enqueueCall functionId now
  else client

/-- What the jobs of the timer do. -/
def perform (client : TimerClient φ) (now : Nat) : TimerJob φ → TimerClient φ
  | .start function interval =>
      let functionId := client.timer.currentFunctionId + 1
      callFunction { client with
        timer := { client.timer with
          currentFunctionId := functionId
          function := some function
          interval := interval } } functionId now
  | .stop =>
      { client with
        timer := { client.timer with
          currentFunctionId := client.timer.currentFunctionId + 1
          function := none
          interval := 0 } }
  | .setInterval interval =>
      if client.timer.interval = interval then client
      else
        let functionId := client.timer.currentFunctionId + 1
        enqueueCall { client with
          timer := { client.timer with
            currentFunctionId := functionId
            interval := interval } } functionId now
  | .callFunction functionId => client.callFunction functionId now
  | .run _ => client

/-- The worker thread does the first job when its time has come. Beside the client is the function
that the client itself has to do. -/
def work (client : TimerClient φ) (now : Nat) : TimerClient φ × Option φ :=
  match client.queue with
  | [] => (client, none)
  | entry :: rest =>
      if entry.when_ ≤ max Dispatcher.whenImmediately now then
        (perform { client with queue := rest } now entry.job,
          match entry.job with
          | .run function => some function
          | _ => none)
      else (client, none)

def step (client : TimerClient φ) : TimerAction φ → TimerClient φ
  | .start function interval => client.start function interval
  | .stop => client.stop
  | .setInterval interval => client.setInterval interval
  | .enqueue function => client.pushNow (.run function)
  | .work now => (client.work now).1

/-! ## What the queue comes to -/

/-- The last request that is queued. -/
def lastRequest (queue : List (DispatcherEntry (TimerJob φ))) : Option Bool :=
  Dispatcher.lastOf TimerJob.request queue

/-- The calls of the function with an id that are queued. -/
def callsOf (functionId : Nat) (queue : List (DispatcherEntry (TimerJob φ))) : Nat :=
  (queue.filter fun entry => entry.job.callId == some functionId).length

/-- What every step keeps, apart from the calls to come. -/
structure Sound (client : TimerClient φ) : Prop where
  sorted : client.queue.Pairwise Dispatcher.ByTime
  immediate : ∀ entry ∈ client.queue, entry.job.request ≠ none →
    entry.when_ ≤ Dispatcher.whenImmediately
  known : ∀ entry ∈ client.queue, ∀ functionId, entry.job.callId = some functionId →
    functionId ≤ client.timer.currentFunctionId
  enabled_iff : client.timer.enabled = true ↔
    (lastRequest client.queue).getD client.timer.function.isSome = true

/-- What every step keeps. -/
structure Kept (client : TimerClient φ) : Prop extends client.Sound where
  calls_le : callsOf client.timer.currentFunctionId client.queue ≤ 1
  armed : client.timer.function.isSome → callsOf client.timer.currentFunctionId client.queue = 1

/-! ## Jobs that are inserted -/

variable {queue : List (DispatcherEntry (TimerJob φ))} {entry : DispatcherEntry (TimerJob φ)}

theorem callsOf_cons (functionId : Nat) (entry : DispatcherEntry (TimerJob φ))
    (rest : List (DispatcherEntry (TimerJob φ))) :
    callsOf functionId (entry :: rest) =
      (if entry.job.callId = some functionId then 1 else 0) + callsOf functionId rest := by
  unfold callsOf
  split
  · rename_i isCall
    rw [List.filter_cons_of_pos (by simpa using isCall), List.length_cons, Nat.add_comm]
  · rename_i isOther
    rw [List.filter_cons_of_neg (by simpa using isOther), Nat.zero_add]

theorem callsOf_insertEntry (functionId : Nat) :
    callsOf functionId (Dispatcher.insertEntry entry queue) =
      (if entry.job.callId = some functionId then 1 else 0) + callsOf functionId queue := by
  rw [← callsOf_cons]
  exact ((Dispatcher.perm_insertEntry entry queue).filter _).length_eq

theorem callsOf_eq_zero {functionId : Nat}
    (known : ∀ entry ∈ queue, ∀ other, entry.job.callId = some other → other < functionId) :
    callsOf functionId queue = 0 := by
  unfold callsOf
  rw [List.length_eq_zero_iff, List.filter_eq_nil_iff]
  intro entry isQueued isCall
  exact absurd (known entry isQueued functionId (by simpa using isCall)) (Nat.lt_irrefl _)

/-! ## The steps -/

variable {client : TimerClient φ}

theorem kept_initial : (initial : TimerClient φ).Kept where
  sorted := .nil
  immediate := by simp [initial]
  known := by simp [initial]
  enabled_iff := by simp [initial, lastRequest, Dispatcher.lastOf]
  calls_le := Nat.zero_le _
  armed isSome := nomatch isSome

/-- A job that is no request. -/
theorem Sound.push (sound : client.Sound) {job : TimerJob φ} (noRequest : job.request = none)
    (known : ∀ functionId, job.callId = some functionId →
      functionId ≤ client.timer.currentFunctionId) (when_ : Nat) :
    (client.push job when_).Sound := by
  refine ⟨Dispatcher.sorted_insertEntry sound.sorted, fun entry isQueued isRequest => ?_,
    fun entry isQueued => ?_, ?_⟩
  · obtain rfl | isOld := Dispatcher.mem_insertEntry.mp isQueued
    · exact absurd noRequest isRequest
    · exact sound.immediate entry isOld isRequest
  · obtain rfl | isOld := Dispatcher.mem_insertEntry.mp isQueued
    · exact known
    · exact sound.known entry isOld
  · have same : lastRequest (client.push job when_).queue = lastRequest client.queue :=
      Dispatcher.lastOf_insertEntry noRequest
    exact same ▸ sound.enabled_iff

/-- A request, which `enabled` says at once. -/
theorem Sound.push_request (sound : client.Sound) {job : TimerJob φ} {isOn : Bool}
    (isRequest : job.request = some isOn) (noCall : job.callId = none) :
    ((client.pushNow job).setEnabled isOn).Sound := by
  refine ⟨Dispatcher.sorted_insertEntry sound.sorted, fun entry isQueued isOwn => ?_,
    fun entry isQueued functionId isCall => ?_, ?_⟩
  · obtain rfl | isOld := Dispatcher.mem_insertEntry.mp isQueued
    · exact Nat.le_refl _
    · exact sound.immediate entry isOld isOwn
  · obtain rfl | isOld := Dispatcher.mem_insertEntry.mp isQueued
    · cases noCall.symm.trans isCall
    · exact sound.known entry isOld functionId isCall
  · have last : lastRequest (client.pushNow job).queue = some isOn :=
      Dispatcher.lastOf_insertEntry_now sound.sorted sound.immediate isRequest
    change isOn = true ↔ (lastRequest (client.pushNow job).queue).getD _ = true
    rw [last, Option.getD_some]

theorem callsOf_push {job : TimerJob φ} (noCall : job.callId = none) (functionId when_ : Nat) :
    callsOf functionId (client.push job when_).queue = callsOf functionId client.queue := by
  refine (callsOf_insertEntry functionId).trans ?_
  rw [noCall]
  exact Nat.zero_add _

/-- A job that is no call and no request leaves the calls as they are. -/
theorem Kept.push (kept : client.Kept) {job : TimerJob φ} (noRequest : job.request = none)
    (noCall : job.callId = none) (when_ : Nat) : (client.push job when_).Kept where
  toSound := kept.toSound.push noRequest (fun _ isCall => nomatch noCall.symm.trans isCall) when_
  calls_le := (callsOf_push noCall _ when_).symm ▸ kept.calls_le
  armed isSome := (callsOf_push noCall _ when_).trans (kept.armed isSome)

theorem Kept.push_request (kept : client.Kept) {job : TimerJob φ} {isOn : Bool}
    (isRequest : job.request = some isOn) (noCall : job.callId = none) :
    ((client.pushNow job).setEnabled isOn).Kept where
  toSound := kept.toSound.push_request isRequest noCall
  calls_le := (callsOf_push noCall _ Dispatcher.whenImmediately).symm ▸ kept.calls_le
  armed isSome := (callsOf_push noCall _ Dispatcher.whenImmediately).trans (kept.armed isSome)

/-- The call that is enqueued is the only one of its id. -/
theorem Sound.enqueueCall (sound : client.Sound)
    (noCall : callsOf client.timer.currentFunctionId client.queue = 0) (now : Nat) :
    (client.enqueueCall client.timer.currentFunctionId now).Kept := by
  have calls : callsOf client.timer.currentFunctionId
      (client.enqueueCall client.timer.currentFunctionId now).queue = 1 := by
    refine (callsOf_insertEntry _).trans ?_
    rw [noCall]
    exact if_pos rfl
  refine ⟨sound.push rfl (fun functionId isCall => ?_) _, Nat.le_of_eq calls, fun _ => calls⟩
  exact Nat.le_of_eq (Option.some.inj isCall).symm

/-- `call_function` of the current id, whose call is not queued any more. -/
theorem Sound.callFunction (sound : client.Sound)
    (noCall : callsOf client.timer.currentFunctionId client.queue = 0) (now : Nat) :
    (client.callFunction client.timer.currentFunctionId now).Kept := by
  unfold TimerClient.callFunction
  rw [if_pos rfl]
  split
  · rename_i function isFunction
    have pushed : (client.pushNow (.run function)).Sound :=
      sound.push rfl (fun _ isCall => by cases isCall) _
    exact pushed.enqueueCall ((callsOf_push rfl _ _).trans noCall) now
  · exact sound.enqueueCall noCall now

/-- What is left of the queue when its first job is taken, whatever becomes of the function. -/
theorem Sound.rest (sound : client.Sound) {entry : DispatcherEntry (TimerJob φ)}
    {rest : List (DispatcherEntry (TimerJob φ))} (isQueue : client.queue = entry :: rest)
    {timer : Timer φ} (enabled : timer.enabled = client.timer.enabled)
    (le : client.timer.currentFunctionId ≤ timer.currentFunctionId)
    (function : entry.job.request.getD client.timer.function.isSome = timer.function.isSome) :
    Sound ⟨timer, rest⟩ := by
  have sorted := sound.sorted
  have isOn := sound.enabled_iff
  rw [isQueue] at sorted isOn
  have inQueue : ∀ other ∈ rest, other ∈ client.queue := fun other isRest =>
    isQueue ▸ List.mem_cons_of_mem _ isRest
  refine ⟨(List.pairwise_cons.mp sorted).2,
    fun other isRest => sound.immediate other (inQueue other isRest),
    fun other isRest functionId isCall =>
      Nat.le_trans (sound.known other (inQueue other isRest) functionId isCall) le, ?_⟩
  rw [lastRequest, Dispatcher.lastOf_cons] at isOn
  rw [enabled, isOn, ← function, lastRequest]
  cases Dispatcher.lastOf TimerJob.request rest <;> rfl

/-- The first job. -/
theorem Kept.perform (kept : client.Kept) {entry : DispatcherEntry (TimerJob φ)}
    {rest : List (DispatcherEntry (TimerJob φ))} (isQueue : client.queue = entry :: rest)
    (now : Nat) : (perform { client with queue := rest } now entry.job).Kept := by
  have inQueue : ∀ other ∈ rest, other ∈ client.queue := fun other isRest =>
    isQueue ▸ List.mem_cons_of_mem _ isRest
  have noNext : callsOf (client.timer.currentFunctionId + 1) rest = 0 :=
    callsOf_eq_zero fun other isRest functionId isCall =>
      Nat.lt_succ_of_le (kept.known other (inQueue other isRest) functionId isCall)
  have calls := callsOf_cons client.timer.currentFunctionId entry rest
  rw [← isQueue] at calls
  -- A job that changes neither the timer nor the calls of the current id.
  have unchanged (noRequest : entry.job.request = none)
      (noCall : entry.job.callId ≠ some client.timer.currentFunctionId) :
      Kept { client with queue := rest } := by
    rw [if_neg noCall, Nat.zero_add] at calls
    refine ⟨kept.toSound.rest isQueue rfl (Nat.le_refl _) (by rw [noRequest]; rfl), ?_, ?_⟩
    · exact calls ▸ kept.calls_le
    · exact fun isSome => calls ▸ kept.armed isSome
  cases isJob : entry.job with
  | start function interval =>
      refine @Sound.callFunction φ ⟨⟨_, _, _, _⟩, rest⟩ ?_ noNext now
      exact kept.toSound.rest isQueue rfl (Nat.le_succ _) (by rw [isJob]; rfl)
  | stop =>
      refine ⟨kept.toSound.rest isQueue rfl (Nat.le_succ _) (by rw [isJob]; rfl), ?_,
        fun isSome => nomatch isSome⟩
      exact noNext.symm ▸ Nat.zero_le 1
  | setInterval interval =>
      unfold TimerClient.perform
      dsimp only
      split
      · exact unchanged (by rw [isJob]; rfl) (by rw [isJob]; nofun)
      · refine @Sound.enqueueCall φ ⟨⟨_, _, _, _⟩, rest⟩ ?_ noNext now
        exact kept.toSound.rest isQueue rfl (Nat.le_succ _) (by rw [isJob]; rfl)
  | callFunction functionId =>
      by_cases isCurrent : functionId = client.timer.currentFunctionId
      · subst isCurrent
        have one : (if entry.job.callId = some client.timer.currentFunctionId then 1 else 0) = 1 :=
          if_pos (by rw [isJob]; rfl)
        refine @Sound.callFunction φ { client with queue := rest } ?_ ?_ now
        · exact kept.toSound.rest isQueue rfl (Nat.le_refl _) (by rw [isJob]; rfl)
        · have le := kept.calls_le
          change callsOf client.timer.currentFunctionId rest = 0
          omega
      · have idle : TimerClient.callFunction { client with queue := rest } functionId now =
            { client with queue := rest } := if_neg (Ne.symm isCurrent)
        change (TimerClient.callFunction _ functionId now).Kept
        rw [idle]
        exact unchanged (by rw [isJob]; rfl)
          (by rw [isJob]; exact fun same => isCurrent (Option.some.inj same))
  | run function => exact unchanged (by rw [isJob]; rfl) (by rw [isJob]; nofun)

theorem Kept.work (kept : client.Kept) (now : Nat) : (client.work now).1.Kept := by
  unfold TimerClient.work
  split
  · exact kept
  · rename_i entry rest isQueue
    split
    · exact kept.perform isQueue now
    · exact kept

/-- What the worker thread does leaves what has been asked for last. -/
theorem enabled_work (client : TimerClient φ) (now : Nat) :
    (client.work now).1.timer.enabled = client.timer.enabled := by
  unfold TimerClient.work
  split
  · rfl
  · rename_i entry rest isQueue
    split
    · have called (client : TimerClient φ) (functionId : Nat) :
          (client.callFunction functionId now).timer.enabled = client.timer.enabled := by
        unfold TimerClient.callFunction
        split
        · split <;> rfl
        · rfl
      cases entry.job with
      | start function interval => exact called _ _
      | setInterval interval =>
          unfold TimerClient.perform
          dsimp only
          split <;> rfl
      | callFunction functionId => exact called _ _
      | _ => rfl
    · rfl

theorem Kept.start (kept : client.Kept) (function : φ) (interval : Nat) :
    (client.start function interval).Kept := kept.push_request rfl rfl

theorem Kept.stop (kept : client.Kept) : client.stop.Kept :=
  @Kept.push_request _ _ kept .stop _ rfl rfl

theorem Kept.setInterval (kept : client.Kept) (interval : Nat) :
    (client.setInterval interval).Kept := by
  unfold TimerClient.setInterval
  split
  · exact kept.stop
  · exact kept.push rfl rfl _

theorem Kept.step (kept : client.Kept) (action : TimerAction φ) : (client.step action).Kept := by
  cases action with
  | start function interval => exact kept.start function interval
  | stop => exact kept.stop
  | setInterval interval => exact kept.setInterval interval
  | enqueue function => exact kept.push rfl rfl _
  | work now => exact kept.work now

/-- Every run. -/
theorem kept_foldl (actions : List (TimerAction φ)) : (actions.foldl step initial).Kept := by
  induction actions using List.reverseRecOn with
  | nil => exact kept_initial
  | append_singleton actions action ih =>
      rw [List.foldl_append]
      exact ih.step action

/-- However starts, stops and changes of the interval are mixed with the jobs of the worker thread,
`enabled` says whether the timer has a function once the requests that are queued are done, and of
the calls with the current id at most one is to come: exactly one while there is a function. -/
theorem one_call_to_come (actions : List (TimerAction φ)) :
    let client := actions.foldl step initial
    (client.timer.enabled = true ↔
      (lastRequest client.queue).getD client.timer.function.isSome = true) ∧
    callsOf client.timer.currentFunctionId client.queue ≤ 1 ∧
    (client.timer.function.isSome → callsOf client.timer.currentFunctionId client.queue = 1) :=
  have kept := kept_foldl actions
  ⟨kept.enabled_iff, kept.calls_le, kept.armed⟩

end TimerClient

end Karabiner

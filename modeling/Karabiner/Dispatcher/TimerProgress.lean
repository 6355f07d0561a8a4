import Karabiner.Dispatcher.Timer

/-! # Timers go on, and come to rest

A client that starts its timer with intervals and stops it, and nothing more, does its function
again and again: there is a bound for the jobs that are done until the next call
(`TimerClient.measure_work_lt`). When every call stops the timer, the same bound is one for all the
jobs that are done (`TimerClient.measure_stop_lt`).
-/

namespace Karabiner.TimerClient

variable {φ : Type}

/-- The timer is started with an interval and its interval is never set. The calls come later, and
the function is done at once. -/
def PacedEntry (entry : DispatcherEntry (TimerJob φ)) : Prop :=
  match entry.job with
  | .start _ interval => Dispatcher.whenImmediately < interval
  | .stop => True
  | .setInterval _ => False
  | .callFunction _ => Dispatcher.whenImmediately < entry.when_
  | .run _ => entry.when_ ≤ Dispatcher.whenImmediately

structure Paced (client : TimerClient φ) : Prop where
  entries : ∀ entry ∈ client.queue, PacedEntry entry
  long : client.timer.function.isSome → Dispatcher.whenImmediately < client.timer.interval
  /-- Without a function there is no call to come. -/
  idle : client.timer.function = none →
    callsOf client.timer.currentFunctionId client.queue = 0

/-- How much is left to do for a job. -/
def weight : TimerJob φ → Nat
  | .start _ _ => 6
  | .run _ => 2
  | _ => 1

def load (queue : List (DispatcherEntry (TimerJob φ))) : Nat :=
  queue.foldr (fun entry others => weight entry.job + others) 0

/-- The job is a call of the function, or leads to one at once. -/
def leadsToRun : TimerJob φ → Bool
  | .start _ _ => true
  | .run _ => true
  | _ => false

/-- A timer that is on has a call before the next interval, or has to wait for it. -/
def phase (client : TimerClient φ) : Nat :=
  if client.timer.enabled then
    if client.queue.any fun entry => leadsToRun entry.job then 4 else 8
  else 0

def measure (client : TimerClient φ) : Nat := load client.queue + client.phase

/-- The worker thread has a job whose time has come. -/
def Due (client : TimerClient φ) (now : Nat) : Prop :=
  ∃ entry rest, client.queue = entry :: rest ∧
    entry.when_ ≤ max Dispatcher.whenImmediately now

variable {queue : List (DispatcherEntry (TimerJob φ))} {entry : DispatcherEntry (TimerJob φ)}

theorem load_insertEntry :
    load (Dispatcher.insertEntry entry queue) = weight entry.job + load queue := by
  induction queue with
  | nil => rfl
  | cons first rest ih =>
      obtain le | lt := (Nat.lt_or_ge entry.when_ first.when_).symm
      · rw [Dispatcher.insertEntry_cons_of_le le]
        change weight first.job + load _ = weight entry.job + (weight first.job + load rest)
        rw [ih]
        omega
      · rw [Dispatcher.insertEntry_cons_of_lt lt]
        rfl

theorem any_insertEntry (leads : DispatcherEntry (TimerJob φ) → Bool) :
    (Dispatcher.insertEntry entry queue).any leads = (leads entry || queue.any leads) := by
  rw [(Dispatcher.perm_insertEntry entry queue).any_eq, List.any_cons]

variable {client : TimerClient φ}

theorem paced_initial : (initial : TimerClient φ).Paced where
  entries := by simp [initial]
  long isSome := nomatch isSome
  idle _ := rfl

/-- A job that is no call. -/
theorem Paced.push (paced : client.Paced) {job : TimerJob φ} (noCall : job.callId = none)
    {when_ : Nat} (own : PacedEntry ⟨0, job, when_⟩) : (client.push job when_).Paced where
  entries entry isQueued := by
    obtain rfl | isOld := Dispatcher.mem_insertEntry.mp isQueued
    · exact own
    · exact paced.entries entry isOld
  long := paced.long
  idle isNone := (callsOf_push noCall _ when_).trans (paced.idle isNone)

theorem Paced.start (paced : client.Paced) (function : φ) {interval : Nat}
    (long : Dispatcher.whenImmediately < interval) : (client.start function interval).Paced :=
  have pushed := paced.push (show (TimerJob.start function interval).callId = none from rfl) long
  ⟨pushed.entries, pushed.long, pushed.idle⟩

theorem Paced.stop (paced : client.Paced) : client.stop.Paced :=
  @Paced.push φ (client.setEnabled false) ⟨paced.entries, paced.long, paced.idle⟩ .stop rfl _
    trivial

/-- `call_function` with a function. -/
theorem callFunction_eq {function : φ} (isFunction : client.timer.function = some function)
    (now : Nat) :
    client.callFunction client.timer.currentFunctionId now =
      (client.pushNow (.run function)).enqueueCall client.timer.currentFunctionId now := by
  unfold TimerClient.callFunction
  rw [if_pos rfl, isFunction]

/-- A call of the timer with a long interval sets up the next one for later, so that the entries
stay paced. -/
theorem Paced.callFunction (entries : ∀ entry ∈ client.queue, PacedEntry entry)
    {function : φ} (isFunction : client.timer.function = some function)
    (long : Dispatcher.whenImmediately < client.timer.interval) (now : Nat) :
    (client.callFunction client.timer.currentFunctionId now).Paced := by
  rw [callFunction_eq isFunction]
  refine ⟨fun entry isQueued => ?_, fun _ => long, fun isNone => ?_⟩
  · obtain rfl | isQueued := Dispatcher.mem_insertEntry.mp isQueued
    · exact Nat.lt_of_lt_of_le long (Nat.le_add_left _ _)
    · obtain rfl | isOld := Dispatcher.mem_insertEntry.mp isQueued
      · exact Nat.le_refl _
      · exact entries entry isOld
  · exact nomatch isFunction.symm.trans isNone

/-- The first job. -/
theorem Paced.perform (paced : client.Paced) (kept : client.Kept)
    {entry : DispatcherEntry (TimerJob φ)} {rest : List (DispatcherEntry (TimerJob φ))}
    (isQueue : client.queue = entry :: rest) (now : Nat) :
    (TimerClient.perform { client with queue := rest } now entry.job).Paced := by
  have restPaced : ∀ other ∈ rest, PacedEntry other := fun other isRest =>
    paced.entries other (isQueue ▸ List.mem_cons_of_mem _ isRest)
  have own := paced.entries entry (isQueue ▸ List.mem_cons_self)
  have calls := callsOf_cons client.timer.currentFunctionId entry rest
  rw [← isQueue] at calls
  have dropped : Paced { client with queue := rest } :=
    ⟨restPaced, paced.long, fun isNone => by
      have none := paced.idle isNone
      change callsOf client.timer.currentFunctionId rest = 0
      omega⟩
  unfold PacedEntry at own
  cases isJob : entry.job with
  | start function interval =>
      rw [isJob] at own
      exact @Paced.callFunction φ ⟨⟨_, _, _, _⟩, rest⟩ restPaced function rfl own now
  | stop =>
      refine ⟨restPaced, fun isSome => (nomatch isSome), fun _ => ?_⟩
      exact callsOf_eq_zero fun other isRest functionId isCall =>
        Nat.lt_succ_of_le (kept.known other (isQueue ▸ List.mem_cons_of_mem _ isRest)
          functionId isCall)
  | setInterval interval =>
      rw [isJob] at own
      exact own.elim
  | callFunction functionId =>
      by_cases isCurrent : client.timer.currentFunctionId = functionId
      · subst isCurrent
        cases isFunction : client.timer.function with
        | none =>
            have one : (if entry.job.callId = some client.timer.currentFunctionId then 1 else 0)
                = 1 := if_pos (by rw [isJob]; rfl)
            have none := paced.idle isFunction
            omega
        | some function =>
            exact @Paced.callFunction φ { client with queue := rest } restPaced function
              isFunction (paced.long (by rw [isFunction]; rfl)) now
      · have idle : TimerClient.callFunction { client with queue := rest } functionId now =
            { client with queue := rest } := if_neg isCurrent
        change (TimerClient.callFunction _ functionId now).Paced
        rw [idle]
        exact dropped
  | run function => exact dropped

theorem Paced.work (paced : client.Paced) (kept : client.Kept) (now : Nat) :
    (client.work now).1.Paced := by
  unfold TimerClient.work
  split
  · exact paced
  · rename_i entry rest isQueue
    split
    · exact paced.perform kept isQueue now
    · exact paced

/-! ## The measure -/

theorem work_eq {entry : DispatcherEntry (TimerJob φ)}
    {rest : List (DispatcherEntry (TimerJob φ))} (isQueue : client.queue = entry :: rest)
    {now : Nat} (isDue : entry.when_ ≤ max Dispatcher.whenImmediately now) :
    client.work now = (TimerClient.perform { client with queue := rest } now entry.job,
      match entry.job with
      | .run function => some function
      | _ => none) := by
  unfold TimerClient.work
  rw [isQueue]
  exact if_pos isDue

/-- When the first job is a call, all jobs are later ones: nothing is asked for, the function is not
about to be done, and the timer is on when it has a function. -/
theorem waits_of_call (paced : client.Paced) (kept : client.Kept)
    {entry : DispatcherEntry (TimerJob φ)} {rest : List (DispatcherEntry (TimerJob φ))}
    (isQueue : client.queue = entry :: rest) {functionId : Nat}
    (isJob : entry.job = .callFunction functionId) :
    (client.queue.any fun entry => leadsToRun entry.job) = false ∧
      (client.timer.enabled = true ↔ client.timer.function.isSome = true) := by
  have later : ∀ other ∈ client.queue, Dispatcher.whenImmediately < other.when_ := by
    have sorted := kept.sorted
    have own := paced.entries entry (isQueue ▸ List.mem_cons_self)
    unfold PacedEntry at own
    rw [isJob] at own
    rw [isQueue] at sorted ⊢
    intro other isQueued
    obtain rfl | isRest := List.mem_cons.mp isQueued
    · exact own
    · exact Nat.lt_of_lt_of_le own ((List.pairwise_cons.mp sorted).1 other isRest)
  have noRequest : ∀ other ∈ client.queue, other.job.request = none := by
    intro other isQueued
    by_contra isRequest
    exact Nat.not_lt_of_le (kept.immediate other isQueued isRequest) (later other isQueued)
  constructor
  · rw [List.any_eq_false]
    intro other isQueued leads
    have paces := paced.entries other isQueued
    have unasked := noRequest other isQueued
    unfold PacedEntry at paces
    cases isOther : other.job with
    | start function interval =>
        rw [isOther] at unasked
        cases unasked
    | run function =>
        rw [isOther] at paces
        exact Nat.not_lt_of_le paces (later other isQueued)
    | _ =>
        rw [isOther] at leads
        cases leads
  · have none : lastRequest client.queue = none := Dispatcher.lastOf_eq_none.mpr noRequest
    have isOn := kept.enabled_iff
    rwa [none] at isOn

/-- After a call of the function the measure counts the queue and what the timer still has to do
while it is enabled. -/
theorem measure_callFunction {function : φ} (isFunction : client.timer.function = some function)
    (now : Nat) :
    (client.callFunction client.timer.currentFunctionId now).measure =
      3 + load client.queue + if client.timer.enabled then 4 else 0 := by
  rw [callFunction_eq isFunction]
  let called := (client.pushNow (.run function)).enqueueCall client.timer.currentFunctionId now
  have loads : load called.queue = 3 + load client.queue := by
    have first : load called.queue = 1 + load (client.pushNow (.run function)).queue :=
      load_insertEntry
    have second : load (client.pushNow (.run function)).queue = 2 + load client.queue :=
      load_insertEntry
    omega
  have leads : (called.queue.any fun entry => leadsToRun entry.job) = true := by
    refine (any_insertEntry _).trans ((Bool.or_eq_true _ _).mpr (.inr ?_))
    exact (any_insertEntry _).trans ((Bool.or_eq_true _ _).mpr (.inl rfl))
  have phases : called.phase = if client.timer.enabled then 4 else 0 := by
    unfold phase
    rw [leads]
    rfl
  change load called.queue + called.phase = _
  rw [loads, phases]

/-- Doing a job that is no call of the function leaves less to do until the next call. -/
theorem measure_work_lt (paced : client.Paced) (kept : client.Kept) {now : Nat}
    (due : client.Due now) (noRun : (client.work now).2 = none) :
    (client.work now).1.measure < client.measure := by
  obtain ⟨entry, rest, isQueue, isDue⟩ := due
  have own := paced.entries entry (isQueue ▸ List.mem_cons_self)
  rw [work_eq isQueue isDue] at noRun ⊢
  have loads : load client.queue = weight entry.job + load rest := by rw [isQueue]; rfl
  have leads : (client.queue.any fun entry => leadsToRun entry.job) =
      (leadsToRun entry.job || rest.any fun entry => leadsToRun entry.job) := by
    rw [isQueue, List.any_cons]
  have before : client.measure = weight entry.job + load rest + client.phase := by
    rw [measure, loads]
  -- A job that only goes.
  have dropped (noLead : leadsToRun entry.job = false)
      {timer : Timer φ} (enabled : timer.enabled = client.timer.enabled) :
      measure ⟨timer, rest⟩ < client.measure := by
    have same : phase ⟨timer, rest⟩ = client.phase := by
      unfold phase
      rw [leads, noLead, Bool.false_or, enabled]
    have positive : 0 < weight entry.job := by cases entry.job <;> exact Nat.succ_pos _
    have after : measure ⟨timer, rest⟩ = load rest + client.phase := by rw [measure, same]
    omega
  unfold PacedEntry at own
  dsimp only at noRun ⊢
  cases isJob : entry.job with
  | start function interval =>
      have after := @measure_callFunction φ
        ⟨⟨client.timer.currentFunctionId + 1, some function, interval, client.timer.enabled⟩,
          rest⟩ function rfl now
      have phases : client.phase = if client.timer.enabled then 4 else 0 := by
        unfold phase
        rw [leads, isJob]
        rfl
      rw [isJob] at before
      rw [phases] at before
      change client.measure = 6 + load rest + _ at before
      change measure _ = _ at after
      dsimp only at after
      refine after.trans_lt ?_
      omega
  | stop => exact dropped (by rw [isJob]; rfl) rfl
  | setInterval interval =>
      rw [isJob] at own
      exact own.elim
  | callFunction functionId =>
      by_cases isCurrent : client.timer.currentFunctionId = functionId
      · subst isCurrent
        obtain ⟨noLead, isOn⟩ := waits_of_call paced kept isQueue isJob
        cases isFunction : client.timer.function with
        | none =>
            have calls := callsOf_cons client.timer.currentFunctionId entry rest
            rw [← isQueue, paced.idle isFunction, isJob] at calls
            have one : (if (TimerJob.callFunction client.timer.currentFunctionId : TimerJob
                φ).callId = some client.timer.currentFunctionId then 1 else 0) = 1 := if_pos rfl
            omega
        | some function =>
            have enabled : client.timer.enabled = true := isOn.mpr (by rw [isFunction]; rfl)
            have after := @measure_callFunction φ { client with queue := rest } function
              isFunction now
            have phases : client.phase = 8 := by
              unfold phase
              rw [if_pos enabled, noLead]
              rfl
            rw [isJob, phases] at before
            change client.measure = 1 + load rest + 8 at before
            rw [if_pos enabled] at after
            dsimp only at after
            refine after.trans_lt ?_
            omega
      · have idle : TimerClient.callFunction { client with queue := rest } functionId now =
            { client with queue := rest } := if_neg isCurrent
        change (TimerClient.callFunction _ functionId now).measure < _
        rw [idle]
        exact dropped (by rw [isJob]; rfl) rfl
  | run function =>
      rw [isJob] at noRun
      cases noRun

/-- Doing a call of the function that stops the timer leaves less to do. -/
theorem measure_stop_lt {now : Nat} (due : client.Due now) {function : φ}
    (isRun : (client.work now).2 = some function) :
    (client.work now).1.stop.measure < client.measure := by
  obtain ⟨entry, rest, isQueue, isDue⟩ := due
  rw [work_eq isQueue isDue] at isRun ⊢
  dsimp only at isRun ⊢
  cases isJob : entry.job with
  | run own =>
      have loads : load client.queue = 2 + load rest := by
        rw [isQueue]
        change weight entry.job + load rest = _
        rw [isJob]
        rfl
      have stopped : (TimerClient.stop { client with queue := rest }).measure = 1 + load rest := by
        have isOff : (TimerClient.stop { client with queue := rest }).phase = 0 := rfl
        have stops : load (TimerClient.stop { client with queue := rest }).queue =
            1 + load rest := load_insertEntry
        rw [measure, isOff, stops, Nat.add_zero]
      change (TimerClient.stop { client with queue := rest }).measure < _
      rw [stopped, measure, loads]
      omega
  | _ =>
      rw [isJob] at isRun
      cases isRun

end Karabiner.TimerClient

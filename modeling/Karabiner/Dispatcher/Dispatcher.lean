import Karabiner.Foundation.Execution
import Mathlib.Data.List.Perm.Basic
import Mathlib.Data.List.Pairwise
import Mathlib.Data.List.TakeWhile

/-! # The dispatcher

`pqrs::dispatcher::dispatcher` runs the functions that any thread enqueues in one worker thread,
each at its time. What the threads do under the mutexes of the dispatcher is one step here, and the
steps of the threads are interleaved in any way. Beside the dispatcher, a history keeps what has
been accepted, run and dropped: every function that is accepted is run once, is dropped with the
object that it belongs to, or is still there, and the functions are run by their times and then in
the order in which they have been enqueued (`DispatcherHistory.ran_of_accepted`).

A time point is a natural number of milliseconds since 1970.
-/

namespace Karabiner

/-- `dispatcher::entry`. The function is the job that it does. -/
structure DispatcherEntry (α : Type) where
  objectId : Nat
  job : α
  when_ : Nat

/-- `dispatcher`, with the entry that the worker thread has taken. -/
structure Dispatcher (α : Type) where
  queue : List (DispatcherEntry α)
  objectIds : List Nat
  /-- `object_id_`, which is for a function after a detach. -/
  ownObjectId : Nat
  running : Option (DispatcherEntry α)
  exit : Bool

namespace Dispatcher

variable {α : Type}

def initial (ownObjectId : Nat) : Dispatcher α := ⟨[], [ownObjectId], ownObjectId, none, false⟩

def whenInternalDetached : Nat := 0

def whenImmediately : Nat := 1

/-- The insertion at `upper_bound`. -/
def insertEntry (entry : DispatcherEntry α) (queue : List (DispatcherEntry α)) :
    List (DispatcherEntry α) :=
  queue.takeWhile (fun other => decide (other.when_ ≤ entry.when_)) ++
    entry :: queue.dropWhile (fun other => decide (other.when_ ≤ entry.when_))

/-- `attach`. -/
def attach (dispatcher : Dispatcher α) (objectId : Nat) : Dispatcher α :=
  if dispatcher.exit then dispatcher
  else { dispatcher with objectIds := objectId :: dispatcher.objectIds }

/-- `detach` of an attached object. -/
def detach (dispatcher : Dispatcher α) (objectId : Nat) : Dispatcher α :=
  { dispatcher with
    objectIds := dispatcher.objectIds.filter (· != objectId)
    queue := dispatcher.queue.filter (·.objectId != objectId) }

/-- Whether `enqueue` accepts an entry. -/
def accepts (dispatcher : Dispatcher α) (objectId : Nat) : Bool :=
  decide (objectId ∈ dispatcher.objectIds) && !dispatcher.exit

/-- `enqueue` of an entry that is accepted. -/
def push (dispatcher : Dispatcher α) (entry : DispatcherEntry α) : Dispatcher α :=
  { dispatcher with
    queue :=
      if entry.when_ = whenInternalDetached then entry :: dispatcher.queue
      else insertEntry entry dispatcher.queue }

/-- The worker thread takes the entry at the front when its time has come, unless it still runs the
entry that it has taken before. -/
def take (dispatcher : Dispatcher α) (now : Nat) : Dispatcher α :=
  match dispatcher.running, dispatcher.queue with
  | none, entry :: rest =>
      if !dispatcher.exit && decide (entry.when_ ≤ max whenImmediately now) then
        { dispatcher with queue := rest, running := some entry }
      else dispatcher
  | _, _ => dispatcher

/-- `terminate`. -/
def terminate (dispatcher : Dispatcher α) : Dispatcher α := { dispatcher with exit := true }

end Dispatcher

/-! ## Histories -/

/-- A job with the number of jobs that have been accepted before it. -/
structure NumberedJob (α : Type) where
  job : α
  number : Nat

abbrev NumberedEntry (α : Type) := DispatcherEntry (NumberedJob α)

namespace DispatcherEntry

variable {α : Type}

def number (entry : NumberedEntry α) : Nat := entry.job.number

/-- The order of the queue: by the times and then by the numbers. The functions after a detach come
first, the last one before the others. -/
def Before (first second : NumberedEntry α) : Prop :=
  first.when_ < second.when_ ∨
    first.when_ = second.when_ ∧
      if first.when_ = Dispatcher.whenInternalDetached then second.number < first.number
      else first.number < second.number

end DispatcherEntry

/-- A job that has been run. -/
structure RanJob (α : Type) where
  entry : NumberedEntry α
  /-- The time at which the worker thread has taken the entry. -/
  takenAt : Nat
  /-- How many jobs had been accepted by then. -/
  acceptedBefore : Nat

/-- The dispatcher, with what has happened to the jobs. -/
structure DispatcherHistory (α : Type) where
  dispatcher : Dispatcher (NumberedJob α)
  accepted : List (NumberedEntry α)
  /-- The time and the count of accepted jobs when the running entry was taken. -/
  takenAt : Nat
  acceptedBefore : Nat
  ran : List (RanJob α)
  dropped : List (NumberedEntry α)

/-- What the threads do. A function that is called may do any of these, too. -/
inductive DispatcherAction (α : Type) where
  | attach (objectId : Nat)
  | detach (objectId : Nat)
  | enqueue (objectId : Nat) (job : α) (when_ : Nat)
  /-- `detach` of an attached object, with a function to run after it. -/
  | detachThen (objectId : Nat) (job : α)
  | take (now : Nat)
  /-- The worker thread calls the function of the entry that it has taken. -/
  | call
  | terminate

namespace DispatcherHistory

variable {α : Type}

def initial (ownObjectId : Nat) : DispatcherHistory α := ⟨.initial ownObjectId, [], 0, 0, [], []⟩

/-- `enqueue`. -/
def enqueue (history : DispatcherHistory α) (objectId : Nat) (job : α) (when_ : Nat) :
    DispatcherHistory α :=
  if history.dispatcher.accepts objectId then
    let entry : NumberedEntry α := ⟨objectId, ⟨job, history.accepted.length⟩, when_⟩
    { history with
      dispatcher := history.dispatcher.push entry
      accepted := history.accepted ++ [entry] }
  else history

/-- `detach` of an attached object. -/
def detach (history : DispatcherHistory α) (objectId : Nat) : DispatcherHistory α :=
  { history with
    dispatcher := history.dispatcher.detach objectId
    dropped := history.dropped ++
      history.dispatcher.queue.filter (fun entry => !(entry.objectId != objectId)) }

/-- The entry that the worker thread takes. -/
def take (history : DispatcherHistory α) (now : Nat) : DispatcherHistory α :=
  if history.dispatcher.running = none then
    { history with
      dispatcher := history.dispatcher.take now
      takenAt := now
      acceptedBefore := history.accepted.length }
  else history

/-- The function of an entry checks whether its object is still attached. -/
def call (history : DispatcherHistory α) : DispatcherHistory α :=
  match history.dispatcher.running with
  | none => history
  | some entry =>
      let finished := { history with dispatcher := { history.dispatcher with running := none } }
      if entry.objectId ∈ history.dispatcher.objectIds then
        { finished with
          ran := history.ran ++ [⟨entry, history.takenAt, history.acceptedBefore⟩] }
      else { finished with dropped := history.dropped ++ [entry] }

def step (history : DispatcherHistory α) : DispatcherAction α → DispatcherHistory α
  | .attach objectId =>
      { history with dispatcher := history.dispatcher.attach objectId }
  | .detach objectId =>
      if objectId ∈ history.dispatcher.objectIds then history.detach objectId else history
  | .enqueue objectId job when_ => history.enqueue objectId job when_
  | .detachThen objectId job =>
      if objectId ∈ history.dispatcher.objectIds then
        (history.detach objectId).enqueue history.dispatcher.ownObjectId job
          Dispatcher.whenInternalDetached
      else history
  | .take now => history.take now
  | .call => history.call
  | .terminate => { history with dispatcher := history.dispatcher.terminate }

end DispatcherHistory

/-! ## The queue -/

namespace Dispatcher

variable {α : Type}

theorem perm_insertEntry (entry : DispatcherEntry α) (queue : List (DispatcherEntry α)) :
    (insertEntry entry queue).Perm (entry :: queue) := by
  refine List.perm_middle.trans ?_
  rw [List.takeWhile_append_dropWhile]

theorem mem_insertEntry {entry other : DispatcherEntry α} {queue : List (DispatcherEntry α)} :
    other ∈ insertEntry entry queue ↔ other = entry ∨ other ∈ queue := by
  rw [(perm_insertEntry entry queue).mem_iff, List.mem_cons]

/-- The order of the times. -/
def ByTime (first second : DispatcherEntry α) : Prop := first.when_ ≤ second.when_

/-- The entries after `upper_bound` are later. -/
theorem lt_of_mem_dropWhile {queue : List (DispatcherEntry α)} {bound : Nat}
    (sorted : queue.Pairwise ByTime) {other : DispatcherEntry α}
    (isLater : other ∈ queue.dropWhile (fun other => decide (other.when_ ≤ bound))) :
    bound < other.when_ := by
  induction queue with
  | nil => cases isLater
  | cons first rest ih =>
      obtain ⟨firstBefore, restSorted⟩ := List.pairwise_cons.mp sorted
      by_cases early : first.when_ ≤ bound
      · rw [List.dropWhile_cons_of_pos (by simpa using early)] at isLater
        exact ih restSorted isLater
      · rw [List.dropWhile_cons_of_neg (by simpa using early)] at isLater
        obtain rfl | isRest := List.mem_cons.mp isLater
        · exact Nat.lt_of_not_le early
        · exact Nat.lt_of_lt_of_le (Nat.lt_of_not_le early) (firstBefore other isRest)

theorem byTime_of_before {first second : NumberedEntry α} (before : first.Before second) :
    ByTime first second := by
  obtain earlier | ⟨same, -⟩ := before
  · exact Nat.le_of_lt earlier
  · exact Nat.le_of_eq same

variable {queue : List (NumberedEntry α)} {entry : NumberedEntry α}

/-- The newest entry is inserted behind those of the same time, which keeps the order in which they
are called. -/
theorem pairwise_insertEntry (sorted : queue.Pairwise DispatcherEntry.Before)
    (ordinary : entry.when_ ≠ whenInternalDetached)
    (newest : ∀ other ∈ queue, other.number < entry.number) :
    (insertEntry entry queue).Pairwise DispatcherEntry.Before := by
  have parts := sorted
  rw [← List.takeWhile_append_dropWhile
    (p := fun other : NumberedEntry α => decide (other.when_ ≤ entry.when_)) (l := queue),
    List.pairwise_append] at parts
  obtain ⟨earlySorted, lateSorted, acrossSorted⟩ := parts
  have early : ∀ other ∈ queue.takeWhile (fun other => decide (other.when_ ≤ entry.when_)),
      other.Before entry := by
    intro other isEarly
    have le : other.when_ ≤ entry.when_ := by simpa using List.mem_takeWhile_imp isEarly
    obtain lt | same := Nat.lt_or_eq_of_le le
    · exact .inl lt
    · refine .inr ⟨same, ?_⟩
      rw [if_neg (same ▸ ordinary)]
      exact newest other ((List.takeWhile_sublist _).subset isEarly)
  refine List.pairwise_append.mpr ⟨earlySorted, List.pairwise_cons.mpr ⟨?_, lateSorted⟩, ?_⟩
  · intro other isLate
    exact .inl (lt_of_mem_dropWhile (sorted.imp byTime_of_before) isLate)
  · intro other isEarly later isLater
    obtain rfl | isLate := List.mem_cons.mp isLater
    · exact early other isEarly
    · exact acrossSorted other isEarly later isLate

theorem perm_push (dispatcher : Dispatcher (NumberedJob α)) (entry : NumberedEntry α) :
    (dispatcher.push entry).queue.Perm (entry :: dispatcher.queue) := by
  unfold push
  dsimp only
  split
  · exact .rfl
  · exact perm_insertEntry _ _

/-- Pushing the newest entry keeps the queue in the order in which its entries are called. -/
theorem pairwise_push {dispatcher : Dispatcher (NumberedJob α)}
    (sorted : dispatcher.queue.Pairwise DispatcherEntry.Before)
    (newest : ∀ other ∈ dispatcher.queue, other.number < entry.number) :
    (dispatcher.push entry).queue.Pairwise DispatcherEntry.Before := by
  unfold push
  dsimp only
  split
  · rename_i detached
    refine List.pairwise_cons.mpr ⟨fun other isQueued => ?_, sorted⟩
    obtain zero | positive := Nat.eq_zero_or_pos other.when_
    · refine .inr ⟨detached.trans zero.symm, ?_⟩
      rw [if_pos detached]
      exact newest other isQueued
    · exact .inl (by rwa [detached])
  · rename_i ordinary
    exact pairwise_insertEntry sorted ordinary newest

end Dispatcher

/-! ## The steps -/

namespace DispatcherHistory

variable {α : Type}

/-- What every step keeps. -/
structure Kept (history : DispatcherHistory α) : Prop where
  perm : (history.ran.map RanJob.entry ++ history.dropped ++
    history.dispatcher.running.toList ++ history.dispatcher.queue).Perm history.accepted
  numbers : history.accepted.map DispatcherEntry.number = List.range history.accepted.length
  sorted : history.dispatcher.queue.Pairwise DispatcherEntry.Before
  attached : ∀ entry ∈ history.dispatcher.queue, entry.objectId ∈ history.dispatcher.objectIds
  acceptedBefore_le : history.acceptedBefore ≤ history.accepted.length
  runningFirst : ∀ entry, history.dispatcher.running = some entry →
    entry.when_ ≤ max Dispatcher.whenImmediately history.takenAt ∧
      ∀ later ∈ history.dispatcher.queue,
        entry.Before later ∨ history.acceptedBefore ≤ later.number
  ranFirst : ∀ job ∈ history.ran, job.acceptedBefore ≤ history.accepted.length ∧
    ∀ later ∈ history.dispatcher.running.toList ++ history.dispatcher.queue,
      job.entry.Before later ∨ job.acceptedBefore ≤ later.number
  ranInOrder : history.ran.Pairwise fun job later =>
    job.entry.Before later.entry ∨ job.acceptedBefore ≤ later.entry.number
  onTime : ∀ job ∈ history.ran,
    job.entry.when_ ≤ max Dispatcher.whenImmediately job.takenAt

variable {history : DispatcherHistory α}

theorem kept_initial (ownObjectId : Nat) : (initial ownObjectId : DispatcherHistory α).Kept where
  perm := .nil
  numbers := rfl
  sorted := .nil
  attached := by simp [initial, Dispatcher.initial]
  acceptedBefore_le := Nat.le_refl 0
  runningFirst := by simp [initial, Dispatcher.initial]
  ranFirst := by simp [initial]
  ranInOrder := .nil
  onTime := by simp [initial]

theorem Kept.number_lt (kept : history.Kept) {entry : NumberedEntry α}
    (isAccepted : entry ∈ history.accepted) : entry.number < history.accepted.length := by
  have isNumber := List.mem_map_of_mem (f := DispatcherEntry.number) isAccepted
  rwa [kept.numbers, List.mem_range] at isNumber

theorem Kept.number_lt_of_queued (kept : history.Kept) {entry : NumberedEntry α}
    (isQueued : entry ∈ history.dispatcher.queue) : entry.number < history.accepted.length :=
  kept.number_lt (kept.perm.subset (List.mem_append_right _ isQueued))


/-- Enqueueing keeps the account: an entry that is accepted is in the queue. -/
theorem Kept.enqueue (kept : history.Kept) (objectId : Nat) (job : α) (when_ : Nat) :
    (history.enqueue objectId job when_).Kept := by
  unfold DispatcherHistory.enqueue
  split
  case isFalse => exact kept
  rename_i accepts
  have isAttached : objectId ∈ history.dispatcher.objectIds :=
    of_decide_eq_true (Bool.and_eq_true_iff.mp accepts).1
  let entry : NumberedEntry α := ⟨objectId, ⟨job, history.accepted.length⟩, when_⟩
  have inside := Dispatcher.perm_push history.dispatcher entry
  have isNew : ∀ later ∈ (history.dispatcher.push entry).queue,
      later = entry ∨ later ∈ history.dispatcher.queue := fun later isLater =>
    List.mem_cons.mp (inside.subset isLater)
  have length : (history.accepted ++ [entry]).length = history.accepted.length + 1 :=
    List.length_append
  refine ⟨?_, ?_, ?_, fun later isLater => ?_, ?_, fun first isFirst => ?_,
    fun ran isRan => ?_, kept.ranInOrder, kept.onTime⟩
  · refine (List.Perm.append_left _ inside).trans ?_
    refine List.perm_middle.trans ?_
    exact (kept.perm.cons entry).trans (List.perm_append_singleton entry _).symm
  · rw [length, List.map_append, kept.numbers, List.range_succ]
    rfl
  · exact Dispatcher.pairwise_push kept.sorted fun other isQueued =>
      kept.number_lt_of_queued isQueued
  · obtain rfl | isQueued := isNew later isLater
    · exact isAttached
    · exact kept.attached later isQueued
  · rw [length]
    exact Nat.le_succ_of_le kept.acceptedBefore_le
  · obtain ⟨onTime, isBefore⟩ := kept.runningFirst first isFirst
    refine ⟨onTime, fun later isLater => ?_⟩
    obtain rfl | isQueued := isNew later isLater
    · exact .inr kept.acceptedBefore_le
    · exact isBefore later isQueued
  · obtain ⟨bounded, isBefore⟩ := kept.ranFirst ran isRan
    refine ⟨length ▸ Nat.le_succ_of_le bounded, fun later isLater => ?_⟩
    obtain isRunning | isQueued := List.mem_append.mp isLater
    · exact isBefore later (List.mem_append_left _ isRunning)
    · obtain rfl | isQueued := isNew later isQueued
      · exact .inr bounded
      · exact isBefore later (List.mem_append_right _ isQueued)

/-- Detaching an object drops its entries from the queue, and they are recorded as dropped. -/
theorem Kept.detach (kept : history.Kept) (objectId : Nat) : (history.detach objectId).Kept := by
  have fewer : (history.dispatcher.detach objectId).queue.Sublist history.dispatcher.queue :=
    List.filter_sublist
  refine ⟨?_, kept.numbers, kept.sorted.sublist fewer, fun entry isQueued => ?_,
    kept.acceptedBefore_le, fun first isFirst => ?_, fun ran isRan => ?_, kept.ranInOrder,
    kept.onTime⟩
  · let stays (entry : NumberedEntry α) : Bool := entry.objectId != objectId
    have parts : (history.dispatcher.queue.filter stays ++
        history.dispatcher.queue.filter (fun entry => !stays entry)).Perm
          history.dispatcher.queue := List.filter_append_perm stays _
    refine List.Perm.trans ?_ ((List.Perm.append_left _ parts).trans kept.perm)
    simp only [DispatcherHistory.detach, Dispatcher.detach, List.append_assoc]
    refine List.Perm.append_left _ (List.Perm.append_left _ ?_)
    rw [← List.append_assoc]
    refine List.perm_append_comm.trans ?_
    rw [← List.append_assoc]
    exact List.perm_append_comm
  · obtain ⟨isQueued, other⟩ := List.mem_filter.mp isQueued
    exact List.mem_filter.mpr ⟨kept.attached entry isQueued, other⟩
  · obtain ⟨onTime, isBefore⟩ := kept.runningFirst first isFirst
    exact ⟨onTime, fun later isLater => isBefore later (fewer.subset isLater)⟩
  · obtain ⟨bounded, isBefore⟩ := kept.ranFirst ran isRan
    refine ⟨bounded, fun later isLater => isBefore later ?_⟩
    exact (List.Sublist.append_left fewer _).subset isLater

/-- The entry that the worker thread takes is recorded as the one running. -/
theorem Kept.take (kept : history.Kept) (now : Nat) : (history.take now).Kept := by
  unfold DispatcherHistory.take
  split
  case isFalse => exact kept
  rename_i idle
  -- Nothing is taken from an empty queue and before the time of its front.
  have same (running : history.dispatcher.take now = history.dispatcher) :
      Kept { history with
        dispatcher := history.dispatcher.take now
        takenAt := now
        acceptedBefore := history.accepted.length } := by
    rw [running]
    exact { kept with
      acceptedBefore_le := Nat.le_refl _
      runningFirst := fun entry isRunning => by rw [idle] at isRunning; cases isRunning }
  cases isQueue : history.dispatcher.queue with
  | nil => exact same (by unfold Dispatcher.take; rw [idle, isQueue])
  | cons entry rest =>
      by_cases due :
          (!history.dispatcher.exit && decide (entry.when_ ≤ max Dispatcher.whenImmediately now))
            = true
      case neg => exact same (by unfold Dispatcher.take; rw [idle, isQueue]; exact if_neg due)
      have taken : history.dispatcher.take now =
          { history.dispatcher with queue := rest, running := some entry } := by
        unfold Dispatcher.take
        rw [idle, isQueue]
        exact if_pos due
      rw [taken]
      have sorted := kept.sorted
      rw [isQueue] at sorted
      obtain ⟨first, restSorted⟩ := List.pairwise_cons.mp sorted
      have inQueue : ∀ later, later ∈ entry :: rest ↔ later ∈ history.dispatcher.queue :=
        fun later => by rw [isQueue]
      refine ⟨?_, kept.numbers, restSorted, fun later isLater => ?_, Nat.le_refl _,
        fun running isRunning => ?_, fun ran isRan => ?_, kept.ranInOrder, kept.onTime⟩
      · have perm := kept.perm
        rw [idle, isQueue] at perm
        simpa using perm
      · exact kept.attached later ((inQueue later).mp (List.mem_cons_of_mem _ isLater))
      · obtain rfl := Option.some.inj isRunning
        exact ⟨of_decide_eq_true (Bool.and_eq_true_iff.mp due).2,
          fun later isLater => .inl (first later isLater)⟩
      · obtain ⟨bounded, isBefore⟩ := kept.ranFirst ran isRan
        refine ⟨bounded, fun later isLater => isBefore later (List.mem_append_right _ ?_)⟩
        exact (inQueue later).mp (by simpa using isLater)

/-- Calling the function records its entry as called, after all those that were called before. -/
theorem Kept.call (kept : history.Kept) : history.call.Kept := by
  unfold DispatcherHistory.call
  split
  case h_1 => exact kept
  rename_i entry isRunning
  obtain ⟨onTime, isBefore⟩ := kept.runningFirst entry isRunning
  have perm := kept.perm
  rw [isRunning] at perm
  dsimp only
  split
  · refine ⟨?_, kept.numbers, kept.sorted, kept.attached, kept.acceptedBefore_le,
      fun _ none => (nomatch none), fun ran isRan => ?_, ?_, fun ran isRan => ?_⟩
    · refine List.Perm.trans ?_ perm
      simp only [List.map_append, List.map_cons, List.map_nil, Option.toList_none,
        Option.toList_some, List.append_nil, List.append_assoc]
      refine List.Perm.append_left _ ?_
      rw [← List.append_assoc, ← List.append_assoc]
      exact List.Perm.append_right _ List.perm_append_comm
    · obtain isRan | isOwn := List.mem_append.mp isRan
      · obtain ⟨bounded, ranBefore⟩ := kept.ranFirst ran isRan
        refine ⟨bounded, fun later isLater => ranBefore later (List.mem_append_right _ ?_)⟩
        simpa using isLater
      · obtain rfl := List.mem_singleton.mp isOwn
        exact ⟨kept.acceptedBefore_le, fun later isLater => isBefore later (by simpa using isLater)⟩
    · refine List.pairwise_append.mpr ⟨kept.ranInOrder, List.pairwise_singleton _ _, ?_⟩
      intro ran isRan own isOwn
      obtain rfl := List.mem_singleton.mp isOwn
      refine (kept.ranFirst ran isRan).2 entry ?_
      rw [isRunning]
      exact List.mem_append_left _ List.mem_cons_self
    · obtain isRan | isOwn := List.mem_append.mp isRan
      · exact kept.onTime ran isRan
      · obtain rfl := List.mem_singleton.mp isOwn
        exact onTime
  · refine ⟨?_, kept.numbers, kept.sorted, kept.attached, kept.acceptedBefore_le,
      fun _ none => (nomatch none), fun ran isRan => ?_, kept.ranInOrder, kept.onTime⟩
    · simpa using perm
    · obtain ⟨bounded, ranBefore⟩ := kept.ranFirst ran isRan
      refine ⟨bounded, fun later isLater => ranBefore later (List.mem_append_right _ ?_)⟩
      simpa using isLater

/-- One step of a thread. -/
theorem Kept.step (kept : history.Kept) (action : DispatcherAction α) :
    (history.step action).Kept := by
  cases action with
  | attach objectId =>
      unfold DispatcherHistory.step Dispatcher.attach
      dsimp only
      split
      · exact kept
      · exact { kept with
          attached := fun entry isQueued => List.mem_cons_of_mem _ (kept.attached entry isQueued) }
  | detach objectId =>
      unfold DispatcherHistory.step
      dsimp only
      split
      · exact kept.detach objectId
      · exact kept
  | enqueue objectId job when_ => exact kept.enqueue objectId job when_
  | detachThen objectId job =>
      unfold DispatcherHistory.step
      dsimp only
      split
      · exact (kept.detach objectId).enqueue _ _ _
      · exact kept
  | take now => exact kept.take now
  | call => exact kept.call
  | terminate => exact { kept with }

/-- A run of the threads. -/
def run (ownObjectId : Nat) (actions : List (DispatcherAction α)) : DispatcherHistory α :=
  actions.foldl step (initial ownObjectId)

theorem kept_run (ownObjectId : Nat) (actions : List (DispatcherAction α)) :
    (run ownObjectId actions : DispatcherHistory α).Kept := by
  induction actions using List.reverseRecOn with
  | nil => exact kept_initial ownObjectId
  | append_singleton actions action ih =>
      rw [run, List.foldl_append]
      exact Kept.step ih action

/-- However the threads are interleaved, each job that is accepted has been run once, has been
dropped, is being run or is still queued; no job of an object that is not attached is queued; no job
is run before its time; and of two jobs that have been run the first one precedes the second one in
the order of the queue, unless the second one was enqueued after the first one was taken. -/
theorem ran_of_accepted (ownObjectId : Nat) (actions : List (DispatcherAction α)) :
    let history := run ownObjectId actions
    (history.ran.map RanJob.entry ++ history.dropped ++ history.dispatcher.running.toList ++
        history.dispatcher.queue).Perm history.accepted ∧
      (history.accepted.map DispatcherEntry.number).Nodup ∧
      (∀ entry ∈ history.dispatcher.queue, entry.objectId ∈ history.dispatcher.objectIds) ∧
      (∀ job ∈ history.ran, job.entry.when_ ≤ max Dispatcher.whenImmediately job.takenAt) ∧
      history.ran.Pairwise fun job later =>
        job.entry.Before later.entry ∨ job.acceptedBefore ≤ later.entry.number := by
  have kept := kept_run ownObjectId actions
  exact ⟨kept.perm, kept.numbers ▸ List.nodup_range, kept.attached, kept.onTime,
    kept.ranInOrder⟩

end DispatcherHistory

end Karabiner

import Karabiner.Notification.NotificationMessages

/-! # The tasks that clear messages

Each message has a task, and the requests to it are jobs like the calls of its function. The
requests are done before any call that is queued, so that a call whose generation is the one of the
task is the one of the last request. `Tasks` says when the function of each task is to run.
-/

namespace Karabiner

namespace MessageJob

/-- What a job asks of the task of a message. -/
def request (id : String) : MessageJob → Option (Option Nat)
  | .debounce other when_ => if other = id then some (some when_) else none
  | .cancel other => if other = id then some none else none
  | _ => none

/-- The task and the generation that a call is for. -/
def call : MessageJob → Option (String × Nat)
  | .expire id generation => some (id, generation)
  | _ => none

/-- Calls come after all other jobs. -/
def Timely (when_ : Nat) : MessageJob → Prop
  | .expire _ _ => Dispatcher.whenImmediately < when_
  | .debounce _ deadline =>
      when_ = Dispatcher.whenImmediately ∧ Dispatcher.whenImmediately < deadline
  | _ => when_ = Dispatcher.whenImmediately

end MessageJob

namespace NotificationMessageManager

open Dispatcher

variable {m next : NotificationMessageManager} {target : String → Option Nat}

def generation (m : NotificationMessageManager) (id : String) : Nat :=
  (m.messages.entry id).generation

/-- The calls that are queued. -/
def calls (m : NotificationMessageManager) : List (String × Nat) :=
  m.queue.filterMap (requestOf MessageJob.call)

/-- The last request to a task. -/
def lastRequest (m : NotificationMessageManager) (id : String) : Option (Option Nat) :=
  lastOf (MessageJob.request id) m.queue

/-- The function of a task is to run at a time, or not at all. -/
def Armed (m : NotificationMessageManager) (id : String) (target : Option Nat) : Prop :=
  m.lastRequest id = some target ∨
    m.lastRequest id = none ∧ ((id, m.generation id) ∈ m.calls ↔ target.isSome = true) ∧
      ∀ entry ∈ m.queue, entry.job = .expire id (m.generation id) → target = some entry.when_

/-- What every step keeps of the tasks. -/
structure Tasks (m : NotificationMessageManager) (target : String → Option Nat) : Prop where
  sorted : m.queue.Pairwise ByTime
  timely : ∀ entry ∈ m.queue, entry.job.Timely entry.when_
  known : ∀ id generation, (id, generation) ∈ m.calls → generation ≤ m.generation id
  once : m.calls.Nodup
  task : ∀ id, (m.messages.entry id).expirationTask = none →
    m.lastRequest id = none ∧ ∀ generation, (id, generation) ∉ m.calls
  armed : ∀ id, m.Armed id (target id)

theorem tasks_initial : initial.Tasks fun _ => none where
  sorted := .nil
  timely := by simp [initial]
  known := by simp [initial, calls]
  once := .nil
  task _ _ := ⟨rfl, by simp [initial, calls]⟩
  armed _ := .inr ⟨rfl, by simp [initial, calls], by simp [initial]⟩

/-! ## What is nothing to the tasks -/

/-- The task of an entry whose message is set stays as it is. -/
@[simp] theorem expirationTask_setMessage (messages : Messages) (id other text : String) :
    ((messages.setMessage id text).entry other).expirationTask =
      (messages.entry other).expirationTask := by
  rw [Messages.setMessage, Messages.entry_set]
  split
  · rename_i same
    rw [same]
  · rfl

@[simp] theorem message_setMessage (messages : Messages) (id other text : String) :
    ((messages.setMessage id text).entry other).message =
      if other = id then text else (messages.entry other).message := by
  rw [Messages.setMessage, Messages.entry_set]
  split <;> rfl

/-- The tasks do not depend on the messages. -/
theorem Tasks.of_same (tasks : m.Tasks target) (queue : next.queue = m.queue)
    (same : ∀ id, (next.messages.entry id).expirationTask =
      (m.messages.entry id).expirationTask) : next.Tasks target := by
  have generation (id : String) : next.generation id = m.generation id :=
    congrArg (·.getD 0) (same id)
  have calls : next.calls = m.calls := congrArg (List.filterMap _) queue
  have lastRequest (id : String) : next.lastRequest id = m.lastRequest id :=
    congrArg (lastOf _) queue
  obtain ⟨sorted, timely, known, once, task, armed⟩ := tasks
  refine ⟨queue ▸ sorted, queue ▸ timely, ?_, calls ▸ once, ?_, fun id => ?_⟩
  · rw [calls]
    exact fun id number isCall => generation id ▸ known id number isCall
  · intro id none
    rw [calls, lastRequest]
    exact task id (same id ▸ none)
  · unfold Armed
    rw [queue, generation, calls, lastRequest]
    exact armed id

/-! ## Jobs that are enqueued -/

theorem calls_push (m : NotificationMessageManager) (job : MessageJob) (when_ : Nat) :
    (m.push job when_).calls.Perm (job.call.toList ++ m.calls) := by
  have perm := (perm_insertEntry ⟨0, job, when_⟩ m.queue).filterMap (requestOf MessageJob.call)
  refine perm.trans (List.Perm.of_eq ?_)
  cases job <;> rfl

/-- A job that is no call and asks for nothing but for what the tasks are to do now. -/
theorem Tasks.pushNow (tasks : m.Tasks target) {job : MessageJob} (noCall : job.call = none)
    (timely : job.Timely whenImmediately) {asked : String → Option Nat}
    (asks : ∀ id, job.request id = some (asked id) ∧
        (m.messages.entry id).expirationTask ≠ none ∨
      job.request id = none ∧ asked id = target id) : (m.pushNow job).Tasks asked := by
  have perm : (m.pushNow job).calls.Perm m.calls := by
    have perm := calls_push m job whenImmediately
    rwa [noCall, Option.toList_none, List.nil_append] at perm
  have immediate : ∀ id, ∀ entry ∈ m.queue, entry.job.request id ≠ none →
      entry.when_ ≤ whenImmediately := by
    intro id entry member isRequest
    have := tasks.timely entry member
    cases isJob : entry.job with
    | expire _ _ =>
        rw [isJob] at isRequest
        exact absurd rfl isRequest
    | debounce _ _ =>
        rw [isJob] at this
        exact this.1.le
    | _ =>
        rw [isJob] at this
        exact Nat.le_of_eq this
  have asksNothing (id : String) (none : job.request id = none) :
      (m.pushNow job).lastRequest id = m.lastRequest id := lastOf_insertEntry none
  obtain ⟨sorted, isTimely, known, once, task, armed⟩ := tasks
  refine ⟨sorted_insertEntry sorted, fun entry member => ?_, fun id number isCall =>
    known id number (perm.mem_iff.mp isCall), perm.nodup_iff.mpr once, fun id isNone => ?_,
    fun id => ?_⟩
  · obtain rfl | member := mem_insertEntry.mp member
    · exact timely
    · exact isTimely entry member
  · obtain ⟨-, hasTask⟩ | ⟨none, -⟩ := asks id
    · exact absurd isNone hasTask
    · exact ⟨(asksNothing id none).trans (task id isNone).1,
        fun number isCall => (task id isNone).2 number (perm.mem_iff.mp isCall)⟩
  · obtain ⟨isAsked, -⟩ | ⟨none, same⟩ := asks id
    · exact .inl (lastOf_insertEntry_now sorted (immediate id) isAsked)
    · unfold Armed
      rw [asksNothing id none, same, perm.mem_iff]
      refine (armed id).imp_right fun ⟨noRequest, isCall, isTarget⟩ =>
        ⟨noRequest, isCall, fun entry member isJob => ?_⟩
      obtain rfl | member := mem_insertEntry.mp member
      · rw [show job = _ from isJob] at noCall
        cases noCall
      · exact isTarget entry member isJob

/-- A deadline for one task. -/
def setTarget (target : String → Option Nat) (id : String) (deadline : Option Nat) :
    String → Option Nat :=
  fun other => if other = id then deadline else target other

/-- Debouncing the expiration of a message makes its task the only one of that message. -/
theorem Tasks.debounceExpiration (tasks : m.Tasks target) (id : String) {when_ : Nat}
    (late : whenImmediately < when_) :
    (m.debounceExpiration id when_).Tasks (setTarget target id (some when_)) := by
  let made : NotificationMessageManager :=
    { m with messages := m.messages.set id { m.messages.entry id with
      expirationTask := some (m.messages.entry id).generation } }
  have entry (other : String) : made.messages.entry other =
      if other = id then { m.messages.entry id with
        expirationTask := some (m.messages.entry id).generation }
      else m.messages.entry other := Messages.entry_set _ _ _ _
  have generation (other : String) : made.generation other = m.generation other := by
    unfold NotificationMessageManager.generation
    rw [entry]
    split
    · rename_i same
      rw [same]
      rfl
    · rfl
  have isMade : made.Tasks target := by
    obtain ⟨sorted, timely, known, once, task, armed⟩ := tasks
    refine ⟨sorted, timely, fun other number isCall => generation other ▸ known other number isCall,
      once, fun other isNone => ?_, fun other => ?_⟩
    · rw [entry] at isNone
      split at isNone
      · cases isNone
      · exact task other isNone
    · unfold Armed
      rw [generation]
      exact armed other
  refine @Tasks.pushNow _ _ isMade (.debounce id when_) rfl ⟨rfl, late⟩ _ fun other => ?_
  unfold setTarget MessageJob.request
  dsimp only
  by_cases same : other = id
  · rw [if_pos same.symm, if_pos same, entry, if_pos same]
    exact .inl ⟨rfl, nofun⟩
  · rw [if_neg (Ne.symm same), if_neg same]
    exact .inr ⟨rfl, rfl⟩

/-- Cancelling the expiration of a message leaves it without a task. -/
theorem Tasks.cancelExpiration (tasks : m.Tasks target) (id : String) :
    (m.cancelExpiration id).Tasks (setTarget target id none) := by
  unfold NotificationMessageManager.cancelExpiration
  split
  · rename_i hasTask
    refine @Tasks.pushNow _ _ tasks (.cancel id) rfl rfl _ fun other => ?_
    unfold setTarget MessageJob.request
    dsimp only
    by_cases same : other = id
    · rw [if_pos same.symm, if_pos same, same]
      exact .inl ⟨rfl, Option.isSome_iff_ne_none.mp hasTask⟩
    · rw [if_neg (Ne.symm same), if_neg same]
      exact .inr ⟨rfl, rfl⟩
  · rename_i noTask
    obtain ⟨sorted, timely, known, once, task, armed⟩ := tasks
    refine ⟨sorted, timely, known, once, task, fun other => ?_⟩
    unfold setTarget
    split
    · rename_i same
      have none := task other (Option.not_isSome_iff_eq_none.mp (same ▸ noTask))
      refine .inr ⟨none.1, by simpa using none.2 _, fun entry member isJob => ?_⟩
      exact absurd (List.mem_filterMap.mpr ⟨entry, member, congrArg MessageJob.call isJob⟩)
        (none.2 _)
    · exact armed other

/-! ## Jobs that are done -/

variable {entry : DispatcherEntry MessageJob} {rest : List (DispatcherEntry MessageJob)}

theorem calls_cons (isQueue : m.queue = entry :: rest) :
    m.calls = entry.job.call.toList ++ calls { m with queue := rest } := by
  unfold calls
  rw [isQueue]
  cases isCall : entry.job.call with
  | none => exact List.filterMap_cons_none (f := requestOf MessageJob.call) isCall
  | some call => exact List.filterMap_cons_some (f := requestOf MessageJob.call) isCall

theorem lastRequest_cons (isQueue : m.queue = entry :: rest) (id : String) :
    m.lastRequest id = (lastRequest { m with queue := rest } id).or (entry.job.request id) := by
  unfold lastRequest
  rw [isQueue]
  exact lastOf_cons entry rest

/-- A job that is nothing to the tasks is taken. -/
theorem Tasks.pop (tasks : m.Tasks target) (isQueue : m.queue = entry :: rest)
    (noCall : entry.job.call = none) (noRequest : ∀ id, entry.job.request id = none) :
    Tasks { m with queue := rest } target := by
  have calls := calls_cons isQueue
  rw [noCall, Option.toList_none, List.nil_append] at calls
  have lastRequest (id : String) : m.lastRequest id = _ := lastRequest_cons isQueue id
  obtain ⟨sorted, timely, known, once, task, armed⟩ := tasks
  rw [isQueue] at sorted timely
  rw [calls] at known once
  refine ⟨(List.pairwise_cons.mp sorted).2, fun other member => timely other (.tail _ member),
    known, once, fun id isNone => ?_, fun id => ?_⟩
  · have := task id isNone
    rw [lastRequest, noRequest, Option.or_none, calls] at this
    exact this
  · have := armed id
    unfold Armed at this
    rw [lastRequest, noRequest, Option.or_none, calls, isQueue] at this
    exact this.imp_right fun ⟨isNone, isCall, isTarget⟩ =>
      ⟨isNone, isCall, fun other member => isTarget other (.tail _ member)⟩

/-- A request is done: the generation is a new one, and the call for it is queued when there is one
to be. -/
theorem Tasks.of_request (tasks : m.Tasks target) (isQueue : m.queue = entry :: rest)
    (noCall : entry.job.call = none) {id : String} {asked : Option Nat}
    (isRequest : ∀ other, entry.job.request other = if other = id then some asked else none)
    (late : ∀ when_, asked = some when_ → whenImmediately < when_)
    (sorted : next.queue.Pairwise ByTime)
    (member : ∀ other, other ∈ next.queue ↔
      (∃ when_, asked = some when_ ∧ other = ⟨0, .expire id (m.generation id + 1), when_⟩) ∨
        other ∈ rest)
    (perm : next.calls.Perm ((asked.map fun _ => (id, m.generation id + 1)).toList ++
      calls { m with queue := rest }))
    (last : ∀ other, next.lastRequest other = lastRequest { m with queue := rest } other)
    (isTask : ∀ other, (next.messages.entry other).expirationTask =
      if other = id then some (m.generation id + 1)
      else (m.messages.entry other).expirationTask) : next.Tasks target := by
  have calls := calls_cons isQueue
  rw [noCall, Option.toList_none, List.nil_append] at calls
  rw [← calls] at perm
  have generation (other : String) : next.generation other =
      if other = id then m.generation id + 1 else m.generation other := by
    unfold NotificationMessageManager.generation MessageEntry.generation
    rw [isTask]
    split <;> rfl
  have isCall (call : String × Nat) : call ∈ next.calls ↔
      (asked.isSome = true ∧ call = (id, m.generation id + 1)) ∨ call ∈ m.calls := by
    rw [perm.mem_iff, List.mem_append, Option.mem_toList]
    cases asked <;> simp [eq_comm]
  have lastRequest (other : String) : m.lastRequest other = (next.lastRequest other).or
      (if other = id then some asked else none) := by
    rw [lastRequest_cons isQueue, last, isRequest]
  obtain ⟨-, timely, known, once, task, armed⟩ := tasks
  have isNew : (id, m.generation id + 1) ∉ m.calls := fun isOld =>
    absurd (known id _ isOld) (Nat.not_succ_le_self _)
  refine ⟨sorted, fun other isQueued => ?_, fun other number isOther => ?_, perm.nodup_iff.mpr ?_,
    fun other isNone => ?_, fun other => ?_⟩
  · obtain ⟨when_, isAsked, rfl⟩ | isRest := (member other).mp isQueued
    · exact late when_ isAsked
    · exact timely other (isQueue ▸ .tail _ isRest)
  · rw [generation]
    obtain ⟨-, same⟩ | isOld := (isCall _).mp isOther
    · obtain ⟨rfl, rfl⟩ := Prod.mk.inj same
      rw [if_pos rfl]
    · have := known other number isOld
      split
      · rename_i same
        exact (same ▸ this).trans (Nat.le_succ _)
      · exact this
  · cases asked with
    | none => exact once
    | some when_ => exact List.nodup_cons.mpr ⟨isNew, once⟩
  · rw [isTask] at isNone
    split at isNone
    · cases isNone
    · rename_i different
      have := task other isNone
      rw [lastRequest, if_neg different, Option.or_none] at this
      refine ⟨this.1, fun number isOther => ?_⟩
      obtain ⟨-, same⟩ | isOld := (isCall _).mp isOther
      · exact different (Prod.mk.inj same).1
      · exact this.2 number isOld
  · have isArmed := armed other
    unfold Armed at isArmed ⊢
    rw [lastRequest] at isArmed
    rw [generation]
    by_cases same : other = id
    · subst same
      rw [if_pos rfl] at isArmed ⊢
      cases later : next.lastRequest other with
      | some asksLater =>
          rw [later, Option.some_or] at isArmed
          exact .inl (isArmed.resolve_right fun none => nomatch none.1)
      | none =>
          rw [later, Option.none_or] at isArmed
          have isTarget := Option.some.inj (isArmed.resolve_right fun none => nomatch none.1)
          refine .inr ⟨rfl, ?_, fun call isQueued isJob => ?_⟩
          · rw [isCall, ← isTarget]
            simp [isNew]
          · obtain ⟨when_, isAsked, rfl⟩ | isRest := (member call).mp isQueued
            · exact isTarget.symm.trans isAsked
            · refine absurd ?_ isNew
              exact List.mem_filterMap.mpr
                ⟨call, isQueue ▸ .tail _ isRest, congrArg MessageJob.call isJob⟩
    · rw [if_neg same, Option.or_none] at isArmed
      rw [if_neg same]
      refine isArmed.imp_right fun ⟨isNone, isOld, isTarget⟩ =>
        ⟨isNone, ?_, fun call isQueued isJob => ?_⟩
      · rw [isCall, ← isOld]
        simp [same]
      · obtain ⟨when_, -, rfl⟩ | isRest := (member call).mp isQueued
        · exact absurd (MessageJob.expire.inj isJob).1.symm same
        · exact isTarget call (isQueue ▸ .tail _ isRest) isJob

theorem expirationTask_bump (m : NotificationMessageManager) (id other : String) :
    ((m.bump id).messages.entry other).expirationTask =
      if other = id then some (m.generation id + 1)
      else (m.messages.entry other).expirationTask := by
  unfold bump
  dsimp only
  rw [Messages.entry_set]
  split <;> rfl

/-- The task is asked to run its function at a time. -/
theorem Tasks.debounce (tasks : m.Tasks target) {id : String} {when_ : Nat}
    (isQueue : m.queue = entry :: rest) (isJob : entry.job = .debounce id when_) (now : Nat) :
    (perform { m with queue := rest } now (.debounce id when_)).Tasks target := by
  have timely := tasks.timely entry (isQueue ▸ List.mem_cons_self)
  have sorted := tasks.sorted
  rw [isJob] at timely
  rw [isQueue] at sorted
  let bumped := bump { m with queue := rest } id
  have isGeneration : (bumped.messages.entry id).generation = m.generation id + 1 := by
    unfold MessageEntry.generation
    rw [expirationTask_bump, if_pos rfl]
    rfl
  unfold perform
  dsimp only
  rw [isGeneration]
  refine @of_request m _ target entry rest tasks isQueue (by rw [isJob]; rfl) id (some when_)
    (fun other => ?_) (fun deadline same => Option.some.inj same ▸ timely.2)
    (sorted_insertEntry (List.pairwise_cons.mp sorted).2) (fun other => ?_)
    (calls_push bumped _ _) (fun other => lastOf_insertEntry rfl)
    (expirationTask_bump { m with queue := rest } id)
  · rw [isJob]
    unfold MessageJob.request
    simp only [eq_comm]
  · refine mem_insertEntry.trans (or_congr_left ⟨fun same => ⟨when_, rfl, same⟩, ?_⟩)
    rintro ⟨deadline, same, rfl⟩
    rw [Option.some.inj same]

/-- The job of a cancellation drops no task that is still expected, as its target was set when it
was asked for. -/
theorem Tasks.cancel (tasks : m.Tasks target) {id : String} (isQueue : m.queue = entry :: rest)
    (isJob : entry.job = .cancel id) (now : Nat) :
    (perform { m with queue := rest } now (.cancel id)).Tasks target := by
  have sorted := tasks.sorted
  rw [isQueue] at sorted
  refine @of_request m _ target entry rest tasks isQueue (by rw [isJob]; rfl) id none
    (fun other => ?_) nofun (List.pairwise_cons.mp sorted).2 (fun other => ?_) (.refl _)
    (fun other => rfl) (expirationTask_bump { m with queue := rest } id)
  · rw [isJob]
    unfold MessageJob.request
    simp only [eq_comm]
  · refine ⟨.inr, ?_⟩
    rintro (⟨deadline, same, -⟩ | isRest)
    · cases same
    · exact isRest

/-- A call is taken. It is the call of the last request when its generation is the one of the
task. -/
theorem Tasks.expire (tasks : m.Tasks target) {id : String} {number : Nat}
    (isQueue : m.queue = entry :: rest) (isJob : entry.job = .expire id number) :
    (m.generation id = number → target id = some entry.when_) ∧
      Tasks { m with queue := rest }
        (if m.generation id = number then setTarget target id none else target) := by
  have isCall : entry.job.call = some (id, number) := congrArg MessageJob.call isJob
  have calls := calls_cons isQueue
  rw [isCall] at calls
  obtain ⟨sorted, timely, known, once, task, armed⟩ := tasks
  have isFirst := timely entry (isQueue ▸ List.mem_cons_self)
  rw [isQueue] at sorted timely
  rw [isJob] at isFirst
  obtain ⟨later, restSorted⟩ := List.pairwise_cons.mp sorted
  -- All that is queued is calls, since a request would have been done before.
  have noRequest (asking : String) : ∀ other ∈ entry :: rest, other.job.request asking = none := by
    intro other isQueued
    obtain rfl | isRest := List.mem_cons.mp isQueued
    · rw [isJob]
      rfl
    · have isLate := Nat.lt_of_lt_of_le isFirst (later other isRest)
      have isTimely := timely other isQueued
      cases isOther : other.job with
      | debounce _ _ =>
          rw [isOther] at isTimely
          exact absurd isTimely.1 (Nat.ne_of_gt isLate)
      | cancel _ =>
          rw [isOther] at isTimely
          exact absurd isTimely (Nat.ne_of_gt isLate)
      | _ => rfl
  have none (other : String) : m.lastRequest other = none := by
    unfold lastRequest
    rw [isQueue]
    exact lastOf_eq_none.mpr (noRequest other)
  have noneLater (other : String) : lastRequest { m with queue := rest } other = Option.none :=
    lastOf_eq_none.mpr fun job member => noRequest other job (.tail _ member)
  have current (other : String) := (armed other).resolve_left fun isSome => by
    rw [none] at isSome
    cases isSome
  rw [calls] at known once
  have isNew := (List.nodup_cons.mp once).1
  refine ⟨fun isCurrent => (current id).2.2 entry (isQueue ▸ List.mem_cons_self)
    (isCurrent ▸ isJob), restSorted, fun other member => timely other (.tail _ member),
    fun other number member => known other number (.tail _ member), (List.nodup_cons.mp once).2,
    fun other isNone => ⟨noneLater other, fun number member => ?_⟩, fun other => .inr
      ⟨noneLater other, ?_⟩⟩
  · exact (task other isNone).2 number (calls ▸ .tail _ member)
  · obtain ⟨-, isOther, isTarget⟩ := current other
    rw [calls] at isOther
    change (_ ∈ (id, number) :: _ ↔ _) at isOther
    rw [List.mem_cons] at isOther
    have mine : ∀ call ∈ rest, call.job = .expire other (m.generation other) →
        (other, m.generation other) ≠ (id, number) := fun call member isJob same =>
      isNew (same ▸ List.mem_filterMap.mpr ⟨call, member, congrArg MessageJob.call isJob⟩)
    by_cases isDone : other = id ∧ m.generation id = number
    · obtain ⟨rfl, isCurrent⟩ := isDone
      rw [if_pos isCurrent, setTarget, if_pos rfl]
      refine ⟨⟨fun isQueued => absurd (isCurrent ▸ isQueued) isNew, nofun⟩,
        fun call member isJob => ?_⟩
      exact absurd (congrArg _ isCurrent) (mine call member isJob)
    · have different : (other, m.generation other) ≠ (id, number) := fun same => by
        obtain ⟨rfl, isCurrent⟩ := Prod.mk.inj same
        exact isDone ⟨rfl, isCurrent⟩
      have same : (if m.generation id = number then setTarget target id Option.none else target)
          other = target other := by
        split
        · rename_i isCurrent
          exact if_neg fun isOther => isDone ⟨isOther, isCurrent⟩
        · rfl
      rw [same]
      refine ⟨?_, fun call member => isTarget call (isQueue ▸ .tail _ member)⟩
      rw [← isOther]
      exact (or_iff_right different).symm

/-! ## The generations -/

section Generations

variable {id : String}

theorem generation_setMessage (m : NotificationMessageManager) (own text : String) :
    (m.setMessage own text).generation id = m.generation id :=
  congrArg (Option.getD · 0) (expirationTask_setMessage m.messages own id text)

theorem generation_updateFullMessage (m : NotificationMessageManager) :
    m.updateFullMessage.generation id = m.generation id := by
  unfold updateFullMessage
  dsimp only
  split <;> rfl

theorem generation_debounceExpiration (m : NotificationMessageManager) (own : String)
    (when_ : Nat) : (m.debounceExpiration own when_).generation id = m.generation id := by
  change MessageEntry.generation (Messages.entry (m.messages.set own _) id) = _
  rw [Messages.entry_set]
  split
  · rename_i same
    rw [same]
    rfl
  · rfl

theorem generation_bump_le (m : NotificationMessageManager) (own : String) :
    (m.bump own).generation id ≤ m.generation id + 1 := by
  change MessageEntry.generation (Messages.entry (m.messages.set own _) id) ≤ _
  rw [Messages.entry_set]
  split
  · rename_i same
    rw [same]
    exact le_rfl
  · exact Nat.le_succ _

theorem generation_perform_le (m : NotificationMessageManager) (now : Nat) (job : MessageJob) :
    (m.perform now job).generation id ≤ m.generation id + 1 := by
  cases job with
  | setSticky name text => exact (generation_setMessage m _ _).le.trans (Nat.le_succ _)
  | updateFullMessage => exact (generation_updateFullMessage m).le.trans (Nat.le_succ _)
  | clearSticky =>
      refine (generation_updateFullMessage _).le.trans (le_trans (le_of_eq ?_) (Nat.le_succ _))
      generalize stickyModifiers = modifiers
      induction modifiers generalizing m with
      | nil => rfl
      | cons modifier rest ih => exact (ih _).trans (generation_setMessage m _ _)
  | setNotificationMessage message =>
      refine le_trans (le_of_eq ?_) (Nat.le_succ _)
      refine (generation_updateFullMessage _).trans ?_
      split
      · exact (generation_debounceExpiration _ _ _).trans (generation_setMessage m _ _)
      · unfold cancelExpiration
        split <;> exact generation_setMessage m _ _
  | debounce own when_ => exact generation_bump_le m own
  | cancel own => exact generation_bump_le m own
  | expire own number =>
      unfold perform
      dsimp only
      split
      · exact ((generation_updateFullMessage _).trans (generation_setMessage m own "")).le.trans
          (Nat.le_succ _)
      · exact Nat.le_succ _

theorem messages_foldl_pushNow {α : Type} (job : α → MessageJob) (names : List α)
    (m : NotificationMessageManager) :
    (names.foldl (fun m name => m.pushNow (job name)) m).messages = m.messages := by
  induction names generalizing m with
  | nil => rfl
  | cons name rest ih => exact ih _

theorem generation_of_messages (same : next.messages = m.messages) :
    next.generation id = m.generation id := by
  unfold generation
  rw [same]

/-- A step makes one request for the task of a message at most. -/
theorem generation_step_le (m : NotificationMessageManager) (action : NotificationAction) :
    (m.step action).generation id ≤ m.generation id + 1 := by
  cases action with
  | asyncUpdateStickyModifiersMessage manager =>
      refine (generation_of_messages ?_).le.trans (Nat.le_succ _)
      unfold step
      exact messages_foldl_pushNow (fun modifier : ModifierFlag × String =>
        .setSticky modifier.2 (if manager.isStickyActive modifier.1 then "sticky " ++ modifier.2
          else "")) stickyModifiers m
  | asyncClearStickyModifiersMessage => exact (generation_of_messages rfl).le.trans (Nat.le_succ _)
  | asyncSetNotificationMessage message =>
      exact (generation_of_messages rfl).le.trans (Nat.le_succ _)
  | work now isPast =>
      change (m.work now).generation id ≤ _
      unfold work
      cases m.nextJob now with
      | none => exact Nat.le_succ _
      | some next =>
          have popped : generation { m with queue := next.2 } id = m.generation id :=
            generation_of_messages rfl
          exact popped ▸ generation_perform_le { m with queue := next.2 } now next.1

/-- In a run of fewer than 2^64 steps no generation wraps around. -/
theorem generation_le (actions : List NotificationAction) (id : String) :
    (actions.foldl step initial).generation id ≤ actions.length := by
  induction actions using List.reverseRecOn with
  | nil => exact le_rfl
  | append_singleton actions action ih =>
      rw [List.foldl_append, List.length_append]
      exact (generation_step_le _ action).trans (Nat.succ_le_succ ih)

end Generations

end NotificationMessageManager

end Karabiner

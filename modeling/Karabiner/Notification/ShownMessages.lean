import Karabiner.Notification.ExpirationTasks
import Mathlib.Data.String.Basic

/-! # What the user sees

The last message that has been set with an id is shown until its time is over, and the message of
another id or of an earlier time never clears it (`NotificationHistory.shown_of_idle`).
-/

namespace Karabiner

namespace Messages

/-- The order of a map. -/
def Ordered (messages : Messages) : Prop := messages.Pairwise fun first second => first.1 < second.1

variable {messages : Messages}

theorem mem_set {id : String} {entry : MessageEntry} {pair : String × MessageEntry}
    (member : pair ∈ messages.set id entry) : pair = (id, entry) ∨ pair ∈ messages := by
  induction messages with
  | nil => exact .inl (List.mem_singleton.mp member)
  | cons first rest ih =>
      unfold set at member
      split at member
      · exact (List.mem_cons.mp member).imp_right (.tail _)
      · split at member
        · exact List.mem_cons.mp member
        · obtain rfl | member := List.mem_cons.mp member
          · exact .inr List.mem_cons_self
          · exact (ih member).imp_right (.tail _)

/-- Setting a message keeps the messages in the order of their ids. -/
theorem Ordered.set (ordered : messages.Ordered) (id : String) (entry : MessageEntry) :
    (messages.set id entry).Ordered := by
  induction messages with
  | nil => exact List.pairwise_singleton _ _
  | cons first rest ih =>
      obtain ⟨isFirst, restOrdered⟩ := List.pairwise_cons.mp ordered
      unfold Messages.set
      split
      · rename_i same
        exact List.pairwise_cons.mpr ⟨same ▸ isFirst, restOrdered⟩
      · split
        · rename_i before
          refine List.pairwise_cons.mpr ⟨fun pair member => ?_, ordered⟩
          obtain rfl | member := List.mem_cons.mp member
          · exact before
          · exact before.trans (isFirst pair member)
        · rename_i different notBefore
          refine List.pairwise_cons.mpr ⟨fun pair member => ?_, ih restOrdered⟩
          obtain rfl | member := mem_set member
          · exact lt_of_le_of_ne (not_lt.mp notBefore) (Ne.symm different)
          · exact isFirst pair member

theorem entry_cons (pair : String × MessageEntry) (rest : Messages) (id : String) :
    Messages.entry (pair :: rest) id = if id = pair.1 then pair.2 else Messages.entry rest id := by
  unfold Messages.entry
  grind

theorem entry_eq_empty {id : String} (absent : ∀ pair ∈ messages, pair.1 ≠ id) :
    messages.entry id = .empty := by
  induction messages with
  | nil => rfl
  | cons first rest ih =>
      rw [entry_cons, if_neg (absent first List.mem_cons_self).symm]
      exact ih fun pair member => absent pair (.tail _ member)

/-- The text is the same when an entry keeps its message. -/
theorem fullMessage_set (ordered : messages.Ordered) {id : String} {entry : MessageEntry}
    (same : entry.message = (messages.entry id).message) :
    (messages.set id entry).fullMessage = messages.fullMessage := by
  suffices general : ∀ text, (messages.set id entry).foldl append text =
      messages.foldl append text from general ""
  intro text
  induction messages generalizing text with
  | nil => exact if_pos same
  | cons first rest ih =>
      obtain ⟨isFirst, restOrdered⟩ := List.pairwise_cons.mp ordered
      unfold Messages.set
      rw [entry_cons] at same
      split
      · rename_i isKey
        rw [if_pos isKey] at same
        rw [List.foldl_cons, List.foldl_cons]
        unfold append
        rw [same]
      · rename_i different
        rw [if_neg different] at same
        split
        · rename_i before
          have absent : Messages.entry rest id = .empty :=
            entry_eq_empty fun pair member => ne_of_gt (before.trans (isFirst pair member))
          rw [absent] at same
          rw [List.foldl_cons]
          exact congrArg (List.foldl append · (first :: rest)) (if_pos same)
        · exact ih restOrdered same _

end Messages

/-- The last message that has been set with an id. -/
structure LastMessage where
  text : String
  deadline : Option Nat
  expired : Bool

namespace LastMessage

def shown (last : LastMessage) : String := if last.expired then "" else last.text

/-- When the message is still to be cleared. -/
def target (last : LastMessage) : Option Nat := if last.expired then none else last.deadline

end LastMessage

/-- The manager, with what has been set and the latest time. -/
structure NotificationHistory where
  manager : NotificationMessageManager
  last : String → Option LastMessage
  clock : Nat

namespace NotificationHistory

open Dispatcher NotificationMessageManager

def initial : NotificationHistory := ⟨.initial, fun _ => none, 0⟩

/-- The deadline of a message that is set. -/
def deadline (message : TimedMessage) (now : Nat) : Option Nat :=
  if message.text ≠ "" ∧ message.durationMilliseconds > 0 then
    some (now + message.durationMilliseconds)
  else none

/-- What a job sets or clears. -/
def note (h : NotificationHistory) (now : Nat) : MessageJob → String → Option LastMessage
  | .setNotificationMessage message => fun id =>
      if id = userId message.id then some ⟨message.text, deadline message now, false⟩ else h.last id
  | .expire expired number => fun id =>
      if id = expired ∧ h.manager.generation expired = number then
        (h.last id).map fun last => { last with expired := true }
      else h.last id
  | _ => h.last

def step (h : NotificationHistory) : NotificationAction → NotificationHistory
  | .work now _ =>
      match h.manager.nextJob now with
      | some (job, _) => ⟨h.manager.work now, h.note now job, max h.clock now⟩
      | none => { h with clock := max h.clock now }
  | action => { h with manager := h.manager.step action }

/-- Whether a job changes messages of which the text is not yet made, or makes the text. -/
def showRequest : MessageJob → Option Bool
  | .setSticky _ _ => some false
  | .updateFullMessage => some true
  | _ => none

/-- The text is the one of the messages, or it is to be made. -/
def Displayed (m : NotificationMessageManager) : Prop :=
  lastOf showRequest m.queue = some true ∨
    lastOf showRequest m.queue = none ∧ m.fullMessage = m.messages.fullMessage

/-- What every step keeps. -/
structure Kept (h : NotificationHistory) : Prop where
  tasks : h.manager.Tasks fun id => (h.last id).bind LastMessage.target
  message : ∀ id, (h.manager.messages.entry (userId id)).message =
    ((h.last (userId id)).map LastMessage.shown).getD ""
  expired : ∀ id last, h.last id = some last → last.expired = true →
    ∃ deadline, last.deadline = some deadline ∧ deadline ≤ h.clock
  ordered : h.manager.messages.Ordered
  displayed : Displayed h.manager

theorem kept_initial : initial.Kept where
  tasks := tasks_initial
  message _ := rfl
  expired _ _ isLast := nomatch isLast
  ordered := .nil
  displayed := .inr ⟨rfl, rfl⟩

variable {h : NotificationHistory} {m : NotificationMessageManager}

theorem userId_ne_stickyId (id name : String) : userId id ≠ stickyId name := by
  intro same
  have characters := congrArg String.toList same
  simp [userId, stickyId] at characters

theorem updateFullMessage_cases (m : NotificationMessageManager) :
    m.updateFullMessage.messages = m.messages ∧ m.updateFullMessage.queue = m.queue ∧
      m.updateFullMessage.fullMessage = m.messages.fullMessage := by
  unfold updateFullMessage
  dsimp only
  split
  · rename_i same
    exact ⟨rfl, rfl, same⟩
  · exact ⟨rfl, rfl, rfl⟩

/-! ## The text -/

variable {entry : DispatcherEntry MessageJob} {rest : List (DispatcherEntry MessageJob)}

theorem lastShow_pop (isQueue : m.queue = entry :: rest) (none : showRequest entry.job = none) :
    lastOf showRequest m.queue = lastOf showRequest rest := by
  rw [isQueue, lastOf_cons, none, Option.or_none]

/-- A job that changes no text. -/
theorem Displayed.of_same (displayed : Displayed m) {next : NotificationMessageManager}
    (queue : lastOf showRequest next.queue = lastOf showRequest m.queue)
    (fullMessage : next.fullMessage = m.fullMessage)
    (messages : next.messages.fullMessage = m.messages.fullMessage) : Displayed next := by
  unfold Displayed
  rw [queue, fullMessage, messages]
  exact displayed

/-- The text is made. -/
theorem Displayed.update (displayed : Displayed m) {next : NotificationMessageManager}
    (queue : lastOf showRequest next.queue = lastOf showRequest m.queue) :
    Displayed next.updateFullMessage := by
  obtain ⟨messages, sameQueue, fullMessage⟩ := updateFullMessage_cases next
  unfold Displayed
  rw [sameQueue, queue, fullMessage, messages]
  exact displayed.imp_right fun ⟨isNone, _⟩ => ⟨isNone, rfl⟩

/-! ## The jobs -/

/-- The messages of the sticky modifiers are nothing to the others. -/
theorem foldl_setMessage_cases (names : List (ModifierFlag × String))
    (m : NotificationMessageManager) (ordered : m.messages.Ordered) :
    let next := names.foldl (fun m modifier => m.setMessage (stickyId modifier.2) "") m
    next.queue = m.queue ∧ next.messages.Ordered ∧
      (∀ id, (next.messages.entry id).expirationTask = (m.messages.entry id).expirationTask) ∧
      ∀ id, (next.messages.entry (userId id)).message =
        (m.messages.entry (userId id)).message := by
  induction names generalizing m with
  | nil => exact ⟨rfl, ordered, fun _ => rfl, fun _ => rfl⟩
  | cons modifier names ih =>
      obtain ⟨queue, isOrdered, task, message⟩ :=
        ih (m.setMessage (stickyId modifier.2) "") (ordered.set _ _)
      refine ⟨queue, isOrdered, fun id => (task id).trans (expirationTask_setMessage _ _ _ _),
        fun id => (message id).trans ?_⟩
      exact (message_setMessage _ _ _ _).trans (if_neg (userId_ne_stickyId id modifier.2))

/-- What is kept when only the tasks of the messages have changed. -/
theorem Kept.of_tasks (kept : h.Kept) {next : NotificationMessageManager} {clock : Nat}
    (later : h.clock ≤ clock)
    (tasks : next.Tasks fun id => (h.last id).bind LastMessage.target)
    (message : ∀ id, (next.messages.entry (userId id)).message =
      (h.manager.messages.entry (userId id)).message)
    (ordered : next.messages.Ordered) (displayed : Displayed next) :
    Kept ⟨next, h.last, clock⟩ := by
  refine ⟨tasks, fun id => (message id).trans (kept.message id), fun id last isLast isExpired => ?_,
    ordered, displayed⟩
  obtain ⟨deadline, same, isOver⟩ := kept.expired id last isLast isExpired
  exact ⟨deadline, same, isOver.trans later⟩

theorem fullMessage_bump {m : NotificationMessageManager} (ordered : m.messages.Ordered)
    (id : String) : (m.bump id).messages.fullMessage = m.messages.fullMessage :=
  Messages.fullMessage_set ordered rfl

theorem message_bump (m : NotificationMessageManager) (id other : String) :
    ((m.bump id).messages.entry other).message = (m.messages.entry other).message := by
  unfold bump
  dsimp only
  rw [Messages.entry_set]
  split
  · rename_i same
    rw [same]
  · rfl

/-- A job that neither sets a message nor calls anything keeps what is shown. -/
theorem Kept.perform_other (kept : h.Kept) (isQueue : h.manager.queue = entry :: rest) (now : Nat)
    (noCall : entry.job.call = none)
    (noSet : ∀ message, entry.job ≠ .setNotificationMessage message) :
    Kept ⟨perform { h.manager with queue := rest } now entry.job, h.last, max h.clock now⟩ := by
  have later := le_max_left h.clock now
  have isShown := kept.displayed
  unfold Displayed at isShown
  rw [isQueue, lastOf_cons] at isShown
  cases isJob : entry.job with
  | setSticky name text =>
      have popped := kept.tasks.pop isQueue noCall (by rw [isJob]; exact fun _ => rfl)
      refine kept.of_tasks later (popped.of_same rfl fun id => expirationTask_setMessage _ _ id _)
        (fun id => ?_) (kept.ordered.set _ _) (.inl ?_)
      · exact (message_setMessage _ _ _ _).trans (if_neg (userId_ne_stickyId id name))
      · rw [isJob] at isShown
        change lastOf showRequest rest = some true
        cases last : lastOf showRequest rest with
        | none => simp [last, showRequest] at isShown
        | some isText =>
            rw [last, Option.some_or] at isShown
            exact isShown.resolve_right fun isNone => nomatch isNone.1
  | updateFullMessage =>
      have popped := kept.tasks.pop isQueue noCall (by rw [isJob]; exact fun _ => rfl)
      obtain ⟨messages, queue, fullMessage⟩ :=
        updateFullMessage_cases { h.manager with queue := rest }
      refine kept.of_tasks later (popped.of_same queue fun id => by rw [perform, messages])
        (fun id => by rw [perform, messages]) (by rw [perform, messages]; exact kept.ordered) ?_
      unfold Displayed perform
      dsimp only
      rw [queue, messages, fullMessage]
      cases last : lastOf showRequest rest with
      | none => exact .inr ⟨rfl, rfl⟩
      | some isText =>
          rw [last, Option.some_or] at isShown
          exact .inl (isShown.resolve_right fun isNone => nomatch isNone.1)
  | clearSticky =>
      have popped := kept.tasks.pop isQueue noCall (by rw [isJob]; exact fun _ => rfl)
      obtain ⟨queue, ordered, task, message⟩ :=
        foldl_setMessage_cases stickyModifiers { h.manager with queue := rest } kept.ordered
      have none : showRequest entry.job = none := by rw [isJob]; rfl
      have displayed := kept.displayed.update
        ((congrArg (lastOf showRequest) queue).trans (lastShow_pop isQueue none).symm)
      obtain ⟨messages, sameQueue, -⟩ := updateFullMessage_cases (stickyModifiers.foldl
        (fun m modifier => m.setMessage (stickyId modifier.2) "") { h.manager with queue := rest })
      refine kept.of_tasks later (popped.of_same (sameQueue.trans queue) fun id => ?_)
        (fun id => ?_) ?_ displayed
      · rw [perform, messages]
        exact task id
      · rw [perform, messages]
        exact message id
      · rw [perform, messages]
        exact ordered
  | setNotificationMessage message => exact absurd isJob (noSet message)
  | debounce id when_ =>
      have none : showRequest entry.job = none := by rw [isJob]; rfl
      refine kept.of_tasks later (kept.tasks.debounce isQueue isJob now) (fun other => ?_)
        (kept.ordered.set _ _) (kept.displayed.of_same ?_ rfl ?_)
      · exact message_bump { h.manager with queue := rest } id (userId other)
      · exact (lastOf_insertEntry rfl).trans (lastShow_pop isQueue none).symm
      · exact @fullMessage_bump { h.manager with queue := rest } kept.ordered id
  | cancel id =>
      have none : showRequest entry.job = none := by rw [isJob]; rfl
      refine kept.of_tasks later (kept.tasks.cancel isQueue isJob now) (fun other => ?_)
        (kept.ordered.set _ _) (kept.displayed.of_same ?_ rfl ?_)
      · exact message_bump { h.manager with queue := rest } id (userId other)
      · exact (lastShow_pop isQueue none).symm
      · exact @fullMessage_bump { h.manager with queue := rest } kept.ordered id
  | expire id number =>
      rw [isJob] at noCall
      cases noCall

/-- What `debounce_expiration` and `cancel_expiration` leave. -/
theorem expiration_cases {m : NotificationMessageManager} (ordered : m.messages.Ordered)
    (id : String) :
    (∀ when_, lastOf showRequest (m.debounceExpiration id when_).queue =
        lastOf showRequest m.queue ∧
      (m.debounceExpiration id when_).messages.Ordered ∧
      ∀ other, ((m.debounceExpiration id when_).messages.entry other).message =
        (m.messages.entry other).message) ∧
    lastOf showRequest (m.cancelExpiration id).queue = lastOf showRequest m.queue ∧
      (m.cancelExpiration id).messages = m.messages := by
  refine ⟨fun when_ => ⟨lastOf_insertEntry rfl, ordered.set _ _, fun other => ?_⟩, ?_⟩
  · unfold debounceExpiration pushNow NotificationMessageManager.push
    dsimp only
    rw [Messages.entry_set]
    split
    · rename_i same
      rw [same]
    · rfl
  · unfold cancelExpiration
    split
    · exact ⟨lastOf_insertEntry rfl, rfl⟩
    · exact ⟨rfl, rfl⟩

/-- A message is set. -/
theorem Kept.perform_set (kept : h.Kept) (isQueue : h.manager.queue = entry :: rest) {now : Nat}
    (isPast : 0 < now) {message : TimedMessage}
    (isJob : entry.job = .setNotificationMessage message) :
    Kept ⟨perform { h.manager with queue := rest } now (.setNotificationMessage message),
      h.note now (.setNotificationMessage message), max h.clock now⟩ := by
  have none : showRequest entry.job = none := by rw [isJob]; rfl
  have popped := kept.tasks.pop isQueue (by rw [isJob]; rfl) (by rw [isJob]; exact fun _ => rfl)
  let set := setMessage { h.manager with queue := rest } (userId message.id) message.text
  have isSet : set.Tasks fun id => (h.last id).bind LastMessage.target :=
    popped.of_same rfl fun id => expirationTask_setMessage _ _ id _
  have ordered : set.messages.Ordered := kept.ordered.set _ _
  have lastShow : lastOf showRequest set.queue = lastOf showRequest h.manager.queue :=
    (lastShow_pop isQueue none).symm
  let next := if message.text ≠ "" ∧ message.durationMilliseconds > 0 then
      set.debounceExpiration (userId message.id) (now + message.durationMilliseconds)
    else set.cancelExpiration (userId message.id)
  obtain ⟨debounced, cancelled⟩ := expiration_cases ordered (userId message.id)
  have isNext : next.Tasks (setTarget (fun id => (h.last id).bind LastMessage.target)
        (userId message.id) (deadline message now)) ∧
      lastOf showRequest next.queue = lastOf showRequest set.queue ∧ next.messages.Ordered ∧
      ∀ other, (next.messages.entry other).message = (set.messages.entry other).message := by
    unfold next deadline
    split
    · rename_i isTimed
      refine ⟨isSet.debounceExpiration _ ?_, debounced _⟩
      have := isTimed.2
      unfold whenImmediately
      omega
    · exact ⟨isSet.cancelExpiration _, cancelled.1, cancelled.2 ▸ ordered,
        fun other => by rw [cancelled.2]⟩
  obtain ⟨messages, queue, -⟩ := updateFullMessage_cases next
  change Kept ⟨next.updateFullMessage, _, _⟩
  refine ⟨?_, fun id => ?_, fun id last isLast isExpired => ?_, messages ▸ isNext.2.2.1,
    kept.displayed.update (isNext.2.1.trans lastShow)⟩
  · have target : (fun id => (h.note now (.setNotificationMessage message) id).bind
        LastMessage.target) = setTarget (fun id => (h.last id).bind LastMessage.target)
          (userId message.id) (deadline message now) := by
      funext id
      unfold note setTarget
      dsimp only
      split <;> rfl
    rw [target]
    exact isNext.1.of_same queue fun id => by rw [messages]
  · dsimp only
    rw [messages, isNext.2.2.2]
    refine (message_setMessage _ _ _ _).trans ?_
    unfold note
    dsimp only
    split
    · rfl
    · exact kept.message id
  · unfold note at isLast
    dsimp only at isLast
    split at isLast
    · obtain rfl := Option.some.inj isLast
      cases isExpired
    · obtain ⟨deadline, same, isOver⟩ := kept.expired id last isLast isExpired
      exact ⟨deadline, same, isOver.trans (le_max_left _ _)⟩

/-- A call clears the message that it belongs to, or does nothing. -/
theorem Kept.perform_expire (kept : h.Kept) (isQueue : h.manager.queue = entry :: rest) {now : Nat}
    (due : entry.when_ ≤ max whenImmediately now) {id : String} {number : Nat}
    (isJob : entry.job = .expire id number) :
    Kept ⟨perform { h.manager with queue := rest } now (.expire id number),
      h.note now (.expire id number), max h.clock now⟩ := by
  have none : showRequest entry.job = none := by rw [isJob]; rfl
  obtain ⟨isTarget, tasks⟩ := kept.tasks.expire isQueue isJob
  have late := kept.tasks.timely entry (isQueue ▸ List.mem_cons_self)
  rw [isJob] at late
  have isOver : entry.when_ ≤ now := (le_max_iff.mp due).resolve_left (not_le_of_gt late)
  by_cases isCurrent : h.manager.generation id = number
  · rw [if_pos isCurrent] at tasks
    have isNoted (other : String) : h.note now (.expire id number) other =
        if other = id then (h.last other).map fun last => { last with expired := true }
        else h.last other := by
      unfold note
      simp only [isCurrent, and_true]
    let cleared := setMessage { h.manager with queue := rest } id ""
    have performed : perform { h.manager with queue := rest } now (.expire id number) =
        cleared.updateFullMessage := if_pos isCurrent
    obtain ⟨messages, queue, -⟩ := updateFullMessage_cases cleared
    rw [performed]
    refine ⟨?_, fun other => ?_, fun other last isLast isExpired => ?_,
      messages ▸ kept.ordered.set _ _, kept.displayed.update (lastShow_pop isQueue none).symm⟩
    · have target : (fun other => (h.note now (.expire id number) other).bind
          LastMessage.target) = setTarget (fun other => (h.last other).bind LastMessage.target) id
            Option.none := by
        funext other
        rw [isNoted]
        unfold setTarget
        split
        · cases h.last other <;> rfl
        · rfl
      rw [target]
      exact tasks.of_same queue fun other => by
        rw [messages]
        exact expirationTask_setMessage _ _ other _
    · dsimp only
      rw [messages, isNoted]
      refine (message_setMessage _ _ _ _).trans ?_
      split
      · cases h.last (userId other) <;> rfl
      · exact kept.message other
    · dsimp only at isLast
      rw [isNoted] at isLast
      split at isLast
      · rename_i same
        obtain ⟨before, isBefore, rfl⟩ := Option.map_eq_some_iff.mp isLast
        have isTarget := isTarget isCurrent
        rw [← same, isBefore, Option.bind_some] at isTarget
        unfold LastMessage.target at isTarget
        split at isTarget
        · cases isTarget
        · exact ⟨entry.when_, isTarget, isOver.trans (le_max_right _ _)⟩
      · obtain ⟨deadline, same, isOver⟩ := kept.expired other last isLast isExpired
        exact ⟨deadline, same, isOver.trans (le_max_left _ _)⟩
  · rw [if_neg isCurrent] at tasks
    have isNoted : h.note now (.expire id number) = h.last := by
      funext other
      exact if_neg fun both => isCurrent both.2
    have performed : perform { h.manager with queue := rest } now (.expire id number) =
        { h.manager with queue := rest } := if_neg isCurrent
    rw [isNoted, performed]
    exact kept.of_tasks (le_max_left _ _) tasks (fun _ => rfl) kept.ordered
      (kept.displayed.of_same (lastShow_pop isQueue none).symm rfl rfl)

/-! ## Runs -/

/-- The worker keeps what is shown, at whatever time after the start it works. -/
theorem Kept.work (kept : h.Kept) (now : Nat) (isPast : 0 < now) :
    (h.step (.work now isPast)).Kept := by
  unfold step
  dsimp only
  cases isQueue : h.manager.queue with
  | nil =>
      have none : h.manager.nextJob now = Option.none := by
        unfold nextJob
        rw [isQueue]
      rw [none]
      exact kept.of_tasks (le_max_left _ _) kept.tasks (fun _ => rfl) kept.ordered kept.displayed
  | cons entry rest =>
      by_cases due : entry.when_ ≤ max whenImmediately now
      · have isNext : h.manager.nextJob now = some (entry.job, rest) := by
          unfold nextJob
          rw [isQueue]
          exact if_pos due
        have worked : h.manager.work now =
            perform { h.manager with queue := rest } now entry.job := by
          unfold NotificationMessageManager.work
          rw [isNext]
        rw [isNext]
        dsimp only
        rw [worked]
        cases isJob : entry.job with
        | setNotificationMessage message => exact kept.perform_set isQueue isPast isJob
        | expire id number => exact kept.perform_expire isQueue due isJob
        | _ =>
            have other := kept.perform_other isQueue now (by rw [isJob]; rfl)
              (fun message isSet => nomatch isJob.symm.trans isSet)
            rw [isJob] at other
            exact other
      · have none : h.manager.nextJob now = Option.none := by
          unfold nextJob
          rw [isQueue]
          exact if_neg due
        rw [none]
        exact kept.of_tasks (le_max_left _ _) kept.tasks (fun _ => rfl) kept.ordered
          kept.displayed

theorem Kept.pushNow (kept : h.Kept) {job : MessageJob} (noCall : job.call = none)
    (timely : job.Timely whenImmediately) (noRequest : ∀ id, job.request id = none)
    (noShow : showRequest job = none) : Kept { h with manager := h.manager.pushNow job } := by
  refine kept.of_tasks le_rfl (kept.tasks.pushNow noCall timely fun id => .inr ⟨noRequest id, rfl⟩)
    (fun _ => rfl) kept.ordered (kept.displayed.of_same (lastOf_insertEntry noShow) rfl rfl)

/-- The messages of the sticky modifiers are enqueued. -/
theorem foldl_pushNow_cases {target : String → Option Nat} (manager : ModifierFlagManager)
    (modifiers : List (ModifierFlag × String)) (m : NotificationMessageManager)
    (tasks : m.Tasks target) :
    let next := modifiers.foldl (fun m modifier => m.pushNow (.setSticky modifier.2
      (if manager.isStickyActive modifier.1 then "sticky " ++ modifier.2 else ""))) m
    next.Tasks target ∧ next.messages = m.messages := by
  induction modifiers generalizing m with
  | nil => exact ⟨tasks, rfl⟩
  | cons modifier modifiers ih =>
      refine ih (m.pushNow (.setSticky modifier.2 _)) ?_
      exact @Tasks.pushNow _ _ tasks (.setSticky modifier.2 _) rfl rfl _ fun _ => .inr ⟨rfl, rfl⟩

/-- The text is to be made. -/
theorem Kept.pushText (kept : h.Kept) {next : NotificationMessageManager}
    (tasks : next.Tasks fun id => (h.last id).bind LastMessage.target)
    (messages : next.messages = h.manager.messages) :
    Kept { h with manager := next.pushNow .updateFullMessage } := by
  have isText : showRequest .updateFullMessage = some true := rfl
  have pushed := @Tasks.pushNow _ _ tasks .updateFullMessage rfl rfl _ fun _ => .inr ⟨rfl, rfl⟩
  refine kept.of_tasks le_rfl pushed (fun id => ?_) (?_ : Messages.Ordered next.messages) (.inl ?_)
  · change (next.messages.entry (userId id)).message = _
    rw [messages]
  · rw [messages]
    exact kept.ordered
  · refine lastOf_insertEntry_now tasks.sorted (fun other member shows => ?_) isText
    have timely := tasks.timely other member
    cases isJob : other.job with
    | setSticky _ _ | updateFullMessage =>
        rw [isJob] at timely
        exact Nat.le_of_eq timely
    | _ =>
        rw [isJob] at shows
        exact absurd rfl shows

theorem Kept.step (kept : h.Kept) (action : NotificationAction) : (h.step action).Kept := by
  cases action with
  | asyncUpdateStickyModifiersMessage manager =>
      obtain ⟨tasks, messages⟩ :=
        foldl_pushNow_cases manager stickyModifiers h.manager kept.tasks
      exact kept.pushText tasks messages
  | asyncClearStickyModifiersMessage => exact kept.pushNow rfl rfl (fun _ => rfl) rfl
  | asyncSetNotificationMessage message => exact kept.pushNow rfl rfl (fun _ => rfl) rfl
  | work now isPast => exact kept.work now isPast

theorem kept_foldl (actions : List NotificationAction) : (actions.foldl step initial).Kept := by
  induction actions using List.reverseRecOn with
  | nil => exact kept_initial
  | append_singleton actions action ih =>
      rw [List.foldl_append]
      exact ih.step action

/-- When no job is due, all that is queued are calls that are still to come. -/
theorem lt_of_idle {target : String → Option Nat} (tasks : m.Tasks target) {now : Nat}
    (idle : m.nextJob now = none) (entry : DispatcherEntry MessageJob) (member : entry ∈ m.queue) :
    max whenImmediately now < entry.when_ := by
  have sorted := tasks.sorted
  unfold nextJob at idle
  cases isQueue : m.queue with
  | nil =>
      rw [isQueue] at member
      cases member
  | cons first rest =>
      rw [isQueue] at idle member sorted
      dsimp only at idle
      split at idle
      · cases idle
      · rename_i notDue
        obtain rfl | isRest := List.mem_cons.mp member
        · exact lt_of_not_ge notDue
        · exact (lt_of_not_ge notDue).trans_le ((List.pairwise_cons.mp sorted).1 entry isRest)

/-- No request to a task is queued when no job is due. -/
theorem lastRequest_of_idle {target : String → Option Nat} (tasks : m.Tasks target) {now : Nat}
    (idle : m.nextJob now = none) (id : String) : m.lastRequest id = none := by
  refine lastOf_eq_none.mpr fun entry member => ?_
  have later := (le_max_left _ _).trans_lt (lt_of_idle tasks idle entry member)
  have timely := tasks.timely entry member
  cases isJob : entry.job with
  | debounce _ _ =>
      rw [isJob] at timely
      exact absurd timely.1 later.ne'
  | cancel _ =>
      rw [isJob] at timely
      exact absurd timely later.ne'
  | _ => rfl

/-- When no job is due, a task whose function is to run has it queued for later. -/
theorem lt_of_target {target : String → Option Nat} (tasks : m.Tasks target) {now : Nat}
    (idle : m.nextJob now = none) {id : String} {deadline : Nat}
    (isTarget : target id = some deadline) : now < deadline := by
  obtain isRequest | ⟨-, isCall, when_⟩ := tasks.armed id
  · rw [lastRequest_of_idle tasks idle] at isRequest
    cases isRequest
  · rw [isTarget] at isCall when_
    obtain ⟨entry, member, entryCalls⟩ := List.mem_filterMap.mp (isCall.mpr rfl)
    have isJob : entry.job = .expire id (m.generation id) := by
      change entry.job.call = some _ at entryCalls
      unfold MessageJob.call at entryCalls
      split at entryCalls
      · rename_i isJob
        rw [isJob]
        obtain ⟨rfl, rfl⟩ := Prod.mk.inj (Option.some.inj entryCalls)
        rfl
      · cases entryCalls
    rw [Option.some.inj (when_ entry member isJob)]
    exact (le_max_right _ _).trans_lt (lt_of_idle tasks idle entry member)

/-- The text is made when no job is due. -/
theorem displayed_of_idle {target : String → Option Nat} (tasks : m.Tasks target) {now : Nat}
    (idle : m.nextJob now = none) (displayed : Displayed m) :
    m.fullMessage = m.messages.fullMessage := by
  have none : lastOf showRequest m.queue = none := by
    refine lastOf_eq_none.mpr fun entry member => ?_
    have later := (le_max_left _ _).trans_lt (lt_of_idle tasks idle entry member)
    have timely := tasks.timely entry member
    cases isJob : entry.job with
    | setSticky _ _ | updateFullMessage =>
        rw [isJob] at timely
        exact absurd timely later.ne'
    | _ => rfl
  obtain isLast | ⟨-, same⟩ := displayed
  · rw [none] at isLast
    cases isLast
  · exact same

/-- In every run: whenever no job is due, each id shows the last message that has been set with it,
unless the time of that message is over, and the text is the one of all these messages. -/
theorem shown_of_idle (actions : List NotificationAction) (now : Nat) :
    let h := actions.foldl step initial
    h.clock ≤ now → h.manager.nextJob now = none →
      (∀ id, (h.manager.messages.entry (userId id)).message =
        ((h.last (userId id)).map fun last =>
          if last.deadline.any (· ≤ now) then "" else last.text).getD "") ∧
      h.manager.fullMessage = h.manager.messages.fullMessage := by
  intro h past idle
  have kept : h.Kept := kept_foldl actions
  refine ⟨fun id => (kept.message id).trans ?_, displayed_of_idle kept.tasks idle kept.displayed⟩
  cases isLast : h.last (userId id) with
  | none => rfl
  | some last =>
      refine (?_ : last.shown = if last.deadline.any (· ≤ now) then "" else last.text)
      unfold LastMessage.shown
      cases isExpired : last.expired with
      | true =>
          obtain ⟨deadline, isDeadline, before⟩ := kept.expired _ last isLast isExpired
          rw [isDeadline]
          simp [before.trans past]
      | false =>
          cases isDeadline : last.deadline with
          | none => rfl
          | some deadline =>
              have isTarget : ((h.last (userId id)).bind LastMessage.target) = some deadline := by
                rw [isLast, Option.bind_some, LastMessage.target, isExpired, isDeadline]
                rfl
              simp [lt_of_target kept.tasks idle isTarget]

/-- A message of five milliseconds is shown while its call is queued. -/
theorem shown_of_idle_timed :
    let h := [NotificationAction.asyncSetNotificationMessage ⟨⟨"id", "text"⟩, 5⟩,
      .work 2 (by decide), .work 2 (by decide)].foldl step initial
    (∀ id, (h.manager.messages.entry (userId id)).message =
      ((h.last (userId id)).map fun last =>
        if last.deadline.any (· ≤ 3) then "" else last.text).getD "") ∧
    h.manager.fullMessage = h.manager.messages.fullMessage :=
  shown_of_idle _ 3 (by decide) (by rfl)

end NotificationHistory

end Karabiner

import Karabiner.Dispatcher.Client
import Karabiner.EventQueue.Event
import Karabiner.ModifierFlags.Manager

/-! # Notification messages

`notification_message_manager` shows the messages that users set and those of the sticky modifiers.
A message with a duration is cleared by a `debounced_task` of its own: each request bumps the
generation of the task, and the function runs only when its generation is still the one of the task.
All of it is done by jobs of one dispatcher client.

A duration and a time are in milliseconds, and the clock, which counts from 1970, is at least 1 ms.
A generation is a number of 64 bits in the source: the runs here have fewer than 2^64 requests for the
task of one message. The destructor is left out.
-/

namespace Karabiner

/-- `message_entry`, with the generation of its task when it has one. -/
structure MessageEntry where
  message : String
  expirationTask : Option Nat

namespace MessageEntry

def empty : MessageEntry := ⟨"", none⟩

def generation (entry : MessageEntry) : Nat := entry.expirationTask.getD 0

end MessageEntry

/-- `notification_message` with its duration. -/
structure TimedMessage extends NotificationMessage where
  durationMilliseconds : Nat

inductive MessageJob where
  | setSticky (name : String) (text : String)
  | updateFullMessage
  | clearSticky
  | setNotificationMessage (message : TimedMessage)
  /-- `debounce_in_dispatcher`. -/
  | debounce (id : String) (when_ : Nat)
  | cancel (id : String)
  | expire (id : String) (generation : Nat)

/-- `messages_`. -/
abbrev Messages := List (String × MessageEntry)

namespace Messages

def entry (messages : Messages) (id : String) : MessageEntry :=
  (messages.lookup id).getD .empty

/-- The assignment to `messages_[id]`, which keeps the order of the keys. -/
def set (id : String) (entry : MessageEntry) : Messages → Messages
  | [] => [(id, entry)]
  | (key, other) :: rest =>
      if id = key then (id, entry) :: rest
      else if id < key then (id, entry) :: (key, other) :: rest
      else (key, other) :: set id entry rest

def setMessage (messages : Messages) (id message : String) : Messages :=
  messages.set id { messages.entry id with message := message }

/-- What `update_full_message` adds for a message. -/
def append (text : String) (pair : String × MessageEntry) : String :=
  if pair.2.message = "" then text
  else if text = "" then pair.2.message
  else text ++ "\n" ++ pair.2.message

/-- The text that `update_full_message` makes. -/
def fullMessage (messages : Messages) : String := messages.foldl append ""

/-- Setting an entry changes what is found under its id only. -/
theorem entry_set (messages : Messages) (id other : String) (entry : MessageEntry) :
    (messages.set id entry).entry other = if other = id then entry else messages.entry other := by
  induction messages with
  | nil =>
      unfold set Messages.entry
      by_cases same : other = id <;> grind
  | cons pair rest ih =>
      unfold set
      unfold Messages.entry at ih ⊢
      split
      · rename_i isKey
        by_cases same : other = id <;> grind
      · split
        · by_cases same : other = id <;> grind
        · by_cases isKey : other = pair.1 <;> grind

end Messages

/-- `notification_message_manager`, with the texts that it has signalled. -/
structure NotificationMessageManager where
  messages : Messages
  fullMessage : String
  changed : List String
  queue : List (DispatcherEntry MessageJob)

inductive NotificationAction where
  | asyncUpdateStickyModifiersMessage (manager : ModifierFlagManager)
  | asyncClearStickyModifiersMessage
  | asyncSetNotificationMessage (message : TimedMessage)
  /-- The worker thread does a job at the time of the clock. -/
  | work (now : Nat) (isPast : 0 < now)

namespace NotificationMessageManager

def initial : NotificationMessageManager := ⟨[], "", [], []⟩

/-- The modifiers whose sticky state is shown, with their names. -/
def stickyModifiers : List (ModifierFlag × String) :=
  [(.leftControl, "left_control"), (.leftShift, "left_shift"), (.leftOption, "left_option"),
    (.leftCommand, "left_command"), (.rightControl, "right_control"), (.rightShift, "right_shift"),
    (.rightOption, "right_option"), (.rightCommand, "right_command"), (.fn, "fn")]

def stickyId (name : String) : String := "__system__sticky_" ++ name

def userId (id : String) : String := "__user__" ++ id

def push (m : NotificationMessageManager) (job : MessageJob) (when_ : Nat) :
    NotificationMessageManager :=
  { m with queue := Dispatcher.insertEntry ⟨0, job, when_⟩ m.queue }

def pushNow (m : NotificationMessageManager) (job : MessageJob) : NotificationMessageManager :=
  m.push job Dispatcher.whenImmediately

def setMessage (m : NotificationMessageManager) (id message : String) :
    NotificationMessageManager :=
  { m with messages := m.messages.setMessage id message }

/-- `update_full_message`. -/
def updateFullMessage (m : NotificationMessageManager) : NotificationMessageManager :=
  let text := m.messages.fullMessage
  if m.fullMessage = text then m
  else { m with fullMessage := text, changed := m.changed ++ [text] }

/-! ## The debounced task -/

/-- `debounce_expiration`, which makes the task when there is none. -/
def debounceExpiration (m : NotificationMessageManager) (id : String) (when_ : Nat) :
    NotificationMessageManager :=
  let entry := m.messages.entry id
  { m with
    messages := m.messages.set id { entry with expirationTask := some entry.generation }
  }.pushNow (.debounce id when_)

/-- `cancel_expiration`. -/
def cancelExpiration (m : NotificationMessageManager) (id : String) : NotificationMessageManager :=
  if (m.messages.entry id).expirationTask.isSome then m.pushNow (.cancel id) else m

/-- `++generation_`. -/
def bump (m : NotificationMessageManager) (id : String) : NotificationMessageManager :=
  let entry := m.messages.entry id
  { m with
    messages := m.messages.set id { entry with expirationTask := some (entry.generation + 1) } }

/-! ## The jobs -/

def setNotificationMessage (m : NotificationMessageManager) (message : TimedMessage) (now : Nat) :
    NotificationMessageManager :=
  let id := userId message.id
  let set := m.setMessage id message.text
  (if message.text ≠ "" ∧ message.durationMilliseconds > 0 then
    set.debounceExpiration id (now + message.durationMilliseconds)
  else set.cancelExpiration id).updateFullMessage

def perform (m : NotificationMessageManager) (now : Nat) : MessageJob → NotificationMessageManager
  | .setSticky name text => m.setMessage (stickyId name) text
  | .updateFullMessage => m.updateFullMessage
  | .clearSticky =>
      (stickyModifiers.foldl (fun m modifier => m.setMessage (stickyId modifier.2) "")
        m).updateFullMessage
  | .setNotificationMessage message => m.setNotificationMessage message now
  | .debounce id when_ =>
      let bumped := m.bump id
      bumped.push (.expire id (bumped.messages.entry id).generation) when_
  | .cancel id => m.bump id
  | .expire id generation =>
      if (m.messages.entry id).generation = generation then (m.setMessage id "").updateFullMessage
      else m

/-- The job that the worker thread does: the first one, when its time has come. -/
def nextJob (m : NotificationMessageManager) (now : Nat) :
    Option (MessageJob × List (DispatcherEntry MessageJob)) :=
  match m.queue with
  | [] => none
  | entry :: rest =>
      if entry.when_ ≤ max Dispatcher.whenImmediately now then some (entry.job, rest) else none

def work (m : NotificationMessageManager) (now : Nat) : NotificationMessageManager :=
  match m.nextJob now with
  | some (job, rest) => { m with queue := rest }.perform now job
  | none => m

def step (m : NotificationMessageManager) : NotificationAction → NotificationMessageManager
  | .asyncUpdateStickyModifiersMessage manager =>
      (stickyModifiers.foldl (fun m modifier =>
        m.pushNow (.setSticky modifier.2
          (if manager.isStickyActive modifier.1 then "sticky " ++ modifier.2 else ""))) m).pushNow
        .updateFullMessage
  | .asyncClearStickyModifiersMessage => m.pushNow .clearSticky
  | .asyncSetNotificationMessage message => m.pushNow (.setNotificationMessage message)
  | .work now _ => m.work now

end NotificationMessageManager

end Karabiner

import Karabiner.Basic.Definitions
import Karabiner.ModifierFlags.Scoped

/-! # Manipulated original events and what is sent for them

A `basic` manipulator records the keys it has taken as a manipulated original event,
together with the events it has to send when they are released. The functions of
`event_sender` post events one after the other, each one tick later than the one
before (`Sending.post`).
-/

namespace Karabiner

/-- `manipulated_original_event::from_event`. -/
structure FromEvent where
  deviceId : DeviceId
  event : Event
  originalEvent : Event
deriving DecidableEq

/-- The from event of an entry. -/
def Entry.fromEvent (entry : Entry) : FromEvent :=
  ⟨entry.deviceId, entry.event, entry.originalEvent⟩

/-- `events_at_key_up::entry`: an event that is posted at a time still to come. -/
structure EventAtKeyUp where
  deviceId : DeviceId
  event : Event
  eventType : EventType
  originalEvent : Event
  lazy : Bool
deriving DecidableEq

/-- `events_at_key_up::entry::make_entry`. -/
def EventAtKeyUp.makeEntry (event : EventAtKeyUp) (eventTimeStamp : EventTimeStamp) : Entry :=
  { Entry.make event.deviceId eventTimeStamp event.event event.eventType none event.originalEvent
      .manipulated with
    lazy := event.lazy }

/-- `manipulated_original_event`. -/
structure ManipulatedOriginalEvent where
  fromEvents : List FromEvent
  fromMandatoryModifiers : List ModifierFlag
  keyUpPostedFromMandatoryModifiers : List ModifierFlag
  keyDownTimeStamp : Int
  keyDownModifierFlags : List ModifierFlag
  alone : Bool
  halted : Bool
  eventsAtKeyUp : List EventAtKeyUp
  keyUpPosted : Bool
  /-- The device of the key_down that was manipulated; no function reads it. -/
  keyDownDeviceId : DeviceId
deriving DecidableEq

namespace ManipulatedOriginalEvent

/-- The constructor. -/
def make (fromEvents : List FromEvent) (fromMandatoryModifiers : List ModifierFlag)
    (keyDownTimeStamp : Int) (keyDownModifierFlags : List ModifierFlag)
    (keyDownDeviceId : DeviceId) : ManipulatedOriginalEvent :=
  ⟨fromEvents, fromMandatoryModifiers, [], keyDownTimeStamp, keyDownModifierFlags, true, false, [],
    false, keyDownDeviceId⟩

def fromEventExists (current : ManipulatedOriginalEvent) (fromEvent : FromEvent) : Bool :=
  decide (fromEvent ∈ current.fromEvents)

def eraseFromEvent (current : ManipulatedOriginalEvent) (fromEvent : FromEvent) :
    ManipulatedOriginalEvent :=
  { current with fromEvents := current.fromEvents.filter fun other => !(other == fromEvent) }

def eraseFromEventsByDeviceId (current : ManipulatedOriginalEvent) (deviceId : DeviceId) :
    ManipulatedOriginalEvent :=
  { current with
    fromEvents := current.fromEvents.filter fun other => !(other.deviceId == deviceId) }

def unsetAlone (current : ManipulatedOriginalEvent) : ManipulatedOriginalEvent :=
  { current with alone := false }

end ManipulatedOriginalEvent

/-- `base::make_lazy_modifier_key_event`: caps lock is sent as a sticky modifier. -/
def makeLazyModifierKeyEvent (event : MomentarySwitchEvent) (eventType : EventType) :
    Event × EventType :=
  if event.capsLock then
    (.stickyModifier .capsLock (if eventType = .keyDown then .on else .off), .single)
  else (.momentarySwitchEvent event, eventType)

/-- What the functions of `event_sender` change: the output queue, the time stamp delay
of the call, and the manipulated original event. -/
structure Sending where
  queue : EventQueue
  timeStampDelay : Int
  current : ManipulatedOriginalEvent

/-- The events a `to` list stands for (`filter_and_replace_events`); each condition
refreshes the clock of the environment. -/
def filterAndReplaceEvents (context : ConditionContext) (current : ManipulatedOriginalEvent) :
    List ToEventDefinition → ManipulatorEnvironment →
      List ToEventDefinition × ManipulatorEnvironment
  | [], environment => ([], environment)
  | definition :: rest, environment =>
      let (fulfilled, refreshed) := definition.conditionManager.isFulfilled context environment
      let (others, final) := filterAndReplaceEvents context current rest refreshed
      if fulfilled then
        if definition.eventDefinition = .fromEvent then
          (current.fromEvents.filterMap (fun fromEvent =>
              fromEvent.event.momentarySwitchEvent?.map fun event =>
                ToEventDefinition.makeFromMomentarySwitchEvent event definition) ++ others, final)
        else (definition :: others, final)
      else (others, final)

/-- `is_last_to_event_modifier_key_event`. -/
def isLastToEventModifierKeyEvent (toEvents : List ToEventDefinition) : Bool :=
  match toEvents.getLast? with
  | some definition =>
      match definition.eventDefinition with
      | .momentarySwitchEvent event => event.modifierFlag
      | _ => false
  | none => false

/-- `mouse_key::is_speed_multiplier`. -/
def MouseKey.isSpeedMultiplier (key : MouseKey) : Bool :=
  decide (key.x = 0) && decide (key.y = 0) && decide (key.verticalWheel = 0) &&
    decide (key.horizontalWheel = 0)

/-- Whether an event counts as a modifier key in `post_events_at_key_down`. -/
def isModifierKeyEvent : Event → Bool
  | .momentarySwitchEvent event => event.modifierFlag || event.capsLock
  | .mouseKey key => key.isSpeedMultiplier
  | _ => false

namespace Sending

variable [ExpressionLibrary]

/-- Post an event at the time of the front entry and the delay, which goes up by one. -/
def post (sending : Sending) (front : Entry) (event : EventAtKeyUp) : Sending :=
  { sending with
    queue := sending.queue.pushBackEntry (event.makeEntry
      { front.eventTimeStamp with
        timeStamp := front.eventTimeStamp.timeStamp + sending.timeStampDelay })
    timeStampDelay := sending.timeStampDelay + 1 }

/-- `base::post_lazy_modifier_key_event`. -/
def postLazyModifierKeyEvent (sending : Sending) (front : Entry) (event : MomentarySwitchEvent)
    (eventType : EventType) (deviceId : DeviceId) (lazy : Bool) : Sending :=
  if event.valid then
    let pair := makeLazyModifierKeyEvent event eventType
    sending.post front ⟨deviceId, pair.1, pair.2, front.originalEvent, lazy⟩
  else sending

/-- `base::post_lazy_modifier_key_events`. -/
def postLazyModifierKeyEvents (sending : Sending) (front : Entry) (modifiers : List ModifierFlag)
    (eventType : EventType) : Sending :=
  modifiers.foldl (fun sending modifier =>
    sending.postLazyModifierKeyEvent front (.ofModifierFlag modifier) eventType front.deviceId
      true) sending

/-- `post_from_mandatory_modifiers_key_up`: a modifier that is not pressed, or whose
key_up has been posted, is left out. -/
def postFromMandatoryModifiersKeyUp (sending : Sending) (front : Entry) : Sending :=
  let current := sending.current
  let modifiers := current.fromMandatoryModifiers.filter fun modifier =>
    !decide (modifier ∈ current.keyUpPostedFromMandatoryModifiers) &&
      sending.queue.modifierFlagManager.isPressed modifier
  { sending with
    current := { current with
      keyUpPostedFromMandatoryModifiers :=
        current.keyUpPostedFromMandatoryModifiers ++ modifiers } }
    |>.postLazyModifierKeyEvents front modifiers .keyUp

/-- `post_from_mandatory_modifiers_key_down`. -/
def postFromMandatoryModifiersKeyDown (sending : Sending) (front : Entry) : Sending :=
  let current := sending.current
  let modifiers := current.fromMandatoryModifiers.filter fun modifier =>
    decide (modifier ∈ current.keyUpPostedFromMandatoryModifiers)
  { sending with
    current := { current with
      keyUpPostedFromMandatoryModifiers :=
        current.keyUpPostedFromMandatoryModifiers.filter fun modifier =>
          !decide (modifier ∈ modifiers) } }
    |>.postLazyModifierKeyEvents front modifiers .keyDown

variable [MachTimebase]

/-- The time between a key_down and its key_up. -/
def holdDown (sending : Sending) (definition : ToEventDefinition) : Sending :=
  { sending with
    timeStampDelay := sending.timeStampDelay +
      MachTimebase.makeAbsoluteTimeDuration definition.holdDownMilliseconds }

/-- Post the key_down of a `to` event, which may halt what is sent later. -/
def postKeyDown (sending : Sending) (front : Entry) (definition : ToEventDefinition) (event : Event) :
    Sending :=
  let posted := sending.post front ⟨front.deviceId, event, .keyDown, front.originalEvent, definition.lazy⟩
  if definition.halt then { posted with current := { posted.current with halted := true } } else posted

/-- Post the key_up of a `to` event after the time it is held down. -/
def postKeyUp (sending : Sending) (front : Entry) (definition : ToEventDefinition) (event : Event) :
    Sending :=
  (sending.holdDown definition).post front
    ⟨front.deviceId, event, .keyUp, front.originalEvent, definition.lazy⟩

/-- `events_at_key_up::emplace_back_event`. -/
def keepForKeyUp (sending : Sending) (event : EventAtKeyUp) : Sending :=
  { sending with
    current := { sending.current with
      eventsAtKeyUp := sending.current.eventsAtKeyUp ++ [event] } }

omit [MachTimebase] in
/-- The key_up of a modifier of a `to` event. -/
def postModifierKeyUp (front : Entry) (kept : Bool) (sending : Sending)
    (modifier : MomentarySwitchEvent) : Sending :=
  if kept then
    let pair := makeLazyModifierKeyEvent modifier .keyUp
    sending.keepForKeyUp ⟨front.deviceId, pair.1, pair.2, front.originalEvent, true⟩
  else sending.postLazyModifierKeyEvent front modifier .keyUp front.deviceId true

/-- The body of the loop of `post_events_at_key_down`. The key_up of the last event is
kept, so that it repeats; if it is a modifier, the key_ups of its modifiers are kept as
well. -/
def postEventAtKeyDown (front : Entry) (last : Bool) (definition : ToEventDefinition)
    (sending : Sending) : Sending :=
  match definition.eventDefinition.toEvent with
  | none => sending
  | some event =>
      let modifierEvents := definition.makeModifierEvents
      let isModifier := isModifierKeyEvent event
      let withModifiers := modifierEvents.foldl (fun sending modifier =>
        sending.postLazyModifierKeyEvent front modifier .keyDown front.deviceId
          (!isModifier || definition.lazy)) sending
      let pressed := withModifiers.postKeyDown front definition event
      let released :=
        if !last || !definition.repeat_ then pressed.postKeyUp front definition event
        else pressed.keepForKeyUp
          ⟨front.deviceId, event, .keyUp, front.originalEvent, definition.lazy⟩
      modifierEvents.foldl (postModifierKeyUp front (last && isModifier)) released

/-- The loop of `post_events_at_key_down`. -/
def postEachAtKeyDown (front : Entry) : List ToEventDefinition → Sending → Sending
  | [], sending => sending
  | definition :: rest, sending =>
      postEachAtKeyDown front rest (sending.postEventAtKeyDown front rest.isEmpty definition)

/-- Filter a `to` list and send what is left, unless the record is halted. -/
def sendFiltered (sending : Sending) (front : Entry) (toEvents : List ToEventDefinition)
    (send : List ToEventDefinition → Sending → Sending) : Sending :=
  if sending.current.halted then sending
  else
    let (filtered, environment) := filterAndReplaceEvents ⟨front.deviceId, front.state⟩
      sending.current toEvents sending.queue.manipulatorEnvironment
    send filtered { sending with
      queue := { sending.queue with manipulatorEnvironment := environment } }

omit [ExpressionLibrary] [MachTimebase] in
/-- Nothing is sent when the record is halted. -/
theorem sendFiltered_of_halted {sending : Sending} (halted : sending.current.halted = true)
    (front : Entry) (toEvents : List ToEventDefinition)
    (send : List ToEventDefinition → Sending → Sending) :
    sending.sendFiltered front toEvents send = sending := by
  rw [sendFiltered, halted, if_pos rfl]

/-- `post_events_at_key_down`. -/
def postEventsAtKeyDown (sending : Sending) (front : Entry) (toEvents : List ToEventDefinition) :
    Sending :=
  sending.sendFiltered front toEvents (postEachAtKeyDown front)

/-- `post_events_at_key_up`. -/
def postEventsAtKeyUp (sending : Sending) (front : Entry) : Sending :=
  let posted := sending.current.eventsAtKeyUp.foldl (fun sending event => sending.post front event)
    sending
  { posted with current := { posted.current with eventsAtKeyUp := [] } }

/-- The body of the loop of `post_extra_to_events`. -/
def postExtraToEvent (front : Entry) (sending : Sending) (definition : ToEventDefinition) : Sending :=
  match definition.eventDefinition.toEvent with
  | none => sending
  | some event =>
      let modifierEvents := definition.makeModifierEvents
      let withModifiers := modifierEvents.foldl (fun sending modifier =>
        sending.postLazyModifierKeyEvent front modifier .keyDown front.deviceId true) sending
      let released := (withModifiers.postKeyDown front definition event).postKeyUp front definition event
      modifierEvents.foldl (postModifierKeyUp front false) released

/-- `post_extra_to_events`. -/
def postExtraToEvents (sending : Sending) (front : Entry) (toEvents : List ToEventDefinition) :
    Sending :=
  sending.sendFiltered front toEvents fun filtered sending =>
    filtered.foldl (postExtraToEvent front) sending

omit [MachTimebase] in
/-- `post_active_modifier_flags`. -/
def postActiveModifierFlags (sending : Sending) (front : Entry)
    (flags : List ActiveModifierFlag) : Sending :=
  flags.foldl (fun sending flag =>
    sending.postLazyModifierKeyEvent front (.ofModifierFlag flag.modifierFlag)
      (if flag.getCount > 0 then .keyDown else .keyUp) flag.deviceId true) sending

omit [MachTimebase] in
/-- `scoped_from_key_modifier_flags_state_restorer` around a computation: the modifiers
are as at the key_down, and as before when it ends. -/
def withKeyDownModifierFlags (sending : Sending) (front : Entry) (body : Sending → Sending) :
    Sending :=
  let scope := ScopedModifierFlags.make sending.queue.modifierFlagManager
    sending.current.keyDownModifierFlags
  let restored := { sending with
    queue := { sending.queue with modifierFlagManager := scope.destroy } }
  (body (restored.postActiveModifierFlags front scope.scopedActiveModifierFlags))
    |>.postActiveModifierFlags front scope.getInverseActiveModifierFlags

/-- Extra events with the mandatory modifiers of the `from` released around them. -/
def postExtraWithoutMandatoryModifiers (sending : Sending) (front : Entry)
    (toEvents : List ToEventDefinition) : Sending :=
  (sending.postFromMandatoryModifiersKeyUp front).postExtraToEvents front toEvents
    |>.postFromMandatoryModifiersKeyDown front

end Sending

end Karabiner

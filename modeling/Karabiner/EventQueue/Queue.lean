import Karabiner.EventQueue.Event
import Karabiner.EventQueue.PointingButtonManager
import Karabiner.ModifierFlags.Manager

/-! # The event queue

`event_queue::queue` holds the entries one stage of the pipeline hands to the
next. Adding an entry also keeps the modifier flags, pointing buttons and
environment of the queue up to date, and `sort_events` moves modifier events
around other events with the same time stamp.
-/

namespace Karabiner

/-- `event_queue::queue`. -/
structure EventQueue where
  events : List Entry
  modifierFlagManager : ModifierFlagManager
  pointingButtonManager : PointingButtonManager
  manipulatorEnvironment : ManipulatorEnvironment
  timeStampDelay : Int

namespace EventQueue

def initial : EventQueue := ⟨[], ⟨[]⟩, ⟨[]⟩, .initial, 0⟩

/-- The type of the sticky flag a sticky modifier event pushes. -/
def stickyFlagType (manager : ModifierFlagManager) (modifierFlag : ModifierFlag) :
    StickyModifierType → ActiveModifierFlagType
  | .toggle => if manager.stickySize modifierFlag > 0 then .decreaseSticky else .increaseSticky
  | .on => .increaseSticky
  | .off => .decreaseSticky

/-- What `emplace_back_entry` does to the modifier flag manager. -/
def updateModifierFlags (manager : ModifierFlagManager) (deviceId : DeviceId) (event : Event)
    (eventType : EventType) (validity : Validity) : ModifierFlagManager :=
  match event with
  | .momentarySwitchEvent e =>
      let pushed := match e.makeModifierFlag with
        | some modifierFlag =>
            manager.pushBackActiveModifierFlag
              (.make (if eventType = .keyDown then .increase else .decrease) modifierFlag deviceId)
        | none => manager
      -- Erase sticky modifiers
      if eventType = .keyDown ∧ validity = .valid ∧ e.modifierFlag = false then
        pushed.eraseAllStickyModifierFlags
      else pushed
  | .stickyModifier modifierFlag type =>
      if eventType = .keyDown ∨ eventType = .single then
        manager.pushBackActiveModifierFlag
          (.make (stickyFlagType manager modifierFlag type) modifierFlag deviceId)
      else manager
  | .capsLockStateChanged state =>
      manager.pushBackActiveModifierFlag
        (.make (if state ≠ 0 then .increaseLedLock else .decreaseLedLock) .capsLock deviceId)
  | _ => manager

/-- What `emplace_back_entry` does to the pointing button manager. -/
def updatePointingButtons (manager : PointingButtonManager) (deviceId : DeviceId) (event : Event)
    (eventType : EventType) : PointingButtonManager :=
  match event with
  | .momentarySwitchEvent e =>
      if e.pointingButton then
        manager.pushBackActivePointingButton
          ⟨if eventType = .keyDown then .increase else .decrease, e.usagePair, deviceId⟩
      else manager
  | _ => manager

/-- What `emplace_back_entry` does to the manipulator environment. -/
def updateEnvironment [ExpressionLibrary] (environment : ManipulatorEnvironment)
    (deviceId : DeviceId) (event : Event) (eventType : EventType) : ManipulatorEnvironment :=
  match event with
  | .deviceGrabbed properties => environment.insertDeviceProperties deviceId properties
  | .deviceUngrabbed => environment.eraseDeviceProperties deviceId
  | .frontmostApplicationChanged application =>
      { environment with frontmostApplication := application }
  | .inputSourceChanged properties =>
      { environment with inputSourceProperties := properties }
  | .setVariable command => environment.executeSetVariable command eventType
  | .systemPreferencesPropertiesChanged properties =>
      (environment.setVariable "system.scroll_direction_is_natural"
          (.boolean properties.scrollDirectionIsNatural)).setVariable
        "system.use_fkeys_as_standard_function_keys"
        (.boolean properties.useFkeysAsStandardFunctionKeys)
  | .virtualHidDevicesStateChanged state =>
      { environment with virtualHidDevicesState := state }
  | _ => environment

/-- `queue::emplace_back_entry`, given the entry it builds before the time stamp
delay is added; `queue::push_back_entry` is the same call with the members of an
entry. -/
def pushBackEntry [ExpressionLibrary] (queue : EventQueue) (entry : Entry) : EventQueue where
  events := queue.events ++
    [{ entry with
        eventTimeStamp :=
          { entry.eventTimeStamp with
            timeStamp := entry.eventTimeStamp.timeStamp + queue.timeStampDelay } }]
  modifierFlagManager := updateModifierFlags queue.modifierFlagManager entry.deviceId entry.event
    entry.eventType entry.validity
  pointingButtonManager := updatePointingButtons queue.pointingButtonManager entry.deviceId
    entry.event entry.eventType
  manipulatorEnvironment := updateEnvironment queue.manipulatorEnvironment entry.deviceId
    entry.event entry.eventType
  timeStampDelay := queue.timeStampDelay

def clearEvents (queue : EventQueue) : EventQueue :=
  { queue with events := [], timeStampDelay := 0 }

/-- `queue::erase_front_event`. -/
def eraseFrontEvent (queue : EventQueue) : EventQueue :=
  { queue with
    events := queue.events.tail
    timeStampDelay := if queue.events.tail = [] then 0 else queue.timeStampDelay }

def eraseAllActiveModifierFlagsExceptLockAndSticky (queue : EventQueue) (deviceId : DeviceId) :
    EventQueue :=
  { queue with
    modifierFlagManager :=
      queue.modifierFlagManager.eraseAllActiveModifierFlagsExceptLockAndSticky deviceId }

def eraseAllActiveModifierFlags (queue : EventQueue) (deviceId : DeviceId) : EventQueue :=
  { queue with
    modifierFlagManager := queue.modifierFlagManager.eraseAllActiveModifierFlags deviceId }

def eraseAllActivePointingButtonsExceptLock (queue : EventQueue) (deviceId : DeviceId) :
    EventQueue :=
  { queue with
    pointingButtonManager :=
      queue.pointingButtonManager.eraseAllActivePointingButtonsExceptLock deviceId }

def eraseAllActivePointingButtons (queue : EventQueue) (deviceId : DeviceId) : EventQueue :=
  { queue with
    pointingButtonManager :=
      queue.pointingButtonManager.eraseAllActivePointingButtons deviceId }

def increaseTimeStampDelay (queue : EventQueue) (value : Int) : EventQueue :=
  { queue with timeStampDelay := queue.timeStampDelay + value }

/-! ## Sorting events with the same time stamp -/

/-- `queue::needs_swap`. -/
def needsSwap (v1 v2 : Entry) : Bool :=
  if v1.eventTimeStamp.timeStamp = v2.eventTimeStamp.timeStamp then
    match v1.event.momentarySwitchEvent?, v2.event.momentarySwitchEvent? with
    | some e1, some e2 =>
        if !e1.modifierFlag && e2.modifierFlag then
          -- Reorder to v2, v1 if v2 is pressed.
          !(v2.eventType == .keyUp)
        else if e1.modifierFlag && !e2.modifierFlag then
          -- Reorder to v2, v1 if v1 is released.
          v1.eventType == .keyUp
        else false
    | _, _ => false
  else false

/-- The loop of `sort_events`. The entries before index `i` are held reversed in
`before`, the entries from index `i` on in `after`. -/
def sortEventsLoop : Nat → List Entry → List Entry → List Entry
  | 0, before, after => before.reverse ++ after
  | fuel + 1, before, a :: b :: rest =>
      if needsSwap a b then
        match before with
        | [] => sortEventsLoop fuel [] (b :: a :: rest)
        | c :: others => sortEventsLoop fuel others (c :: b :: a :: rest)
      else sortEventsLoop fuel (a :: before) (b :: rest)
  | _ + 1, before, after => before.reverse ++ after

/-- The number of pairs of entries, adjacent or not, that are in swapping order.
A swap lowers it by one, so that `sort_events` ends. -/
def inversions : List Entry → Nat
  | [] => 0
  | entry :: rest => rest.countP (needsSwap entry) + inversions rest

/-- `queue::sort_events`. Every pass over the loop either swaps two entries or
advances, so this fuel does not run out. -/
def sortEvents (queue : EventQueue) : EventQueue :=
  { queue with
    events := sortEventsLoop (2 * inversions queue.events + queue.events.length) []
      queue.events }

end EventQueue

end Karabiner

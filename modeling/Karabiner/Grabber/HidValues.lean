import Karabiner.EventQueue.Event
import Karabiner.VirtualDevices.PostedKeys

/-! # From HID values to entries

`event_queue::utility` turns the values of a HID report into entries: keys and
pointing buttons one by one, the axes of a pointing device joined to one motion,
and the hat switch of a game pad as the keys of a directional pad. A marker
follows the release of the last key of a device.
-/

namespace Karabiner

/-- `pqrs::osx::iokit_hid_value`, the members the program reads. -/
structure HidValue where
  timeStamp : Int
  integerValue : Int
  usagePage : Option UsagePage
  usage : Option Usage
deriving DecidableEq

namespace HidValue

def conformsTo (value : HidValue) (usagePage : UsagePage) (usage : Usage) : Bool :=
  value.usagePage == some usagePage && value.usage == some usage

end HidValue

/-- The directions a hat switch points to, by their keys
(`hat_switch_converter::direction`). -/
abbrev HatDirection := List Usage

namespace HatDirection

/-- The direction of a value of the hat switch. -/
def ofValue (hatSwitchValue : Int) : HatDirection :=
  if hatSwitchValue = 0 then [Usage.dpadUp]
  else if hatSwitchValue = 1 then [Usage.dpadUp, Usage.dpadRight]
  else if hatSwitchValue = 2 then [Usage.dpadRight]
  else if hatSwitchValue = 3 then [Usage.dpadDown, Usage.dpadRight]
  else if hatSwitchValue = 4 then [Usage.dpadDown]
  else if hatSwitchValue = 5 then [Usage.dpadDown, Usage.dpadLeft]
  else if hatSwitchValue = 6 then [Usage.dpadLeft]
  else if hatSwitchValue = 7 then [Usage.dpadUp, Usage.dpadLeft]
  else []

/-- `hat_switch_converter::to_dpad_events`: the keys that go down or up when the hat
switch moves. -/
def toDpadEvents (last current : HatDirection) : List (MomentarySwitchEvent × EventType) :=
  [Usage.dpadUp, Usage.dpadDown, Usage.dpadRight, Usage.dpadLeft].filterMap fun usage =>
    if usage ∉ last ∧ usage ∈ current then
      some (.make UsagePage.genericDesktop usage, .keyDown)
    else if usage ∈ last ∧ usage ∉ current then
      some (.make UsagePage.genericDesktop usage, .keyUp)
    else none

end HatDirection

/-- `make_entries_parameters`, as the products with the multipliers: these are
computed with `double` values and truncated. -/
structure MakeEntriesParameters where
  pointingMotionXyMultiplier : Int → Int
  pointingMotionWheelsMultiplier : Int → Int

/-- `adjust_pointing_motion_value`. -/
def adjustPointingMotionValue (multiplier : Int → Int) (value : HidValue) : Int :=
  let v := multiplier value.integerValue
  if v = 0 then
    if value.integerValue > 0 then 1 else if value.integerValue < 0 then -1 else min 127 (max (-127) v)
  else min 127 (max (-127) v)

/-- The parts of a pointing motion that `make_entries` is collecting. -/
structure MotionParts where
  timeStamp : Option Int
  x : Option Int
  y : Option Int
  verticalWheel : Option Int
  horizontalWheel : Option Int
deriving DecidableEq

namespace MotionParts

def empty : MotionParts := ⟨none, none, none, none, none⟩

/-- `emplace_back_pointing_motion_event`. -/
def entries (parts : MotionParts) (deviceId : DeviceId) : List Entry :=
  match parts.timeStamp with
  | some timeStamp =>
      let event := Event.pointingMotion ⟨parts.x.getD 0, parts.y.getD 0,
        parts.verticalWheel.getD 0, parts.horizontalWheel.getD 0⟩
      [.original deviceId timeStamp event .single]
  | none => []

end MotionParts

/-- What `make_entries` has made of the values so far. -/
structure MakeEntries where
  result : List Entry
  parts : MotionParts
  /-- `hat_switch_converter::last_directions_` of the device. -/
  hat : HatDirection
deriving DecidableEq

namespace MakeEntries

/-- Emit the collected motion when the axis of the next value is taken already. -/
def flushIf (state : MakeEntries) (deviceId : DeviceId) (taken : Option Int) : MakeEntries :=
  if taken.isSome then
    { state with result := state.result ++ state.parts.entries deviceId, parts := .empty }
  else state

/-- The loop of `make_entries` on one value. -/
def step (deviceId : DeviceId) (isGamePad : Bool) (parameters : MakeEntriesParameters)
    (state : MakeEntries) (value : HidValue) : MakeEntries :=
  match value.usagePage, value.usage with
  | some usagePage, some usage =>
      if MomentarySwitchEvent.target usagePage usage then
        let event := Event.momentarySwitchEvent (.make usagePage usage)
        { state with
          result := state.result ++
            [.make deviceId ⟨value.timeStamp, 0⟩ event
              (if value.integerValue ≠ 0 then .keyDown else .keyUp) (some value.integerValue)
              event .original] }
      else if value.conformsTo UsagePage.genericDesktop Usage.genericDesktopX && !isGamePad then
        let flushed := state.flushIf deviceId state.parts.x
        { flushed with
          parts :=
            { flushed.parts with
              timeStamp := some value.timeStamp
              x := some (adjustPointingMotionValue parameters.pointingMotionXyMultiplier value) } }
      else if value.conformsTo UsagePage.genericDesktop Usage.genericDesktopY && !isGamePad then
        let flushed := state.flushIf deviceId state.parts.y
        { flushed with
          parts :=
            { flushed.parts with
              timeStamp := some value.timeStamp
              y := some (adjustPointingMotionValue parameters.pointingMotionXyMultiplier value) } }
      else if value.conformsTo UsagePage.genericDesktop Usage.genericDesktopWheel then
        let flushed := state.flushIf deviceId state.parts.verticalWheel
        { flushed with
          parts :=
            { flushed.parts with
              timeStamp := some value.timeStamp
              verticalWheel :=
                some (adjustPointingMotionValue parameters.pointingMotionWheelsMultiplier value) } }
      else if value.conformsTo UsagePage.consumer Usage.acPan then
        let flushed := state.flushIf deviceId state.parts.horizontalWheel
        { flushed with
          parts :=
            { flushed.parts with
              timeStamp := some value.timeStamp
              horizontalWheel :=
                some (adjustPointingMotionValue parameters.pointingMotionWheelsMultiplier value) } }
      else if value.conformsTo UsagePage.leds Usage.ledCapsLock then
        let event := Event.capsLockStateChanged value.integerValue
        { state with
          result := state.result ++
            [.make deviceId ⟨value.timeStamp, 0⟩ event .single none event .virtualEvent] }
      else if isGamePad && value.conformsTo UsagePage.genericDesktop Usage.genericDesktopHatSwitch then
        let current := HatDirection.ofValue value.integerValue
        { state with
          result := state.result ++ (HatDirection.toDpadEvents state.hat current).map fun pair =>
            .original deviceId value.timeStamp (.momentarySwitchEvent pair.1) pair.2
          hat := current }
      else state
  | _, _ => state

/-- `event_queue::utility::make_entries`, and the direction of the hat switch after
it. -/
def makeEntries (deviceId : DeviceId) (isGamePad : Bool) (parameters : MakeEntriesParameters)
    (hat : HatDirection) (values : List HidValue) : List Entry × HatDirection :=
  let final := values.foldl (step deviceId isGamePad parameters) ⟨[], .empty, hat⟩
  (final.result ++ final.parts.entries deviceId, final.hat)

end MakeEntries

/-- `insert_device_keys_and_pointing_buttons_are_released_event`: a marker after the
release that empties the set of pressed keys of the device. -/
def insertReleasedEvents (deviceId : DeviceId) :
    List Entry → PressedKeysManager → List Entry × PressedKeysManager
  | [], manager => ([], manager)
  | entry :: rest, manager =>
      let changed : PressedKeysManager :=
        match entry.event.momentarySwitchEvent? with
        | some e =>
            if entry.deviceId = deviceId then
              match entry.eventType with
              | .keyDown => manager.insert e
              | .keyUp => manager.erase e
              | .single => manager
            else manager
        | none => manager
      let marker : List Entry :=
        if entry.deviceId = deviceId ∧ entry.eventType = .keyUp ∧ !manager.empty ∧ changed.empty then
          let event := Event.deviceKeysAndPointingButtonsAreReleased
          [.make deviceId entry.eventTimeStamp event .single none event .virtualEvent]
        else []
      let (others, final) := insertReleasedEvents deviceId rest changed
      (entry :: marker ++ others, final)

end Karabiner

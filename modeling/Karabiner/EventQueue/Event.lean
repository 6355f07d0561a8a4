import Mathlib.Algebra.Group.Int.Defs
import Mathlib.Data.Rat.Defs
import Karabiner.EventQueue.Environment

/-! # Events and entries of an event queue

`event_queue::event` is one inductive type: the source's tag and variant always
agree for the events its constructors make. An entry adds the device, the time
stamp, the kind of the event, the event it was made from, and the flags the
manipulators set.
-/

namespace Karabiner

/-- `krbn::pointing_motion`. -/
structure PointingMotion where
  x : Int
  y : Int
  verticalWheel : Int
  horizontalWheel : Int
deriving DecidableEq

/-- `krbn::mouse_key`. The speed multiplier is a `double` that is only multiplied
and compared, and a rational number here. -/
structure MouseKey where
  x : Int
  y : Int
  verticalWheel : Int
  horizontalWheel : Int
  speedMultiplier : Rat
deriving DecidableEq

/-- `krbn::notification_message`. -/
structure NotificationMessage where
  id : String
  text : String
deriving DecidableEq

/-- `event_queue::event`. A user command and a software function are carried as
the text of their JSON, an input source selector by its three patterns. -/
inductive Event where
  | none
  | momentarySwitchEvent (event : MomentarySwitchEvent)
  | pointingMotion (motion : PointingMotion)
  | shellCommand (command : String)
  | sendUserCommand (json : String)
  | selectInputSource (specifiers : List InputSourceProperties)
  | setVariable (command : SetVariable)
  | setNotificationMessage (message : NotificationMessage)
  | mouseKey (key : MouseKey)
  | stickyModifier (modifierFlag : ModifierFlag) (type : StickyModifierType)
  | softwareFunction (json : String)
  | stopKeyboardRepeat
  | deviceKeysAndPointingButtonsAreReleased
  | deviceGrabbed (properties : DeviceProperties)
  | deviceUngrabbed
  | capsLockStateChanged (state : Int)
  | pointingDeviceEventFromEventTap
  | frontmostApplicationChanged (application : Application)
  | inputSourceChanged (properties : InputSourceProperties)
  | systemPreferencesPropertiesChanged (properties : SystemPreferencesProperties)
  | virtualHidDevicesStateChanged (state : VirtualHidDevicesState)
deriving DecidableEq

namespace Event

/-- `event::get_if<momentary_switch_event>`. -/
def momentarySwitchEvent? : Event → Option MomentarySwitchEvent
  | .momentarySwitchEvent event => some event
  | _ => Option.none

@[simp] theorem momentarySwitchEvent?_momentarySwitchEvent (event : MomentarySwitchEvent) :
    (Event.momentarySwitchEvent event).momentarySwitchEvent? = some event := rfl

theorem momentarySwitchEvent?_eq_some {event : Event} {key : MomentarySwitchEvent} :
    event.momentarySwitchEvent? = some key ↔ event = .momentarySwitchEvent key := by
  cases event <;> simp [momentarySwitchEvent?]

end Event

/-- Milliseconds in ticks of the absolute clock and back (`make_absolute_time_duration`
and `make_milliseconds`), which depends on the machine. -/
class MachTimebase where
  makeAbsoluteTimeDuration : Int → Int
  makeMilliseconds : Int → Int

/-- A clock that ticks in nanoseconds. -/
@[reducible] def nanosecondTimebase : MachTimebase :=
  ⟨fun milliseconds => milliseconds * 1000000, fun ticks => ticks.tdiv 1000000⟩

/-- `event_queue::event_time_stamp`. A time point of the source is a `uint64` of ticks
since the machine was started and a duration an `int64`; both are integers here.
What is added up agrees with the source modulo `2 ^ 64` (`toUInt64`), and time
stamps compare as they do there while they are in its range (`InRange`). They leave
it only where a negative `hold_down_milliseconds` takes back more than the time
since the start, or the holds add up to centuries. -/
structure EventTimeStamp where
  timeStamp : Int
  inputDelayDuration : Int
deriving DecidableEq

namespace EventTimeStamp

def makeTimeStampWithInputDelay (stamp : EventTimeStamp) : Int :=
  stamp.timeStamp + stamp.inputDelayDuration

/-- The time stamp in the source. -/
def toUInt64 (stamp : EventTimeStamp) : UInt64 :=
  .ofInt stamp.timeStamp

/-- The time stamp is one of the source's. -/
def InRange (stamp : EventTimeStamp) : Prop :=
  0 ≤ stamp.timeStamp ∧ stamp.timeStamp < 2 ^ 64

instance (stamp : EventTimeStamp) : Decidable stamp.InRange :=
  inferInstanceAs (Decidable (_ ∧ _))

variable {one other : EventTimeStamp}

theorem toNat_toUInt64 (inRange : one.InRange) : (one.toUInt64.toNat : Int) = one.timeStamp := by
  obtain ⟨low, high⟩ := inRange
  unfold toUInt64 UInt64.ofInt
  rw [Int.emod_eq_of_lt low high, UInt64.toNat_ofNat', Nat.mod_eq_of_lt (by omega),
    Int.toNat_of_nonneg low]

/-- In their range time stamps compare as those of the source do. -/
theorem toUInt64_le_iff (oneInRange : one.InRange) (otherInRange : other.InRange) :
    one.toUInt64 ≤ other.toUInt64 ↔ one.timeStamp ≤ other.timeStamp := by
  rw [← toNat_toUInt64 oneInRange, ← toNat_toUInt64 otherInRange, Int.ofNat_le,
    UInt64.le_iff_toNat_le]

theorem toUInt64_lt_iff (oneInRange : one.InRange) (otherInRange : other.InRange) :
    one.toUInt64 < other.toUInt64 ↔ one.timeStamp < other.timeStamp := by
  rw [← toNat_toUInt64 oneInRange, ← toNat_toUInt64 otherInRange, Int.ofNat_lt,
    UInt64.lt_iff_toNat_lt]

end EventTimeStamp

/-- `event_queue::state`. -/
inductive EntryState where
  | original
  | manipulated
  | virtualEvent
deriving DecidableEq

/-- `event_queue::entry`. -/
structure Entry where
  deviceId : DeviceId
  eventTimeStamp : EventTimeStamp
  event : Event
  eventType : EventType
  eventIntegerValue : Option Int
  originalEvent : Event
  state : EntryState
  lazy : Bool
  validity : Validity
deriving DecidableEq

namespace Entry

/-- The constructor of the source: an entry starts valid and not lazy. -/
def make (deviceId : DeviceId) (eventTimeStamp : EventTimeStamp) (event : Event)
    (eventType : EventType) (eventIntegerValue : Option Int) (originalEvent : Event)
    (state : EntryState) : Entry :=
  ⟨deviceId, eventTimeStamp, event, eventType, eventIntegerValue, originalEvent, state, false,
    .valid⟩

/-- An entry of the kind the devices send: the event is its own original. -/
def original (deviceId : DeviceId) (timeStamp : Int) (event : Event) (eventType : EventType) :
    Entry :=
  make deviceId ⟨timeStamp, 0⟩ event eventType none event .original

end Entry

end Karabiner

import Karabiner.Basic.EventSender
import Karabiner.Manipulator.Manager
import Karabiner.Manipulator.ScrollCounter

/-! # The manipulator that turns motions into scrolling

`mouse_motion_to_scroll` takes the motions of a pointing device while its modifiers are pressed and
gives them to its counter, whose scroll events it posts with the mandatory modifiers released.
-/

namespace Karabiner

/-- `manipulators::mouse_motion_to_scroll::mouse_motion_to_scroll`. -/
structure MouseMotionToScroll where
  validity : Validity
  conditionManager : ConditionManager
  fromModifiersDefinition : FromModifiersDefinition
  counter : MouseMotionToScroll.Counter
  fromMandatoryModifiers : Option (List ModifierFlag)
  deviceId : DeviceId
  originalEvent : Event

namespace MouseMotionToScroll

/-- `test_conditions`: the mandatory modifiers that are pressed, if the conditions are fulfilled,
and the environment after they were tested. -/
def testConditions (scroll : MouseMotionToScroll) (front : Entry) (output : EventQueue) :
    Option (List ModifierFlag) × ManipulatorEnvironment :=
  let (fulfilled, environment) := scroll.conditionManager.isFulfilled
    ⟨front.deviceId, front.state⟩ output.manipulatorEnvironment
  if fulfilled then
    (scroll.fromModifiersDefinition.testModifiers output.modifierFlagManager, environment)
  else (none, environment)

variable [MachTimebase]

/-- `mouse_motion_to_scroll::manipulate`. Any entry resets the counter while the modifiers are not
pressed. -/
def manipulate (scroll : MouseMotionToScroll) (front : Entry) (output : EventQueue) (now : Int) :
    ManipulateResult × MouseMotionToScroll × Entry × EventQueue :=
  if front.validity = .invalid then (.passed, scroll, front, output)
  else if scroll.validity = .invalid then (.passed, scroll, front, output)
  else
    match scroll.testConditions front output with
    | (none, environment) =>
        (.passed, { scroll with counter := scroll.counter.asyncReset }, front,
          { output with manipulatorEnvironment := environment })
    | (some mandatory, environment) =>
        match front.event with
        | .pointingMotion motion =>
            (.manipulated,
              { scroll with
                counter := scroll.counter.update motion (MachTimebase.makeMilliseconds now)
                fromMandatoryModifiers := some mandatory
                deviceId := front.deviceId
                originalEvent := front.originalEvent },
              { front with validity := .invalid },
              { output with manipulatorEnvironment := environment })
        | _ => (.passed, scroll, front, { output with manipulatorEnvironment := environment })

omit [MachTimebase] in
/-- `post_events` for a scroll event of the counter. -/
def postEvents [ExpressionLibrary] (scroll : MouseMotionToScroll) (motion : PointingMotion)
    (output : EventQueue) (now : Int) : EventQueue :=
  let front := Entry.make scroll.deviceId ⟨now, 0⟩ scroll.originalEvent .single none
    scroll.originalEvent .manipulated
  let modifiers := scroll.fromMandatoryModifiers.getD []
  let released := Sending.postLazyModifierKeyEvents
    ⟨output, 0, .make [] modifiers now [] scroll.deviceId⟩ front modifiers .keyUp
  let posted := released.post front
    ⟨scroll.deviceId, .pointingMotion motion, .single, scroll.originalEvent, false⟩
  (posted.postLazyModifierKeyEvents front modifiers .keyDown).queue

/-- The handlers of `mouse_motion_to_scroll` are empty. -/
instance : Manipulator MouseMotionToScroll where
  alreadyManipulated := fun _ _ => false
  manipulate := fun scroll front _ output now => scroll.manipulate front output now
  active := fun _ => false
  getValidity := MouseMotionToScroll.validity
  setValidity := fun scroll validity => { scroll with validity := validity }
  handleDeviceKeysAndPointingButtonsAreReleasedEvent := fun scroll _ output => (scroll, output)
  handleDeviceUngrabbedEvent := fun scroll _ _ _ => scroll
  handlePointingDeviceEventFromEventTap := fun scroll _ output => (scroll, output)

/-- The front entry is passed or taken, and never waits. -/
theorem manipulate_cases (scroll : MouseMotionToScroll) (front : Entry) (output : EventQueue)
    (now : Int) :
    (scroll.manipulate front output now).1 ≠ .needsWaitUntilTimeStamp ∧
      (scroll.manipulate front output now).2.2.1.eventTimeStamp = front.eventTimeStamp := by
  unfold manipulate
  split
  · exact ⟨nofun, rfl⟩
  · split
    · exact ⟨nofun, rfl⟩
    · split
      · exact ⟨nofun, rfl⟩
      · split <;> exact ⟨nofun, rfl⟩

end MouseMotionToScroll

end Karabiner

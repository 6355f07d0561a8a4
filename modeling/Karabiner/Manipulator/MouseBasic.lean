import Karabiner.Basic.Manipulator

/-! # The basic mouse manipulator

`mouse_basic` changes the motions of pointing devices: it swaps axes, flips them and discards
them, in this order. The managers that are looked at with it hold `basic` and `mouse_basic`
manipulators (`ComplexManipulator`).
-/

namespace Karabiner

/-- `manipulators::mouse_basic::mouse_basic`. -/
structure MouseBasic where
  validity : Validity
  conditionManager : ConditionManager
  flipX : Bool
  flipY : Bool
  flipVerticalWheel : Bool
  flipHorizontalWheel : Bool
  swapXy : Bool
  swapWheels : Bool
  discardX : Bool
  discardY : Bool
  discardVerticalWheel : Bool
  discardHorizontalWheel : Bool

namespace MouseBasic

/-- Whether the manipulator changes motions at all. -/
def changesMotion (mouse : MouseBasic) : Bool :=
  mouse.flipX || mouse.flipY || mouse.flipVerticalWheel || mouse.flipHorizontalWheel ||
    mouse.swapXy || mouse.swapWheels || mouse.discardX || mouse.discardY ||
    mouse.discardVerticalWheel || mouse.discardHorizontalWheel

/-- The axes that are swapped. -/
def swap (mouse : MouseBasic) (motion : PointingMotion) : PointingMotion where
  x := if mouse.swapXy then motion.y else motion.x
  y := if mouse.swapXy then motion.x else motion.y
  verticalWheel := if mouse.swapWheels then motion.horizontalWheel else motion.verticalWheel
  horizontalWheel := if mouse.swapWheels then motion.verticalWheel else motion.horizontalWheel

/-- The axes that are flipped. -/
def flip (mouse : MouseBasic) (motion : PointingMotion) : PointingMotion where
  x := if mouse.flipX then -motion.x else motion.x
  y := if mouse.flipY then -motion.y else motion.y
  verticalWheel := if mouse.flipVerticalWheel then -motion.verticalWheel else motion.verticalWheel
  horizontalWheel :=
    if mouse.flipHorizontalWheel then -motion.horizontalWheel else motion.horizontalWheel

/-- The axes that are discarded. -/
def discard (mouse : MouseBasic) (motion : PointingMotion) : PointingMotion where
  x := if mouse.discardX then 0 else motion.x
  y := if mouse.discardY then 0 else motion.y
  verticalWheel := if mouse.discardVerticalWheel then 0 else motion.verticalWheel
  horizontalWheel := if mouse.discardHorizontalWheel then 0 else motion.horizontalWheel

/-- When swap and flip are used together, swap comes first. -/
def changeMotion (mouse : MouseBasic) (motion : PointingMotion) : PointingMotion :=
  mouse.discard (mouse.flip (mouse.swap motion))

/-- The motion that is sent in place of the front entry, if the manipulator takes it, and the
environment after its conditions were tested. -/
def testFront (mouse : MouseBasic) (front : Entry) (environment : ManipulatorEnvironment) :
    Option PointingMotion × ManipulatorEnvironment :=
  if front.validity = .invalid then (none, environment)
  else if mouse.validity = .invalid then (none, environment)
  else
    let (fulfilled, refreshed) := mouse.conditionManager.isFulfilled
      ⟨front.deviceId, front.state⟩ environment
    if fulfilled then
      match front.event with
      | .pointingMotion motion =>
          (if mouse.changesMotion then some (mouse.changeMotion motion) else none, refreshed)
      | _ => (none, refreshed)
    else (none, refreshed)

variable [ExpressionLibrary]

/-- `mouse_basic::manipulate`. -/
def manipulate (mouse : MouseBasic) (front : Entry) (output : EventQueue) :
    ManipulateResult × Entry × EventQueue :=
  match mouse.testFront front output.manipulatorEnvironment with
  | (none, environment) => (.passed, front, { output with manipulatorEnvironment := environment })
  | (some motion, environment) =>
      (.manipulated, { front with validity := .invalid },
        { output with manipulatorEnvironment := environment }.pushBackEntry
          { front with
            event := .pointingMotion motion
            state := .manipulated
            validity := .valid })

omit [ExpressionLibrary] in
/-- An entry that was taken is passed. -/
theorem testFront_of_invalid (mouse : MouseBasic) {front : Entry}
    (invalid : front.validity = .invalid) (environment : ManipulatorEnvironment) :
    mouse.testFront front environment = (none, environment) := by
  unfold testFront
  rw [if_pos invalid]

end MouseBasic

/-- A manipulator of the complex modifications; `mouse_motion_to_scroll` is left out. -/
inductive ComplexManipulator where
  | basic (basic : Basic)
  | mouseBasic (mouse : MouseBasic)

namespace ComplexManipulator

variable [ExpressionLibrary] [MachTimebase]

omit [ExpressionLibrary] [MachTimebase] in
def alreadyManipulated : ComplexManipulator → Entry → Bool
  | .basic own, front => own.alreadyManipulated front
  | .mouseBasic _, _ => false

def manipulate : ComplexManipulator → Entry → EventQueue → EventQueue → Int →
    ManipulateResult × ComplexManipulator × Entry × EventQueue
  | .basic own, front, input, output, now =>
      let (result, changed, front, output) := own.manipulate front input output now
      (result, .basic changed, front, output)
  | .mouseBasic mouse, front, _, output, _ =>
      let (result, front, output) := mouse.manipulate front output
      (result, .mouseBasic mouse, front, output)

/-- The handlers of `mouse_basic` are empty. -/
instance : Manipulator ComplexManipulator where
  alreadyManipulated := alreadyManipulated
  manipulate := manipulate
  active
    | .basic own => Manipulator.active own
    | .mouseBasic _ => false
  getValidity
    | .basic own => own.validity
    | .mouseBasic mouse => mouse.validity
  setValidity
    | .basic own, validity => .basic (Manipulator.setValidity own validity)
    | .mouseBasic mouse, validity => .mouseBasic { mouse with validity := validity }
  handleDeviceKeysAndPointingButtonsAreReleasedEvent
    | .basic own, front, output =>
        let (changed, output) :=
          Manipulator.handleDeviceKeysAndPointingButtonsAreReleasedEvent own front output
        (.basic changed, output)
    | .mouseBasic mouse, _, output => (.mouseBasic mouse, output)
  handleDeviceUngrabbedEvent
    | .basic own, deviceId, output, timeStamp =>
        .basic (Manipulator.handleDeviceUngrabbedEvent own deviceId output timeStamp)
    | .mouseBasic mouse, _, _, _ => .mouseBasic mouse
  handlePointingDeviceEventFromEventTap
    | .basic own, front, output =>
        let (changed, output) :=
          Manipulator.handlePointingDeviceEventFromEventTap own front output
        (.basic changed, output)
    | .mouseBasic mouse, _, output => (.mouseBasic mouse, output)

/-- The step of a `basic` manipulator. -/
theorem manipulate_basic {basic changed : Basic} {front changedFront : Entry}
    {input output changedOutput : EventQueue} {now : Int} {result : ManipulateResult}
    (shape : basic.manipulate front input output now =
      (result, changed, changedFront, changedOutput)) :
    Manipulator.manipulate (ComplexManipulator.basic basic) front input output now =
      (result, .basic changed, changedFront, changedOutput) := by
  change manipulate (.basic basic) front input output now = _
  unfold manipulate
  dsimp only
  rw [shape]

/-- The step of a `mouse_basic` manipulator. -/
theorem manipulate_mouseBasic {mouse : MouseBasic} {front changedFront : Entry}
    {input output changedOutput : EventQueue} {now : Int} {result : ManipulateResult}
    (shape : mouse.manipulate front output = (result, changedFront, changedOutput)) :
    Manipulator.manipulate (ComplexManipulator.mouseBasic mouse) front input output now =
      (result, .mouseBasic mouse, changedFront, changedOutput) := by
  change manipulate (.mouseBasic mouse) front input output now = _
  unfold manipulate
  dsimp only
  rw [shape]

end ComplexManipulator

end Karabiner

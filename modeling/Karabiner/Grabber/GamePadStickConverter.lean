import Mathlib.Data.Rat.Floor
import Karabiner.EventQueue.Event

/-! # Game pad sticks

`game_pad_stick_converter` turns the values of the two sticks of a game pad into pointing
motions. A stick that is tilted far enough is in the continued movement position, and a timer
goes on posting motions for it. One timer and one mode serve both sticks. The values are those of
an ordered field; the square root, the angle and the formulas are parameters.
-/

namespace Karabiner

/-- `continued_movement_mode`. -/
inductive ContinuedMovementMode where
  | none
  | xy
  | wheels
deriving DecidableEq

/-- The two sticks. -/
inductive StickName where
  | xy
  | wheels
deriving DecidableEq

namespace StickName

/-- The mode in which the stick drives the movement. -/
def mode : StickName → ContinuedMovementMode
  | .xy => .xy
  | .wheels => .wheels

/-- The secondary stick. -/
def other : StickName → StickName
  | .xy => .wheels
  | .wheels => .xy

end StickName

/-- The two sensors of a stick. -/
inductive StickAxis where
  | horizontal
  | vertical
deriving DecidableEq

/-- The variables of a formula. -/
structure StickVariables (α : Type) where
  radian : α
  deltaMagnitude : α
  absoluteMagnitude : α
  continuedMovement : α

/-- The functions of the numbers that the converter uses. -/
class StickFunctions (α : Type) where
  /-- `std::sqrt`. -/
  sqrt : α → α
  /-- `std::atan2`. -/
  atan2 : α → α → α
  /-- The value of a formula, without a result when it is NaN. -/
  formula : String → StickVariables α → Option α

/-- What the device configures for a stick. -/
structure StickSettings (α : Type) where
  deadzone : α
  deltaMagnitudeDetectionThreshold : α
  continuedMovementAbsoluteMagnitudeThreshold : α
  continuedMovementIntervalMilliseconds : Int

/-- `stick`. -/
structure Stick (α : Type) where
  settings : StickSettings α
  horizontalStickSensor : α
  verticalStickSensor : α
  radian : α
  absoluteMagnitude : α
  deltaMagnitude : α
  previousAbsoluteMagnitude : α

/-- `event_value`. -/
structure EventValue (α : Type) where
  value : α
  remainder : α

/-- The formulas of the device. -/
structure StickFormulas where
  x : String
  y : String
  verticalWheel : String
  horizontalWheel : String

/-- `pqrs::dispatcher::extra::timer`, with what the caller has asked for last. -/
structure ContinuedMovementTimer where
  enabled : Bool
  intervalMilliseconds : Int

/-- `game_pad_stick_converter`. -/
structure GamePadStickConverter (α : Type) where
  xy : Stick α
  wheels : Stick α
  formulas : StickFormulas
  continuedMovementTimer : ContinuedMovementTimer
  continuedMovementTimerCount : Nat
  continuedMovementMode : ContinuedMovementMode
  xValue : EventValue α
  yValue : EventValue α
  verticalWheelValue : EventValue α
  horizontalWheelValue : EventValue α
  /-- The intervals that the functions of the timer have captured, one for each start. -/
  capturedIntervals : List Int
  /-- The motions of `pointing_motion_arrived`. -/
  arrived : List PointingMotion

variable {α : Type} [Field α] [LinearOrder α]

namespace Stick

/-- The constructor and the settings of the device. -/
def new (settings : StickSettings α) : Stick α := ⟨settings, 0, 0, 0, 0, 0, 0⟩

/-- `stick_sensor::update_stick_sensor_value`, from `-1` to `1`. -/
def stickSensorValue (logicalMax logicalMin integerValue : Int) : α :=
  if logicalMax ≠ logicalMin then
    (((integerValue - logicalMin : Int) : α) / ((logicalMax - logicalMin : Int) : α) - 1 / 2) * 2
  else 0

/-- `continued_movement`. -/
def continuedMovement (stick : Stick α) : Bool :=
  decide (stick.settings.continuedMovementAbsoluteMagnitudeThreshold ≤ stick.absoluteMagnitude)

/-- `get_continued_movement_interval_milliseconds`. -/
def getContinuedMovementIntervalMilliseconds (stick : Stick α) : Int :=
  if stick.continuedMovement then stick.settings.continuedMovementIntervalMilliseconds else 0

variable [StickFunctions α]

/-- The magnitudes of `update_values` before the deadzone. The position is that of the new
magnitude. -/
def updateMagnitudes (stick : Stick α) : Stick α :=
  let absoluteMagnitude :=
    min 1 (StickFunctions.sqrt (stick.verticalStickSensor ^ 2 + stick.horizontalStickSensor ^ 2))
  let dm := max 0 (absoluteMagnitude - stick.previousAbsoluteMagnitude)
  let updated := { stick with
    radian := StickFunctions.atan2 stick.verticalStickSensor stick.horizontalStickSensor
    absoluteMagnitude }
  if !updated.continuedMovement && decide (0 < dm) &&
      decide (dm < stick.settings.deltaMagnitudeDetectionThreshold) then
    { updated with deltaMagnitude := 0 }
  else { updated with deltaMagnitude := dm, previousAbsoluteMagnitude := absoluteMagnitude }

/-- `update_values`. -/
def updateValues (stick : Stick α) : Stick α :=
  let updated := stick.updateMagnitudes
  if updated.absoluteMagnitude ≤ stick.settings.deadzone then
    { updated with deltaMagnitude := 0, absoluteMagnitude := 0 }
  else updated

/-- `update_horizontal_stick_sensor_value` and `update_vertical_stick_sensor_value`. -/
def updateStickSensorValue (stick : Stick α) (axis : StickAxis)
    (logicalMax logicalMin integerValue : Int) : Stick α :=
  let value := stickSensorValue logicalMax logicalMin integerValue
  match axis with
  | .horizontal => { stick with horizontalStickSensor := value }.updateValues
  | .vertical => { stick with verticalStickSensor := value }.updateValues

end Stick

namespace EventValue

variable [FloorRing α]

def initial : EventValue α := ⟨0, 0⟩

def setValue (eventValue : EventValue α) (value : α) : EventValue α := { eventValue with value }

/-- `std::trunc`. -/
def trunc (value : α) : Int := if 0 ≤ value then ⌊value⌋ else ⌈value⌉

/-- `truncated_value`, in the range of the virtual device. -/
def truncatedValue (eventValue : EventValue α) : Int × EventValue α :=
  let truncated := trunc (eventValue.value + eventValue.remainder)
  (max (min truncated 127) (-127),
    { eventValue with remainder := eventValue.remainder + (eventValue.value - truncated) })

end EventValue

namespace ContinuedMovementTimer

def initial : ContinuedMovementTimer := ⟨false, 0⟩

def start (_ : ContinuedMovementTimer) (interval : Int) : ContinuedMovementTimer :=
  ⟨true, interval⟩

def stop (_ : ContinuedMovementTimer) : ContinuedMovementTimer := ⟨false, 0⟩

/-- `set_interval`, which stops the timer for no interval. -/
def setInterval (timer : ContinuedMovementTimer) (interval : Int) : ContinuedMovementTimer :=
  if interval = 0 then timer.stop else { timer with intervalMilliseconds := interval }

end ContinuedMovementTimer

namespace GamePadStickConverter

/-- The constructor. -/
def new (xySettings wheelsSettings : StickSettings α) (formulas : StickFormulas) :
    GamePadStickConverter α where
  xy := .new xySettings
  wheels := .new wheelsSettings
  formulas := formulas
  continuedMovementTimer := .initial
  continuedMovementTimerCount := 0
  continuedMovementMode := .none
  xValue := .initial
  yValue := .initial
  verticalWheelValue := .initial
  horizontalWheelValue := .initial
  capturedIntervals := []
  arrived := []

omit [Field α] [LinearOrder α] in
def stick (converter : GamePadStickConverter α) : StickName → Stick α
  | .xy => converter.xy
  | .wheels => converter.wheels

def setStick (converter : GamePadStickConverter α) (name : StickName) (stick : Stick α) :
    GamePadStickConverter α :=
  match name with
  | .xy => { converter with xy := stick }
  | .wheels => { converter with wheels := stick }

/-- The variables of the formulas of a stick. While the stick drives the movement, the magnitude
of the secondary stick is added. -/
def variablesOf (converter : GamePadStickConverter α) (name : StickName) : StickVariables α :=
  let stick := converter.stick name
  let drives := decide (converter.continuedMovementMode = name.mode)
  let m := if drives && stick.continuedMovement then (converter.stick name.other).absoluteMagnitude
    else 0
  { radian := stick.radian
    deltaMagnitude := stick.deltaMagnitude + m
    absoluteMagnitude := stick.absoluteMagnitude + m
    continuedMovement := if drives then 1 else 0 }

variable [StickFunctions α]

/-- The value of a formula, where NaN is zero. -/
def valueOf (formula : String) (variables_ : StickVariables α) : α :=
  (StickFunctions.formula formula variables_).getD 0

variable [FloorRing α]

/-- `pointing_motion_arrived`, unless the motion is zero. -/
def arrive (converter : GamePadStickConverter α) (motion : PointingMotion) :
    GamePadStickConverter α :=
  if motion = ⟨0, 0, 0, 0⟩ then converter
  else { converter with arrived := converter.arrived ++ [motion] }

/-- `post_xy_event`. -/
def postXyEvent (converter : GamePadStickConverter α) : GamePadStickConverter α :=
  let x := converter.xValue.truncatedValue
  let y := converter.yValue.truncatedValue
  { converter with xValue := x.2, yValue := y.2 }.arrive ⟨x.1, y.1, 0, 0⟩

/-- `post_wheels_event`. -/
def postWheelsEvent (converter : GamePadStickConverter α) : GamePadStickConverter α :=
  let v := converter.verticalWheelValue.truncatedValue
  let h := converter.horizontalWheelValue.truncatedValue
  { converter with verticalWheelValue := v.2, horizontalWheelValue := h.2 }.arrive
    ⟨0, 0, v.1, h.1⟩

/-- `post_event`. -/
def postEvent (converter : GamePadStickConverter α) (mode : ContinuedMovementMode) :
    GamePadStickConverter α :=
  let xy := converter.variablesOf .xy
  let wheels := converter.variablesOf .wheels
  let valued := { converter with
    xValue := converter.xValue.setValue (valueOf converter.formulas.x xy)
    yValue := converter.yValue.setValue (valueOf converter.formulas.y xy)
    horizontalWheelValue := converter.horizontalWheelValue.setValue
      (valueOf converter.formulas.horizontalWheel wheels)
    verticalWheelValue := converter.verticalWheelValue.setValue
      (-valueOf converter.formulas.verticalWheel wheels) }
  match mode with
  | .none => valued
  | .xy => valued.postXyEvent
  | .wheels => valued.postWheelsEvent

/-- `update_continued_movement_timer`. -/
def updateContinuedMovementTimer (converter : GamePadStickConverter α)
    (mode : ContinuedMovementMode) (interval : Int) : GamePadStickConverter α :=
  if interval = 0 then
    if converter.continuedMovementMode = .none then converter.postEvent mode
    else if !converter.xy.continuedMovement && !converter.wheels.continuedMovement then
      -- The movement stops when neither stick is in the position.
      { converter with
        continuedMovementMode := .none
        continuedMovementTimer := converter.continuedMovementTimer.stop }
    else converter
  else if !converter.continuedMovementTimer.enabled then
    { converter with
      continuedMovementMode := mode
      continuedMovementTimerCount := 0
      continuedMovementTimer := converter.continuedMovementTimer.start 300
      capturedIntervals := converter.capturedIntervals ++ [interval] }
  else converter

/-- The function of the timer, with the interval it has captured. The call right after the start
posts nothing, and the next one sets the interval. -/
def callFunction (converter : GamePadStickConverter α) (interval : Int) :
    GamePadStickConverter α :=
  let counted := { converter with
    continuedMovementTimerCount := converter.continuedMovementTimerCount + 1 }
  match counted.continuedMovementTimerCount with
  | 1 => counted
  | 2 =>
      let posted := counted.postEvent counted.continuedMovementMode
      { posted with
        continuedMovementTimer := posted.continuedMovementTimer.setInterval interval }
  | _ => counted.postEvent counted.continuedMovementMode

/-- What happens to the converter. A function of the timer that has been enqueued may be called
after the timer is stopped or started again, so a tick calls any function there has been. -/
inductive Action where
  | update (name : StickName) (axis : StickAxis) (logicalMax logicalMin integerValue : Int)
  | tick (function : Nat)

/-- An update of a stick, with the handler of `values_updated`. -/
def updateStick (converter : GamePadStickConverter α) (name : StickName) (axis : StickAxis)
    (logicalMax logicalMin integerValue : Int) : GamePadStickConverter α :=
  let stick := (converter.stick name).updateStickSensorValue axis logicalMax logicalMin integerValue
  (converter.setStick name stick).updateContinuedMovementTimer name.mode
    stick.getContinuedMovementIntervalMilliseconds

def step (converter : GamePadStickConverter α) : Action → GamePadStickConverter α
  | .update name axis logicalMax logicalMin integerValue =>
      converter.updateStick name axis logicalMax logicalMin integerValue
  | .tick function =>
      match converter.capturedIntervals[function]? with
      | some interval => converter.callFunction interval
      | none => converter

end GamePadStickConverter

end Karabiner

import Karabiner.EventQueue.Queue

/-! # The manipulator manager

A stage of the pipeline: a manager holds a list of manipulators, takes entries
from its input queue and hands them, changed or not, to its output queue
(`manipulator_manager::manipulate`). The manager is generic in its manipulators,
which implement the functions of `manipulators::base`.
-/

namespace Karabiner

/-- `manipulate_result`. -/
inductive ManipulateResult where
  | passed
  | manipulated
  | needsWaitUntilTimeStamp
deriving DecidableEq

/-- The virtual functions of `manipulators::base`. A function that changes the
manipulator, the front entry or the output queue returns them. -/
class Manipulator (M : Type) where
  alreadyManipulated : M → Entry → Bool
  manipulate : M → Entry → EventQueue → EventQueue → Int →
    ManipulateResult × M × Entry × EventQueue
  active : M → Bool
  getValidity : M → Validity
  setValidity : M → Validity → M
  handleDeviceKeysAndPointingButtonsAreReleasedEvent : M → Entry → EventQueue → M × EventQueue
  handleDeviceUngrabbedEvent : M → DeviceId → EventQueue → Int → M
  handlePointingDeviceEventFromEventTap : M → Entry → EventQueue → M × EventQueue

/-- A manager with its input and output queue. -/
structure Stage (M : Type) where
  manipulators : List M
  input : EventQueue
  output : EventQueue

namespace Stage

variable {M : Type} [Manipulator M]

/-- `manipulator_manager::remove_invalid_manipulators`: an active manipulator is
kept. -/
def removeInvalidManipulators (manipulators : List M) : List M :=
  manipulators.filter fun m =>
    !(Manipulator.getValidity m == .invalid && !Manipulator.active m)

/-- `manipulator_manager::invalidate_manipulators`. -/
def invalidateManipulators (stage : Stage M) : Stage M :=
  { stage with
    manipulators := removeInvalidManipulators
      (stage.manipulators.map fun m => Manipulator.setValidity m .invalid) }

/-- `manipulator_manager::push_back_manipulator`. -/
def pushBackManipulator (stage : Stage M) (manipulator : M) : Stage M :=
  { stage with manipulators := stage.manipulators ++ [manipulator] }

/-- A handler called on each manipulator in turn, with the output queue it may
change. -/
def handleEach (handler : M → EventQueue → M × EventQueue) : List M → EventQueue →
    List M × EventQueue
  | [], output => ([], output)
  | m :: rest, output =>
      let (handled, changed) := handler m output
      let (handledRest, final) := handleEach handler rest changed
      (handled :: handledRest, final)

/-- What the loop over the manipulators has done to the front entry and the
output queue, and whether it was left because one of them waits. -/
structure LoopResult (M : Type) where
  waits : Bool
  manipulators : List M
  front : Entry
  output : EventQueue

/-- The loop of `manipulate` over the manipulators. Each one sees the input queue
with the front entry as the manipulators before it left it. -/
def manipulateEach (rest : List Entry) (input : EventQueue) (now : Int) : List M → Entry →
    EventQueue → LoopResult M
  | [], front, output => ⟨false, [], front, output⟩
  | m :: others, front, output =>
      let (result, changed, front, output) :=
        Manipulator.manipulate m front { input with events := front :: rest } output now
      match result with
      | .needsWaitUntilTimeStamp => ⟨true, changed :: others, front, output⟩
      | .passed | .manipulated =>
          let after := manipulateEach rest input now others front output
          { after with manipulators := changed :: after.manipulators }

/-- The step of the loop for a manipulator that does not wait. -/
theorem manipulateEach_cons {m changed : M} {others : List M} {rest : List Entry}
    {input output changedOutput : EventQueue} {now : Int} {front changedFront : Entry}
    {result : ManipulateResult} (running : result ≠ .needsWaitUntilTimeStamp)
    (step : Manipulator.manipulate m front { input with events := front :: rest } output now =
      (result, changed, changedFront, changedOutput)) :
    manipulateEach rest input now (m :: others) front output =
      { manipulateEach rest input now others changedFront changedOutput with
        manipulators := changed ::
          (manipulateEach rest input now others changedFront changedOutput).manipulators } := by
  conv => lhs; unfold manipulateEach
  rw [step]
  cases result with
  | passed => rfl
  | manipulated => rfl
  | needsWaitUntilTimeStamp => exact absurd rfl running

/-- The loop is left at a manipulator that waits. -/
theorem manipulateEach_waits {m changed : M} {others : List M} {rest : List Entry}
    {input output changedOutput : EventQueue} {now : Int} {front changedFront : Entry}
    (step : Manipulator.manipulate m front { input with events := front :: rest } output now =
      (.needsWaitUntilTimeStamp, changed, changedFront, changedOutput)) :
    manipulateEach rest input now (m :: others) front output =
      ⟨true, changed :: others, changedFront, changedOutput⟩ := by
  unfold manipulateEach
  rw [step]

/-- How `manipulate` treats an event. -/
inductive EventKind where
  | keysReleased
  | deviceUngrabbed
  | fromEventTap
  | ignored
  | manipulated
deriving DecidableEq

/-- The cases of the switch of `manipulate`. -/
def eventKind : Event → EventKind
  | .deviceKeysAndPointingButtonsAreReleased => .keysReleased
  | .deviceUngrabbed => .deviceUngrabbed
  | .pointingDeviceEventFromEventTap => .fromEventTap
  | .none | .deviceGrabbed _ | .frontmostApplicationChanged _ | .inputSourceChanged _
  | .setVariable _ | .virtualHidDevicesStateChanged _ => .ignored
  | .momentarySwitchEvent _ | .pointingMotion _ | .shellCommand _ | .sendUserCommand _
  | .selectInputSource _ | .setNotificationMessage _ | .mouseKey _ | .stickyModifier _ _
  | .softwareFunction _ | .stopKeyboardRepeat | .capsLockStateChanged _
  | .systemPreferencesPropertiesChanged _ => .manipulated

/-- The switch of `manipulate` on the front entry. A valid entry that a
manipulator has already manipulated becomes invalid and is shown to none. -/
def dispatchFront (stage : Stage M) (front : Entry) (rest : List Entry) (now : Int) :
    LoopResult M :=
  match eventKind front.event with
  | .keysReleased =>
      let erased := (stage.output.eraseAllActiveModifierFlagsExceptLockAndSticky
        front.deviceId).eraseAllActivePointingButtonsExceptLock front.deviceId
      let (manipulators, output) := handleEach
        (fun m output =>
          Manipulator.handleDeviceKeysAndPointingButtonsAreReleasedEvent m front output)
        stage.manipulators erased
      ⟨false, manipulators, front, output⟩
  | .deviceUngrabbed =>
      -- The output queue is reset before the handlers, which release what is left over.
      let erased := (stage.output.eraseAllActiveModifierFlags
        front.deviceId).eraseAllActivePointingButtons front.deviceId
      ⟨false,
        stage.manipulators.map fun m =>
          Manipulator.handleDeviceUngrabbedEvent m front.deviceId erased
            front.eventTimeStamp.timeStamp,
        front, erased⟩
  | .fromEventTap =>
      let (manipulators, output) := handleEach
        (fun m output => Manipulator.handlePointingDeviceEventFromEventTap m front output)
        stage.manipulators stage.output
      ⟨false, manipulators, front, output⟩
  | .ignored => ⟨false, stage.manipulators, front, stage.output⟩
  | .manipulated =>
      if front.validity = .valid ∧
          stage.manipulators.any (fun m => Manipulator.alreadyManipulated m front) = true then
        ⟨false, stage.manipulators, { front with validity := .invalid }, stage.output⟩
      else manipulateEach rest stage.input now stage.manipulators front stage.output

variable [ExpressionLibrary]

/-- The end of `manipulate`: a valid front entry is passed on, the output queue is
sorted when `reorder_same_timestamp_input_events_to_prioritize_modifiers` is on,
and the front entry is erased. -/
def finishFront (input : EventQueue) (result : LoopResult M) (reorder : Bool) : Stage M :=
  let pushed := if result.front.validity = .valid then result.output.pushBackEntry result.front
    else result.output
  ⟨result.manipulators, input.eraseFrontEvent, if reorder then pushed.sortEvents else pushed⟩

/-- `manipulator_manager::manipulate`: whether the caller has to call again, and
the stage after the call. -/
def manipulate (stage : Stage M) (now : Int) (reorder : Bool) : Bool × Stage M :=
  match stage.input.events with
  | [] =>
      (false, { stage with manipulators := removeInvalidManipulators stage.manipulators })
  | front :: rest =>
      let result := stage.dispatchFront front rest now
      if result.waits then
        (false,
          ⟨removeInvalidManipulators result.manipulators,
            { stage.input with events := result.front :: rest }, result.output⟩)
      else (true, finishFront stage.input result reorder)

/-- What a call does with the front entry. -/
theorem manipulate_of_front {stage : Stage M} {front : Entry} {rest : List Entry}
    (next : stage.input.events = front :: rest) (now : Int) (reorder : Bool) :
    stage.manipulate now reorder =
      if (stage.dispatchFront front rest now).waits then
        (false,
          ⟨removeInvalidManipulators (stage.dispatchFront front rest now).manipulators,
            { stage.input with events := (stage.dispatchFront front rest now).front :: rest },
            (stage.dispatchFront front rest now).output⟩)
      else (true, finishFront stage.input (stage.dispatchFront front rest now) reorder) := by
  rw [manipulate, next]

/-- A call that does not wait finishes the front entry. -/
theorem manipulate_of_not_waits {stage : Stage M} {front : Entry} {rest : List Entry}
    (next : stage.input.events = front :: rest) {now : Int}
    (waits : (stage.dispatchFront front rest now).waits = false) (reorder : Bool) :
    stage.manipulate now reorder =
      (true, finishFront stage.input (stage.dispatchFront front rest now) reorder) := by
  rw [manipulate_of_front next, waits, if_neg Bool.false_ne_true]

end Stage

end Karabiner

import Karabiner.Basic.OptionalTasks

/-! # A basic manipulator with its timers

`to_if_held_down` and `to_delayed_action` send further `to` lists when their timers fire. The
first one refers to the record of its key_down weakly, the second one keeps that record alive
after it has left `manipulated_original_events_`. So a record is an object of its own here, with
an identity by which the tasks find it.
-/

namespace Karabiner

/-- A manipulated original event as an object that is shared. -/
structure SharedRecord where
  identity : Nat
  current : ManipulatedOriginalEvent
  /-- It is in `manipulated_original_events_`. -/
  listed : Bool
  /-- The keys that it was made for; no function reads them. -/
  keys : List FromEvent
  /-- The entries that were handled since then; no function reads them. -/
  since : List Entry
  /-- Whether `to_if_held_down` has posted for it; no function reads it. -/
  heldDown : Bool

/-- `to_if_held_down`. The record is given by its identity, and by itself does not live on. -/
structure ToIfHeldDown where
  to_ : List ToEventDefinition
  thresholdMilliseconds : Int
  /-- `front_input_event_` and `current_manipulated_original_event_`. -/
  setUp : Option (Entry × Nat)
  /-- When the pending task is due, in milliseconds. -/
  task : Option Int

/-- `to_delayed_action`. The record lives on with it. -/
structure ToDelayedAction where
  toIfInvoked : List ToEventDefinition
  toIfCanceled : List ToEventDefinition
  delayMilliseconds : Int
  frontInputEvent : Option Entry
  current : Option Nat
  task : Option Int

/-- `manipulators::basic::basic` with its timers. The records are those that are alive; the list
of `basic` itself is not used. -/
structure TimedBasic where
  basic : Basic
  records : List SharedRecord
  /-- The identity of the next record. -/
  made : Nat
  toIfHeldDown : Option ToIfHeldDown
  toDelayedAction : Option ToDelayedAction

namespace TimedBasic

/-! ## Records -/

/-- A record whose identity is given, if it is alive. -/
def lock (manipulator : TimedBasic) (identity : Nat) : Option SharedRecord :=
  manipulator.records.find? fun record => record.identity == identity

/-- The object with an identity is changed. -/
def change (manipulator : TimedBasic) (identity : Nat) (changed : SharedRecord → SharedRecord) :
    TimedBasic :=
  { manipulator with
    records := manipulator.records.map fun record =>
      if record.identity = identity then changed record else record }

/-- Whether anything refers to a record strongly. -/
def keepsAlive (manipulator : TimedBasic) (record : SharedRecord) : Bool :=
  record.listed ||
    (manipulator.toDelayedAction.bind ToDelayedAction.current == some record.identity)

/-- Records that nothing refers to are destroyed. -/
def collect (manipulator : TimedBasic) : TimedBasic :=
  { manipulator with records := manipulator.records.filter manipulator.keepsAlive }

/-- The records of `manipulated_original_events_` are changed. -/
def changeListed (manipulator : TimedBasic) (changed : SharedRecord → SharedRecord) : TimedBasic :=
  { manipulator with
    records := manipulator.records.map fun record =>
      if record.listed then changed record else record }

/-- `basic::already_manipulated`. -/
def alreadyManipulated (manipulator : TimedBasic) (front : Entry) : Bool :=
  match front.eventType with
  | .keyDown => manipulator.records.any fun record =>
      record.listed && record.current.fromEventExists front.fromEvent
  | .keyUp | .single => false

/-- `unset_alone_if_needed`. -/
def unsetAloneIfNeeded (manipulator : TimedBasic) (event : Event) (eventType : EventType) :
    TimedBasic :=
  if Basic.endsAlone event eventType then
    manipulator.changeListed fun record => { record with current := record.current.unsetAlone }
  else manipulator

/-! ## The held-down timer -/

/-- `held_down_task_.cancel`. -/
def stopHeldDown (manipulator : TimedBasic) : TimedBasic :=
  { manipulator with
    toIfHeldDown := manipulator.toIfHeldDown.map fun heldDown => { heldDown with task := none } }

/-- `to_if_held_down::cancel`. -/
def cancelHeldDown (manipulator : TimedBasic) (front : Entry) : TimedBasic :=
  if front.eventType = .keyDown then manipulator.stopHeldDown else manipulator

/-- What the pending task was set up for. -/
def pendingHeldDown (manipulator : TimedBasic) : Option (Entry × Nat) :=
  manipulator.toIfHeldDown.bind fun heldDown =>
    if heldDown.task.isSome then heldDown.setUp else none

variable [MachTimebase]

/-- When a task is due that runs after a delay. -/
def due (now milliseconds : Int) : Int :=
  MachTimebase.makeMilliseconds now +
    MachTimebase.makeMilliseconds (MachTimebase.makeAbsoluteTimeDuration milliseconds)

/-- `to_if_held_down::setup` at a key_down. -/
def setUpHeldDown (manipulator : TimedBasic) (front : Entry) (identity : Nat) (now : Int) :
    TimedBasic :=
  { manipulator with
    toIfHeldDown := manipulator.toIfHeldDown.map fun heldDown =>
      if heldDown.to_.isEmpty then { heldDown with task := none }
      else { heldDown with
        setUp := some (front, identity)
        task := some (due now heldDown.thresholdMilliseconds) } }

variable [ExpressionLibrary]

/-- The record that the held-down timer posts for at this time, with the key_down and the list;
there is none if the task is not due or the record was destroyed. -/
def heldDownTarget (manipulator : TimedBasic) (now : Int) :
    Option (ToIfHeldDown × Entry × SharedRecord) :=
  manipulator.toIfHeldDown.bind fun heldDown =>
    heldDown.task.bind fun due =>
      if due ≤ MachTimebase.makeMilliseconds now then
        heldDown.setUp.bind fun (front, identity) =>
          (manipulator.lock identity).map fun record => (heldDown, front, record)
      else none

/-- The held-down timer fires, if it is due. -/
def fireHeldDown (manipulator : TimedBasic) (output : EventQueue) (now : Int) :
    TimedBasic × EventQueue :=
  match manipulator.heldDownTarget now with
  | some (heldDown, front, record) =>
      let sent := Sending.sendWhenHeldDown ⟨output, 0, record.current⟩ front heldDown.to_
      ((manipulator.change record.identity fun record =>
          { record with
            current := sent.current
            heldDown := true }).stopHeldDown, sent.queue)
  | none =>
      let isDue := manipulator.toIfHeldDown.any fun heldDown =>
        heldDown.task.any fun due => decide (due ≤ MachTimebase.makeMilliseconds now)
      (if isDue then manipulator.stopHeldDown else manipulator, output)

/-! ## The delayed action -/

/-- The `post_events` of a delayed action, which releases its record. -/
def postDelayedEvents (manipulator : TimedBasic) (delayed : ToDelayedAction)
    (toEvents : List ToEventDefinition) (output : EventQueue) : TimedBasic × EventQueue :=
  let released := some { delayed with
    current := none
    task := none }
  match delayed.frontInputEvent, delayed.current.bind manipulator.lock with
  | some front, some record =>
      let sent := Sending.postDelayedAction ⟨output, 0, record.current⟩ front toEvents
      (({ manipulator with toDelayedAction := released }.change record.identity fun record =>
        { record with current := sent.current }).collect, sent.queue)
  | _, _ => ({ manipulator with toDelayedAction := released }.collect, output)

/-- `to_delayed_action::cancel`. -/
def cancelDelayedAction (manipulator : TimedBasic) (front : Entry) (output : EventQueue) :
    TimedBasic × EventQueue :=
  if front.eventType = .keyDown then
    match manipulator.toDelayedAction with
    | some delayed => manipulator.postDelayedEvents delayed delayed.toIfCanceled output
    | none => (manipulator, output)
  else (manipulator, output)

omit [ExpressionLibrary] in
/-- `to_delayed_action::setup` at a key_down. -/
def setUpDelayedAction (manipulator : TimedBasic) (front : Entry) (identity : Nat) (now : Int) :
    TimedBasic :=
  { manipulator with
    toDelayedAction := manipulator.toDelayedAction.map fun delayed =>
      if delayed.toIfInvoked.isEmpty && delayed.toIfCanceled.isEmpty then delayed
      else { delayed with
        frontInputEvent := some front
        current := some identity
        task := some (due now delayed.delayMilliseconds) } }

/-- The timer of the delayed action fires, if it is due. -/
def fireDelayedAction (manipulator : TimedBasic) (output : EventQueue) (now : Int) :
    TimedBasic × EventQueue :=
  match manipulator.toDelayedAction with
  | some delayed =>
      if delayed.task.any fun due => decide (due ≤ MachTimebase.makeMilliseconds now) then
        manipulator.postDelayedEvents delayed delayed.toIfInvoked output
      else (manipulator, output)
  | none => (manipulator, output)

/-! ## The manipulator -/

omit [MachTimebase] [ExpressionLibrary] in
/-- A record is made for keys and pushed to `manipulated_original_events_`. -/
def addRecord (manipulator : TimedBasic) (current : ManipulatedOriginalEvent) : TimedBasic :=
  { manipulator with
    records := manipulator.records ++
      [⟨manipulator.made, current, true, current.fromEvents, [], false⟩]
    made := manipulator.made + 1 }

/-- The key_down of `manipulate`. -/
def manipulateKeyDown (manipulator : TimedBasic) (front : Entry) (input output : EventQueue)
    (now : Int) : ManipulateResult × TimedBasic × Entry × EventQueue :=
  match manipulator.basic.decideKeyDown front input.events output now with
  | (.notTarget, delayed, environment) =>
      (.passed, manipulator, delayed, { output with manipulatorEnvironment := environment })
  | (.waits, delayed, environment) =>
      (.needsWaitUntilTimeStamp, manipulator, delayed, Basic.postStopKeyboardRepeat
        { output with manipulatorEnvironment := environment } delayed)
  | (.claims fromEvents mandatory, delayed, environment) =>
      let current := ManipulatedOriginalEvent.make fromEvents mandatory
        front.eventTimeStamp.timeStamp output.modifierFlagManager.makeModifierFlags front.deviceId
      let sent := manipulator.basic.sendAtKeyDown delayed
        ⟨{ output with manipulatorEnvironment := environment }, 0, current⟩
      let taken := { delayed with validity := .invalid }
      let setUp := ((manipulator.addRecord sent.current).setUpHeldDown taken manipulator.made
        now).setUpDelayedAction taken manipulator.made now
      (.manipulated, setUp.collect, taken, Basic.finishSending sent)

/-- The key_up of `manipulate`. It stops the held-down timer, and a record without keys leaves
the list. -/
def manipulateKeyUp (manipulator : TimedBasic) (front : Entry) (output : EventQueue) :
    ManipulateResult × TimedBasic × Entry × EventQueue :=
  match manipulator.records.find? fun record =>
      record.listed && record.current.fromEventExists front.fromEvent with
  | none => (.passed, manipulator, front, output)
  | some record =>
      let sent := manipulator.basic.sendAtKeyUp front
        ⟨output, 0, record.current.eraseFromEvent front.fromEvent⟩
      let released := manipulator.change record.identity fun record =>
        { record with
          current := sent.current
          listed := !sent.current.fromEvents.isEmpty }
      (.manipulated, released.stopHeldDown.collect, { front with validity := .invalid },
        Basic.finishSending sent)

/-- The start of `manipulate`, for every entry: a key_down cancels both timers. -/
def cancelTimers (manipulator : TimedBasic) (front : Entry) (output : EventQueue) :
    TimedBasic × EventQueue :=
  ((manipulator.unsetAloneIfNeeded front.event front.eventType).cancelHeldDown
    front).cancelDelayedAction front output

/-- `basic::manipulate`. -/
def manipulate (manipulator : TimedBasic) (front : Entry) (input output : EventQueue)
    (now : Int) : ManipulateResult × TimedBasic × Entry × EventQueue :=
  let (noted, canceled) := manipulator.cancelTimers front output
  if front.validity = .invalid then (.passed, noted, front, canceled)
  else if FromEventDefinition.testEvent front.event noted.basic.from_ then
    match front.eventType with
    | .keyDown => noted.manipulateKeyDown front input canceled now
    | .keyUp => noted.manipulateKeyUp front canceled
    | .single => (.passed, noted, front, canceled)
  else (.passed, noted, front, canceled)

omit [MachTimebase] [ExpressionLibrary] in
/-- `handle_device_ungrabbed_event`: the keys of the device are erased, and records without keys
leave the list. -/
def eraseDevice (manipulator : TimedBasic) (deviceId : DeviceId) : TimedBasic :=
  (manipulator.changeListed fun record =>
    let erased := record.current.eraseFromEventsByDeviceId deviceId
    { record with
      current := erased
      listed := !erased.fromEvents.isEmpty }).collect

instance : Manipulator TimedBasic where
  alreadyManipulated := alreadyManipulated
  manipulate := manipulate
  active manipulator := manipulator.records.any SharedRecord.listed
  getValidity manipulator := manipulator.basic.validity
  setValidity manipulator validity :=
    { manipulator with basic := { manipulator.basic with validity := validity } }
  handleDeviceKeysAndPointingButtonsAreReleasedEvent manipulator _ output := (manipulator, output)
  handleDeviceUngrabbedEvent manipulator deviceId _ _ := manipulator.eraseDevice deviceId
  handlePointingDeviceEventFromEventTap manipulator front output :=
    (manipulator.unsetAloneIfNeeded front.originalEvent front.eventType, output)

end TimedBasic

end Karabiner

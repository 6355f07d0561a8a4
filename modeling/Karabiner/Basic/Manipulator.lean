import Karabiner.Basic.EventSender
import Karabiner.Manipulator.Manager

/-! # The basic manipulator

`basic::manipulate` decides at a key_down, by looking ahead in the input queue, whether
the keys of its `from` are pressed, records them and sends its `to` events; at a key_up
it looks for the record that holds the key. The tasks of `to_if_held_down`,
`to_delayed_action` and `to_if_other_key_pressed` are left out.
-/

namespace Karabiner

/-- `complex_modifications_parameters`, the members that are read here. -/
structure BasicParameters where
  basicSimultaneousThresholdMilliseconds : Int
  basicToIfAloneTimeoutMilliseconds : Int

/-- The default parameters. -/
def BasicParameters.initial : BasicParameters := ⟨50, 1000⟩

/-- `manipulators::basic::basic`. -/
structure Basic where
  validity : Validity
  conditionManager : ConditionManager
  parameters : BasicParameters
  from_ : FromEventDefinition
  to_ : List ToEventDefinition
  toAfterKeyUp : List ToEventDefinition
  toIfAlone : List ToEventDefinition
  manipulatedOriginalEvents : List ManipulatedOriginalEvent

namespace Basic

/-- `basic::already_manipulated`. -/
def alreadyManipulated (basic : Basic) (front : Entry) : Bool :=
  match front.eventType with
  | .keyDown =>
      basic.manipulatedOriginalEvents.any fun current => current.fromEventExists front.fromEvent
  | .keyUp | .single => false

/-- Whether an event ends the time in which `to_if_alone` is sent. -/
def endsAlone (event : Event) (eventType : EventType) : Bool :=
  match event with
  | .momentarySwitchEvent _ => eventType == .keyDown
  | .pointingMotion motion =>
      decide (motion.verticalWheel ≠ 0) || decide (motion.horizontalWheel ≠ 0)
  | _ => false

/-- `unset_alone_if_needed`. -/
def unsetAloneIfNeeded (basic : Basic) (event : Event) (eventType : EventType) : Basic :=
  if endsAlone event eventType then
    { basic with
      manipulatedOriginalEvents :=
        basic.manipulatedOriginalEvents.map ManipulatedOriginalEvent.unsetAlone }
  else basic

/-! ## The look-ahead -/

/-- `all_from_events_found`. -/
def allFromEventsFound (basic : Basic) (fromEvents : List FromEvent) : Bool :=
  basic.from_.eventDefinitions.all fun definition => fromEvents.any fun fromEvent =>
    FromEventDefinition.testEventDefinition fromEvent.event definition

/-- The variables of the look-ahead. -/
structure LookAhead where
  isTarget : Bool
  fromEvents : List FromEvent
  orderedKeyDownEvents : List Event
  orderedKeyUpEvents : List Event

/-- The body of the loop of the look-ahead for an entry within the threshold. -/
def noteEntry (basic : Basic) (look : LookAhead) (entry : Entry) : LookAhead :=
  match entry.eventType with
  | .keyDown =>
      if FromEventDefinition.testEvent entry.event basic.from_ then
        -- The same event of another device is not taken.
        if look.fromEvents.any fun fromEvent => decide (fromEvent.event = entry.event) then look
        else
          { look with
            fromEvents := look.fromEvents ++ [entry.fromEvent]
            orderedKeyDownEvents := look.orderedKeyDownEvents ++ [entry.event] }
      else if !basic.from_.simultaneousOptions.detectKeyDownUninterruptedly &&
          !basic.allFromEventsFound look.fromEvents then
        { look with isTarget := false }
      else look
  | .keyUp =>
      if entry.fromEvent ∈ look.fromEvents then
        if !basic.allFromEventsFound look.fromEvents then { look with isTarget := false }
        else if entry.event ∈ look.orderedKeyUpEvents then look
        else { look with orderedKeyUpEvents := look.orderedKeyUpEvents ++ [entry.event] }
      else look
  | .single => look

/-- The loop of the look-ahead over the entries of the input queue. -/
def lookAhead (basic : Basic) (endTimeStamp : Int) : List Entry → LookAhead → LookAhead
  | [], look => look
  | entry :: rest, look =>
      if !look.isTarget then look
      else if entry.validity = .invalid then lookAhead basic endTimeStamp rest look
      else if endTimeStamp < entry.eventTimeStamp.timeStamp then look
      else lookAhead basic endTimeStamp rest (basic.noteEntry look entry)

variable [MachTimebase]

/-- The threshold in ticks. -/
def simultaneousThreshold (basic : Basic) : Int :=
  MachTimebase.makeAbsoluteTimeDuration basic.parameters.basicSimultaneousThresholdMilliseconds

/-- What a key_down is to the manipulator. -/
inductive KeyDownDecision where
  | notTarget
  | waits
  | claims (fromEvents : List FromEvent) (fromMandatoryModifiers : List ModifierFlag)
deriving DecidableEq

/-- The decision once the modifiers and conditions are fulfilled, and the front entry,
whose input delay goes up while the other keys of a `simultaneous` are missing. -/
def decideByLookAhead (basic : Basic) (front : Entry) (entries : List Entry) (now : Int)
    (mandatory : List ModifierFlag) : KeyDownDecision × Entry :=
  let look := basic.lookAhead (front.eventTimeStamp.timeStamp + basic.simultaneousThreshold)
    entries ⟨true, [], [], []⟩
  let options := basic.from_.simultaneousOptions
  let definitions := basic.from_.eventDefinitions
  if !look.isTarget || look.fromEvents.isEmpty ||
      !FromEventDefinition.testKeyOrder look.orderedKeyDownEvents options.keyDownOrder
        definitions ||
      !FromEventDefinition.testKeyOrder look.orderedKeyUpEvents options.keyUpOrder
        definitions then
    (.notTarget, front)
  else
    let needsWaitKeyUp := !(options.keyUpOrder == .insensitive) &&
      decide (look.orderedKeyUpEvents.length < definitions.length - 1)
    let found := basic.allFromEventsFound look.fromEvents
    if needsWaitKeyUp || !found then
      let delayed := { front with
        eventTimeStamp := { front.eventTimeStamp with
          inputDelayDuration :=
            max front.eventTimeStamp.inputDelayDuration basic.simultaneousThreshold } }
      if now < delayed.eventTimeStamp.makeTimeStampWithInputDelay then (.waits, delayed)
      else if !found then (.notTarget, delayed)
      else (.claims look.fromEvents mandatory, delayed)
    else (.claims look.fromEvents mandatory, front)

/-- Whether a key_down of the `from` is to be manipulated. -/
def decideKeyDown (basic : Basic) (front : Entry) (entries : List Entry) (output : EventQueue)
    (now : Int) : KeyDownDecision × Entry × ManipulatorEnvironment :=
  if basic.validity = .invalid then (.notTarget, front, output.manipulatorEnvironment)
  else
    match basic.from_.fromModifiersDefinition.testModifiers output.modifierFlagManager with
    | none => (.notTarget, front, output.manipulatorEnvironment)
    | some mandatory =>
        if basic.from_.eventIntegerValue.isSome ∧
            basic.from_.eventIntegerValue ≠ front.eventIntegerValue then
          (.notTarget, front, output.manipulatorEnvironment)
        else
          let (fulfilled, environment) := basic.conditionManager.isFulfilled
            ⟨front.deviceId, front.state⟩ output.manipulatorEnvironment
          if fulfilled then
            let (decision, delayed) := basic.decideByLookAhead front entries now mandatory
            (decision, delayed, environment)
          else (.notTarget, front, environment)

/-! ## The events that are sent -/

variable [ExpressionLibrary]

/-- What is sent when the keys are taken. -/
def sendAtKeyDown (basic : Basic) (front : Entry) (sending : Sending) : Sending :=
  let sent := (sending.postFromMandatoryModifiersKeyUp front).postEventsAtKeyDown front basic.to_
  if isLastToEventModifierKeyEvent basic.to_ then sent
  else sent.postFromMandatoryModifiersKeyDown front

/-- The `to_if_alone` events, if no other key was pressed and the key was not held too
long. -/
def sendToIfAlone (basic : Basic) (front : Entry) (sending : Sending) : Sending :=
  if basic.toIfAlone.isEmpty then sending
  else
    let duration := MachTimebase.makeMilliseconds
      (front.eventTimeStamp.timeStamp - sending.current.keyDownTimeStamp)
    if sending.current.alone ∧ duration < basic.parameters.basicToIfAloneTimeoutMilliseconds then
      sending.withKeyDownModifierFlags front fun sending =>
        sending.postExtraWithoutMandatoryModifiers front basic.toIfAlone
    else sending

/-- The extra events of a list that is not empty. -/
def sendExtra (toEvents : List ToEventDefinition) (front : Entry) (sending : Sending) : Sending :=
  if toEvents.isEmpty then sending
  else sending.postExtraWithoutMandatoryModifiers front toEvents

/-- What is sent once for a record, at the first key_up that counts. -/
def sendOnceAtKeyUp (basic : Basic) (front : Entry) (sending : Sending) : Sending :=
  if sending.current.keyUpPosted then sending
  else
    let marked := { sending with current := { sending.current with keyUpPosted := true } }
    let released := (marked.postEventsAtKeyUp front).postFromMandatoryModifiersKeyDown front
    sendExtra basic.toAfterKeyUp front (basic.sendToIfAlone front released)

/-- What is sent at a key_up, after its key has been erased from the record. -/
def sendAtKeyUp (basic : Basic) (front : Entry) (sending : Sending) : Sending :=
  let options := basic.from_.simultaneousOptions
  if options.keyUpWhen = .all ∧ sending.current.fromEvents ≠ [] then sending
  else
    let sent := basic.sendOnceAtKeyUp front sending
    if sent.current.fromEvents = [] then sendExtra options.toAfterKeyUp front sent else sent

omit [MachTimebase] [ExpressionLibrary] in
/-- The end of `manipulate`: the queue is delayed by the events that were posted. -/
def finishSending (sending : Sending) : EventQueue :=
  if sending.timeStampDelay > 0 then
    sending.queue.increaseTimeStampDelay (sending.timeStampDelay - 1)
  else sending.queue

/-- The first record that holds a key, with the records before and after it. -/
def findRecord (fromEvent : FromEvent) : List ManipulatedOriginalEvent →
    Option (List ManipulatedOriginalEvent × ManipulatedOriginalEvent ×
      List ManipulatedOriginalEvent)
  | [] => none
  | current :: rest =>
      if current.fromEventExists fromEvent then some ([], current, rest)
      else (findRecord fromEvent rest).map fun (before, found, after) =>
        (current :: before, found, after)

omit [MachTimebase] in
/-- The event that stops the repeat of the keyboard while a key_down waits. -/
def postStopKeyboardRepeat (output : EventQueue) (front : Entry) : EventQueue :=
  output.pushBackEntry
    { Entry.make front.deviceId front.eventTimeStamp .stopKeyboardRepeat .single none
        front.originalEvent .virtualEvent with
      lazy := true }

/-- The key_down of `manipulate`. -/
def manipulateKeyDown (basic : Basic) (front : Entry) (input output : EventQueue) (now : Int) :
    ManipulateResult × Basic × Entry × EventQueue :=
  match basic.decideKeyDown front input.events output now with
  | (.notTarget, delayed, environment) =>
      (.passed, basic, delayed, { output with manipulatorEnvironment := environment })
  | (.waits, delayed, environment) =>
      (.needsWaitUntilTimeStamp, basic, delayed,
        postStopKeyboardRepeat { output with manipulatorEnvironment := environment } delayed)
  | (.claims fromEvents mandatory, delayed, environment) =>
      let current := ManipulatedOriginalEvent.make fromEvents mandatory
        front.eventTimeStamp.timeStamp output.modifierFlagManager.makeModifierFlags front.deviceId
      let sent := basic.sendAtKeyDown delayed
        ⟨{ output with manipulatorEnvironment := environment }, 0, current⟩
      (.manipulated,
        { basic with
          manipulatedOriginalEvents := basic.manipulatedOriginalEvents ++ [sent.current] },
        { delayed with validity := .invalid }, finishSending sent)

/-- The key_up of `manipulate`: a record without keys is erased. -/
def manipulateKeyUp (basic : Basic) (front : Entry) (output : EventQueue) :
    ManipulateResult × Basic × Entry × EventQueue :=
  match findRecord front.fromEvent basic.manipulatedOriginalEvents with
  | none => (.passed, basic, front, output)
  | some (before, current, after) =>
      let sent := basic.sendAtKeyUp front ⟨output, 0, current.eraseFromEvent front.fromEvent⟩
      let kept := if sent.current.fromEvents = [] then [] else [sent.current]
      (.manipulated, { basic with manipulatedOriginalEvents := before ++ kept ++ after },
        { front with validity := .invalid }, finishSending sent)

/-- `basic::manipulate`. -/
def manipulate (basic : Basic) (front : Entry) (input output : EventQueue) (now : Int) :
    ManipulateResult × Basic × Entry × EventQueue :=
  let noted := basic.unsetAloneIfNeeded front.event front.eventType
  if front.validity = .invalid then (.passed, noted, front, output)
  else if FromEventDefinition.testEvent front.event noted.from_ then
    match front.eventType with
    | .keyDown => noted.manipulateKeyDown front input output now
    | .keyUp => noted.manipulateKeyUp front output
    | .single => (.passed, noted, front, output)
  else (.passed, noted, front, output)

/-- `basic` as a manipulator. Its handler of released keys is empty. -/
instance : Manipulator Basic where
  alreadyManipulated := alreadyManipulated
  manipulate := manipulate
  active basic := !basic.manipulatedOriginalEvents.isEmpty
  getValidity := Basic.validity
  setValidity basic validity := { basic with validity := validity }
  handleDeviceKeysAndPointingButtonsAreReleasedEvent basic _ output := (basic, output)
  handleDeviceUngrabbedEvent basic deviceId _ _ :=
    { basic with
      manipulatedOriginalEvents :=
        (basic.manipulatedOriginalEvents.map fun current =>
          current.eraseFromEventsByDeviceId deviceId).filter fun current =>
            !current.fromEvents.isEmpty }
  handlePointingDeviceEventFromEventTap basic front output :=
    (basic.unsetAloneIfNeeded front.originalEvent front.eventType, output)

end Basic

end Karabiner

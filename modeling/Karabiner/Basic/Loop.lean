import Karabiner.Basic.LookAhead

/-! # The loop of the manager over basic manipulators

The outcome of `Stage.manipulateEach` for the entry of a key: it passes all
manipulators, one of them claims it with other queued keys, or one of them releases it
from a record.
-/

namespace Karabiner

namespace Basic

variable [ExpressionLibrary] [MachTimebase]

/-- Every manipulator passes the entry. -/
theorem manipulateEach_of_passed {front : Entry} {rest : List Entry} {input output : EventQueue}
    {now : Int} {manipulators : List Basic}
    (each : ∀ basic ∈ manipulators,
      basic.manipulate front { input with events := front :: rest } output now =
        (.passed, basic.unsetAloneIfNeeded front.event front.eventType, front, output)) :
    Stage.manipulateEach rest input now manipulators front output =
      ⟨false, manipulators.map fun basic => basic.unsetAloneIfNeeded front.event front.eventType,
        front, output⟩ := by
  induction manipulators with
  | nil => rfl
  | cons basic others ih =>
      have later := ih fun other member => each other (List.mem_cons_of_mem _ member)
      rw [Stage.manipulateEach_cons (by simp) (each basic List.mem_cons_self), later]
      rfl

omit [ExpressionLibrary] [MachTimebase] in
theorem map_quiet_unsetAloneIfNeeded (manipulators : List Basic) (event : Event)
    (eventType : EventType) :
    (manipulators.map fun basic => basic.unsetAloneIfNeeded event eventType).map quiet =
      manipulators.map quiet := by
  rw [List.map_map]
  exact List.map_congr_left fun basic _ => quiet_unsetAloneIfNeeded basic event eventType

/-- An entry that was taken is passed by the manipulators that follow. -/
theorem manipulateEach_invalid (front : Entry) (invalid : front.validity = .invalid)
    (rest : List Entry) (input output : EventQueue) (now : Int) (manipulators : List Basic) :
    Stage.manipulateEach rest input now manipulators front output =
      ⟨false, manipulators.map fun basic => basic.unsetAloneIfNeeded front.event front.eventType,
        front, output⟩ :=
  manipulateEach_of_passed fun _ _ =>
    manipulate_of_passes { input with events := front :: rest } output now (.inl invalid)

/-! ## A key_up -/

/-- A record gives up a key: the events it owes are sent, unless it waits for its other
keys, and a record without keys is erased. -/
structure ReleasesKey (basic : Basic) (front : Entry) (output : EventQueue)
    (before : List ManipulatedOriginalEvent) (current : ManipulatedOriginalEvent)
    (after : List ManipulatedOriginalEvent) (released : Basic) (sent : EventQueue) : Prop where
  records : basic.manipulatedOriginalEvents = before ++ current :: after
  held : front.fromEvent ∈ current.fromEvents
  sent : sent = finishSending (basic.sendAtKeyUp front
    ⟨output, 0, current.eraseFromEvent front.fromEvent⟩)
  released : released = { basic with
    manipulatedOriginalEvents := before ++
      (if (basic.sendAtKeyUp front ⟨output, 0,
          current.eraseFromEvent front.fromEvent⟩).current.fromEvents = [] then []
        else [(basic.sendAtKeyUp front ⟨output, 0,
          current.eraseFromEvent front.fromEvent⟩).current]) ++ after }

/-- A key_up passes, or the first record that holds its key gives it up. -/
def KeyUpOutcome (front : Entry) (output : EventQueue) (manipulators : List Basic)
    (result : Stage.LoopResult Basic) : Prop :=
  (∀ basic ∈ manipulators, FromEventDefinition.testEvent front.event basic.from_ = true →
      ∀ current ∈ basic.manipulatedOriginalEvents, front.fromEvent ∉ current.fromEvents) ∧
      result.manipulators.map quiet = manipulators.map quiet ∧ result.waits = false ∧
      result.front = front ∧ result.output = output ∨
    ∃ before basic after recordsBefore current recordsAfter released,
      manipulators = before ++ basic :: after ∧
      ReleasesKey basic front output recordsBefore current recordsAfter released result.output ∧
      result.manipulators.map quiet = (before ++ released :: after).map quiet ∧
      result.waits = false ∧ result.front = { front with validity := .invalid }

omit [ExpressionLibrary] in
/-- A manipulator in front of the list does not change how a release ends, as long as it holds no
record of the key. -/
theorem KeyUpOutcome.cons [ExpressionLibrary] {front : Entry} {output : EventQueue}
    {others : List Basic} {result : Stage.LoopResult Basic} (basic : Basic)
    (outcome : KeyUpOutcome front output others result)
    (notHeld : FromEventDefinition.testEvent front.event basic.from_ = true →
      ∀ current ∈ basic.manipulatedOriginalEvents, front.fromEvent ∉ current.fromEvents) :
    KeyUpOutcome front output (basic :: others)
      { result with
        manipulators := basic.unsetAloneIfNeeded front.event front.eventType ::
          result.manipulators } := by
  rcases outcome with ⟨none, quietly, running, same⟩ | ⟨before, holder, after, recordsBefore,
    current, recordsAfter, released, split, releases, quietly, running, taken⟩
  · refine .inl ⟨fun other member => ?_, ?_, running, same⟩
    · rcases List.mem_cons.mp member with rfl | later
      · exact notHeld
      · exact none other later
    · rw [List.map_cons, quietly, quiet_unsetAloneIfNeeded]
      rfl
  · refine .inr ⟨basic :: before, holder, after, recordsBefore, current, recordsAfter, released,
      by rw [split]; rfl, releases, ?_, running, taken⟩
    rw [List.map_cons, quietly, quiet_unsetAloneIfNeeded]
    rfl

/-- A release is taken by the first manipulator that holds its key, or it reaches the output as it
is. -/
theorem manipulateEach_keyUp {front : Entry} (isValid : front.validity = .valid)
    (isKeyUp : front.eventType = .keyUp) (rest : List Entry) (input output : EventQueue)
    (now : Int) (manipulators : List Basic) :
    KeyUpOutcome front output manipulators
      (Stage.manipulateEach rest input now manipulators front output) := by
  induction manipulators with
  | nil => exact .inl ⟨fun _ member => absurd member List.not_mem_nil, rfl, rfl, rfl, rfl⟩
  | cons basic others ih =>
      have handled := handles_manipulate basic rest input output now isValid
      generalize shape : basic.manipulate front { input with events := front :: rest } output now =
        answer at handled
      cases handled with
      | ignores tests =>
          rw [Stage.manipulateEach_cons (by simp) shape]
          refine ih.cons basic fun isTrue => ?_
          rw [tests] at isTrue
          cases isTrue
      | unheld tests _ found =>
          have noted : basic.unsetAloneIfNeeded front.event front.eventType = basic := by
            rw [isKeyUp, unsetAloneIfNeeded_keyUp tests]
          have outcome := ih.cons basic fun _ => findRecord_eq_none found
          rw [noted] at outcome
          rw [Stage.manipulateEach_cons (by simp) shape]
          exact outcome
      | @releases recordsBefore recordsAfter current _ _ _ found isSent =>
          subst isSent
          obtain ⟨split, held⟩ := findRecord_eq_some found
          rw [Stage.manipulateEach_cons (by simp) shape,
            manipulateEach_invalid { front with validity := .invalid } rfl]
          refine .inr ⟨[], basic, others, recordsBefore, current, recordsAfter, _, rfl,
            ⟨split, held, rfl, rfl⟩, ?_, rfl, rfl⟩
          rw [List.map_cons, map_quiet_unsetAloneIfNeeded]
          rfl
      | single _ type | notTarget _ type | waits _ type | claims _ type =>
          rw [isKeyUp] at type
          cases type

omit [ExpressionLibrary] [MachTimebase] in
theorem events_finishSending (sending : Sending) :
    (finishSending sending).events = sending.queue.events := by
  unfold finishSending
  split <;> rfl

/-! ## A key_down -/

omit [ExpressionLibrary] in
/-- The keys that a key_down takes: it passes the manipulators up to one that waits or
claims keys. -/
def claimedKeys (rest : List Entry) (now : Int) : List Basic → Entry → EventQueue →
    List FromEvent
  | [], _, _ => []
  | basic :: others, front, output =>
      if FromEventDefinition.testEvent front.event basic.from_ then
        match basic.decideKeyDown front (front :: rest) output now with
        | (.notTarget, delayed, environment) =>
            claimedKeys rest now others delayed { output with manipulatorEnvironment := environment }
        | (.waits, _, _) => []
        | (.claims fromEvents _, _, _) => fromEvents
      else claimedKeys rest now others front output

omit [ExpressionLibrary] [MachTimebase] in
/-- A record of keys that were just claimed, and the output queue after what was sent for
them. -/
structure NewRecord (front : Entry) (output : EventQueue) (keys : List FromEvent)
    (record : ManipulatedOriginalEvent) (sent : EventQueue) : Prop where
  fromEvents : record.fromEvents = keys
  keyUpPosted : record.keyUpPosted = false
  keyDownDeviceId : record.keyDownDeviceId = front.deviceId
  settled : ∀ deviceId key, balance deviceId key sent.events +
    record.owed front.deviceId deviceId key = balance deviceId key output.events

/-- What is sent at a key_down makes a record that owes what is missing. -/
theorem newRecord_sendAtKeyDown (basic : Basic) {front delayed : Entry}
    (same : SameKey front delayed) (output : EventQueue) (environment : ManipulatorEnvironment)
    (keys : List FromEvent) (mandatory : List ModifierFlag) (time : Int)
    (flags : List ModifierFlag) :
    let sent := basic.sendAtKeyDown delayed
      ⟨{ output with manipulatorEnvironment := environment }, 0,
        .make keys mandatory time flags front.deviceId⟩
    NewRecord front output keys sent.current (finishSending sent) := by
  intro sent
  have sends := basic.sends_sendAtKeyDown delayed
    ⟨{ output with manipulatorEnvironment := environment }, 0,
      .make keys mandatory time flags front.deviceId⟩
  have sender : delayed.deviceId = front.deviceId := congrArg FromEvent.deviceId same.fromEvent
  have owesNothing : (ManipulatedOriginalEvent.make keys mandatory time flags
      front.deviceId).Discharged := by
    refine ⟨rfl, List.filter_eq_nil_iff.mpr fun modifier _ => ?_⟩
    simp [ManipulatedOriginalEvent.make]
  refine ⟨congrArg Prod.fst sends.keys, congrArg (·.2.1) sends.keys,
    congrArg (·.2.2) sends.keys, fun deviceId key => ?_⟩
  have settled := sends.settled deviceId key
  unfold Sending.settled at settled
  rw [owesNothing.owed_eq_zero, Int.add_zero, Int.add_zero, sender] at settled
  rw [events_finishSending]
  exact settled

omit [ExpressionLibrary] in
/-- A key_down passes or waits, or one manipulator claims it with other keys. -/
def KeyDownOutcome (front : Entry) (rest : List Entry) (now : Int) (manipulators : List Basic)
    (output : EventQueue) (result : Stage.LoopResult Basic) : Prop :=
  result.manipulators.map quiet = manipulators.map quiet ∧ SameKey front result.front ∧
      (∀ deviceId key, balance deviceId key result.output.events =
        balance deviceId key output.events) ∨
    ∃ before basic after record, manipulators = before ++ basic :: after ∧
      ClaimedKeys basic front rest (claimedKeys rest now manipulators front output) ∧
      NewRecord front output (claimedKeys rest now manipulators front output) record
        result.output ∧
      result.manipulators.map quiet = (before ++ { basic with
        manipulatedOriginalEvents := basic.manipulatedOriginalEvents ++ [record] } ::
          after).map quiet ∧
      result.waits = false ∧ result.front.validity = .invalid

omit [ExpressionLibrary] in
/-- A manipulator that the key_down passes comes first. -/
theorem KeyDownOutcome.cons {front delayed : Entry} {rest : List Entry} {now : Int}
    {others : List Basic} {output : EventQueue} {environment : ManipulatorEnvironment}
    {result : Stage.LoopResult Basic}
    (outcome : KeyDownOutcome delayed rest now others
      { output with manipulatorEnvironment := environment } result)
    (same : SameKey front delayed) {basic noted : Basic} (quietly : noted.quiet = basic.quiet)
    (claimed : claimedKeys rest now (basic :: others) front output =
      claimedKeys rest now others delayed { output with manipulatorEnvironment := environment }) :
    KeyDownOutcome front rest now (basic :: others) output
      { result with manipulators := noted :: result.manipulators } := by
  have sender : delayed.deviceId = front.deviceId := congrArg FromEvent.deviceId same.fromEvent
  rcases outcome with ⟨noneClaimed, delays, settled⟩ | ⟨before, claiming, after, record, split,
    keys, new, changed, running, taken⟩
  · exact .inl ⟨by rw [List.map_cons, List.map_cons, noneClaimed, quietly], same.trans delays,
      settled⟩
  · refine .inr ⟨basic :: before, claiming, after, record, by rw [split]; rfl, ?_, ?_, ?_, running,
      taken⟩
    · rw [claimed]
      exact ⟨same.fromEvent ▸ keys.own, keys.nodup, keys.tested, same.fromEvent ▸ keys.queued⟩
    · rw [claimed]
      refine ⟨new.fromEvents, new.keyUpPosted, new.keyDownDeviceId.trans sender,
        fun deviceId key => ?_⟩
      rw [← sender]
      exact new.settled deviceId key
    · rw [List.map_cons, changed, quietly]
      rfl

omit [ExpressionLibrary] [MachTimebase] in
/-- A record that is added after the others were noted as not alone. -/
theorem quiet_record_unsetAloneIfNeeded (basic : Basic) (event : Event) (eventType : EventType)
    (record : ManipulatedOriginalEvent) :
    let noted := basic.unsetAloneIfNeeded event eventType
    quiet { noted with
        manipulatedOriginalEvents := noted.manipulatedOriginalEvents ++ [record] } =
      quiet { basic with
        manipulatedOriginalEvents := basic.manipulatedOriginalEvents ++ [record] } := by
  have quietly := quiet_unsetAloneIfNeeded basic event eventType
  unfold unsetAloneIfNeeded quiet at quietly ⊢
  split
  · dsimp only
    rw [List.map_append, List.map_append, List.map_map]
    rfl
  · rfl

/-- What the manipulators do to a key_down. -/
theorem manipulateEach_keyDown (rest : List Entry) (input : EventQueue) (now : Int)
    (manipulators : List Basic) (front : Entry) (output : EventQueue)
    (isValid : front.validity = .valid) (isKeyDown : front.eventType = .keyDown) :
    KeyDownOutcome front rest now manipulators output
      (Stage.manipulateEach rest input now manipulators front output) := by
  induction manipulators generalizing front output with
  | nil => exact .inl ⟨rfl, SameKey.refl front, fun _ _ => rfl⟩
  | cons basic others ih =>
      have handled := handles_manipulate basic rest input output now isValid
      generalize shape : basic.manipulate front { input with events := front :: rest } output now =
        answer at handled
      cases handled with
      | ignores tests =>
          rw [Stage.manipulateEach_cons (by simp) shape]
          refine KeyDownOutcome.cons (ih front output isValid isKeyDown) (SameKey.refl front)
            (quiet_unsetAloneIfNeeded basic front.event front.eventType) ?_
          rw [claimedKeys, if_neg (by simp [tests])]
      | notTarget tests _ decided same =>
          rw [Stage.manipulateEach_cons (by simp) shape]
          refine KeyDownOutcome.cons (ih _ _ (same.validity.trans isValid)
            (same.eventType.trans isKeyDown)) same
            (quiet_unsetAloneIfNeeded basic front.event front.eventType) ?_
          rw [claimedKeys, if_pos tests, decided]
      | @waits delayed _ _ _ _ same =>
          rw [Stage.manipulateEach_waits shape]
          refine .inl ⟨?_, same, fun deviceId key => ?_⟩
          · rw [List.map_cons, List.map_cons, quiet_unsetAloneIfNeeded]
          · unfold postStopKeyboardRepeat EventQueue.pushBackEntry
            dsimp only
            rw [balance_append, balance_singleton]
            have zero :
                eventCount deviceId key delayed.deviceId .stopKeyboardRepeat .single = 0 := by
              simp [eventCount]
            exact (congrArg _ zero).trans (Int.add_zero _)
      | @claims delayed environment fromEvents mandatory noted sent tests _ decided same isClaimed
          isNoted isSent =>
          have claimed : claimedKeys rest now (basic :: others) front output = fromEvents := by
            rw [claimedKeys, if_pos tests, decided]
          have new : NewRecord front output fromEvents sent.current (finishSending sent) := by
            rw [isSent]
            exact newRecord_sendAtKeyDown noted same output environment fromEvents mandatory _ _
          have recorded := quiet_record_unsetAloneIfNeeded basic front.event front.eventType
            sent.current
          rw [Stage.manipulateEach_cons (by simp) shape,
            manipulateEach_invalid { delayed with validity := .invalid } rfl]
          refine .inr ⟨[], basic, others, sent.current, rfl, ?_, ?_, ?_, rfl, rfl⟩
          · rw [claimed]
            exact isClaimed
          · rw [claimed]
            exact new
          · rw [isNoted]
            exact congrArg₂ List.cons recorded (map_quiet_unsetAloneIfNeeded others _ _)
      | single _ type | unheld _ type | releases _ type =>
          rw [isKeyDown] at type
          cases type

/-- What the loop over the manipulators leaves in the output queue, with the front entry
if it passes. -/
def afterLoop (result : Stage.LoopResult Basic) : EventQueue :=
  if result.waits then result.output
  else if result.front.validity = .valid then result.output.pushBackEntry result.front
  else result.output

end Basic

/-! ## The switch of the manager -/

namespace Stage

variable [ExpressionLibrary] [MachTimebase]

omit [ExpressionLibrary] [MachTimebase] in
/-- Handlers that leave the output queue and the records alone. -/
theorem handleEach_quiet (handler : Basic → EventQueue → Basic × EventQueue)
    (same : ∀ basic output, (handler basic output).2 = output)
    (quietly : ∀ basic output, (handler basic output).1.quiet = basic.quiet)
    (manipulators : List Basic) (output : EventQueue) :
    (handleEach handler manipulators output).2 = output ∧
      (handleEach handler manipulators output).1.map Basic.quiet =
        manipulators.map Basic.quiet := by
  induction manipulators generalizing output with
  | nil => exact ⟨rfl, rfl⟩
  | cons basic rest ih =>
      obtain ⟨changed, records⟩ := ih (handler basic output).2
      exact ⟨changed.trans (same basic output), congrArg₂ List.cons (quietly basic output) records⟩

/-- An entry that is not shown to `manipulate` of the manipulators only passes. -/
theorem dispatchFront_passed (stage : Stage Basic) {front : Entry} {rest : List Entry} (now : Int)
    (other : eventKind front.event ≠ .manipulated) :
    ∃ manipulators changed,
      stage.dispatchFront front rest now = ⟨false, manipulators, front, changed⟩ ∧
        changed.events = stage.output.events ∧
        changed.timeStampDelay = stage.output.timeStampDelay ∧
        (front.event ≠ .deviceUngrabbed →
          manipulators.map Basic.quiet = stage.manipulators.map Basic.quiet) := by
  unfold dispatchFront
  cases kind : eventKind front.event with
  | keysReleased =>
      dsimp only
      refine ⟨_, _, rfl, ?_⟩
      obtain ⟨changed, records⟩ := handleEach_quiet
        (fun basic output => Manipulator.handleDeviceKeysAndPointingButtonsAreReleasedEvent basic
          front output) (fun _ _ => rfl) (fun _ _ => rfl) stage.manipulators
        ((stage.output.eraseAllActiveModifierFlagsExceptLockAndSticky
          front.deviceId).eraseAllActivePointingButtonsExceptLock front.deviceId)
      rw [changed]
      exact ⟨rfl, rfl, fun _ => records⟩
  | deviceUngrabbed =>
      refine ⟨_, _, rfl, rfl, rfl, fun notUngrabbed => absurd ?_ notUngrabbed⟩
      cases event : front.event <;> rw [event] at kind <;> first | rfl | cases kind
  | fromEventTap =>
      dsimp only
      refine ⟨_, _, rfl, ?_⟩
      obtain ⟨changed, records⟩ := handleEach_quiet
        (fun basic output => Manipulator.handlePointingDeviceEventFromEventTap basic front output)
        (fun _ _ => rfl)
        (fun basic _ => basic.quiet_unsetAloneIfNeeded front.originalEvent front.eventType)
        stage.manipulators stage.output
      rw [changed]
      exact ⟨rfl, rfl, fun _ => records⟩
  | ignored => exact ⟨_, _, rfl, rfl, rfl, fun _ => rfl⟩
  | manipulated => exact absurd kind other

/-- A valid entry that was manipulated already becomes invalid, all others are shown to the
manipulators. -/
theorem dispatchFront_manipulated (stage : Stage Basic) {front : Entry} {rest : List Entry}
    (now : Int) (kind : eventKind front.event = .manipulated) :
    stage.dispatchFront front rest now =
      if front.validity = .valid ∧
          stage.manipulators.any (fun basic => basic.alreadyManipulated front) = true then
        ⟨false, stage.manipulators, { front with validity := .invalid }, stage.output⟩
      else manipulateEach rest stage.input now stage.manipulators front stage.output := by
  unfold dispatchFront
  rw [kind]
  rfl

end Stage

end Karabiner

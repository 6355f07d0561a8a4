import Karabiner.Basic.Manipulator
import Karabiner.VirtualDevices.Ungrab

/-! # The records of an ungrabbed device

When a device is ungrabbed its keys are erased from the records of the basic manipulators,
and a record without keys is dropped with the events it has yet to send. The later stages
release what the device itself holds. So the device is undone exactly when the pending
events are about the device and no pending `set_variable` would change a variable
(`Karabiner.UngrabbedRecords.undone_iff`).
-/

namespace Karabiner

namespace KeyDispatch

variable [HidReportLibrary] [MachTimebase]

/-- Whether dispatching the modifiers taps caps lock. -/
def TapsCapsLock (dispatcher : KeyEventDispatcher) (manager : ModifierFlagManager) : Prop :=
  ¬ (manager.isPressed .capsLock = true ↔ .capsLock ∈ dispatcher.pressedModifierFlags)

/-- Only caps lock releases a key, the key of caps lock itself. -/
theorem pressedKeys_sendModifier (state : KeyDispatch) {flag : ModifierFlag}
    (general : flag ≠ .capsLock) (eventType : EventType) (timeStamp : Int) :
    (state.sendModifier flag eventType timeStamp).dispatcher.pressedKeys =
      state.dispatcher.pressedKeys := by
  unfold sendModifier
  rw [if_neg general]
  dsimp only
  split <;> rfl

/-- Caps lock is sent down and up, so that afterwards the same keys are pressed but for caps lock.
-/
theorem mem_pressedKeys_sendCapsLock (state : KeyDispatch) (timeStamp : Int)
    (k : DeviceId × UsagePair) :
    k ∈ (state.sendCapsLock timeStamp).dispatcher.pressedKeys ↔
      k ∈ state.dispatcher.pressedKeys ∧
        k.2 ≠ (MomentarySwitchEvent.ofModifierFlag .capsLock).usagePair := by
  have released : (state.sendCapsLock timeStamp).dispatcher.pressedKeys =
      (state.dispatchKeyUpEvent (MomentarySwitchEvent.ofModifierFlag .capsLock).usagePair
        timeStamp).dispatcher.pressedKeys := by
    unfold sendCapsLock
    dsimp only
    split
    · rfl
    case isFalse absent =>
      unfold dispatchKeyUpEvent
      rw [if_neg absent]
      rfl
  rw [released, pressedKeys_dispatchKeyUpEvent, List.mem_filter]
  simp

/-- An iteration for another flag than caps lock changes neither the keys nor whether caps
lock is pressed. -/
theorem dispatchModifierFlag_general (manager : ModifierFlagManager) (timeStamp : Int)
    (state : KeyDispatch) {flag : ModifierFlag} (general : flag ≠ .capsLock) :
    (dispatchModifierFlag manager timeStamp state flag).dispatcher.pressedKeys =
        state.dispatcher.pressedKeys ∧
      (.capsLock ∈
          (dispatchModifierFlag manager timeStamp state flag).dispatcher.pressedModifierFlags ↔
        .capsLock ∈ state.dispatcher.pressedModifierFlags) := by
  unfold dispatchModifierFlag
  dsimp only
  split
  · split
    · exact ⟨rfl, Iff.rfl⟩
    · rw [pressedKeys_sendModifier _ general, pressedModifierFlags_sendModifier]
      refine ⟨rfl, ?_⟩
      change _ ∈ insert flag _ ↔ _
      rw [Finset.mem_insert]
      exact or_iff_right general.symm
  · split
    · rw [pressedKeys_sendModifier _ general, pressedModifierFlags_sendModifier]
      refine ⟨rfl, ?_⟩
      change _ ∈ Finset.erase _ flag ↔ _
      rw [Finset.mem_erase]
      exact and_iff_right general.symm
    · exact ⟨rfl, Iff.rfl⟩

/-- The other modifier flags leave the pressed keys of the dispatcher as they are. -/
theorem foldl_dispatchModifierFlag_general (manager : ModifierFlagManager) (timeStamp : Int)
    (flags : List ModifierFlag) (general : ∀ flag ∈ flags, flag ≠ .capsLock)
    (state : KeyDispatch) :
    (flags.foldl (dispatchModifierFlag manager timeStamp) state).dispatcher.pressedKeys =
        state.dispatcher.pressedKeys ∧
      (.capsLock ∈ (flags.foldl (dispatchModifierFlag manager timeStamp)
          state).dispatcher.pressedModifierFlags ↔
        .capsLock ∈ state.dispatcher.pressedModifierFlags) := by
  induction flags generalizing state with
  | nil => exact ⟨rfl, Iff.rfl⟩
  | cons flag rest ih =>
      obtain ⟨keys, capsLock⟩ := dispatchModifierFlag_general manager timeStamp state
        (general flag List.mem_cons_self)
      obtain ⟨laterKeys, laterCapsLock⟩ := ih
        (fun other member => general other (List.mem_cons_of_mem _ member))
        (dispatchModifierFlag manager timeStamp state flag)
      exact ⟨laterKeys.trans keys, laterCapsLock.trans capsLock⟩

/-- Dispatching the modifiers releases the key of caps lock if it taps caps lock. -/
theorem mem_pressedKeys_dispatchModifierKeyEvent (state : KeyDispatch)
    (manager : ModifierFlagManager) (timeStamp : Int) (k : DeviceId × UsagePair) :
    k ∈ (state.dispatchModifierKeyEvent manager timeStamp).dispatcher.pressedKeys ↔
      k ∈ state.dispatcher.pressedKeys ∧
        ¬ (k.2 = (MomentarySwitchEvent.ofModifierFlag .capsLock).usagePair ∧
          TapsCapsLock state.dispatcher manager) := by
  have flags : dispatchedFlags = [.leftControl, .leftShift, .leftOption, .leftCommand,
      .rightControl, .rightShift, .rightOption, .rightCommand, .fn] ++ [.capsLock] := rfl
  unfold dispatchModifierKeyEvent
  rw [flags, List.foldl_append, List.foldl_cons, List.foldl_nil]
  obtain ⟨keys, capsLock⟩ := foldl_dispatchModifierFlag_general manager timeStamp
    [.leftControl, .leftShift, .leftOption, .leftCommand, .rightControl, .rightShift,
      .rightOption, .rightCommand, .fn] (by decide) state
  generalize List.foldl (dispatchModifierFlag manager timeStamp) state _ = reached at keys capsLock
  unfold TapsCapsLock dispatchModifierFlag
  rw [← keys, ← capsLock]
  dsimp only
  by_cases pressed : manager.isPressed .capsLock = true
  · rw [if_pos pressed]
    by_cases known : .capsLock ∈ reached.dispatcher.pressedModifierFlags
    · simp [pressed, known]
    · rw [if_neg known]
      refine (mem_pressedKeys_sendCapsLock _ timeStamp k).trans ?_
      simp [pressed, known, setPressedModifierFlags]
  · rw [if_neg pressed]
    by_cases known : .capsLock ∈ reached.dispatcher.pressedModifierFlags
    · rw [if_pos known]
      refine (mem_pressedKeys_sendCapsLock _ timeStamp k).trans ?_
      simp [pressed, known, setPressedModifierFlags]
    · simp [pressed, known]

/-- Releasing the keys of a device changes no modifier. -/
theorem pressedModifierFlags_dispatchKeyUpEventsByDeviceId (state : KeyDispatch)
    (deviceId : DeviceId) (timeStamp : Int) :
    (state.dispatchKeyUpEventsByDeviceId deviceId timeStamp).dispatcher.pressedModifierFlags =
      state.dispatcher.pressedModifierFlags := by
  have kept : ∀ reached : KeyDispatch, reached.dispatcher.pressedModifierFlags =
      state.dispatcher.pressedModifierFlags → ∀ k ∈ reached.dispatcher.pressedKeys,
      k.1 = deviceId → (reached.dispatchKeyUpEvent k.2 timeStamp).dispatcher.pressedModifierFlags =
        state.dispatcher.pressedModifierFlags := by
    intro reached same k _ _
    unfold dispatchKeyUpEvent
    split <;> exact same
  exact dispatchKeyUpEventsLoop_induction deviceId timeStamp kept _ state rfl

end KeyDispatch

namespace UngrabbedRecords

variable [HidReportLibrary] [MachTimebase]

/-- What the last stage holds for a device after its keys were released. -/
theorem mem_pressedKeys_handleDeviceUngrabbedEvent {m : PostEventToVirtualDevices}
    (sound : m.keys.Sound) (deviceId : DeviceId) (output : EventQueue) (timeStamp : Int)
    (k : DeviceId × UsagePair) :
    k ∈ (m.handleDeviceUngrabbedEvent deviceId output timeStamp).keys.dispatcher.pressedKeys ↔
      (k ∈ m.keys.dispatcher.pressedKeys ∧ k.1 ≠ deviceId) ∧
        ¬ (k.2 = (MomentarySwitchEvent.ofModifierFlag .capsLock).usagePair ∧
          KeyDispatch.TapsCapsLock m.keys.dispatcher output.modifierFlagManager) := by
  let released := m.keys.dispatchKeyUpEventsByDeviceId deviceId timeStamp
  have reportedKeys : ∀ reporting : PostEventToVirtualDevices,
      (reporting.reportButtons output timeStamp).keys.dispatcher = reporting.keys.dispatcher := by
    intro reporting
    unfold PostEventToVirtualDevices.reportButtons
    dsimp only
    split <;> rfl
  have sameFlags : released.dispatcher.pressedModifierFlags =
      m.keys.dispatcher.pressedModifierFlags :=
    KeyDispatch.pressedModifierFlags_dispatchKeyUpEventsByDeviceId m.keys deviceId timeStamp
  have keys : k ∈ released.dispatcher.pressedKeys ↔
      k ∈ m.keys.dispatcher.pressedKeys ∧ k.1 ≠ deviceId := by
    have releases := KeyDispatch.releases_dispatchKeyUpEventsByDeviceId m.keys deviceId timeStamp
    constructor
    · intro held
      refine ⟨releases.sublist.subset held, ?_⟩
      exact KeyDispatch.dispatchKeyUpEventsLoop_released _ deviceId timeStamp m.keys le_rfl k held
    · rintro ⟨held, other⟩
      exact releases.kept k held (PostingStage.device_unique sound held other)
  refine (KeyDispatch.mem_pressedKeys_dispatchModifierKeyEvent _ _ timeStamp k).trans ?_
  unfold KeyDispatch.TapsCapsLock
  rw [reportedKeys]
  exact and_congr keys (not_congr (and_congr_right fun _ => not_congr (by rw [← sameFlags])))

/-! ## What is pending -/

/-- A record loses its last key with a device. -/
def losesLastKey (deviceId : DeviceId) (current : ManipulatedOriginalEvent) : Bool :=
  !current.fromEvents.isEmpty && (current.eraseFromEventsByDeviceId deviceId).fromEvents.isEmpty

/-- The events that the records without keys have yet to send. -/
def pendingEvents (manipulators : List Basic) (deviceId : DeviceId) : List EventAtKeyUp :=
  manipulators.flatMap fun basic =>
    (basic.manipulatedOriginalEvents.filter (losesLastKey deviceId)).flatMap
      ManipulatedOriginalEvent.eventsAtKeyUp

/-- What the pending events do to the variables when they are sent. -/
def applyPending [ExpressionLibrary] (environment : ManipulatorEnvironment)
    (pending : List EventAtKeyUp) : ManipulatorEnvironment :=
  pending.foldl (fun environment event =>
    EventQueue.updateEnvironment environment event.deviceId event.event event.eventType)
    environment

/-- What an event would release is held for its device; `pressed` are the keys held for
the device. -/
def HeldFor (pressed : UsagePair → Prop) (m : PostEventToVirtualDevices) (output : EventQueue)
    (deviceId : DeviceId) : Event → Prop
  | .momentarySwitchEvent key =>
      pressed key.usagePair ∨
        (∃ f ∈ output.modifierFlagManager.activeModifierFlags, f.deviceId = deviceId ∧
          key.makeModifierFlag = some f.modifierFlag ∧ f.getCount > 0) ∨
        ∃ b ∈ output.pointingButtonManager.activePointingButtons, b.deviceId = deviceId ∧
          b.usagePair = key.usagePair ∧ b.getCount > 0
  | .stickyModifier modifierFlag _ =>
      ∃ f ∈ output.modifierFlagManager.activeModifierFlags, f.deviceId = deviceId ∧
        f.modifierFlag = modifierFlag ∧ f.getCount > 0
  | .mouseKey key => (deviceId, key) ∈ m.mouseKeyHandler.entries
  | _ => False

/-- The keys the dispatcher holds for a device. -/
def pressedFor (m : PostEventToVirtualDevices) (deviceId : DeviceId) (usagePair : UsagePair) :
    Prop := (deviceId, usagePair) ∈ m.keys.dispatcher.pressedKeys

/-- What is held for another device than the ungrabbed one stays held, except for the key
of caps lock when caps lock is tapped. -/
def StaysHeld (m : PostEventToVirtualDevices) (output : EventQueue) (ungrabbed deviceId : DeviceId)
    (event : Event) : Prop :=
  deviceId ≠ ungrabbed ∧ HeldFor (fun usagePair => pressedFor m deviceId usagePair ∧
    ¬ (usagePair = (MomentarySwitchEvent.ofModifierFlag .capsLock).usagePair ∧
      KeyDispatch.TapsCapsLock m.keys.dispatcher
        (output.modifierFlagManager.eraseAllActiveModifierFlags ungrabbed)))
    m output deviceId event

/-- The output queue without the modifiers and buttons of a device. -/
def withoutDevice (output : EventQueue) (deviceId : DeviceId) : EventQueue :=
  (output.eraseAllActiveModifierFlags deviceId).eraseAllActivePointingButtons deviceId

omit [HidReportLibrary] [MachTimebase] in
theorem exists_filter_iff {α : Type} (list : List α) (device : α → DeviceId)
    (ungrabbed deviceId : DeviceId) (property : α → Prop) :
    (∃ a ∈ list.filter (fun a => !(device a == ungrabbed)), device a = deviceId ∧ property a) ↔
      deviceId ≠ ungrabbed ∧ ∃ a ∈ list, device a = deviceId ∧ property a := by
  constructor
  · rintro ⟨a, member, rfl, holds⟩
    obtain ⟨member, other⟩ := List.mem_filter.mp member
    exact ⟨by simpa using other, a, member, rfl, holds⟩
  · rintro ⟨other, a, member, rfl, holds⟩
    exact ⟨a, List.mem_filter.mpr ⟨member, by simpa using other⟩, rfl, holds⟩

/-- After a device is ungrabbed exactly what stays held is held. -/
theorem heldFor_after_iff {m : PostEventToVirtualDevices} (sound : m.keys.Sound)
    (output : EventQueue) (ungrabbed deviceId : DeviceId) (timeStamp : Int) (event : Event) :
    let after := m.handleDeviceUngrabbedEvent ungrabbed (withoutDevice output ungrabbed) timeStamp
    HeldFor (pressedFor after deviceId) after (withoutDevice output ungrabbed) deviceId event ↔
      StaysHeld m output ungrabbed deviceId event := by
  intro after
  have keys : ∀ usagePair, pressedFor after deviceId usagePair ↔ deviceId ≠ ungrabbed ∧
      (pressedFor m deviceId usagePair ∧
        ¬ (usagePair = (MomentarySwitchEvent.ofModifierFlag .capsLock).usagePair ∧
          KeyDispatch.TapsCapsLock m.keys.dispatcher
            (output.modifierFlagManager.eraseAllActiveModifierFlags ungrabbed))) := by
    intro usagePair
    refine (mem_pressedKeys_handleDeviceUngrabbedEvent sound ungrabbed
      (withoutDevice output ungrabbed) timeStamp (deviceId, usagePair)).trans ?_
    rw [and_assoc, and_left_comm]
    exact Iff.rfl
  have flags : ∀ property : ActiveModifierFlag → Prop,
      (∃ f ∈ (withoutDevice output ungrabbed).modifierFlagManager.activeModifierFlags,
        f.deviceId = deviceId ∧ property f) ↔ deviceId ≠ ungrabbed ∧
          ∃ f ∈ output.modifierFlagManager.activeModifierFlags,
            f.deviceId = deviceId ∧ property f :=
    exists_filter_iff _ ActiveModifierFlag.deviceId ungrabbed deviceId
  have buttons : ∀ property : ActivePointingButton → Prop,
      (∃ b ∈ (withoutDevice output ungrabbed).pointingButtonManager.activePointingButtons,
        b.deviceId = deviceId ∧ property b) ↔ deviceId ≠ ungrabbed ∧
          ∃ b ∈ output.pointingButtonManager.activePointingButtons,
            b.deviceId = deviceId ∧ property b :=
    exists_filter_iff _ ActivePointingButton.deviceId ungrabbed deviceId
  have mouseKeys : after.mouseKeyHandler.entries =
      m.mouseKeyHandler.entries.filter fun pair => !(pair.1 == ungrabbed) := by
    change List.filter _ (PostEventToVirtualDevices.reportButtons _ _ _).mouseKeyHandler.entries = _
    unfold PostEventToVirtualDevices.reportButtons
    dsimp only
    split <;> rfl
  unfold StaysHeld
  cases event with
  | momentarySwitchEvent key =>
      dsimp only [HeldFor]
      rw [keys, flags, buttons, ← and_or_left, ← and_or_left]
  | stickyModifier modifierFlag type => exact flags _
  | mouseKey key =>
      dsimp only [HeldFor]
      rw [mouseKeys, List.mem_filter, and_comm]
      simp
  | _ => exact (and_iff_right_of_imp False.elim).symm

/-! ## The ungrabbed entry -/

variable [ExpressionLibrary]

/-- What the queue of a stage knows of keys and variables after an ungrabbed entry. -/
structure SameButDevice (before after : EventQueue) (deviceId : DeviceId) : Prop where
  flags : after.modifierFlagManager = (withoutDevice before deviceId).modifierFlagManager
  buttons : after.pointingButtonManager = (withoutDevice before deviceId).pointingButtonManager
  values : after.manipulatorEnvironment.variables_ = before.manipulatorEnvironment.variables_

omit [HidReportLibrary] [MachTimebase] in
/-- The ungrabbed entry is shown to the handlers and passed on. -/
theorem manipulate_ungrabbed {M : Type} [Manipulator M] (stage : Stage M) {front : Entry}
    {rest : List Entry} (next : stage.input.events = front :: rest)
    (ungrabbed : front.event = .deviceUngrabbed) (now : Int) (reorder : Bool) :
    (stage.manipulate now reorder).2.manipulators = (stage.manipulators.map fun m =>
        Manipulator.handleDeviceUngrabbedEvent m front.deviceId
          (withoutDevice stage.output front.deviceId) front.eventTimeStamp.timeStamp) ∧
      SameButDevice stage.output (stage.manipulate now reorder).2.output front.deviceId := by
  have dispatched : stage.dispatchFront front rest now = ⟨false, stage.manipulators.map fun m =>
        Manipulator.handleDeviceUngrabbedEvent m front.deviceId
          (withoutDevice stage.output front.deviceId) front.eventTimeStamp.timeStamp,
      front, withoutDevice stage.output front.deviceId⟩ := by
    unfold Stage.dispatchFront
    rw [ungrabbed]
    rfl
  have pushed : SameButDevice stage.output
      (if front.validity = .valid then
        (withoutDevice stage.output front.deviceId).pushBackEntry front
      else withoutDevice stage.output front.deviceId) front.deviceId := by
    split
    · refine ⟨?_, ?_, ?_⟩ <;> (unfold EventQueue.pushBackEntry; rw [ungrabbed]; rfl)
    · exact ⟨rfl, rfl, rfl⟩
  rw [Stage.manipulate_of_not_waits next (congrArg Stage.LoopResult.waits dispatched), dispatched]
  refine ⟨rfl, ?_⟩
  unfold Stage.finishFront
  dsimp only
  cases reorder with
  | true => exact ⟨pushed.flags, pushed.buttons, pushed.values⟩
  | false => exact pushed

/-- The ungrabbed entry of a device has gone through a stage of basic manipulators and the
last stage: every pending event of a record that lost its last key has taken effect. -/
structure Undone (stage : Stage Basic) (posting : PostingStage) (deviceId : DeviceId)
    (now postedNow : Int) (reorder : Bool) : Prop where
  released : ∀ pending ∈ pendingEvents stage.manipulators deviceId,
    ∀ after ∈ (posting.manipulate postedNow reorder).2.manipulators,
      ¬ HeldFor (pressedFor after pending.deviceId) after
        (posting.manipulate postedNow reorder).2.output pending.deviceId pending.event
  applied : (stage.manipulate now reorder).2.output.manipulatorEnvironment.variables_ =
    (applyPending stage.output.manipulatorEnvironment
      (pendingEvents stage.manipulators deviceId)).variables_

/-- No pending event is about something that stays held, and together the pending events
change no variable. -/
structure NothingOwed (stage : Stage Basic) (posting : PostingStage) (deviceId : DeviceId) :
    Prop where
  released : ∀ pending ∈ pendingEvents stage.manipulators deviceId,
    ∀ m ∈ posting.manipulators, ¬ StaysHeld m posting.output deviceId pending.deviceId pending.event
  applied : stage.output.manipulatorEnvironment.variables_ =
    (applyPending stage.output.manipulatorEnvironment
      (pendingEvents stage.manipulators deviceId)).variables_

omit [MachTimebase] [ExpressionLibrary] in
/-- Whether something is held depends on the modifiers and buttons of the queue. -/
theorem heldFor_congr {pressed : UsagePair → Prop} {m : PostEventToVirtualDevices}
    {first second : EventQueue} (flags : first.modifierFlagManager = second.modifierFlagManager)
    (buttons : first.pointingButtonManager = second.pointingButtonManager) (deviceId : DeviceId)
    (event : Event) : HeldFor pressed m first deviceId event ↔
      HeldFor pressed m second deviceId event := by
  unfold HeldFor
  rw [flags, buttons]

/-- A manipulator that sets a variable while a key is held. -/
def setWhileHeld : Basic where
  validity := .valid
  conditionManager := ⟨[]⟩
  parameters := .initial
  from_ := ⟨[.momentarySwitchEvent (.make UsagePage.keyboardOrKeypad Usage.keyboardA)],
    ⟨[], []⟩, none, .initial⟩
  to_ := [⟨.setVariable ⟨some "layer", some (.integer 1), none, some (.integer 0), none, .set⟩,
    [], false, true, false, 0, ⟨[]⟩⟩]
  toAfterKeyUp := []
  toIfAlone := []
  manipulatedOriginalEvents := []

/-- The key is held by device 1 and the device is ungrabbed next. -/
def heldStage : Stage Basic :=
  let keyDown := Entry.original 1 10
    (.momentarySwitchEvent (.make UsagePage.keyboardOrKeypad Usage.keyboardA)) .keyDown
  let input := (EventQueue.initial.pushBackEntry keyDown).pushBackEntry
    (PostingStage.ungrabbedDevice 1)
  (Stage.manipulate ⟨[setWhileHeld], input, .initial⟩ 10 false).2

end UngrabbedRecords

end Karabiner

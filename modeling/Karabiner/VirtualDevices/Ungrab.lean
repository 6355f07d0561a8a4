import Karabiner.VirtualDevices.PostingStage

/-! # Ungrabbing a device at the last stage

When a device is ungrabbed the last stage releases the keys, modifiers, buttons
and mouse keys of that device and leaves those of the other devices alone.
-/

namespace Karabiner

variable [HidReportLibrary] [MachTimebase]

namespace PostingStage

open PostEventToVirtualDevices

variable [ExpressionLibrary]

omit [MachTimebase] [ExpressionLibrary] in
/-- The buttons of the report are the buttons the manager reports as pressed. -/
theorem buttonExists_makeHidReportButtons [LawfulHidReport] (manager : PointingButtonManager)
    (usage : Usage) (button : ReportButton usage) :
    HidReportLibrary.buttonExists manager.makeHidReportButtons usage =
      manager.isPressed ⟨UsagePage.button, usage⟩ := by
  have fold : ∀ (usages : List Usage) (buttons : HidReportLibrary.Buttons),
      (∀ other ∈ usages, ReportButton other) →
      HidReportLibrary.buttonExists (usages.foldl HidReportLibrary.insertButton buttons) usage =
        (decide (usage ∈ usages) || HidReportLibrary.buttonExists buttons usage) := by
    intro usages
    induction usages with
    | nil => simp
    | cons first others ih =>
        intro buttons all
        rw [List.foldl_cons, ih _ fun other member => all other (List.mem_cons_of_mem _ member),
          LawfulHidReport.insertButton_exists _ _ _ (all first List.mem_cons_self) button]
        by_cases same : usage = first <;> by_cases member : usage ∈ others <;> simp [same, member]
  have all : ∀ other ∈ manager.pressedUsages, ReportButton other := fun other member =>
    (mem_reportUsages other).mp (List.mem_filter.mp member).1
  unfold PointingButtonManager.makeHidReportButtons
  rw [fold manager.pressedUsages _ all, LawfulHidReport.noButtons_exists, Bool.or_false,
    Bool.eq_iff_iff, decide_eq_true_iff]
  unfold PointingButtonManager.pressedUsages
  rw [List.mem_filter, and_iff_right ((mem_reportUsages usage).mpr button)]

omit [MachTimebase] [ExpressionLibrary] in
theorem buttonExists_reportButtons [MachTimebase] [LawfulHidReport] (m : PostEventToVirtualDevices)
    (output : EventQueue) (timeStamp : Int) (usage : Usage) (button : ReportButton usage) :
    HidReportLibrary.buttonExists (m.reportButtons output timeStamp).pressedButtons usage =
      output.pointingButtonManager.isPressed ⟨UsagePage.button, usage⟩ := by
  rw [← buttonExists_makeHidReportButtons _ usage button]
  unfold PostEventToVirtualDevices.reportButtons
  dsimp only
  split
  · rename_i same
    exact (LawfulHidReport.sameButtons_iff _ _).mp same usage button
  · rfl

/-- The active modifier flags without those of a device. The LED lock stays, unless
the device is the one it is kept under. -/
def remainingFlags (manager : ModifierFlagManager) (deviceId : DeviceId) : ModifierFlagManager :=
  ⟨manager.activeModifierFlags.filter fun f =>
    !(f.deviceId == deviceId) || (f.ledLock && !(deviceId == 0))⟩

omit [HidReportLibrary] [MachTimebase] [ExpressionLibrary] in
theorem eraseAll_eq_remainingFlags (manager : ModifierFlagManager) (deviceId : DeviceId) :
    manager.eraseAllActiveModifierFlags deviceId = remainingFlags manager deviceId := by
  unfold ModifierFlagManager.eraseAllActiveModifierFlags remainingFlags
  congr 1
  apply List.filter_congr
  intro f _
  cases led : f.ledLock with
  | false => simp
  | true =>
      rw [f.ledLock_shared led]
      by_cases shared : (0 : DeviceId) = deviceId
      · simp [← shared]
      · simp [shared]

omit [ExpressionLibrary] in
/-- Reporting the buttons enqueues a pointing report at most. -/
theorem releases_reportButtons (m : PostEventToVirtualDevices) (output : EventQueue)
    (timeStamp : Int) (allowed : UsagePair → Prop) :
    KeyDispatch.Releases allowed m.keys (m.reportButtons output timeStamp).keys := by
  unfold PostEventToVirtualDevices.reportButtons
  dsimp only
  split
  · exact .refl m.keys
  · exact ⟨List.Sublist.refl _, fun _ member _ => member,
      m.keys.queue.enqueuesOnly_emplaceBackPointingInput _ .keyUp timeStamp⟩

omit [MachTimebase] [ExpressionLibrary] in
/-- Of the keys a sound dispatcher holds only caps lock is a modifier key. -/
theorem not_modifierKey {state : KeyDispatch} (sound : state.Sound) {k : DeviceId × UsagePair}
    (held : k ∈ state.dispatcher.pressedKeys)
    (notCapsLock : k.2 ≠ (MomentarySwitchEvent.ofModifierFlag .capsLock).usagePair) :
    ¬ KeyDispatch.ModifierKey k.2 := by
  rintro ⟨flag, dispatched, same⟩
  have proper : flag ≠ .capsLock := by
    intro capsLock
    rw [capsLock] at same
    exact notCapsLock same
  have carries : (MomentarySwitchEvent.mk k.2).makeModifierFlag = some flag := by
    rw [same]
    refine MomentarySwitchEvent.makeModifierFlag_ofModifierFlag flag proper ?_ ?_
    · intro zero
      rw [zero] at dispatched
      revert dispatched
      decide
    · intro last
      rw [last] at dispatched
      revert dispatched
      decide
  rw [sound.noModifier k held] at carries
  cases carries

omit [MachTimebase] [ExpressionLibrary] in
/-- A sound dispatcher holds a usage pair for one device only. -/
theorem device_unique {state : KeyDispatch} (sound : state.Sound) {k : DeviceId × UsagePair}
    (held : k ∈ state.dispatcher.pressedKeys) {deviceId : DeviceId} (other : k.1 ≠ deviceId) :
    (deviceId, k.2) ∉ state.dispatcher.pressedKeys := by
  intro present
  have same := List.inj_on_of_nodup_map sound.nodup held present rfl
  exact other (congrArg Prod.fst same)

omit [ExpressionLibrary] in
/-- A key of another device that is not caps lock survives the ungrabbed event, and
nothing is enqueued for it. -/
theorem handleDeviceUngrabbedEvent_keeps {m : PostEventToVirtualDevices} (sound : m.keys.Sound)
    (deviceId : DeviceId) (output : EventQueue) (timeStamp : Int) {k : DeviceId × UsagePair}
    (held : k ∈ m.keys.dispatcher.pressedKeys) (other : k.1 ≠ deviceId)
    (notCapsLock : k.2 ≠ (MomentarySwitchEvent.ofModifierFlag .capsLock).usagePair) :
    k ∈ (m.handleDeviceUngrabbedEvent deviceId output timeStamp).keys.dispatcher.pressedKeys ∧
      PostedEventQueue.EnqueuesOnly (· ≠ k.2) m.keys.queue
        (m.handleDeviceUngrabbedEvent deviceId output timeStamp).keys.queue := by
  have released := KeyDispatch.releases_dispatchKeyUpEventsByDeviceId m.keys deviceId timeStamp
  have reported := releases_reportButtons
    { m with keys := m.keys.dispatchKeyUpEventsByDeviceId deviceId timeStamp } output timeStamp
    (· ≠ k.2)
  have dispatched := KeyDispatch.releases_dispatchModifierKeyEvent
    (PostEventToVirtualDevices.reportButtons
      { m with keys := m.keys.dispatchKeyUpEventsByDeviceId deviceId timeStamp } output
      timeStamp).keys output.modifierFlagManager timeStamp
  have notModifier := not_modifierKey sound held notCapsLock
  have notReleased := device_unique sound held other
  constructor
  · refine dispatched.kept k (reported.kept k (released.kept k held notReleased) ?_) notModifier
    exact fun different => different rfl
  · refine (released.enqueued.imp fun usagePair present same => ?_).trans
      (reported.enqueued.trans (dispatched.enqueued.imp fun usagePair modifier same => ?_))
    · exact notReleased (same ▸ present)
    · exact notModifier (same ▸ modifier)

omit [ExpressionLibrary] in
theorem handleDeviceUngrabbedEvent_released (m : PostEventToVirtualDevices)
    (deviceId : DeviceId) (output : EventQueue) (timeStamp : Int) :
    ∀ k ∈ (m.handleDeviceUngrabbedEvent deviceId output timeStamp).keys.dispatcher.pressedKeys,
      k.1 ≠ deviceId := by
  intro k held
  have reported := releases_reportButtons
    { m with keys := m.keys.dispatchKeyUpEventsByDeviceId deviceId timeStamp } output timeStamp
    (fun _ => False)
  have dispatched := KeyDispatch.releases_dispatchModifierKeyEvent
    (PostEventToVirtualDevices.reportButtons
      { m with keys := m.keys.dispatchKeyUpEventsByDeviceId deviceId timeStamp } output
      timeStamp).keys output.modifierFlagManager timeStamp
  have before := reported.sublist.subset (dispatched.sublist.subset held)
  exact KeyDispatch.dispatchKeyUpEventsLoop_released _ deviceId timeStamp m.keys le_rfl k before

omit [ExpressionLibrary] in
theorem pressedModifierFlags_handleDeviceUngrabbedEvent {m : PostEventToVirtualDevices}
    (sound : m.keys.Sound) (deviceId : DeviceId) (output : EventQueue) (timeStamp : Int) :
    (m.handleDeviceUngrabbedEvent deviceId output
        timeStamp).keys.dispatcher.pressedModifierFlags =
      output.modifierFlagManager.makeModifierFlags.toFinset := by
  have released : ({ m with
      keys := m.keys.dispatchKeyUpEventsByDeviceId deviceId timeStamp } :
      PostEventToVirtualDevices).keys.Sound := sound.dispatchKeyUpEventsByDeviceId _ _
  exact KeyDispatch.pressedModifierFlags_dispatchModifierKeyEvent _ _ _
    (sound_reportButtons released output timeStamp).flags

/-- In every reachable state of the last stage, processing the ungrabbed entry of a
device ends, and leaves no key of the device held, the other keys apart from caps
lock held and untouched, the modifiers and buttons of the remaining devices
pressed, and no mouse key of the device in use. -/
theorem device_ungrabbed_isolated [LawfulHidReport] (actions : List Action) (front : Entry)
    (rest : List Entry) (now : Int) (reorder : Bool)
    (next : (actions.foldl step PostingStage.initial).input.events = front :: rest)
    (ungrabbed : front.event = .deviceUngrabbed) :
    let stage := actions.foldl step PostingStage.initial
    let deviceId := front.deviceId
    ∃ before after, stage.manipulators = [before] ∧
      (stage.manipulate now reorder).2.manipulators = [after] ∧
      (∀ extra, KeyDispatch.dispatchKeyUpEventsLoop
          (before.keys.dispatcher.pressedKeys.length + extra) deviceId
          front.eventTimeStamp.timeStamp before.keys =
        before.keys.dispatchKeyUpEventsByDeviceId deviceId front.eventTimeStamp.timeStamp) ∧
      (∀ k ∈ after.keys.dispatcher.pressedKeys, k.1 ≠ deviceId) ∧
      (∀ k ∈ before.keys.dispatcher.pressedKeys, k.1 ≠ deviceId →
        k.2 ≠ (MomentarySwitchEvent.ofModifierFlag .capsLock).usagePair →
        k ∈ after.keys.dispatcher.pressedKeys ∧
          PostedEventQueue.EnqueuesOnly (· ≠ k.2) before.keys.queue after.keys.queue) ∧
      after.keys.dispatcher.pressedModifierFlags =
        (remainingFlags stage.output.modifierFlagManager deviceId).makeModifierFlags.toFinset ∧
      (∀ usage, ReportButton usage →
        (HidReportLibrary.buttonExists after.pressedButtons usage = true ↔
          ∃ b ∈ stage.output.pointingButtonManager.activePointingButtons,
            b.deviceId ≠ deviceId ∧ b.usagePair = ⟨UsagePage.button, usage⟩)) ∧
      (∀ pair ∈ after.mouseKeyHandler.entries, pair.1 ≠ deviceId) := by
  have invariant := invariant_run actions
  generalize actions.foldl step PostingStage.initial = stage at next invariant
  intro stage' deviceId
  obtain ⟨⟨before, single, sound⟩, presses⟩ := invariant
  let erased := (stage.output.eraseAllActiveModifierFlags deviceId).eraseAllActivePointingButtons
    deviceId
  let timeStamp := front.eventTimeStamp.timeStamp
  have processed : (stage.manipulate now reorder).2.manipulators =
      [before.handleDeviceUngrabbedEvent deviceId erased timeStamp] := by
    unfold Stage.manipulate Stage.dispatchFront
    rw [next]
    dsimp only
    rw [ungrabbed, single]
    rfl
  refine ⟨before, _, single, processed, ?_, ?_, ?_, ?_, ?_, ?_⟩
  · exact fun extra => KeyDispatch.dispatchKeyUpEventsLoop_stable _ extra deviceId _ _ le_rfl
  · exact handleDeviceUngrabbedEvent_released before deviceId erased timeStamp
  · exact fun k held other notCapsLock =>
      handleDeviceUngrabbedEvent_keeps sound deviceId erased timeStamp held other notCapsLock
  · rw [← eraseAll_eq_remainingFlags]
    exact pressedModifierFlags_handleDeviceUngrabbedEvent sound deviceId erased timeStamp
  · intro usage button
    refine Iff.trans (iff_of_eq (congrArg (· = true)
      (buttonExists_reportButtons _ erased timeStamp usage button))) ?_
    refine ((presses.erase deviceId).isPressed_iff _).trans ⟨?_, ?_⟩
    · rintro ⟨b, listed, pair⟩
      obtain ⟨listed, other⟩ := List.mem_filter.mp listed
      exact ⟨b, listed, by simpa using other, pair⟩
    · rintro ⟨b, listed, other, pair⟩
      exact ⟨b, List.mem_filter.mpr ⟨listed, by simpa using other⟩, pair⟩
  · intro pair member
    have kept := (List.mem_filter.mp member).2
    simpa using kept

/-- Devices 1 and 2 each press a key and a modifier, device 1 is ungrabbed. -/
def ungrabbedDevice (deviceId : DeviceId) : Entry :=
  .original deviceId 50 .deviceUngrabbed .single

def twoDevices : List Action :=
  [.push (.original 1 10 (.momentarySwitchEvent (.ofModifierFlag .leftShift)) .keyDown),
    .manipulate 10 false,
    .push (.original 1 20 (.momentarySwitchEvent
      (.make UsagePage.keyboardOrKeypad Usage.keyboardA)) .keyDown),
    .manipulate 20 false,
    .push (.original 2 30 (.momentarySwitchEvent
      (.make UsagePage.keyboardOrKeypad Usage.keyboardB)) .keyDown),
    .manipulate 30 false,
    .push (.original 2 40 (.momentarySwitchEvent (.ofModifierFlag .leftShift)) .keyDown),
    .manipulate 40 false,
    .push (ungrabbedDevice 1)]

omit [HidReportLibrary] [MachTimebase] [ExpressionLibrary] in
/-- Two devices hold keys and modifiers, and ungrabbing one leaves those of the other. -/
theorem device_ungrabbed_isolated_twoDevices :
    let _ := listReports
    let _ := nanosecondTimebase
    let _ := zeroExpressions
    ∃ after, ((twoDevices.foldl step PostingStage.initial).manipulate 50 false).2.manipulators =
        [after] ∧
      ∀ k ∈ after.keys.dispatcher.pressedKeys, k.1 ≠ 1 := by
  intro _ _ _
  have := lawful_listReports
  have next : (twoDevices.foldl step PostingStage.initial).input.events = [ungrabbedDevice 1] := by
    decide
  obtain ⟨_, after, _, processed, _, released, _⟩ :=
    device_ungrabbed_isolated twoDevices (ungrabbedDevice 1) [] 50 false next rfl
  have device : (ungrabbedDevice 1).deviceId = 1 := rfl
  rw [device] at released
  exact ⟨after, processed, released⟩

/-- Caps lock is on and the entries that no device sent are ungrabbed. -/
def capsLockOn : List Action :=
  [.push (.original 0 10 (.capsLockStateChanged 1) .single), .manipulate 10 false,
    .push (ungrabbedDevice 0)]

omit [HidReportLibrary] [MachTimebase] [ExpressionLibrary] in
/-- Ungrabbing device 0 drops the LED lock, which counts as pressed otherwise. -/
theorem ledLock_lost_device_zero :
    let _ := listReports
    let _ := nanosecondTimebase
    let _ := zeroExpressions
    let stage := capsLockOn.foldl step PostingStage.initial
    let counted : ModifierFlagManager :=
      ⟨stage.output.modifierFlagManager.activeModifierFlags.filter fun f =>
        !(f.deviceId == 0) || f.ledLock⟩
    stage.input.events = [ungrabbedDevice 0] ∧
      counted.makeModifierFlags = [.capsLock] ∧
      (stage.manipulators.map fun m => m.keys.dispatcher.pressedModifierFlags) = [{.capsLock}] ∧
      ((stage.manipulate 50 false).2.manipulators.map fun m =>
        m.keys.dispatcher.pressedModifierFlags) = [∅] := by
  decide

end PostingStage

end Karabiner

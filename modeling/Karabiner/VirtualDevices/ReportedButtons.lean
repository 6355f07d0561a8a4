import Karabiner.Foundation.Since
import Karabiner.VirtualDevices.Ungrab

/-! # The reported pointing buttons

The buttons are kept in the output queue of the last stage, saved by its manipulator and
reported from four places. After every entry all of these agree, and they are the buttons that
some device holds (`ButtonReporting.reportsHeldButtons`).
-/

namespace Karabiner

open Foundation

variable [HidReportLibrary]

/-! ## Held buttons -/

namespace Entry

/-- The entry is a key_down of the button. A manipulator does not see an invalid entry. -/
def PressesButton (entry : Entry) (usage : Usage) : Prop :=
  entry.validity = .valid ∧ entry.event = .momentarySwitchEvent ⟨⟨UsagePage.button, usage⟩⟩ ∧
    entry.eventType = .keyDown

/-- The entry is a key_up of the button, which is what the output queue takes every other
event type of a button for. -/
def ReleasesButton (entry : Entry) (usage : Usage) : Prop :=
  entry.validity = .valid ∧ entry.event = .momentarySwitchEvent ⟨⟨UsagePage.button, usage⟩⟩ ∧
    entry.eventType ≠ .keyDown

/-- The entry says that the device has been released or ungrabbed. -/
def ForgetsDevice (entry : Entry) (deviceId : DeviceId) : Prop :=
  entry.deviceId = deviceId ∧
    (entry.event = .deviceKeysAndPointingButtonsAreReleased ∨ entry.event = .deviceUngrabbed)

end Entry

/-- The event makes the manipulator report the buttons. -/
def Event.ReportsButtons : Event → Prop
  | .momentarySwitchEvent event => event.valid = true ∧ event.pointingButton = true
  | .pointingMotion _ => True
  | _ => False

/-- Some key_down of the button came after its last key_up, and its device has not been
released or ungrabbed since. -/
def HeldButton (entries : List Entry) (usage : Usage) : Prop :=
  ∃ before entry after, entries = before ++ entry :: after ∧ entry.PressesButton usage ∧
    ∀ later ∈ after, ¬ later.ReleasesButton usage ∧ ¬ later.ForgetsDevice entry.deviceId

/-- The device holds the button. -/
def HeldByDevice (entries : List Entry) (deviceId : DeviceId) (usage : Usage) : Prop :=
  Since (fun entry => entry.PressesButton usage ∧ entry.deviceId = deviceId)
    (fun entry => entry.ReleasesButton usage ∨ entry.ForgetsDevice deviceId) entries

omit [HidReportLibrary] in
theorem heldButton_iff {entries : List Entry} {usage : Usage} :
    HeldButton entries usage ↔ ∃ deviceId, HeldByDevice entries deviceId usage := by
  constructor
  · rintro ⟨before, entry, after, split, presses, kept⟩
    exact ⟨entry.deviceId, before, entry, after, split, ⟨presses, rfl⟩,
      fun later member => not_or.mpr (kept later member)⟩
  · rintro ⟨deviceId, before, entry, after, split, ⟨presses, rfl⟩, kept⟩
    exact ⟨before, entry, after, split, presses, fun later member => not_or.mp (kept later member)⟩

namespace PointingButtonManager

variable {manager : PointingButtonManager}

/-- A press of the button by the device is listed. -/
def Lists (manager : PointingButtonManager) (deviceId : DeviceId) (usage : Usage) : Prop :=
  ⟨.increase, ⟨UsagePage.button, usage⟩, deviceId⟩ ∈ manager.activePointingButtons

omit [HidReportLibrary] in
theorem isPressed_iff_lists (presses : manager.OnlyPresses) (usage : Usage) :
    manager.isPressed ⟨UsagePage.button, usage⟩ = true ↔
      ∃ deviceId, manager.Lists deviceId usage := by
  rw [presses.isPressed_iff]
  constructor
  · rintro ⟨⟨type, usagePair, deviceId⟩, listed, rfl⟩
    obtain rfl := presses _ listed
    exact ⟨deviceId, listed⟩
  · rintro ⟨deviceId, listed⟩
    exact ⟨_, listed, rfl⟩

omit [HidReportLibrary] in
theorem lists_erase (manager : PointingButtonManager) (forgotten deviceId : DeviceId)
    (usage : Usage) :
    (manager.eraseAllActivePointingButtons forgotten).Lists deviceId usage ↔
      manager.Lists deviceId usage ∧ forgotten ≠ deviceId := by
  simp only [Lists, eraseAllActivePointingButtons, List.mem_filter, Bool.not_eq_true',
    beq_eq_false_iff_ne]
  exact and_congr_right fun _ => ne_comm

omit [HidReportLibrary] in
/-- After a push a device lists a button as the event says, if it is its own, and else as before. -/
theorem lists_push {usage : Usage} (button : ReportButton usage) (usagePair : UsagePair)
    (pusher deviceId : DeviceId) (eventType : EventType) :
    (manager.pushBackActivePointingButton
        ⟨if eventType = .keyDown then .increase else .decrease, usagePair, pusher⟩).Lists
          deviceId usage ↔
      (usagePair = ⟨UsagePage.button, usage⟩ ∧ eventType = .keyDown ∧ pusher = deviceId) ∨
        (manager.Lists deviceId usage ∧
          ¬ (usagePair = ⟨UsagePage.button, usage⟩ ∧ eventType ≠ .keyDown)) := by
  have notUndefined : usage ≠ Usage.undefined := by
    rintro rfl
    exact absurd button.1 (by decide)
  by_cases undefined : usagePair.usage = Usage.undefined
  · have different : usagePair ≠ ⟨UsagePage.button, usage⟩ := by
      rintro rfl
      exact notUndefined undefined
    simp [pushBackActivePointingButton, undefined, different]
  · by_cases down : eventType = .keyDown
    · simp only [pushBackActivePointingButton, undefined, down, if_true, if_false, Lists,
        List.mem_append, List.mem_singleton, ActivePointingButton.mk.injEq, true_and, ne_eq,
        not_true_eq_false, and_false, not_false_eq_true, and_true]
      rw [or_comm, eq_comm (a := usagePair), eq_comm (a := pusher)]
    · simp only [pushBackActivePointingButton, undefined, down, if_false, Lists, List.mem_filter,
        ActivePointingButton.isPaired, ActivePointingButton.getInverseType, beq_self_eq_true,
        Bool.true_and, Bool.not_eq_true', beq_eq_false_iff_ne, ne_eq, not_false_eq_true, and_true,
        false_and, and_false, false_or]
      exact and_congr_right fun _ => not_congr eq_comm

end PointingButtonManager

/-! ## The buttons of the output queue -/

namespace EventQueue

variable {manager : PointingButtonManager}

omit [HidReportLibrary] in
/-- A valid entry adds what it presses and takes away what it releases. -/
theorem lists_update (entry : Entry) (valid : entry.validity = .valid) (deviceId : DeviceId)
    {usage : Usage} (button : ReportButton usage) :
    (updatePointingButtons manager entry.deviceId entry.event entry.eventType).Lists
        deviceId usage ↔
      (entry.PressesButton usage ∧ entry.deviceId = deviceId) ∨
        (manager.Lists deviceId usage ∧ ¬ entry.ReleasesButton usage) := by
  unfold updatePointingButtons Entry.PressesButton Entry.ReleasesButton
  cases isEvent : entry.event with
  | momentarySwitchEvent event =>
      simp only [valid, true_and, Event.momentarySwitchEvent.injEq]
      obtain ⟨usagePair⟩ := event
      simp only [MomentarySwitchEvent.mk.injEq]
      by_cases isButton : usagePair.usagePage = UsagePage.button
      · have pointing : (MomentarySwitchEvent.mk usagePair).pointingButton = true := by
          simp [MomentarySwitchEvent.pointingButton, isButton]
        rw [if_pos pointing, PointingButtonManager.lists_push button, and_assoc]
      · have other : (MomentarySwitchEvent.mk usagePair).pointingButton = false := by
          simp [MomentarySwitchEvent.pointingButton, isButton]
        have different : usagePair ≠ ⟨UsagePage.button, usage⟩ := by
          rintro rfl
          exact isButton rfl
        simp [other, different]
  | _ => simp

omit [HidReportLibrary] in
/-- An event that is not reported does not change the buttons. -/
theorem update_of_not_reports {event : Event} (noReport : ¬ event.ReportsButtons)
    (deviceId : DeviceId) (eventType : EventType) :
    updatePointingButtons manager deviceId event eventType = manager := by
  cases event with
  | momentarySwitchEvent event =>
      simp only [updatePointingButtons]
      split
      · rename_i pointing
        have onPage : event.usagePair.usagePage = UsagePage.button := by
          simpa [MomentarySwitchEvent.pointingButton] using pointing
        have undefined : event.usagePair.usage = Usage.undefined := by
          by_contra defined
          apply noReport
          refine ⟨?_, pointing⟩
          simp [MomentarySwitchEvent.valid, onPage, defined, UsagePage.button,
            UsagePage.undefined]
        rw [PointingButtonManager.pushBackActivePointingButton, if_pos undefined]
      · rfl
  | _ => rfl

end EventQueue

/-! ## Pointing reports in the queue -/

/-- The pointing report that a queued event carries. -/
def PostedEvent.pointingReport (event : PostedEvent) : Option PointingInput :=
  match event.value with
  | .pointingInput report => some report
  | _ => none

namespace PostedEventQueue

/-- The queue has grown by events whose pointing reports are these. -/
def Reports (reports : List PointingInput) (before after : PostedEventQueue) : Prop :=
  ∃ added, after.events = before.events ++ added ∧
    added.filterMap PostedEvent.pointingReport = reports

theorem Reports.refl (queue : PostedEventQueue) : Reports [] queue queue :=
  ⟨[], by simp, rfl⟩

theorem Reports.trans {early late : List PointingInput} {first second third : PostedEventQueue}
    (one : Reports early first second) (two : Reports late second third) :
    Reports (early ++ late) first third := by
  obtain ⟨added, events, rfl⟩ := one
  obtain ⟨more, moreEvents, rfl⟩ := two
  exact ⟨added ++ more, by rw [moreEvents, events, List.append_assoc], by simp⟩

theorem Reports.drop {reports : List PointingInput} {before after : PostedEventQueue}
    (grown : Reports reports before after) :
    (after.events.drop before.events.length).filterMap PostedEvent.pointingReport = reports := by
  obtain ⟨added, events, rfl⟩ := grown
  rw [events, List.drop_left]

variable [MachTimebase]

/-- A key event reports no buttons. -/
theorem reports_emplaceBackKeyEvent (queue : PostedEventQueue) (usagePair : UsagePair)
    (eventType : EventType) (timeStamp : Int) :
    Reports [] queue (queue.emplaceBackKeyEvent usagePair eventType timeStamp) := by
  cases onPage : KeyPage.ofUsagePage usagePair.usagePage with
  | none =>
      obtain ⟨-, -, events⟩ :=
        emplaceBackKeyEvent_offPage queue usagePair eventType timeStamp onPage
      exact ⟨[], by simp [events], rfl⟩
  | some page =>
      obtain ⟨stamped, -, -, events, -, adjusted, detector, equal⟩ :=
        emplaceBackKeyEvent_eq queue usagePair eventType timeStamp onPage
      refine ⟨[⟨(stamped.changeReports page ⟨usagePair⟩ eventType).report page, adjusted,
        some (⟨usagePair⟩, eventType)⟩], ?_, rfl⟩
      rw [equal, ← events, ← changeReports_events stamped page ⟨usagePair⟩ eventType]
      rfl

theorem reports_emplaceBackPointingInput (queue : PostedEventQueue) (report : PointingInput)
    (eventType : EventType) (timeStamp : Int) :
    Reports [report] queue (queue.emplaceBackPointingInput report eventType timeStamp) :=
  ⟨[_], rfl, rfl⟩

theorem keyRelation_reports : KeyDispatch.KeyRelation (Reports []) :=
  ⟨.refl, fun one two => one.trans two, reports_emplaceBackKeyEvent⟩

end PostedEventQueue

/-- The driver shows the same buttons. -/
def SameButtons (first second : HidReportLibrary.Buttons) : Prop :=
  ∀ usage, ReportButton usage →
    HidReportLibrary.buttonExists first usage = HidReportLibrary.buttonExists second usage

theorem SameButtons.refl (buttons : HidReportLibrary.Buttons) : SameButtons buttons buttons :=
  fun _ _ => rfl

theorem SameButtons.symm {first second : HidReportLibrary.Buttons}
    (same : SameButtons first second) : SameButtons second first :=
  fun usage button => (same usage button).symm

theorem SameButtons.trans {first second third : HidReportLibrary.Buttons}
    (one : SameButtons first second) (two : SameButtons second third) :
    SameButtons first third :=
  fun usage button => (one usage button).trans (two usage button)

namespace PostEventToVirtualDevices

variable {first second third : PostEventToVirtualDevices}
  {old new : HidReportLibrary.Buttons}

/-- What the manipulator does about the buttons of an entry, which change from `old` to `new`:
it reports and saves the new ones, or nothing when those that it has saved are still right. -/
inductive Shows (old new : HidReportLibrary.Buttons) (before after : PostEventToVirtualDevices) :
    Prop
  | still (noReport : PostedEventQueue.Reports [] before.keys.queue after.keys.queue)
      (kept : after.pressedButtons = before.pressedButtons)
      (right : SameButtons before.pressedButtons old → SameButtons before.pressedButtons new)
  | report (report : PointingInput) (isNew : report.buttons = new)
      (reports : PostedEventQueue.Reports [report] before.keys.queue after.keys.queue)
      (saved : after.pressedButtons = new)

/-- The manipulator neither reports nor saves buttons. -/
def Silent (before after : PostEventToVirtualDevices) : Prop :=
  PostedEventQueue.Reports [] before.keys.queue after.keys.queue ∧
    after.pressedButtons = before.pressedButtons

theorem Silent.shows (silent : Silent first second) (buttons : HidReportLibrary.Buttons) :
    Shows buttons buttons first second :=
  .still silent.1 silent.2 id

theorem Silent.andShows (silent : Silent first second) (later : Shows old new second third) :
    Shows old new first third := by
  obtain ⟨quiet, saved⟩ := silent
  cases later with
  | still noReport kept right =>
      exact .still (quiet.trans noReport) (kept.trans saved) (saved ▸ right)
  | report report isNew reports kept => exact .report report isNew (quiet.trans reports) kept

theorem Shows.andSilent (early : Shows old new first second) (silent : Silent second third) :
    Shows old new first third := by
  obtain ⟨quiet, saved⟩ := silent
  cases early with
  | still noReport kept right => exact .still (noReport.trans quiet) (saved.trans kept) right
  | report report isNew reports kept =>
      exact .report report isNew (reports.trans quiet) (saved.trans kept)

variable [MachTimebase] (m : PostEventToVirtualDevices)

theorem silent_dispatchModifierKeyEvent (manager : ModifierFlagManager) (timeStamp : Int) :
    Silent m (m.dispatchModifierKeyEvent manager timeStamp) :=
  ⟨PostedEventQueue.keyRelation_reports.dispatchModifierKeyEvent m.keys manager timeStamp, rfl⟩

omit [MachTimebase] in
theorem silent_refl : Silent m m := ⟨.refl m.keys.queue, rfl⟩

omit [MachTimebase] in
theorem silent_synchronizeCapsLock (front : Entry) (output : EventQueue) :
    Silent m (m.synchronizeCapsLock front output) := by
  unfold synchronizeCapsLock
  split
  · split
    · split <;> exact ⟨.refl m.keys.queue, rfl⟩
    · exact silent_refl m
  · exact silent_refl m

theorem shows_postPointingInputReport (front : Entry) (output : EventQueue) :
    Shows old output.pointingButtonManager.makeHidReportButtons m
      (m.postPointingInputReport front output) := by
  refine .report _ ?_ (m.keys.queue.reports_emplaceBackPointingInput _ front.eventType
    front.eventTimeStamp.timeStamp) rfl
  split <;> rfl

omit [MachTimebase] in
theorem silent_postCommand (front : Entry) {value : PostedValue} (timeStamp : Int)
    (noReport : PostedEvent.pointingReport ⟨value, timeStamp, none⟩ = none)
    (isTime : front.eventTimeStamp.timeStamp = timeStamp) :
    Silent m (m.postCommand front value) := by
  unfold postCommand
  split
  · refine ⟨⟨[⟨value, timeStamp, none⟩], ?_, ?_⟩, rfl⟩
    · rw [← isTime]
      rfl
    · simp [noReport]
  · exact silent_refl m

/-- An event that reports the buttons reports those of the output queue. -/
theorem shows_postEvent {front : Entry} (reports : front.event.ReportsButtons)
    (output : EventQueue) :
    Shows old output.pointingButtonManager.makeHidReportButtons m (m.postEvent front output) := by
  unfold postEvent
  cases isEvent : front.event with
  | momentarySwitchEvent event =>
      rw [isEvent] at reports
      obtain ⟨valid, pointing⟩ := reports
      simp only [valid, pointing, if_true]
      exact shows_postPointingInputReport m front output
  | pointingMotion motion => exact shows_postPointingInputReport m front output
  | _ =>
      rw [isEvent] at reports
      exact absurd reports id

/-- Every other event is posted without a pointing report. -/
theorem silent_postEvent {front : Entry} (noReport : ¬ front.event.ReportsButtons)
    (output : EventQueue) : Silent m (m.postEvent front output) := by
  have relation := PostedEventQueue.keyRelation_reports
  unfold postEvent
  cases isEvent : front.event with
  | momentarySwitchEvent event =>
      rw [isEvent] at noReport
      dsimp only
      split
      · rename_i valid
        split
        · rename_i pointing
          exact absurd ⟨valid, pointing⟩ noReport
        · split
          · exact silent_refl m
          · unfold postKey
            split
            · exact ⟨relation.dispatchKeyDownEvent m.keys _ _ _, rfl⟩
            · exact ⟨relation.dispatchKeyUpEvent m.keys _ _, rfl⟩
            · exact silent_refl m
      · exact silent_refl m
  | pointingMotion motion =>
      rw [isEvent] at noReport
      exact absurd trivial noReport
  | shellCommand text => exact silent_postCommand m front _ rfl rfl
  | sendUserCommand json => exact silent_postCommand m front _ rfl rfl
  | selectInputSource specifiers => exact silent_postCommand m front _ rfl rfl
  | softwareFunction json => exact silent_postCommand m front _ rfl rfl
  | mouseKey key =>
      dsimp only
      split <;> exact ⟨.refl m.keys.queue, rfl⟩
  | stopKeyboardRepeat =>
      dsimp only
      split
      · exact ⟨relation.dispatchKeyUpEvent m.keys _ _, rfl⟩
      · exact silent_refl m
  | _ => exact ⟨.refl m.keys.queue, rfl⟩

theorem shows_reportButtons [LawfulHidReport] (output : EventQueue) (timeStamp : Int) :
    Shows old output.pointingButtonManager.makeHidReportButtons m
      (m.reportButtons output timeStamp) := by
  unfold reportButtons
  dsimp only
  split
  · rename_i same
    exact .still (.refl m.keys.queue) rfl fun _ =>
      (LawfulHidReport.sameButtons_iff _ _).mp same
  · exact .report _ rfl (m.keys.queue.reports_emplaceBackPointingInput _ .keyUp timeStamp) rfl

/-- When all keys of a device are released a report shows the buttons that the output queue still
has. -/
theorem shows_handleReleased [LawfulHidReport] (front : Entry) (output : EventQueue) :
    Shows old output.pointingButtonManager.makeHidReportButtons m
      (m.handleDeviceKeysAndPointingButtonsAreReleasedEvent front output).1 := by
  have dispatched := m.silent_dispatchModifierKeyEvent output.modifierFlagManager
    front.eventTimeStamp.timeStamp
  apply dispatched.andShows
  refine (shows_reportButtons _ { output with
    modifierFlagManager := output.modifierFlagManager.eraseCapsLockStickyModifierFlags }
    front.eventTimeStamp.timeStamp).andSilent ?_
  exact ⟨.refl _, rfl⟩

theorem shows_handleDeviceUngrabbedEvent [LawfulHidReport] (deviceId : DeviceId)
    (output : EventQueue) (timeStamp : Int) :
    Shows old output.pointingButtonManager.makeHidReportButtons m
      (m.handleDeviceUngrabbedEvent deviceId output timeStamp) := by
  have released : Silent m
      { m with keys := m.keys.dispatchKeyUpEventsByDeviceId deviceId timeStamp } :=
    ⟨PostedEventQueue.keyRelation_reports.dispatchKeyUpEventsByDeviceId m.keys deviceId
      timeStamp, rfl⟩
  apply released.andShows
  refine (shows_reportButtons _ output timeStamp).andSilent ?_
  exact silent_dispatchModifierKeyEvent _ output.modifierFlagManager timeStamp

theorem silent_handlePointing (front : Entry) (output : EventQueue) :
    Silent m (m.handlePointingDeviceEventFromEventTap front output) := by
  unfold handlePointingDeviceEventFromEventTap
  split
  · split
    · exact silent_dispatchModifierKeyEvent m _ _
    · exact silent_refl m
  · split
    · exact silent_dispatchModifierKeyEvent m _ _
    · exact silent_refl m
  · exact silent_refl m

/-- A valid entry shows the buttons of the output queue that it was pushed to. -/
theorem shows_manipulate [ExpressionLibrary] {front : Entry} (valid : front.validity = .valid)
    (output : EventQueue) :
    Shows output.pointingButtonManager.makeHidReportButtons
      (output.pushBackEntry front).pointingButtonManager.makeHidReportButtons m
      (m.manipulate front output).1 := by
  have notInvalid : ¬ front.validity = .invalid := by simp [valid]
  unfold manipulate
  rw [if_neg notInvalid]
  dsimp only
  apply (silent_synchronizeCapsLock m front output).andShows
  generalize m.synchronizeCapsLock front output = synchronized
  have before : Silent synchronized
      (if synchronized.dispatchesBefore front = true then
        synchronized.dispatchModifierKeyEvent output.modifierFlagManager
          front.eventTimeStamp.timeStamp
      else synchronized) := by
    split
    · exact silent_dispatchModifierKeyEvent _ _ _
    · exact silent_refl _
  apply before.andShows
  generalize (if synchronized.dispatchesBefore front = true then _ else _) = dispatched
  have posted : Shows output.pointingButtonManager.makeHidReportButtons
      (output.pushBackEntry front).pointingButtonManager.makeHidReportButtons dispatched
      (dispatched.postEvent { front with validity := .invalid } (output.pushBackEntry front)) := by
    by_cases reports : front.event.ReportsButtons
    · exact shows_postEvent dispatched reports _
    · have same : (output.pushBackEntry front).pointingButtonManager =
          output.pointingButtonManager :=
        EventQueue.update_of_not_reports reports front.deviceId front.eventType
      rw [same]
      exact (silent_postEvent dispatched reports _).shows _
  apply posted.andSilent
  split
  · exact silent_dispatchModifierKeyEvent _ _ _
  · exact silent_refl _

/-- Releasing keys reports no buttons. -/
theorem silent_releasePressedKeys (pressedKeys : List MomentarySwitchEvent) (timeStamp : Int) :
    Silent m (m.releasePressedKeys pressedKeys timeStamp) := by
  have relation := PostedEventQueue.keyRelation_reports
  have fold : ∀ (keys : List MomentarySwitchEvent) (queue : PostedEventQueue),
      PostedEventQueue.Reports [] queue (keys.foldl
        (fun queue e => queue.emplaceBackKeyEvent e.usagePair .keyUp timeStamp) queue) := by
    intro keys
    induction keys with
    | nil => exact fun queue => .refl queue
    | cons key rest ih =>
        exact fun queue => relation.trans (relation.keyEvent queue _ .keyUp timeStamp) (ih _)
  unfold releasePressedKeys
  split
  · exact silent_refl m
  · exact ⟨fold _ m.keys.queue, rfl⟩

end PostEventToVirtualDevices

/-! ## An entry at the last stage -/

namespace Entry

variable {front : Entry} {manager : PointingButtonManager}

/-- The entry changes what the devices hold from one list of buttons to the other. -/
def Changes (front : Entry) (before after : PointingButtonManager) : Prop :=
  ∀ deviceId usage, ReportButton usage →
    (after.Lists deviceId usage ↔
      (front.PressesButton usage ∧ front.deviceId = deviceId) ∨
        (before.Lists deviceId usage ∧
          ¬ (front.ReleasesButton usage ∨ front.ForgetsDevice deviceId)))

omit [HidReportLibrary] in
theorem changes_erase (forgets : front.event = .deviceKeysAndPointingButtonsAreReleased ∨
    front.event = .deviceUngrabbed) (manager : PointingButtonManager) :
    front.Changes manager (manager.eraseAllActivePointingButtons front.deviceId) := by
  intro deviceId usage button
  have noPress : ¬ front.PressesButton usage := by
    rintro ⟨-, event, -⟩
    simp [event] at forgets
  have noRelease : ¬ front.ReleasesButton usage := by
    rintro ⟨-, event, -⟩
    simp [event] at forgets
  rw [PointingButtonManager.lists_erase]
  simp [noPress, noRelease, ForgetsDevice, forgets]

omit [HidReportLibrary] in
theorem changes_update (valid : front.validity = .valid)
    (remembers : ∀ deviceId, ¬ front.ForgetsDevice deviceId) (manager : PointingButtonManager) :
    front.Changes manager
      (EventQueue.updatePointingButtons manager front.deviceId front.event front.eventType) := by
  intro deviceId usage button
  rw [EventQueue.lists_update front valid deviceId button]
  simp [remembers]

omit [HidReportLibrary] in
theorem reportsButtons_of_button {usage : Usage} (button : ReportButton usage)
    (isEvent : front.event = .momentarySwitchEvent ⟨⟨UsagePage.button, usage⟩⟩) :
    front.event.ReportsButtons := by
  have defined : usage ≠ Usage.undefined := by
    rintro rfl
    exact absurd button.1 (by decide)
  rw [isEvent]
  simp [Event.ReportsButtons, MomentarySwitchEvent.valid, MomentarySwitchEvent.pointingButton,
    UsagePage.button, UsagePage.undefined, defined]

omit [HidReportLibrary] in
/-- An entry that is not shown to the manipulator, or is not about buttons, changes nothing. -/
theorem changes_refl (quiet : front.validity = .invalid ∨ ¬ front.event.ReportsButtons)
    (remembers : ∀ deviceId, ¬ front.ForgetsDevice deviceId) (manager : PointingButtonManager) :
    front.Changes manager manager := by
  intro deviceId usage button
  have noButton : ¬ (front.validity = .valid ∧
      front.event = .momentarySwitchEvent ⟨⟨UsagePage.button, usage⟩⟩) := by
    rintro ⟨valid, isEvent⟩
    rcases quiet with invalid | noReport
    · simp [valid] at invalid
    · exact noReport (reportsButtons_of_button button isEvent)
  have noPress : ¬ front.PressesButton usage := fun presses => noButton ⟨presses.1, presses.2.1⟩
  have noRelease : ¬ front.ReleasesButton usage := fun releases =>
    noButton ⟨releases.1, releases.2.1⟩
  simp [noPress, noRelease, remembers]

end Entry

namespace PostingStage

open PostEventToVirtualDevices Stage

variable [MachTimebase] [ExpressionLibrary] [LawfulHidReport]
  {stage : PostingStage} {m : PostEventToVirtualDevices}

omit [HidReportLibrary] [MachTimebase] [ExpressionLibrary] [LawfulHidReport] in
theorem not_reportsButtons_of_kind (event : Event) (kind : eventKind event ≠ .manipulated) :
    ¬ event.ReportsButtons := by
  cases event <;> simp_all [eventKind, Event.ReportsButtons]

omit [HidReportLibrary] [MachTimebase] [ExpressionLibrary] [LawfulHidReport] in
theorem forgets_iff_kind (event : Event) :
    (event = .deviceKeysAndPointingButtonsAreReleased ∨ event = .deviceUngrabbed) ↔
      eventKind event = .keysReleased ∨ eventKind event = .deviceUngrabbed := by
  cases event <;> simp [eventKind]

/-- What the switch on the front entry does to the buttons. -/
structure Dispatches (stage : PostingStage) (m : PostEventToVirtualDevices) (front : Entry)
    (result : LoopResult PostEventToVirtualDevices) : Prop where
  waits : result.waits = false
  shows : ∃ changed, result.manipulators = [changed] ∧
    Shows stage.output.pointingButtonManager.makeHidReportButtons
      result.output.pointingButtonManager.makeHidReportButtons m changed
  changes : front.Changes stage.output.pointingButtonManager result.output.pointingButtonManager
  /-- The entry is passed on only when it has nothing to do with buttons. -/
  passed : result.front.validity = .valid → ¬ result.front.event.ReportsButtons

/-- The front entry is dispatched to the single manipulator, and its report shows the buttons after
it. -/
theorem dispatches_front (single : stage.manipulators = [m]) (front : Entry) (rest : List Entry)
    (now : Int) : Dispatches stage m front (stage.dispatchFront front rest now) := by
  have noReport := not_reportsButtons_of_kind front.event
  have remembers (other : ¬ (eventKind front.event = .keysReleased ∨
      eventKind front.event = .deviceUngrabbed)) (deviceId : DeviceId) :
      ¬ front.ForgetsDevice deviceId :=
    fun forgets => other ((forgets_iff_kind front.event).mp forgets.2)
  have forgets := (forgets_iff_kind front.event).mpr
  unfold dispatchFront
  rw [single]
  cases kind : eventKind front.event with
  | keysReleased =>
      rw [kind] at forgets noReport
      refine ⟨rfl, ⟨_, rfl, ?_⟩, Entry.changes_erase (forgets (.inl rfl)) _,
        fun _ => noReport (by simp)⟩
      exact shows_handleReleased m front
        ((stage.output.eraseAllActiveModifierFlagsExceptLockAndSticky
          front.deviceId).eraseAllActivePointingButtonsExceptLock front.deviceId)
  | deviceUngrabbed =>
      rw [kind] at forgets noReport
      refine ⟨rfl, ⟨_, rfl, ?_⟩, Entry.changes_erase (forgets (.inr rfl)) _,
        fun _ => noReport (by simp)⟩
      exact shows_handleDeviceUngrabbedEvent m front.deviceId
        ((stage.output.eraseAllActiveModifierFlags front.deviceId).eraseAllActivePointingButtons
          front.deviceId) front.eventTimeStamp.timeStamp
  | fromEventTap =>
      rw [kind] at remembers noReport
      refine ⟨rfl, ⟨_, rfl, (silent_handlePointing m front _).shows _⟩, ?_,
        fun _ => noReport (by simp)⟩
      exact Entry.changes_refl (.inr (noReport (by simp))) (remembers (by simp)) _
  | ignored =>
      rw [kind] at remembers noReport
      refine ⟨rfl, ⟨_, rfl, (silent_refl m).shows _⟩, ?_, fun _ => noReport (by simp)⟩
      exact Entry.changes_refl (.inr (noReport (by simp))) (remembers (by simp)) _
  | manipulated =>
      rw [kind] at remembers
      have notManipulated : ¬ (front.validity = .valid ∧
          [m].any (fun m => Manipulator.alreadyManipulated m front) = true) := by
        rintro ⟨-, manipulated⟩
        exact absurd manipulated (by simp [Manipulator.alreadyManipulated])
      dsimp only
      rw [if_neg notManipulated]
      cases validity : front.validity with
      | valid =>
          have notInvalid : ¬ front.validity = .invalid := by simp [validity]
          have pushed : (m.manipulate front stage.output).2 =
              ({ front with validity := .invalid }, stage.output.pushBackEntry front) := by
            unfold PostEventToVirtualDevices.manipulate
            rw [if_neg notInvalid]
          refine ⟨rfl, ⟨_, rfl, ?_⟩, ?_, ?_⟩
          · change Shows _
              (m.manipulate front stage.output).2.2.pointingButtonManager.makeHidReportButtons m
              (m.manipulate front stage.output).1
            rw [pushed]
            exact shows_manipulate m validity stage.output
          · change front.Changes _ (m.manipulate front stage.output).2.2.pointingButtonManager
            rw [pushed]
            exact Entry.changes_update validity (remembers (by simp)) _
          · change (m.manipulate front stage.output).2.1.validity = .valid → _
            rw [pushed]
            intro isValid
            cases isValid
      | invalid =>
          have skipped : m.manipulate front stage.output = (m, front, stage.output) := by
            unfold PostEventToVirtualDevices.manipulate
            rw [if_pos validity]
          refine ⟨rfl, ⟨_, rfl, ?_⟩, ?_, ?_⟩
          · change Shows _
              (m.manipulate front stage.output).2.2.pointingButtonManager.makeHidReportButtons m
              (m.manipulate front stage.output).1
            rw [skipped]
            exact (silent_refl m).shows _
          · change front.Changes _ (m.manipulate front stage.output).2.2.pointingButtonManager
            rw [skipped]
            exact Entry.changes_refl (.inl validity) (remembers (by simp)) _
          · change (m.manipulate front stage.output).2.1.validity = .valid → _
            rw [skipped, validity]
            intro isValid
            cases isValid

/-- An entry that is taken from the input queue. -/
theorem manipulate_front (single : stage.manipulators = [m]) {front : Entry} {rest : List Entry}
    (next : stage.input.events = front :: rest) (now : Int) (reorder : Bool) :
    (∃ changed, (stage.manipulate now reorder).2.manipulators = [changed] ∧
      Shows stage.output.pointingButtonManager.makeHidReportButtons
        (stage.manipulate now reorder).2.output.pointingButtonManager.makeHidReportButtons m
        changed) ∧
      front.Changes stage.output.pointingButtonManager
        (stage.manipulate now reorder).2.output.pointingButtonManager := by
  obtain ⟨waits, ⟨changed, isChanged, answer⟩, changes, passed⟩ :=
    dispatches_front single front rest now
  have same : (stage.manipulate now reorder).2.output.pointingButtonManager =
      (stage.dispatchFront front rest now).output.pointingButtonManager := by
    rw [manipulate_of_not_waits next waits]
    generalize stage.dispatchFront front rest now = result at passed
    have pushed : (if result.front.validity = .valid then result.output.pushBackEntry result.front
        else result.output).pointingButtonManager = result.output.pointingButtonManager := by
      split
      · rename_i valid
        exact EventQueue.update_of_not_reports (passed valid) _ _
      · rfl
    unfold finishFront
    dsimp only
    split
    · exact pushed
    · exact pushed
  refine ⟨⟨changed, ?_, same ▸ answer⟩, same ▸ changes⟩
  rw [manipulate_of_not_waits next waits]
  exact isChanged

/-- The events that wait in the queues of the manipulators. -/
def queued (stage : PostingStage) : List PostedEvent :=
  stage.manipulators.flatMap fun m => m.keys.queue.events

/-- The entry that an action takes from the input queue. -/
def processedBy (stage : PostingStage) : Action → List Entry
  | .manipulate _ _ => stage.input.events.take 1
  | _ => []

end PostingStage

/-! ## Runs -/

/-- A last stage with the entries it has processed and the pointing reports it has enqueued. -/
structure ButtonReporting where
  stage : PostingStage
  entries : List Entry
  reports : List PointingInput

namespace ButtonReporting

open PostEventToVirtualDevices PostingStage

def initial : ButtonReporting := ⟨PostingStage.initial, [], []⟩

/-- The buttons of the last pointing report; before the first one the driver shows none. -/
def reportedButtons (reporting : ButtonReporting) : HidReportLibrary.Buttons :=
  (reporting.reports.getLast?.map PointingInput.buttons).getD HidReportLibrary.noButtons

/-- `make_hid_report_buttons` of the output queue. -/
def outputButtons (reporting : ButtonReporting) : HidReportLibrary.Buttons :=
  reporting.stage.output.pointingButtonManager.makeHidReportButtons

variable [MachTimebase] [ExpressionLibrary]

/-- The reports that an action enqueues. -/
def added (stage : PostingStage) (action : Action) : List PointingInput :=
  ((stage.step action).queued.drop stage.queued.length).filterMap PostedEvent.pointingReport

def step (reporting : ButtonReporting) (action : Action) : ButtonReporting :=
  { stage := reporting.stage.step action
    entries := reporting.entries ++ reporting.stage.processedBy action
    reports := reporting.reports ++ added reporting.stage action }

/-- The invariant of a run. -/
structure Agrees (reporting : ButtonReporting) : Prop where
  manipulator : ∃ m, reporting.stage.manipulators = [m] ∧
    SameButtons m.pressedButtons reporting.outputButtons
  reported : SameButtons reporting.reportedButtons reporting.outputButtons
  held : ∀ deviceId usage, ReportButton usage →
    (reporting.stage.output.pointingButtonManager.Lists deviceId usage ↔
      HeldByDevice reporting.entries deviceId usage)

omit [MachTimebase] [ExpressionLibrary] in
theorem agrees_initial : initial.Agrees := by
  refine ⟨⟨_, rfl, .refl _⟩, .refl _, fun deviceId usage button => ?_⟩
  simp [initial, PostingStage.initial, EventQueue.initial, PointingButtonManager.Lists,
    HeldByDevice]

variable {reporting : ButtonReporting} {m changed : PostEventToVirtualDevices}

theorem added_eq {stage : PostingStage} (action : Action) (single : stage.manipulators = [m])
    (isChanged : (stage.step action).manipulators = [changed]) {reports : List PointingInput}
    (grown : PostedEventQueue.Reports reports m.keys.queue changed.keys.queue) :
    added stage action = reports := by
  have before : stage.queued = m.keys.queue.events := by simp [queued, single]
  have after : (stage.step action).queued = changed.keys.queue.events := by
    simp [queued, isChanged]
  rw [added, before, after, grown.drop]

omit [MachTimebase] [ExpressionLibrary] in
theorem reportedButtons_append (stage : PostingStage) (entries : List Entry)
    (reports : List PointingInput) (report : PointingInput) :
    reportedButtons ⟨stage, entries, reports ++ [report]⟩ = report.buttons := by
  simp [reportedButtons]

/-- An action that is not about an entry may report the buttons again. -/
theorem Agrees.other (agrees : reporting.Agrees) {action : Action}
    (single : reporting.stage.manipulators = [m])
    (noEntry : reporting.stage.processedBy action = [])
    (isChanged : (reporting.stage.step action).manipulators = [changed])
    (sameOutput : (reporting.stage.step action).output.pointingButtonManager =
      reporting.stage.output.pointingButtonManager)
    (saved : changed.pressedButtons = m.pressedButtons)
    (reports : added reporting.stage action = [] ∨
      ∃ report, added reporting.stage action = [report] ∧
        report.buttons = reporting.outputButtons) : (reporting.step action).Agrees := by
  have sameButtons : (reporting.step action).outputButtons = reporting.outputButtons :=
    congrArg PointingButtonManager.makeHidReportButtons sameOutput
  obtain ⟨⟨other, isSingle, right⟩, reported, held⟩ := agrees
  obtain rfl : other = m := List.singleton_inj.mp (isSingle.symm.trans single)
  refine ⟨⟨changed, isChanged, ?_⟩, ?_, fun deviceId usage button => ?_⟩
  · rw [saved, sameButtons]
    exact right
  · rw [sameButtons]
    change SameButtons (reportedButtons ⟨_, _, reporting.reports ++ added reporting.stage action⟩) _
    rcases reports with none | ⟨report, one, isNew⟩
    · rw [none, List.append_nil]
      exact reported
    · rw [one, reportedButtons_append, isNew]
      exact .refl _
  · change (reporting.stage.step action).output.pointingButtonManager.Lists deviceId usage ↔
      HeldByDevice (reporting.entries ++ reporting.stage.processedBy action) deviceId usage
    rw [sameOutput, noEntry, List.append_nil]
    exact held deviceId usage button

theorem Agrees.silent (agrees : reporting.Agrees) {action : Action}
    (single : reporting.stage.manipulators = [m])
    (noEntry : reporting.stage.processedBy action = [])
    (isChanged : (reporting.stage.step action).manipulators = [changed])
    (sameOutput : (reporting.stage.step action).output.pointingButtonManager =
      reporting.stage.output.pointingButtonManager)
    (silent : Silent m changed) : (reporting.step action).Agrees :=
  agrees.other single noEntry isChanged sameOutput silent.2
    (.inl (added_eq _ single isChanged silent.1))

omit [ExpressionLibrary] in
theorem length_postEvents_le (client : Bool) (now : Int) (events : List PostedEvent)
    (queue : PostedEventQueue) :
    (postEvents client now events queue).2.events.length ≤ events.length := by
  induction events generalizing queue with
  | nil => simp [postEvents]
  | cons event rest ih =>
      unfold postEvents
      split
      · simp
      · exact (ih _).trans (Nat.le_succ _)

/-- The entry at the front changes the output queue, and what is saved and reported follows. -/
theorem Agrees.manipulate [LawfulHidReport] (agrees : reporting.Agrees) (now : Int)
    (reorder : Bool) : (reporting.step (.manipulate now reorder)).Agrees := by
  obtain ⟨m, single, right⟩ := agrees.manipulator
  cases next : reporting.stage.input.events with
  | nil =>
      have idle : (reporting.stage.step (.manipulate now reorder)) =
          { reporting.stage with
            manipulators := Stage.removeInvalidManipulators reporting.stage.manipulators } := by
        simp only [PostingStage.step, Stage.manipulate, next]
      have kept : (reporting.stage.step (.manipulate now reorder)).manipulators = [m] := by
        rw [idle, single]
        rfl
      exact agrees.silent single (by simp [processedBy, next]) kept (by rw [idle]) (silent_refl m)
  | cons front rest =>
      obtain ⟨⟨changed, isChanged, answer⟩, changes⟩ :=
        manipulate_front single next now reorder
      have entries : (reporting.step (.manipulate now reorder)).entries =
          reporting.entries ++ [front] := by
        simp [step, processedBy, next]
      refine ⟨⟨changed, isChanged, ?_⟩, ?_, fun deviceId usage button => ?_⟩
      · cases answer with
        | still noReport kept still => exact kept ▸ still right
        | report report isNew grown saved =>
            rw [saved]
            exact .refl _
      · change SameButtons (reportedButtons ⟨_, _, reporting.reports ++
          added reporting.stage (.manipulate now reorder)⟩) _
        cases answer with
        | still noReport kept still =>
            rw [added_eq (.manipulate now reorder) single isChanged noReport,
              List.append_nil]
            exact agrees.reported.trans ((SameButtons.symm right).trans (still right))
        | report report isNew grown saved =>
            rw [added_eq (.manipulate now reorder) single isChanged grown,
              reportedButtons_append, isNew]
            exact .refl _
      · rw [entries, HeldByDevice, since_concat]
        exact (changes deviceId usage button).trans
          (or_congr_right (and_congr_left' (agrees.held deviceId usage button)))

/-- Each action keeps the reports in agreement with the held buttons. -/
theorem Agrees.step [LawfulHidReport] (reporting : ButtonReporting) (action : Action)
    (agrees : reporting.Agrees) : (reporting.step action).Agrees := by
  obtain ⟨m, single, -⟩ := agrees.manipulator
  have mapped (change : PostEventToVirtualDevices → PostEventToVirtualDevices) :
      reporting.stage.manipulators.map change = [change m] := by simp [single]
  cases action with
  | manipulate now reorder => exact agrees.manipulate now reorder
  | push entry => exact agrees.silent single rfl single rfl (silent_refl m)
  | clearOutput => exact agrees.silent single rfl single rfl (silent_refl m)
  | post now =>
      refine agrees.other single rfl (mapped _) rfl rfl (.inl ?_)
      have shorter := length_postEvents_le true now m.keys.queue.events m.keys.queue
      have before : reporting.stage.queued = m.keys.queue.events := by simp [queued, single]
      have after : (reporting.stage.step (.post now)).queued =
          (postEvents true now m.keys.queue.events m.keys.queue).2.events := by
        simp [queued, PostingStage.step, single, asyncPostEvents]
      rw [added, before, after, List.drop_eq_nil_of_le shorter, List.filterMap_nil]
  | mouseKeyReport x y verticalWheel horizontalWheel timeStamp =>
      have isChanged : (reporting.stage.step (.mouseKeyReport x y verticalWheel horizontalWheel
          timeStamp)).manipulators = [m.postMouseKeyReport reporting.stage.output x y verticalWheel
            horizontalWheel timeStamp] := mapped _
      have grown := m.keys.queue.reports_emplaceBackPointingInput
        ⟨reporting.outputButtons, x, y, verticalWheel, horizontalWheel⟩ .single timeStamp
      exact agrees.other single rfl isChanged rfl rfl
        (.inr ⟨_, added_eq _ single isChanged grown, rfl⟩)
  | takePostedKeys => exact agrees.silent single rfl (mapped _) rfl ⟨.refl m.keys.queue, rfl⟩
  | clearPressedModifierFlags =>
      exact agrees.silent single rfl (mapped _) rfl ⟨.refl m.keys.queue, rfl⟩
  | releasePressedKeys pressedKeys timeStamp =>
      exact agrees.silent single rfl (mapped _) rfl
        (silent_releasePressedKeys m pressedKeys timeStamp)

theorem stage_invariant (actions : List Action) :
    (actions.foldl step initial).stage.Invariant := by
  have preserved (reporting : ButtonReporting) (action : Action)
      (invariant : reporting.stage.Invariant) : (reporting.step action).stage.Invariant :=
    invariant_step reporting.stage action invariant
  exact Execution.invariant_of_steps preserved invariant_initial actions

/-- The reported buttons are the held buttons. After every run of the last stage the buttons
that the manipulator has saved, those of its last pointing report and those of the output
queue are the same, and a button is among them exactly when some key_down of it came after its
last key_up and the device of this key_down has not been released or ungrabbed since. -/
theorem reportsHeldButtons [LawfulHidReport] (actions : List Action) :
    ∃ m, (actions.foldl step initial).stage.manipulators = [m] ∧
      HidReportLibrary.sameButtons m.pressedButtons (actions.foldl step initial).outputButtons ∧
      HidReportLibrary.sameButtons (actions.foldl step initial).reportedButtons
        (actions.foldl step initial).outputButtons ∧
      ∀ usage, ReportButton usage →
        (HidReportLibrary.buttonExists (actions.foldl step initial).outputButtons usage = true ↔
          HeldButton (actions.foldl step initial).entries usage) := by
  have agrees := Execution.invariant_of_steps Agrees.step agrees_initial actions
  have invariant : (actions.foldl step initial).stage.Invariant :=
    stage_invariant actions
  obtain ⟨⟨m, single, right⟩, reported, held⟩ := agrees
  refine ⟨m, single, (LawfulHidReport.sameButtons_iff _ _).mpr right,
    (LawfulHidReport.sameButtons_iff _ _).mpr reported, fun usage button => ?_⟩
  calc HidReportLibrary.buttonExists (actions.foldl step initial).outputButtons usage = true
      ↔ (actions.foldl step initial).stage.output.pointingButtonManager.isPressed
          ⟨UsagePage.button, usage⟩ = true := by
        rw [outputButtons, buttonExists_makeHidReportButtons _ usage button]
    _ ↔ ∃ deviceId, (actions.foldl step initial).stage.output.pointingButtonManager.Lists
          deviceId usage := PointingButtonManager.isPressed_iff_lists invariant.presses usage
    _ ↔ ∃ deviceId, HeldByDevice (actions.foldl step initial).entries deviceId usage :=
        exists_congr fun deviceId => held deviceId usage button
    _ ↔ HeldButton (actions.foldl step initial).entries usage := heldButton_iff.symm

/-- Two devices press the first button and one of them is ungrabbed. -/
def pressedByTwo : List Action :=
  [.push (.original 1 10 (.momentarySwitchEvent ⟨⟨UsagePage.button, 1⟩⟩) .keyDown),
    .manipulate 10 false,
    .push (.original 2 20 (.momentarySwitchEvent ⟨⟨UsagePage.button, 1⟩⟩) .keyDown),
    .manipulate 20 false,
    .push (.original 1 30 .deviceUngrabbed .single),
    .manipulate 30 false]

omit [HidReportLibrary] [MachTimebase] [ExpressionLibrary] in
/-- A button is pressed by two devices, and is reported until both have released it. -/
theorem reportsHeldButtons_pressedByTwo :
    let _ := listReports
    let _ := nanosecondTimebase
    let _ := zeroExpressions
    HeldButton (pressedByTwo.foldl step initial).entries 1 ∧
      ∃ m, (pressedByTwo.foldl step initial).stage.manipulators = [m] ∧
        HidReportLibrary.sameButtons m.pressedButtons
          (pressedByTwo.foldl step initial).outputButtons := by
  let _ := listReports
  let _ := nanosecondTimebase
  let _ := zeroExpressions
  have := lawful_listReports
  obtain ⟨m, single, saved, -, held⟩ := reportsHeldButtons pressedByTwo
  have pressed :
      HidReportLibrary.buttonExists (pressedByTwo.foldl step initial).outputButtons 1 = true := by
    decide
  have first : ReportButton 1 := ⟨by decide, by decide⟩
  exact ⟨(held 1 first).mp pressed, m, single, saved⟩

end ButtonReporting

end Karabiner

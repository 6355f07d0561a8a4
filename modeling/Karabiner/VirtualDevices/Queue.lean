import Karabiner.VirtualDevices.HidReport
import Karabiner.VirtualDevices.PostedKeys

/-! # The queue of posted events

`post_event_to_virtual_devices::queue` builds a HID report for each key event
and keeps it until its time stamp is reached. There is one accumulated report
for each page of keys; the five branches of `emplace_back_key_event` differ in
the page only, so they are one definition over `KeyPage`.
-/

namespace Karabiner

/-- The usage pages that have a report of keys. -/
inductive KeyPage where
  | keyboardOrKeypad
  | consumer
  | appleVendorTopCase
  | appleVendorKeyboard
  | genericDesktop
deriving DecidableEq

namespace KeyPage

def usagePage : KeyPage → UsagePage
  | .keyboardOrKeypad => UsagePage.keyboardOrKeypad
  | .consumer => UsagePage.consumer
  | .appleVendorTopCase => UsagePage.appleVendorTopCase
  | .appleVendorKeyboard => UsagePage.appleVendorKeyboard
  | .genericDesktop => UsagePage.genericDesktop

/-- The branch `emplace_back_key_event` takes on a usage page. -/
def ofUsagePage (usagePage : UsagePage) : Option KeyPage :=
  if usagePage = UsagePage.keyboardOrKeypad then some .keyboardOrKeypad
  else if usagePage = UsagePage.consumer then some .consumer
  else if usagePage = UsagePage.appleVendorTopCase then some .appleVendorTopCase
  else if usagePage = UsagePage.appleVendorKeyboard then some .appleVendorKeyboard
  else if usagePage = UsagePage.genericDesktop then some .genericDesktop
  else none

theorem ofUsagePage_eq_some {page : KeyPage} {usagePage : UsagePage} :
    ofUsagePage usagePage = some page ↔ usagePage = page.usagePage := by
  constructor
  · intro found
    unfold ofUsagePage at found
    repeat' split at found
    all_goals first
      | (cases found; assumption)
      | cases found
  · rintro rfl
    cases page <;> rfl

end KeyPage

section

variable [HidReportLibrary]

/-- `hid_report::pointing_input`. -/
structure PointingInput where
  buttons : HidReportLibrary.Buttons
  x : Int
  y : Int
  verticalWheel : Int
  horizontalWheel : Int

/-- The variant of `queue::event`. The modifiers are part of the keyboard report
only. -/
inductive PostedValue where
  | keyInput (page : KeyPage) (keys : HidReportLibrary.Keys)
      (modifiers : Option HidReportLibrary.Modifiers)
  | pointingInput (report : PointingInput)
  | shellCommand (command : String)
  | sendUserCommand (json : String)
  | selectInputSource (specifiers : List InputSourceProperties)
  | softwareFunction (json : String)

/-- `queue::event`. -/
structure PostedEvent where
  value : PostedValue
  timeStamp : Int
  postedMomentarySwitchEvent : Option (MomentarySwitchEvent × EventType)

/-- `post_event_to_virtual_devices::queue`. -/
structure PostedEventQueue where
  events : List PostedEvent
  virtualHidKeyboardPressedKeysManager : PressedKeysManager
  keyboardSuppression : KeyboardSuppression
  keyboardRepeatDetector : KeyboardRepeatDetector
  lastEventType : EventType
  lastEventTimeStamp : Int
  /-- The accumulated keys of each page. -/
  keys : KeyPage → HidReportLibrary.Keys
  /-- The accumulated modifiers of the keyboard report. -/
  modifiers : HidReportLibrary.Modifiers

namespace PostedEventQueue

def initial : PostedEventQueue where
  events := []
  virtualHidKeyboardPressedKeysManager := ⟨[]⟩
  keyboardSuppression := .initial
  keyboardRepeatDetector := ⟨none⟩
  lastEventType := .single
  lastEventTimeStamp := 0
  keys := fun _ => HidReportLibrary.noKeys
  modifiers := HidReportLibrary.noModifiers

/-- The modifier of the report a key event changes instead of the keys
(`make_hid_report_modifier`). -/
def hidReportModifier (event : MomentarySwitchEvent) : Option ModifierFlag :=
  event.makeModifierFlag.filter (· ∈ hidReportModifiers)

/-- `queue::adjust_time_stamp`: the adjusted time stamp and the queue that
remembers it. -/
def adjustTimeStamp [MachTimebase] (queue : PostedEventQueue) (timeStamp : Int)
    (eventType : EventType) (isModifierKeyEvent : Bool) : Int × PostedEventQueue :=
  let wait := MachTimebase.makeAbsoluteTimeDuration 5
  let skip : Bool := match eventType with
    | .keyDown => false
    | .keyUp => queue.lastEventType == .keyUp && !isModifierKeyEvent
    | .single => true
  let adjusted := if skip then timeStamp else max timeStamp (queue.lastEventTimeStamp + wait)
  (adjusted,
    { queue with
      lastEventType := if skip then queue.lastEventType else eventType
      lastEventTimeStamp := max queue.lastEventTimeStamp adjusted })

/-- The keys of a page after a key event. -/
def changeKeys (keys : HidReportLibrary.Keys) (usage : Usage) : EventType → HidReportLibrary.Keys
  | .keyDown => HidReportLibrary.insertKey keys usage
  | .keyUp => HidReportLibrary.eraseKey keys usage
  | .single => keys

/-- The modifiers of the keyboard report after a modifier key event. -/
def changeModifiers (modifiers : HidReportLibrary.Modifiers) (flag : ModifierFlag) :
    EventType → HidReportLibrary.Modifiers
  | .keyDown => HidReportLibrary.insertModifier modifiers flag
  | .keyUp => HidReportLibrary.eraseModifier modifiers flag
  | .single => modifiers

/-- The accumulated reports after a key event on a page. -/
def changeReports (queue : PostedEventQueue) (page : KeyPage) (event : MomentarySwitchEvent)
    (eventType : EventType) : PostedEventQueue :=
  match page, hidReportModifier event with
  | .keyboardOrKeypad, some flag =>
      { queue with modifiers := changeModifiers queue.modifiers flag eventType }
  | _, _ =>
      { queue with
        keys := fun other =>
          if other = page then changeKeys (queue.keys page) event.usagePair.usage eventType
          else queue.keys other }

/-- The report of a page as it stands. -/
def report (queue : PostedEventQueue) (page : KeyPage) : PostedValue :=
  .keyInput page (queue.keys page)
    (match page with
      | .keyboardOrKeypad => some queue.modifiers
      | _ => none)

def append (queue : PostedEventQueue) (event : PostedEvent) : PostedEventQueue :=
  { queue with events := queue.events ++ [event] }

/-- `queue::emplace_back_key_event`. -/
def emplaceBackKeyEvent [MachTimebase] (queue : PostedEventQueue) (usagePair : UsagePair)
    (eventType : EventType) (timeStamp : Int) : PostedEventQueue :=
  let event : MomentarySwitchEvent := ⟨usagePair⟩
  let (adjusted, queue) := queue.adjustTimeStamp timeStamp eventType event.modifierFlag
  let queue : PostedEventQueue := match KeyPage.ofUsagePage usagePair.usagePage with
    | some page =>
        let changed := queue.changeReports page event eventType
        changed.append ⟨changed.report page, adjusted, some (event, eventType)⟩
    | none => queue
  { queue with keyboardRepeatDetector := queue.keyboardRepeatDetector.set event eventType }

/-- `queue::emplace_back_pointing_input`. -/
def emplaceBackPointingInput [MachTimebase] (queue : PostedEventQueue) (report : PointingInput)
    (eventType : EventType) (timeStamp : Int) : PostedEventQueue :=
  let (adjusted, queue) := queue.adjustTimeStamp timeStamp eventType false
  queue.append ⟨.pointingInput report, adjusted, none⟩

/-- The four `push_back_…_event` functions, which do not adjust the time stamp. -/
def pushBackCommand (queue : PostedEventQueue) (value : PostedValue) (timeStamp : Int) :
    PostedEventQueue :=
  queue.append ⟨value, timeStamp, none⟩

/-- `queue::clear`. -/
def clear (queue : PostedEventQueue) : PostedEventQueue :=
  { queue with events := [], keyboardRepeatDetector := ⟨none⟩ }

/-- `queue::handle_posted_momentary_switch_event`. -/
def handlePostedMomentarySwitchEvent [MachTimebase] (queue : PostedEventQueue)
    (event : PostedEvent) (now : Int) : PostedEventQueue :=
  match event.postedMomentarySwitchEvent with
  | some (key, eventType) =>
      { queue with
        virtualHidKeyboardPressedKeysManager :=
          if key.valid then
            match eventType with
            | .keyDown => queue.virtualHidKeyboardPressedKeysManager.insert key
            | .keyUp => queue.virtualHidKeyboardPressedKeysManager.erase key
            | .single => queue.virtualHidKeyboardPressedKeysManager
          else queue.virtualHidKeyboardPressedKeysManager
        keyboardSuppression := queue.keyboardSuppression.enqueue key eventType now }
  | none => queue

/-! ## What a key event appends -/

theorem changeReports_events (queue : PostedEventQueue) (page : KeyPage)
    (event : MomentarySwitchEvent) (eventType : EventType) :
    (queue.changeReports page event eventType).events = queue.events := by
  unfold changeReports
  split <;> rfl

/-- A key event changes the report of its own page only. -/
theorem changeReports_report (queue : PostedEventQueue) (page : KeyPage)
    (event : MomentarySwitchEvent) (eventType : EventType) {other : KeyPage}
    (different : other ≠ page) :
    (queue.changeReports page event eventType).report other = queue.report other := by
  unfold changeReports report
  split
  · cases other with
    | keyboardOrKeypad => exact absurd rfl different
    | _ => rfl
  · simp only [if_neg different]

theorem changeReports_pressedKeysManager (queue : PostedEventQueue) (page : KeyPage)
    (event : MomentarySwitchEvent) (eventType : EventType) :
    (queue.changeReports page event eventType).virtualHidKeyboardPressedKeysManager =
      queue.virtualHidKeyboardPressedKeysManager := by
  unfold changeReports
  split <;> rfl

variable [MachTimebase]

/-- A key event on a page changes the accumulated reports and appends the changed
report of the page. -/
theorem emplaceBackKeyEvent_eq (queue : PostedEventQueue) (usagePair : UsagePair)
    (eventType : EventType) (timeStamp : Int) {page : KeyPage}
    (onPage : KeyPage.ofUsagePage usagePair.usagePage = some page) :
    ∃ stamped : PostedEventQueue, stamped.keys = queue.keys ∧
      stamped.modifiers = queue.modifiers ∧ stamped.events = queue.events ∧
      stamped.virtualHidKeyboardPressedKeysManager = queue.virtualHidKeyboardPressedKeysManager ∧
      ∃ adjusted detector,
        queue.emplaceBackKeyEvent usagePair eventType timeStamp =
          { (stamped.changeReports page ⟨usagePair⟩ eventType).append
              ⟨(stamped.changeReports page ⟨usagePair⟩ eventType).report page, adjusted,
                some (⟨usagePair⟩, eventType)⟩ with
            keyboardRepeatDetector := detector } := by
  refine ⟨(queue.adjustTimeStamp timeStamp eventType
    (MomentarySwitchEvent.mk usagePair).modifierFlag).2, rfl, rfl, rfl, rfl, ?_⟩
  unfold emplaceBackKeyEvent
  simp only [onPage]
  exact ⟨_, _, rfl⟩

/-- An event on no key page changes neither the reports nor the events. -/
theorem emplaceBackKeyEvent_offPage (queue : PostedEventQueue) (usagePair : UsagePair)
    (eventType : EventType) (timeStamp : Int)
    (offPage : KeyPage.ofUsagePage usagePair.usagePage = none) :
    (queue.emplaceBackKeyEvent usagePair eventType timeStamp).keys = queue.keys ∧
      (queue.emplaceBackKeyEvent usagePair eventType timeStamp).modifiers = queue.modifiers ∧
      (queue.emplaceBackKeyEvent usagePair eventType timeStamp).events = queue.events := by
  unfold emplaceBackKeyEvent
  simp only [offPage]
  exact ⟨rfl, rfl, rfl⟩

/-- Enqueuing a key event posts nothing. -/
theorem emplaceBackKeyEvent_pressedKeysManager (queue : PostedEventQueue) (usagePair : UsagePair)
    (eventType : EventType) (timeStamp : Int) :
    (queue.emplaceBackKeyEvent usagePair eventType
        timeStamp).virtualHidKeyboardPressedKeysManager =
      queue.virtualHidKeyboardPressedKeysManager := by
  unfold emplaceBackKeyEvent
  dsimp only
  split
  · exact changeReports_pressedKeysManager _ _ _ _
  · rfl

/-- The report a key event appends names the key. -/
theorem emplaceBackKeyEvent_events (queue : PostedEventQueue) (usagePair : UsagePair)
    (eventType : EventType) (timeStamp : Int) :
    ∃ added, (queue.emplaceBackKeyEvent usagePair eventType timeStamp).events =
        queue.events ++ added ∧
      ∀ event ∈ added, event.postedMomentarySwitchEvent = some (⟨usagePair⟩, eventType) := by
  cases onPage : KeyPage.ofUsagePage usagePair.usagePage with
  | none =>
      obtain ⟨_, _, events⟩ := emplaceBackKeyEvent_offPage queue usagePair eventType timeStamp onPage
      exact ⟨[], by rw [events, List.append_nil], fun _ member => absurd member List.not_mem_nil⟩
  | some page =>
      obtain ⟨stamped, _, _, events, _, adjusted, detector, equal⟩ :=
        emplaceBackKeyEvent_eq queue usagePair eventType timeStamp onPage
      refine ⟨[⟨(stamped.changeReports page ⟨usagePair⟩ eventType).report page, adjusted,
        some (⟨usagePair⟩, eventType)⟩], ?_, ?_⟩
      · rw [equal, ← events, ← changeReports_events stamped page ⟨usagePair⟩ eventType]
        rfl
      · intro event member
        rw [List.mem_singleton.mp member]

end PostedEventQueue

end

end Karabiner

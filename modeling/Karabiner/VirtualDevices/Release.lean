import Karabiner.VirtualDevices.PostingStage

/-! # Releasing all posted keys

`async_release_virtual_hid_keyboard_pressed_keys` releases the keys that have been
posted, while key events may still wait in the queue. Two relations carry the
account of what happens then: the last report of a page, posted or queued, is the
accumulated report, and posting replays the queued events on the set of posted
keys. So what is held in the end is what the accumulated reports hold without the
keys that had been posted.
-/

namespace Karabiner

variable [HidReportLibrary]

/-- The page a report belongs to. -/
def PostedValue.page : PostedValue → Option KeyPage
  | .keyInput page _ _ => some page
  | _ => none

/-- A report of keys shows neither a key nor a modifier. -/
def PostedValue.NothingHeld : PostedValue → Prop
  | .keyInput _ keys modifiers =>
      (∀ usage, usage ∉ HidReportLibrary.keyUsages keys) ∧
        ∀ held ∈ modifiers, ∀ flag ∈ hidReportModifiers,
          HidReportLibrary.modifierExists held flag = false
  | _ => True

/-- The last report of a page, and the empty report before the first one. -/
def lastReport (page : KeyPage) (events : List PostedEvent) : PostedValue :=
  events.foldl (fun last event => if event.value.page = some page then event.value else last)
    (PostedEventQueue.initial.report page)

/-- Whether a key is down after an event, given whether it was before. -/
def noteDown (key : MomentarySwitchEvent) (down : Bool) (event : PostedEvent) : Bool :=
  match event.postedMomentarySwitchEvent with
  | some (posted, .keyDown) => decide (posted = key) || down
  | some (posted, .keyUp) => !decide (posted = key) && down
  | some (_, .single) | none => down

/-- The last queued event of a key is a key_down. -/
def lastQueuedDown (key : MomentarySwitchEvent) (events : List PostedEvent) : Bool :=
  events.foldl (noteDown key) false

/-- What posting an event does to the set of posted keys. -/
def PressedKeysManager.replay (manager : PressedKeysManager) (event : PostedEvent) :
    PressedKeysManager :=
  match event.postedMomentarySwitchEvent with
  | some (key, eventType) =>
      if key.valid then
        match eventType with
        | .keyDown => manager.insert key
        | .keyUp => manager.erase key
        | .single => manager
      else manager
  | none => manager

/-- The key is on a page of reports. -/
def MomentarySwitchEvent.OnKeyPage (event : MomentarySwitchEvent) : Prop :=
  (KeyPage.ofUsagePage event.usagePair.usagePage).isSome = true

theorem lastReport_append (page : KeyPage) (events : List PostedEvent) (event : PostedEvent) :
    lastReport page (events ++ [event]) =
      if event.value.page = some page then event.value else lastReport page events := by
  unfold lastReport
  rw [List.foldl_append]
  rfl

/-- After a posted event a key is held exactly if the event pressed it, or it was held and the event
did not release it. -/
theorem mem_replay_iff (manager : PressedKeysManager) (event : PostedEvent)
    (key : MomentarySwitchEvent) (down : Bool)
    (before : key ∈ manager.entries ↔ key.valid = true ∧ down = true) :
    key ∈ (manager.replay event).entries ↔ key.valid = true ∧ noteDown key down event = true := by
  unfold PressedKeysManager.replay noteDown
  cases event.postedMomentarySwitchEvent with
  | none => exact before
  | some pair =>
      obtain ⟨posted, eventType⟩ := pair
      by_cases same : posted = key
      · subst same
        cases valid : posted.valid with
        | false =>
            rw [valid] at before
            cases eventType <;> simpa [valid] using before
        | true =>
            cases eventType with
            | keyDown => simp [valid]
            | keyUp => simp [valid]
            | single => simpa [valid] using before
      · have different : key ≠ posted := fun equal => same equal.symm
        cases eventType with
        | keyDown =>
            dsimp only
            split
            · simpa [same, different] using before
            · simpa [same] using before
        | keyUp =>
            dsimp only
            split
            · simpa [same, different] using before
            · simpa [same] using before
        | single =>
            dsimp only
            split
            · exact before
            · exact before

/-- Replaying events from the empty set leaves the valid keys whose last event is a
key_down. -/
theorem mem_foldl_replay (events : List PostedEvent) (key : MomentarySwitchEvent) :
    key ∈ (events.foldl PressedKeysManager.replay ⟨[]⟩).entries ↔
      key.valid = true ∧ lastQueuedDown key events = true := by
  have fold : ∀ (manager : PressedKeysManager) (down : Bool),
      (key ∈ manager.entries ↔ key.valid = true ∧ down = true) →
      (key ∈ (events.foldl PressedKeysManager.replay manager).entries ↔
        key.valid = true ∧ events.foldl (noteDown key) down = true) := by
    induction events with
    | nil => exact fun _ _ before => before
    | cons event rest ih =>
        exact fun manager down before => ih _ _ (mem_replay_iff manager event key down before)
  exact fold ⟨[]⟩ false (by simp)

/-! ## The operations only enqueue -/

variable [MachTimebase]

/-- The queue has been reached by enqueuing events. -/
inductive PostedEventQueue.Enqueues : PostedEventQueue → PostedEventQueue → Prop
  | refl (queue : PostedEventQueue) : Enqueues queue queue
  | keyEvent {first queue : PostedEventQueue} (usagePair : UsagePair) (eventType : EventType)
      (timeStamp : Int) (before : Enqueues first queue) :
      Enqueues first (queue.emplaceBackKeyEvent usagePair eventType timeStamp)
  | pointingInput {first queue : PostedEventQueue} (report : PointingInput) (eventType : EventType)
      (timeStamp : Int) (before : Enqueues first queue) :
      Enqueues first (queue.emplaceBackPointingInput report eventType timeStamp)
  | command {first queue : PostedEventQueue} (value : PostedValue) (noReport : value.page = none)
      (timeStamp : Int) (before : Enqueues first queue) :
      Enqueues first (queue.pushBackCommand value timeStamp)

theorem PostedEventQueue.Enqueues.trans {first second third : PostedEventQueue}
    (early : Enqueues first second) (late : Enqueues second third) : Enqueues first third := by
  induction late with
  | refl => exact early
  | keyEvent usagePair eventType timeStamp _ ih => exact ih.keyEvent usagePair eventType timeStamp
  | pointingInput report eventType timeStamp _ ih =>
      exact ih.pointingInput report eventType timeStamp
  | command value noReport timeStamp _ ih => exact ih.command value noReport timeStamp

namespace KeyDispatch

open PostedEventQueue (Enqueues)

theorem keyRelation_enqueues : KeyRelation Enqueues :=
  ⟨.refl, .trans, fun queue => (Enqueues.refl queue).keyEvent⟩

end KeyDispatch

namespace PostEventToVirtualDevices

open PostedEventQueue (Enqueues)

/-- Posting an event only enqueues: what is in the queue stays before it. -/
theorem enqueues_postEvent (m : PostEventToVirtualDevices) (front : Entry) (output : EventQueue) :
    Enqueues m.keys.queue (m.postEvent front output).keys.queue := by
  have command : ∀ value : PostedValue, value.page = none →
      Enqueues m.keys.queue (m.postCommand front value).keys.queue := by
    intro value noReport
    unfold postCommand
    split
    · exact (Enqueues.refl m.keys.queue).command value noReport _
    · exact .refl m.keys.queue
  have pointing : Enqueues m.keys.queue (m.postPointingInputReport front output).keys.queue :=
    (Enqueues.refl m.keys.queue).pointingInput _ front.eventType front.eventTimeStamp.timeStamp
  unfold postEvent
  cases front.event with
  | momentarySwitchEvent event =>
      dsimp only
      split
      · split
        · exact pointing
        · split
          · exact .refl m.keys.queue
          · unfold postKey
            split
            · exact KeyDispatch.keyRelation_enqueues.dispatchKeyDownEvent _ _ _ _
            · exact KeyDispatch.keyRelation_enqueues.dispatchKeyUpEvent _ _ _
            · exact .refl m.keys.queue
      · exact .refl m.keys.queue
  | pointingMotion motion => exact pointing
  | shellCommand text => exact command _ rfl
  | sendUserCommand json => exact command _ rfl
  | selectInputSource specifiers => exact command _ rfl
  | softwareFunction json => exact command _ rfl
  | mouseKey key =>
      dsimp only
      split <;> exact .refl m.keys.queue
  | stopKeyboardRepeat =>
      dsimp only
      split
      · exact KeyDispatch.keyRelation_enqueues.dispatchKeyUpEvent _ _ _
      · exact .refl m.keys.queue
  | _ => exact .refl m.keys.queue

omit [MachTimebase] in
theorem synchronizeCapsLock_queue (m : PostEventToVirtualDevices) (front : Entry)
    (output : EventQueue) : (m.synchronizeCapsLock front output).keys.queue = m.keys.queue := by
  unfold synchronizeCapsLock
  split
  · split
    · split <;> rfl
    · rfl
  · rfl

/-- The manipulator only enqueues, whatever the front entry is. -/
theorem enqueues_manipulate [ExpressionLibrary] (m : PostEventToVirtualDevices) (front : Entry)
    (output : EventQueue) : Enqueues m.keys.queue (m.manipulate front output).1.keys.queue := by
  unfold manipulate
  split
  · exact .refl m.keys.queue
  dsimp only
  have before : Enqueues m.keys.queue
      (if (m.synchronizeCapsLock front output).dispatchesBefore front = true then
        (m.synchronizeCapsLock front output).dispatchModifierKeyEvent output.modifierFlagManager
          front.eventTimeStamp.timeStamp
      else m.synchronizeCapsLock front output).keys.queue := by
    rw [← synchronizeCapsLock_queue m front output]
    split
    · exact KeyDispatch.keyRelation_enqueues.dispatchModifierKeyEvent _ _ _
    · exact .refl _
  have posted := before.trans
    (enqueues_postEvent _ { front with validity := .invalid } (output.pushBackEntry front))
  split
  · exact posted.trans (KeyDispatch.keyRelation_enqueues.dispatchModifierKeyEvent _ _ _)
  · exact posted

theorem enqueues_reportButtons (m : PostEventToVirtualDevices) (output : EventQueue)
    (timeStamp : Int) : Enqueues m.keys.queue (m.reportButtons output timeStamp).keys.queue := by
  unfold reportButtons
  dsimp only
  split
  · exact .refl m.keys.queue
  · exact (Enqueues.refl m.keys.queue).pointingInput _ .keyUp timeStamp

theorem enqueues_handleReleased (m : PostEventToVirtualDevices) (front : Entry)
    (output : EventQueue) : Enqueues m.keys.queue
      (m.handleDeviceKeysAndPointingButtonsAreReleasedEvent front output).1.keys.queue := by
  have dispatched := KeyDispatch.keyRelation_enqueues.dispatchModifierKeyEvent m.keys
    output.modifierFlagManager front.eventTimeStamp.timeStamp
  exact dispatched.trans (enqueues_reportButtons (m.dispatchModifierKeyEvent
    output.modifierFlagManager front.eventTimeStamp.timeStamp) _ _)

theorem enqueues_handleDeviceUngrabbedEvent (m : PostEventToVirtualDevices) (deviceId : DeviceId)
    (output : EventQueue) (timeStamp : Int) : Enqueues m.keys.queue
      (m.handleDeviceUngrabbedEvent deviceId output timeStamp).keys.queue := by
  have released := KeyDispatch.keyRelation_enqueues.dispatchKeyUpEventsByDeviceId m.keys deviceId
    timeStamp
  have reported := enqueues_reportButtons
    { m with keys := m.keys.dispatchKeyUpEventsByDeviceId deviceId timeStamp } output timeStamp
  exact (released.trans reported).trans (KeyDispatch.keyRelation_enqueues.dispatchModifierKeyEvent _ _ _)

theorem enqueues_handlePointing (m : PostEventToVirtualDevices) (front : Entry)
    (output : EventQueue) :
    Enqueues m.keys.queue (m.handlePointingDeviceEventFromEventTap front output).keys.queue := by
  unfold handlePointingDeviceEventFromEventTap
  split
  · split
    · exact KeyDispatch.keyRelation_enqueues.dispatchModifierKeyEvent _ _ _
    · exact .refl m.keys.queue
  · split
    · exact KeyDispatch.keyRelation_enqueues.dispatchModifierKeyEvent _ _ _
    · exact .refl m.keys.queue
  · exact .refl m.keys.queue

theorem releasePressedKeys_queue (m : PostEventToVirtualDevices)
    (pressedKeys : List MomentarySwitchEvent) (timeStamp : Int) :
    (m.releasePressedKeys pressedKeys timeStamp).keys.queue =
      (pressedKeys.filter fun e => e.valid && !e.pointingButton).foldl
        (fun queue e => queue.emplaceBackKeyEvent e.usagePair .keyUp timeStamp) m.keys.queue := by
  unfold releasePressedKeys
  split
  · rename_i none
    rw [none]
    rfl
  · rfl

theorem enqueues_releasePressedKeys (m : PostEventToVirtualDevices)
    (pressedKeys : List MomentarySwitchEvent) (timeStamp : Int) :
    Enqueues m.keys.queue (m.releasePressedKeys pressedKeys timeStamp).keys.queue := by
  have fold : ∀ (keys : List MomentarySwitchEvent) (queue : PostedEventQueue), Enqueues queue
      (keys.foldl (fun queue e => queue.emplaceBackKeyEvent e.usagePair .keyUp timeStamp)
        queue) := by
    intro keys
    induction keys with
    | nil => exact fun queue => .refl queue
    | cons key rest ih =>
        exact fun queue =>
          ((Enqueues.refl queue).keyEvent key.usagePair .keyUp timeStamp).trans (ih _)
  rw [releasePressedKeys_queue]
  exact fold _ _

end PostEventToVirtualDevices

/-! ## What is posted and queued, and what is held -/

/-- The posted reports and the queue agree with what is held: the last report of a
page is the accumulated report, and the posted keys are valid keys on a page. -/
structure PostedEventQueue.Tracks (posted : List PostedEvent) (queue : PostedEventQueue) :
    Prop where
  reports : ∀ page, lastReport page (posted ++ queue.events) = queue.report page
  postedKeys : ∀ key ∈ queue.virtualHidKeyboardPressedKeysManager.entries,
    key.valid = true ∧ key.OnKeyPage
  queuedKeys : ∀ event ∈ queue.events, ∀ key eventType,
    event.postedMomentarySwitchEvent = some (key, eventType) → key.OnKeyPage

namespace PostedEventQueue

variable {posted : List PostedEvent} {queue : PostedEventQueue}

/-- A key event that is enqueued is tracked: the report has the key exactly as the events do. -/
theorem Tracks.emplaceBackKeyEvent (tracks : Tracks posted queue) (usagePair : UsagePair)
    (eventType : EventType) (timeStamp : Int) :
    Tracks posted (queue.emplaceBackKeyEvent usagePair eventType timeStamp) := by
  cases onPage : KeyPage.ofUsagePage usagePair.usagePage with
  | none =>
      obtain ⟨keys, modifiers, events⟩ :=
        emplaceBackKeyEvent_offPage queue usagePair eventType timeStamp onPage
      refine ⟨fun page => ?_, ?_, ?_⟩
      · rw [events, tracks.reports page]
        unfold report
        rw [keys, modifiers]
      · rw [emplaceBackKeyEvent_pressedKeysManager]
        exact tracks.postedKeys
      · rw [events]
        exact tracks.queuedKeys
  | some page =>
      obtain ⟨stamped, keys, modifiers, events, _, adjusted, detector, equal⟩ :=
        emplaceBackKeyEvent_eq queue usagePair eventType timeStamp onPage
      have appended : (queue.emplaceBackKeyEvent usagePair eventType timeStamp).events =
          queue.events ++ [⟨(stamped.changeReports page ⟨usagePair⟩ eventType).report page, adjusted,
            some (⟨usagePair⟩, eventType)⟩] := by
        rw [equal, ← events, ← changeReports_events stamped page ⟨usagePair⟩ eventType]
        rfl
      refine ⟨fun other => ?_, ?_, ?_⟩
      · rw [appended, ← List.append_assoc, lastReport_append, equal]
        change (if some page = some other then _ else _) =
          (stamped.changeReports page ⟨usagePair⟩ eventType).report other
        split
        · rename_i same
          rw [Option.some.inj same]
        · rename_i different
          have otherPage : other ≠ page := fun same => different (congrArg some same.symm)
          rw [tracks.reports other, changeReports_report _ _ _ _ otherPage]
          unfold report
          rw [keys, modifiers]
      · rw [emplaceBackKeyEvent_pressedKeysManager]
        exact tracks.postedKeys
      · rw [appended]
        intro event member key type posts
        rcases List.mem_append.mp member with member | member
        · exact tracks.queuedKeys event member key type posts
        · rw [List.mem_singleton.mp member] at posts
          obtain ⟨rfl, rfl⟩ := Prod.mk.inj (Option.some.inj posts)
          exact Option.isSome_iff_exists.mpr ⟨page, onPage⟩

omit [MachTimebase] in
/-- An event that is neither a report of keys nor about a key changes nothing. -/
theorem Tracks.append (tracks : Tracks posted queue) {event : PostedEvent}
    (noReport : event.value.page = none) (noKey : event.postedMomentarySwitchEvent = none) :
    Tracks posted (queue.append event) where
  reports := fun page => by
    change lastReport page (posted ++ (queue.events ++ [event])) = queue.report page
    rw [← List.append_assoc, lastReport_append, noReport, if_neg (Option.some_ne_none page).symm,
      tracks.reports page]
  postedKeys := tracks.postedKeys
  queuedKeys := by
    intro other member key type posts
    rcases List.mem_append.mp member with member | member
    · exact tracks.queuedKeys other member key type posts
    · rw [List.mem_singleton.mp member, noKey] at posts
      cases posts

theorem Tracks.of_enqueues (tracks : Tracks posted queue) {after : PostedEventQueue}
    (enqueues : Enqueues queue after) : Tracks posted after := by
  induction enqueues with
  | refl => exact tracks
  | keyEvent usagePair eventType timeStamp _ ih =>
      exact ih.emplaceBackKeyEvent usagePair eventType timeStamp
  | pointingInput report eventType timeStamp _ ih =>
      have stamped : ∀ reached : PostedEventQueue, Tracks posted reached →
          Tracks posted (reached.adjustTimeStamp timeStamp eventType false).2 :=
        fun reached before => ⟨before.reports, before.postedKeys, before.queuedKeys⟩
      exact (stamped _ ih).append rfl rfl
  | command value noReport timeStamp _ ih => exact ih.append noReport rfl

omit [MachTimebase] in
theorem tracks_initial : Tracks [] PostedEventQueue.initial where
  reports := fun _ => rfl
  postedKeys := fun _ member => absurd member List.not_mem_nil
  queuedKeys := fun _ member => absurd member List.not_mem_nil

end PostedEventQueue

namespace PostEventToVirtualDevices

/-- Posting moves events from the queue to the posted ones and replays them on the
set of posted keys. -/
theorem postEvents_spec (now : Int) (events : List PostedEvent) (queue : PostedEventQueue) :
    (postEvents true now events queue).1 ++ (postEvents true now events queue).2.events = events ∧
      (postEvents true now events queue).2.keys = queue.keys ∧
      (postEvents true now events queue).2.modifiers = queue.modifiers ∧
      (postEvents true now events queue).2.virtualHidKeyboardPressedKeysManager =
        (postEvents true now events queue).1.foldl PressedKeysManager.replay
          queue.virtualHidKeyboardPressedKeysManager := by
  induction events generalizing queue with
  | nil => exact ⟨rfl, rfl, rfl, rfl⟩
  | cons event rest ih =>
      unfold postEvents
      split
      · exact ⟨rfl, rfl, rfl, rfl⟩
      · have handled : ∀ reached : PostedEventQueue,
            (reached.handlePostedMomentarySwitchEvent event now).keys = reached.keys ∧
            (reached.handlePostedMomentarySwitchEvent event now).modifiers = reached.modifiers ∧
            (reached.handlePostedMomentarySwitchEvent event
                now).virtualHidKeyboardPressedKeysManager =
              reached.virtualHidKeyboardPressedKeysManager.replay event := by
          intro reached
          unfold PostedEventQueue.handlePostedMomentarySwitchEvent PressedKeysManager.replay
          cases event.postedMomentarySwitchEvent with
          | none => exact ⟨rfl, rfl, rfl⟩
          | some pair => exact ⟨rfl, rfl, rfl⟩
        obtain ⟨sameKeys, sameModifiers, replayed⟩ := handled queue
        obtain ⟨split, keys, modifiers, manager⟩ :=
          ih (queue.handlePostedMomentarySwitchEvent event now)
        refine ⟨?_, keys.trans sameKeys, modifiers.trans sameModifiers, ?_⟩
        · exact congrArg (event :: ·) split
        · refine Eq.trans manager ?_
          rw [replayed]
          rfl

omit [MachTimebase] in
/-- The keys that are held after some posted events are valid and on a page of keys. -/
theorem postedKeys_replay (events : List PostedEvent)
    (onPage : ∀ event ∈ events, ∀ key eventType,
      event.postedMomentarySwitchEvent = some (key, eventType) → key.OnKeyPage)
    (manager : PressedKeysManager)
    (before : ∀ key ∈ manager.entries, key.valid = true ∧ key.OnKeyPage) :
    ∀ key ∈ (events.foldl PressedKeysManager.replay manager).entries,
      key.valid = true ∧ key.OnKeyPage := by
  induction events generalizing manager with
  | nil => exact before
  | cons event rest ih =>
      refine ih (fun other member => onPage other (List.mem_cons_of_mem _ member)) _ ?_
      intro key member
      unfold PressedKeysManager.replay at member
      cases posts : event.postedMomentarySwitchEvent with
      | none =>
          rw [posts] at member
          exact before key member
      | some pair =>
          obtain ⟨posted, eventType⟩ := pair
          rw [posts] at member
          dsimp only at member
          split at member
          · rename_i valid
            cases eventType with
            | keyDown =>
                rcases PressedKeysManager.mem_insert.mp member with rfl | member
                · exact ⟨valid, onPage event List.mem_cons_self _ _ posts⟩
                · exact before key member
            | keyUp => exact before key (PressedKeysManager.mem_erase.mp member).1
            | single => exact before key member
          · exact before key member

/-- Posting moves events from the queue to what is posted, so that both are tracked as before. -/
theorem tracks_asyncPostEvents {m : PostEventToVirtualDevices} {posted : List PostedEvent}
    (tracks : m.keys.queue.Tracks posted) (now : Int) :
    (m.asyncPostEvents true now).2.keys.queue.Tracks
      (posted ++ (m.asyncPostEvents true now).1) := by
  obtain ⟨split, keys, modifiers, manager⟩ :=
    postEvents_spec now m.keys.queue.events m.keys.queue
  refine ⟨fun page => ?_, ?_, ?_⟩
  · refine Eq.trans ?_ ((tracks.reports page).trans ?_)
    · rw [List.append_assoc]
      exact congrArg (fun events => lastReport page (posted ++ events)) split
    · simp only [PostedEventQueue.report, asyncPostEvents, keys, modifiers]
  · have replayed := postedKeys_replay (postEvents true now m.keys.queue.events m.keys.queue).1
      (fun event member => tracks.queuedKeys event
        (split ▸ List.mem_append_left _ member)) _ tracks.postedKeys
    rw [← manager] at replayed
    exact replayed
  · intro event member
    exact tracks.queuedKeys event (split ▸ List.mem_append_right _ member)

end PostEventToVirtualDevices

/-! ## Runs of the last stage with the posted reports -/

namespace PostingStage

open PostEventToVirtualDevices

/-- The last stage and the reports it has posted so far. -/
structure Logged where
  stage : PostingStage
  posted : List PostedEvent

/-- The reports an action posts. -/
def postedReports (stage : PostingStage) : Action → List PostedEvent
  | .post now => stage.manipulators.flatMap fun m => (m.asyncPostEvents true now).1
  | _ => []

variable [ExpressionLibrary]

namespace Logged

def initial : Logged := ⟨PostingStage.initial, []⟩

def step (logged : Logged) (action : Action) : Logged :=
  ⟨logged.stage.step action, logged.posted ++ postedReports logged.stage action⟩

/-- The one manipulator of the stage tracks the posted reports. -/
def Tracks (logged : Logged) : Prop :=
  ∃ m, logged.stage.manipulators = [m] ∧ m.keys.queue.Tracks logged.posted

end Logged

/-- The switch on the front entry only enqueues. -/
theorem dispatchFront_enqueues {stage : PostingStage} {m : PostEventToVirtualDevices}
    (single : stage.manipulators = [m]) (front : Entry) (rest : List Entry) (now : Int) :
    (stage.dispatchFront front rest now).waits = false ∧
      ∃ after, (stage.dispatchFront front rest now).manipulators = [after] ∧
        PostedEventQueue.Enqueues m.keys.queue after.keys.queue := by
  unfold Stage.dispatchFront
  rw [single]
  cases Stage.eventKind front.event with
  | keysReleased => exact ⟨rfl, _, rfl, enqueues_handleReleased m front _⟩
  | deviceUngrabbed =>
      exact ⟨rfl, _, rfl, enqueues_handleDeviceUngrabbedEvent m front.deviceId _ _⟩
  | fromEventTap => exact ⟨rfl, _, rfl, enqueues_handlePointing m front _⟩
  | ignored => exact ⟨rfl, m, rfl, .refl _⟩
  | manipulated =>
      dsimp only
      split
      · exact ⟨rfl, m, rfl, .refl _⟩
      · exact ⟨rfl, _, rfl, enqueues_manipulate m front stage.output⟩

theorem manipulate_enqueues {stage : PostingStage} {m : PostEventToVirtualDevices}
    (single : stage.manipulators = [m]) (now : Int) (reorder : Bool) :
    ∃ after, (stage.manipulate now reorder).2.manipulators = [after] ∧
      PostedEventQueue.Enqueues m.keys.queue after.keys.queue := by
  cases next : stage.input.events with
  | nil =>
      unfold Stage.manipulate
      rw [next, single]
      exact ⟨m, rfl, .refl _⟩
  | cons front rest =>
      obtain ⟨waits, after, manipulators, enqueues⟩ :=
        dispatchFront_enqueues single front rest now
      rw [Stage.manipulate_of_not_waits next waits]
      exact ⟨after, manipulators, enqueues⟩

/-- Each action keeps the tracking of what has been logged as posted. -/
theorem Logged.tracks_step (logged : Logged) (action : Action) (before : logged.Tracks) :
    (logged.step action).Tracks := by
  obtain ⟨m, single, tracks⟩ := before
  have quiet : ∀ {after : PostEventToVirtualDevices},
      PostedEventQueue.Enqueues m.keys.queue after.keys.queue →
      after.keys.queue.Tracks (logged.posted ++ []) := fun enqueues =>
    (List.append_nil logged.posted).symm ▸ tracks.of_enqueues enqueues
  unfold Logged.Tracks Logged.step
  cases action with
  | push entry => exact ⟨m, single, quiet (.refl _)⟩
  | manipulate now reorder =>
      obtain ⟨after, manipulators, enqueues⟩ := manipulate_enqueues single now reorder
      exact ⟨after, manipulators, quiet enqueues⟩
  | clearOutput => exact ⟨m, single, quiet (.refl _)⟩
  | post now =>
      refine ⟨(m.asyncPostEvents true now).2, ?_, ?_⟩
      · simp only [PostingStage.step, single, List.map_cons, List.map_nil]
      · simpa [postedReports, single] using tracks_asyncPostEvents tracks now
  | mouseKeyReport x y verticalWheel horizontalWheel timeStamp =>
      refine ⟨m.postMouseKeyReport logged.stage.output x y verticalWheel horizontalWheel timeStamp,
        ?_, quiet ?_⟩
      · simp only [PostingStage.step, single, List.map_cons, List.map_nil]
      · exact (PostedEventQueue.Enqueues.refl _).pointingInput _ .single timeStamp
  | takePostedKeys =>
      refine ⟨m.clearVirtualHidKeyboardPressedKeys, ?_, ?_⟩
      · simp only [PostingStage.step, single, List.map_cons, List.map_nil]
      · obtain ⟨reports, _, queuedKeys⟩ := quiet (.refl m.keys.queue)
        exact ⟨reports, fun _ member => absurd member List.not_mem_nil, queuedKeys⟩
  | clearPressedModifierFlags =>
      refine ⟨{ m with keys := m.keys.clearPressedModifierFlags }, ?_, quiet (.refl _)⟩
      simp only [PostingStage.step, single, List.map_cons, List.map_nil]
  | releasePressedKeys pressedKeys timeStamp =>
      refine ⟨m.releasePressedKeys pressedKeys timeStamp, ?_,
        quiet (enqueues_releasePressedKeys m pressedKeys timeStamp)⟩
      simp only [PostingStage.step, single, List.map_cons, List.map_nil]

theorem Logged.tracks_run (actions : List Action) (logged : Logged) (start : logged.Tracks) :
    (actions.foldl Logged.step logged).Tracks :=
  Foundation.Execution.invariant_of_steps Logged.tracks_step start actions

end PostingStage

/-! ## What the job releases -/

namespace PostedEventQueue

/-- The key of the reports that an event of a page stands for. -/
def reportedKey (event : MomentarySwitchEvent) : Option (KeyPage × Usage) :=
  match KeyPage.ofUsagePage event.usagePair.usagePage, hidReportModifier event with
  | some .keyboardOrKeypad, some _ => none
  | some page, _ => some (page, slotUsage event.usagePair.usage)
  | none, _ => none

/-- The modifier of the keyboard report that an event stands for. -/
def reportedModifier (event : MomentarySwitchEvent) : Option ModifierFlag :=
  match KeyPage.ofUsagePage event.usagePair.usagePage with
  | some .keyboardOrKeypad => hidReportModifier event
  | _ => none

variable [LawfulHidReport]

omit [MachTimebase] in
/-- A key_up takes its usage from the report of its page, and no other one. -/
theorem mem_keys_changeReports_keyUp (queue : PostedEventQueue) {page : KeyPage}
    (key : MomentarySwitchEvent)
    (onPage : KeyPage.ofUsagePage key.usagePair.usagePage = some page) (other : KeyPage)
    (usage : Usage) :
    usage ∈ HidReportLibrary.keyUsages ((queue.changeReports page key .keyUp).keys other) ↔
      usage ∈ HidReportLibrary.keyUsages (queue.keys other) ∧
        reportedKey key ≠ some (other, usage) := by
  have erased : usage ∈ HidReportLibrary.keyUsages
      (if other = page then changeKeys (queue.keys page) key.usagePair.usage .keyUp
        else queue.keys other) ↔
      usage ∈ HidReportLibrary.keyUsages (queue.keys other) ∧
        some (page, slotUsage key.usagePair.usage) ≠ some (other, usage) := by
    by_cases same : other = page
    · subst same
      rw [if_pos rfl]
      refine (LawfulHidReport.mem_eraseKey _ _ _).trans (and_congr_right fun _ => ?_)
      simp [eq_comm]
    · rw [if_neg same]
      simp [Ne.symm same]
  unfold changeReports reportedKey
  rw [onPage]
  cases modifier : hidReportModifier key with
  | none => cases page <;> exact erased
  | some flag =>
      cases page with
      | keyboardOrKeypad => simp
      | _ => exact erased

omit [MachTimebase] in
/-- A key_up takes its modifier from the report, and no other one. -/
theorem modifierExists_changeReports_keyUp (queue : PostedEventQueue) {page : KeyPage}
    (key : MomentarySwitchEvent)
    (onPage : KeyPage.ofUsagePage key.usagePair.usagePage = some page) {flag : ModifierFlag}
    (reported : flag ∈ hidReportModifiers) :
    HidReportLibrary.modifierExists (queue.changeReports page key .keyUp).modifiers flag = true ↔
      HidReportLibrary.modifierExists queue.modifiers flag = true ∧
        reportedModifier key ≠ some flag := by
  unfold changeReports reportedModifier
  rw [onPage]
  cases modifier : hidReportModifier key with
  | none => cases page <;> simp
  | some changed =>
      cases page with
      | keyboardOrKeypad =>
          have listed : changed ∈ hidReportModifiers := by
            simpa using (Option.filter_eq_some_iff.mp modifier).2
          dsimp only [changeModifiers]
          rw [LawfulHidReport.eraseModifier_exists _ _ _ listed reported, Bool.and_eq_true,
            and_comm, Bool.not_eq_true', decide_eq_false_iff_not]
          refine and_congr_right fun _ => not_congr ?_
          exact ⟨fun same => congrArg some same.symm, fun same => (Option.some.inj same).symm⟩
      | _ => simp

/-- The key_ups of the job take the given keys out of the reports and, once posted,
out of the posted keys. -/
theorem release_spec (timeStamp : Int) (pressedKeys : List MomentarySwitchEvent)
    (posted : ∀ key ∈ pressedKeys, key.valid = true ∧ key.OnKeyPage) (queue : PostedEventQueue) :
    ∃ added, (pressedKeys.foldl
        (fun queue e => queue.emplaceBackKeyEvent e.usagePair .keyUp timeStamp) queue).events =
          queue.events ++ added ∧
      (∀ manager key, key ∈ (added.foldl PressedKeysManager.replay manager).entries ↔
        key ∈ manager.entries ∧ key ∉ pressedKeys) ∧
      (∀ page usage, usage ∈ HidReportLibrary.keyUsages ((pressedKeys.foldl
          (fun queue e => queue.emplaceBackKeyEvent e.usagePair .keyUp timeStamp) queue).keys
          page) ↔
        usage ∈ HidReportLibrary.keyUsages (queue.keys page) ∧
          ∀ key ∈ pressedKeys, reportedKey key ≠ some (page, usage)) ∧
      (∀ flag ∈ hidReportModifiers, HidReportLibrary.modifierExists (pressedKeys.foldl
          (fun queue e => queue.emplaceBackKeyEvent e.usagePair .keyUp timeStamp)
          queue).modifiers flag = true ↔
        HidReportLibrary.modifierExists queue.modifiers flag = true ∧
          ∀ key ∈ pressedKeys, reportedModifier key ≠ some flag) := by
  induction pressedKeys generalizing queue with
  | nil => exact ⟨[], (List.append_nil _).symm, by simp, by simp, by simp⟩
  | cons first rest ih =>
      obtain ⟨valid, onPage⟩ := posted first List.mem_cons_self
      obtain ⟨page, onPage⟩ := Option.isSome_iff_exists.mp onPage
      obtain ⟨stamped, keys, modifiers, events, _, adjusted, detector, equal⟩ :=
        emplaceBackKeyEvent_eq queue first.usagePair .keyUp timeStamp onPage
      have keysAfter : (queue.emplaceBackKeyEvent first.usagePair .keyUp timeStamp).keys =
          (stamped.changeReports page first .keyUp).keys := by
        rw [equal]
        rfl
      have modifiersAfter :
          (queue.emplaceBackKeyEvent first.usagePair .keyUp timeStamp).modifiers =
            (stamped.changeReports page first .keyUp).modifiers := by
        rw [equal]
        rfl
      have eventsAfter : (queue.emplaceBackKeyEvent first.usagePair .keyUp timeStamp).events =
          queue.events ++ [⟨(stamped.changeReports page first .keyUp).report page, adjusted,
            some (first, .keyUp)⟩] := by
        rw [equal, ← events, ← changeReports_events stamped page first .keyUp]
        rfl
      obtain ⟨added, restEvents, restPosted, restKeys, restModifiers⟩ :=
        ih (fun key member => posted key (List.mem_cons_of_mem _ member))
          (queue.emplaceBackKeyEvent first.usagePair .keyUp timeStamp)
      refine ⟨⟨(stamped.changeReports page first .keyUp).report page, adjusted,
        some (first, .keyUp)⟩ :: added, ?_, ?_, ?_, ?_⟩
      · rw [List.foldl_cons, restEvents, eventsAfter, List.append_assoc, List.singleton_append]
      · intro manager key
        rw [List.foldl_cons, restPosted]
        unfold PressedKeysManager.replay
        dsimp only
        rw [if_pos valid, PressedKeysManager.mem_erase, List.mem_cons, not_or, and_assoc]
      · intro other usage
        rw [List.foldl_cons, restKeys, keysAfter, mem_keys_changeReports_keyUp _ _ onPage, keys,
          List.forall_mem_cons, and_assoc]
      · intro flag reported
        rw [List.foldl_cons, restModifiers flag reported, modifiersAfter,
          modifierExists_changeReports_keyUp _ _ onPage reported, modifiers, List.forall_mem_cons,
          and_assoc]

omit [LawfulHidReport] in
theorem pressedKeysManager_release (timeStamp : Int) (pressedKeys : List MomentarySwitchEvent)
    (queue : PostedEventQueue) : (pressedKeys.foldl
        (fun queue e => queue.emplaceBackKeyEvent e.usagePair .keyUp timeStamp)
        queue).virtualHidKeyboardPressedKeysManager =
      queue.virtualHidKeyboardPressedKeysManager := by
  induction pressedKeys generalizing queue with
  | nil => rfl
  | cons key rest ih =>
      rw [List.foldl_cons, ih, emplaceBackKeyEvent_pressedKeysManager]

end PostedEventQueue

namespace PostingStage

open PostEventToVirtualDevices PostedEventQueue

variable [ExpressionLibrary]

/-- Posting again and again moves events from the queue to the posted keys. -/
theorem post_run (nows : List Int) (logged : Logged) (m : PostEventToVirtualDevices)
    (single : logged.stage.manipulators = [m]) :
    ∃ after posted, ((nows.map Action.post).foldl Logged.step logged).stage.manipulators =
        [after] ∧
      m.keys.queue.events = posted ++ after.keys.queue.events ∧
      after.keys.queue.keys = m.keys.queue.keys ∧
      after.keys.queue.modifiers = m.keys.queue.modifiers ∧
      after.keys.queue.virtualHidKeyboardPressedKeysManager =
        posted.foldl PressedKeysManager.replay m.keys.queue.virtualHidKeyboardPressedKeysManager := by
  induction nows generalizing logged m with
  | nil => exact ⟨m, [], single, rfl, rfl, rfl, rfl⟩
  | cons now rest ih =>
      obtain ⟨split, keys, modifiers, manager⟩ :=
        postEvents_spec now m.keys.queue.events m.keys.queue
      have next : (logged.step (.post now)).stage.manipulators = [(m.asyncPostEvents true now).2] := by
        simp only [Logged.step, PostingStage.step, single, List.map_cons, List.map_nil]
      obtain ⟨after, posted, last, restSplit, restKeys, restModifiers, restManager⟩ := ih _ _ next
      refine ⟨after, (m.asyncPostEvents true now).1 ++ posted, last, ?_, restKeys.trans keys,
        restModifiers.trans modifiers, ?_⟩
      · rw [List.append_assoc, ← restSplit]
        exact split.symm
      · rw [restManager, List.foldl_append]
        exact congrArg (posted.foldl PressedKeysManager.replay) manager

/-- `async_release_virtual_hid_keyboard_pressed_keys`: the posted keys are taken, the
job that releases them may run after other posts, and the queue is posted later. -/
def releaseAll (pressedKeys : List MomentarySwitchEvent) (between : List Int) (timeStamp : Int)
    (later : List Int) : List Action :=
  .takePostedKeys :: between.map .post ++ .releasePressedKeys pressedKeys timeStamp ::
    later.map .post

/-- The last posted report of every page holds nothing and no key is in the set of
posted keys. -/
def Logged.AllReleased (logged : Logged) : Prop :=
  (∀ page, (lastReport page logged.posted).NothingHeld) ∧
    ∀ m ∈ logged.stage.manipulators,
      m.keys.queue.virtualHidKeyboardPressedKeysManager.entries = []

/-- Everything that the accumulated reports hold, and every key that the queued
events leave down, has been posted. -/
def HeldKeysPosted (m : PostEventToVirtualDevices) : Prop :=
  let postedKeys := m.keys.queue.virtualHidKeyboardPressedKeysManager.entries
  (∀ page, ∀ usage ∈ HidReportLibrary.keyUsages (m.keys.queue.keys page),
    ∃ key ∈ postedKeys, reportedKey key = some (page, usage)) ∧
  (∀ flag ∈ hidReportModifiers,
    HidReportLibrary.modifierExists m.keys.queue.modifiers flag = true →
      ∃ key ∈ postedKeys, reportedModifier key = some flag) ∧
  ∀ key : MomentarySwitchEvent, key.valid = true →
    lastQueuedDown key m.keys.queue.events = true → key ∈ postedKeys

omit [MachTimebase] [ExpressionLibrary] in
/-- Nothing is held in the end exactly when nothing is left of what was held. -/
theorem nothingHeld_report_iff [LawfulHidReport] (queue : PostedEventQueue) :
    (∀ page, (queue.report page).NothingHeld) ↔
      (∀ page usage, usage ∉ HidReportLibrary.keyUsages (queue.keys page)) ∧
        ∀ flag ∈ hidReportModifiers,
          HidReportLibrary.modifierExists queue.modifiers flag = false := by
  constructor
  · intro nothing
    refine ⟨fun page => (nothing page).1, ?_⟩
    exact (nothing .keyboardOrKeypad).2 queue.modifiers rfl
  · rintro ⟨keys, modifiers⟩ page
    refine ⟨keys page, ?_⟩
    cases page with
    | keyboardOrKeypad =>
        intro held same
        rw [← Option.some.inj same]
        exact modifiers
    | _ => exact fun held absent => absurd absent (Option.some_ne_none held).symm

/-- What is left after releasing all posted keys and posting the queue to the end. -/
theorem releaseAll_outcome [LawfulHidReport] (start : Logged) {m : PostEventToVirtualDevices}
    (single : start.stage.manipulators = [m]) (pressedKeys : List MomentarySwitchEvent)
    (releasable : ∀ key ∈ pressedKeys, key.valid = true ∧ key.OnKeyPage) (between : List Int)
    (timeStamp : Int) (later : List Int)
    (postedToEnd : ∀ m ∈ ((releaseAll pressedKeys between timeStamp later).foldl Logged.step
      start).stage.manipulators, m.keys.queue.events = []) :
    ∃ after, ((releaseAll pressedKeys between timeStamp later).foldl Logged.step
        start).stage.manipulators = [after] ∧
      (∀ page usage, usage ∈ HidReportLibrary.keyUsages (after.keys.queue.keys page) ↔
        usage ∈ HidReportLibrary.keyUsages (m.keys.queue.keys page) ∧
          ∀ key ∈ pressedKeys, reportedKey key ≠ some (page, usage)) ∧
      (∀ flag ∈ hidReportModifiers,
        HidReportLibrary.modifierExists after.keys.queue.modifiers flag = true ↔
          HidReportLibrary.modifierExists m.keys.queue.modifiers flag = true ∧
            ∀ key ∈ pressedKeys, reportedModifier key ≠ some flag) ∧
      ∀ key, key ∈ after.keys.queue.virtualHidKeyboardPressedKeysManager.entries ↔
        (key.valid = true ∧ lastQueuedDown key m.keys.queue.events = true) ∧
          key ∉ pressedKeys := by
  have cleared : (start.step .takePostedKeys).stage.manipulators =
      [m.clearVirtualHidKeyboardPressedKeys] := by
    simp only [Logged.step, PostingStage.step, single, List.map_cons, List.map_nil]
  obtain ⟨waiting, early, waits, earlySplit, earlyKeys, earlyModifiers, earlyManager⟩ :=
    post_run between _ _ cleared
  have released : (Logged.step ((between.map Action.post).foldl Logged.step
      (start.step .takePostedKeys)) (.releasePressedKeys pressedKeys timeStamp)).stage.manipulators =
      [waiting.releasePressedKeys pressedKeys timeStamp] := by
    change List.map _ _ = _
    rw [waits]
    rfl
  obtain ⟨after, late, final, lateSplit, lateKeys, lateModifiers, lateManager⟩ :=
    post_run later _ _ released
  have run : (releaseAll pressedKeys between timeStamp later).foldl Logged.step start =
      (later.map Action.post).foldl Logged.step (Logged.step ((between.map Action.post).foldl
        Logged.step (start.step .takePostedKeys)) (.releasePressedKeys pressedKeys timeStamp)) := by
    rw [releaseAll, List.foldl_append, List.foldl_cons, List.foldl_cons]
  rw [run] at postedToEnd ⊢
  have ended : after.keys.queue.events = [] :=
    postedToEnd after (by rw [final]; exact List.mem_singleton.mpr rfl)
  have allKeys : (pressedKeys.filter fun e => e.valid && !e.pointingButton) = pressedKeys := by
    refine List.filter_eq_self.mpr fun key held => ?_
    obtain ⟨valid, onPage⟩ := releasable key held
    have notButton : key.pointingButton = false := by
      refine Bool.eq_false_iff.mpr fun button => ?_
      have page : key.usagePair.usagePage = UsagePage.button := beq_iff_eq.mp button
      rw [MomentarySwitchEvent.OnKeyPage, page] at onPage
      exact absurd onPage (by decide)
    rw [valid, notButton]
    rfl
  obtain ⟨added, events, posted, keys, modifiers⟩ :=
    release_spec timeStamp pressedKeys releasable waiting.keys.queue
  have queue := releasePressedKeys_queue waiting pressedKeys timeStamp
  rw [allKeys] at queue
  refine ⟨after, final, ?_, ?_, ?_⟩
  · intro page usage
    rw [lateKeys, queue, keys, earlyKeys]
    rfl
  · intro flag reported
    rw [lateModifiers, queue, modifiers flag reported, earlyModifiers]
    rfl
  · intro key
    have manager : (waiting.releasePressedKeys pressedKeys
        timeStamp).keys.queue.virtualHidKeyboardPressedKeysManager =
        early.foldl PressedKeysManager.replay ⟨[]⟩ := by
      rw [queue, pressedKeysManager_release, earlyManager]
      rfl
    have order : late = waiting.keys.queue.events ++ added := by
      rw [ended, List.append_nil, queue, events] at lateSplit
      exact lateSplit.symm
    rw [lateManager, manager, order, List.foldl_append, posted, ← List.foldl_append,
      ← earlySplit, mem_foldl_replay]
    rfl

/-- In every reachable state: releasing all posted keys, with any posts before the
job runs, and posting the queue to the end leaves no key and no modifier on any page
and no posted key exactly when everything held had been posted before. -/
theorem releaseAll_iff [LawfulHidReport] (actions : List Action)
    (pressedKeys : List MomentarySwitchEvent) (between : List Int) (timeStamp : Int)
    (later : List Int)
    (taken : ∀ m ∈ (actions.foldl Logged.step Logged.initial).stage.manipulators,
      pressedKeys.Perm m.keys.queue.virtualHidKeyboardPressedKeysManager.entries)
    (postedToEnd : ∀ m ∈ ((releaseAll pressedKeys between timeStamp later).foldl Logged.step
      (actions.foldl Logged.step Logged.initial)).stage.manipulators, m.keys.queue.events = []) :
    ((releaseAll pressedKeys between timeStamp later).foldl Logged.step
        (actions.foldl Logged.step Logged.initial)).AllReleased ↔
      ∀ m ∈ (actions.foldl Logged.step Logged.initial).stage.manipulators, HeldKeysPosted m := by
  have reached := Logged.tracks_run actions Logged.initial ⟨_, rfl, tracks_initial⟩
  generalize actions.foldl Logged.step Logged.initial = start at taken postedToEnd reached
  obtain ⟨m, single, tracks⟩ := reached
  have same : ∀ key, key ∈ pressedKeys ↔
      key ∈ m.keys.queue.virtualHidKeyboardPressedKeysManager.entries :=
    fun key => (taken m (by rw [single]; exact List.mem_singleton.mpr rfl)).mem_iff
  have releasable : ∀ key ∈ pressedKeys, key.valid = true ∧ key.OnKeyPage :=
    fun key held => tracks.postedKeys key ((same key).mp held)
  obtain ⟨after, final, keys, modifiers, posted⟩ :=
    releaseAll_outcome start single pressedKeys releasable between timeStamp later postedToEnd
  obtain ⟨_, final', finalTracks⟩ := Logged.tracks_run
    (releaseAll pressedKeys between timeStamp later) start ⟨m, single, tracks⟩
  rw [final] at final'
  obtain rfl := (List.cons.inj final').1
  have ended : after.keys.queue.events = [] :=
    postedToEnd after (by rw [final]; exact List.mem_singleton.mpr rfl)
  have reports : ∀ page, lastReport page ((releaseAll pressedKeys between timeStamp later).foldl
      Logged.step start).posted = after.keys.queue.report page := by
    intro page
    have last := finalTracks.reports page
    rwa [ended, List.append_nil] at last
  unfold Logged.AllReleased HeldKeysPosted
  rw [final, single, List.forall_mem_singleton, List.forall_mem_singleton]
  simp only [reports]
  rw [nothingHeld_report_iff, and_assoc]
  refine and_congr ?_ (and_congr ?_ ?_)
  · refine forall_congr' fun page => forall_congr' fun usage => ?_
    rw [keys page usage, not_and]
    simp only [not_forall, same, exists_prop, ne_eq, not_not]
  · refine forall_congr' fun flag => forall_congr' fun reported => ?_
    rw [← Bool.not_eq_true, modifiers flag reported, not_and]
    simp only [not_forall, same, exists_prop, ne_eq, not_not]
  · rw [List.eq_nil_iff_forall_not_mem]
    refine forall_congr' fun key => ?_
    rw [posted key, same key, not_and, not_not, and_imp]

/-- The key_down of `b` has been posted when the key_down of `a` arrives. -/
def waitingKey : List Action :=
  [.push (.original 1 10 (.momentarySwitchEvent
      (.make UsagePage.keyboardOrKeypad Usage.keyboardB)) .keyDown),
    .manipulate 10 false, .post 10000000,
    .push (.original 1 20000000 (.momentarySwitchEvent
      (.make UsagePage.keyboardOrKeypad Usage.keyboardA)) .keyDown),
    .manipulate 20000000 false]

omit [HidReportLibrary] [MachTimebase] [ExpressionLibrary] in
/-- A key that waits in the queue is released together with those that have been posted. -/
theorem releaseAll_iff_waitingKey :
    let _ := listReports
    let _ := nanosecondTimebase
    let _ := zeroExpressions
    let start := waitingKey.foldl Logged.step Logged.initial
    let keyB := MomentarySwitchEvent.make UsagePage.keyboardOrKeypad Usage.keyboardB
    ((releaseAll [keyB] [20000000] 20000000 [1000000000]).foldl Logged.step start).AllReleased ↔
      ∀ m ∈ start.stage.manipulators, HeldKeysPosted m :=
  let _ := listReports
  let _ := nanosecondTimebase
  let _ := zeroExpressions
  have := lawful_listReports
  releaseAll_iff waitingKey [.make UsagePage.keyboardOrKeypad Usage.keyboardB] [20000000] 20000000
    [1000000000] (by decide) (by decide)

omit [HidReportLibrary] [MachTimebase] [ExpressionLibrary] in
/-- The key_down of `a` still waits when the posted keys are taken, and `a` stays
down for ever. -/
theorem waitingKey_notReleased :
    let _ := listReports
    let _ := nanosecondTimebase
    let _ := zeroExpressions
    let start := waitingKey.foldl Logged.step Logged.initial
    let keyA := MomentarySwitchEvent.make UsagePage.keyboardOrKeypad Usage.keyboardA
    let keyB := MomentarySwitchEvent.make UsagePage.keyboardOrKeypad Usage.keyboardB
    let final := (releaseAll [keyB] [] 20000000 [1000000000]).foldl Logged.step start
    (start.stage.manipulators.map
        (·.keys.queue.virtualHidKeyboardPressedKeysManager.entries)) = [[keyB]] ∧
      (final.stage.manipulators.map (·.keys.queue.events.length)) = [0] ∧
      (final.stage.manipulators.map
        (·.keys.queue.virtualHidKeyboardPressedKeysManager.entries)) = [[keyA]] ∧
      lastReport .keyboardOrKeypad final.posted = .keyInput .keyboardOrKeypad [4] (some []) ∧
      ¬ final.AllReleased := by
  let _ := listReports
  let _ := nanosecondTimebase
  let _ := zeroExpressions
  refine ⟨by decide, by decide, by decide, rfl, fun released => ?_⟩
  have nothing := released.1 .keyboardOrKeypad
  exact nothing.1 4 (by decide)

end PostingStage

end Karabiner

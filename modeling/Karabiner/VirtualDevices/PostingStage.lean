import Karabiner.VirtualDevices.PostEventToVirtualDevices

/-! # Runs of the last stage

The last stage of the pipeline and what can happen to it. Two facts hold of every
reachable state: no usage pair is held twice, and no modifier is held as a key.
They rest on one relation, `KeyDispatch.Releases`, which bounds the keys a call of
the dispatcher may release or enqueue.
-/

namespace Karabiner

variable [HidReportLibrary] [MachTimebase]

/-- Everything enqueued between two states of the queue is about allowed keys. -/
def PostedEventQueue.EnqueuesOnly (allowed : UsagePair → Prop) (before after : PostedEventQueue) :
    Prop :=
  ∃ added, after.events = before.events ++ added ∧ ∀ event ∈ added, ∀ key eventType,
    event.postedMomentarySwitchEvent = some (key, eventType) → allowed key.usagePair

namespace PostedEventQueue

variable {allowed : UsagePair → Prop}

omit [MachTimebase] in
theorem EnqueuesOnly.refl (queue : PostedEventQueue) : EnqueuesOnly allowed queue queue :=
  ⟨[], (List.append_nil _).symm, fun _ member => absurd member List.not_mem_nil⟩

omit [MachTimebase] in
theorem EnqueuesOnly.trans {first second third : PostedEventQueue}
    (early : EnqueuesOnly allowed first second) (late : EnqueuesOnly allowed second third) :
    EnqueuesOnly allowed first third := by
  obtain ⟨added, events, keys⟩ := early
  obtain ⟨more, moreEvents, moreKeys⟩ := late
  refine ⟨added ++ more, by rw [moreEvents, events, List.append_assoc], ?_⟩
  intro event member
  rcases List.mem_append.mp member with member | member
  · exact keys event member
  · exact moreKeys event member

omit [MachTimebase] in
theorem EnqueuesOnly.imp {wider : UsagePair → Prop} (weaker : ∀ key, allowed key → wider key)
    {before after : PostedEventQueue} (only : EnqueuesOnly allowed before after) :
    EnqueuesOnly wider before after := by
  obtain ⟨added, events, keys⟩ := only
  exact ⟨added, events, fun event member key eventType posted =>
    weaker _ (keys event member key eventType posted)⟩

theorem enqueuesOnly_emplaceBackKeyEvent (queue : PostedEventQueue) (usagePair : UsagePair)
    (eventType : EventType) (timeStamp : Int) (allow : allowed usagePair) :
    EnqueuesOnly allowed queue (queue.emplaceBackKeyEvent usagePair eventType timeStamp) := by
  obtain ⟨added, events, posted⟩ :=
    queue.emplaceBackKeyEvent_events usagePair eventType timeStamp
  refine ⟨added, events, fun event member key type same => ?_⟩
  rw [posted event member] at same
  obtain ⟨rfl, rfl⟩ := Prod.mk.inj (Option.some.inj same)
  exact allow

theorem enqueuesOnly_emplaceBackPointingInput (queue : PostedEventQueue) (report : PointingInput)
    (eventType : EventType) (timeStamp : Int) :
    EnqueuesOnly allowed queue (queue.emplaceBackPointingInput report eventType timeStamp) := by
  refine ⟨[_], rfl, ?_⟩
  intro event member key type posted
  rw [List.mem_singleton.mp member] at posted
  cases posted

end PostedEventQueue

namespace KeyDispatch

/-- Between two states only allowed keys have been released or enqueued. -/
structure Releases (allowed : UsagePair → Prop) (before after : KeyDispatch) : Prop where
  sublist : after.dispatcher.pressedKeys.Sublist before.dispatcher.pressedKeys
  kept : ∀ k ∈ before.dispatcher.pressedKeys, ¬ allowed k.2 → k ∈ after.dispatcher.pressedKeys
  enqueued : PostedEventQueue.EnqueuesOnly allowed before.queue after.queue

section Releases

variable {allowed : UsagePair → Prop}

omit [MachTimebase] in
theorem Releases.refl (state : KeyDispatch) : Releases allowed state state :=
  ⟨List.Sublist.refl _, fun _ member _ => member, .refl state.queue⟩

omit [MachTimebase] in
theorem Releases.trans {first second third : KeyDispatch} (early : Releases allowed first second)
    (late : Releases allowed second third) : Releases allowed first third where
  sublist := late.sublist.trans early.sublist
  kept := fun k member other => late.kept k (early.kept k member other) other
  enqueued := early.enqueued.trans late.enqueued

theorem releases_enqueueKeyEvent (state : KeyDispatch) (usagePair : UsagePair)
    (eventType : EventType) (timeStamp : Int) (allow : allowed usagePair) :
    Releases allowed state (state.enqueueKeyEvent usagePair eventType timeStamp) :=
  ⟨List.Sublist.refl _, fun _ member _ => member,
    state.queue.enqueuesOnly_emplaceBackKeyEvent usagePair eventType timeStamp allow⟩

/-- A key_up enqueues releases of its own key only. -/
theorem releases_dispatchKeyUpEvent (state : KeyDispatch) (usagePair : UsagePair)
    (timeStamp : Int) (allow : allowed usagePair) :
    Releases allowed state (state.dispatchKeyUpEvent usagePair timeStamp) := by
  refine ⟨?_, ?_, ?_⟩
  · rw [pressedKeys_dispatchKeyUpEvent]
    exact List.filter_sublist
  · intro k member other
    rw [pressedKeys_dispatchKeyUpEvent]
    refine List.mem_filter.mpr ⟨member, ?_⟩
    have different : k.2 ≠ usagePair := fun same => other (same ▸ allow)
    simpa using different
  · unfold dispatchKeyUpEvent
    split
    · exact state.queue.enqueuesOnly_emplaceBackKeyEvent usagePair .keyUp timeStamp allow
    · exact .refl state.queue

/-- The key of a modifier flag the dispatcher runs over. -/
def ModifierKey (usagePair : UsagePair) : Prop :=
  ∃ flag ∈ dispatchedFlags, usagePair = (MomentarySwitchEvent.ofModifierFlag flag).usagePair

/-- Sending a modifier enqueues events of its own key only. -/
theorem releases_sendModifier (state : KeyDispatch) (flag : ModifierFlag) (eventType : EventType)
    (timeStamp : Int) (allow : allowed (MomentarySwitchEvent.ofModifierFlag flag).usagePair) :
    Releases allowed state (state.sendModifier flag eventType timeStamp) := by
  unfold sendModifier
  split
  · rename_i capsLock
    subst capsLock
    have tap : ∀ released : KeyDispatch, Releases allowed released
        ((released.enqueueKeyEvent (MomentarySwitchEvent.ofModifierFlag .capsLock).usagePair
          .keyDown timeStamp).enqueueKeyEvent
          (MomentarySwitchEvent.ofModifierFlag .capsLock).usagePair .keyUp timeStamp) :=
      fun released =>
        (releases_enqueueKeyEvent released _ .keyDown timeStamp allow).trans
          (releases_enqueueKeyEvent _ _ .keyUp timeStamp allow)
    unfold sendCapsLock
    dsimp only
    split
    · exact (releases_dispatchKeyUpEvent state _ timeStamp allow).trans (tap _)
    · exact tap state
  · dsimp only
    split
    · exact releases_enqueueKeyEvent state _ eventType timeStamp allow
    · exact .refl state

omit [MachTimebase] in
theorem releases_setPressedModifierFlags (state : KeyDispatch) (flags : Finset ModifierFlag) :
    Releases allowed state (state.setPressedModifierFlags flags) :=
  ⟨List.Sublist.refl _, fun _ member _ => member, .refl state.queue⟩

/-- Dispatching the modifiers enqueues modifier keys only, and of the held keys
releases at most caps lock. -/
theorem releases_dispatchModifierKeyEvent (state : KeyDispatch) (manager : ModifierFlagManager)
    (timeStamp : Int) :
    Releases ModifierKey state (state.dispatchModifierKeyEvent manager timeStamp) := by
  have step : ∀ reached : KeyDispatch, ∀ flag ∈ dispatchedFlags,
      Releases ModifierKey reached (dispatchModifierFlag manager timeStamp reached flag) := by
    intro reached flag dispatched
    have send : ∀ flags eventType, Releases ModifierKey reached
        ((reached.setPressedModifierFlags flags).sendModifier flag eventType timeStamp) :=
      fun flags eventType => (releases_setPressedModifierFlags reached flags).trans
        (releases_sendModifier _ flag eventType timeStamp ⟨flag, dispatched, rfl⟩)
    unfold dispatchModifierFlag
    dsimp only
    split
    · split
      · exact .refl reached
      · exact send _ _
    · split
      · exact send _ _
      · exact .refl reached
  have run : ∀ flags : List ModifierFlag, (∀ flag ∈ flags, flag ∈ dispatchedFlags) →
      ∀ reached : KeyDispatch, Releases ModifierKey reached
        (flags.foldl (dispatchModifierFlag manager timeStamp) reached) := by
    intro flags
    induction flags with
    | nil => exact fun _ reached => .refl reached
    | cons flag rest ih =>
        intro dispatched reached
        exact (step reached flag (dispatched flag List.mem_cons_self)).trans
          (ih (fun other member => dispatched other (List.mem_cons_of_mem _ member)) _)
  exact run dispatchedFlags (fun _ member => member) state

/-- Releasing the keys of a device releases and enqueues keys of that device only. -/
theorem releases_dispatchKeyUpEventsByDeviceId (state : KeyDispatch) (deviceId : DeviceId)
    (timeStamp : Int) :
    Releases (fun usagePair => (deviceId, usagePair) ∈ state.dispatcher.pressedKeys) state
      (state.dispatchKeyUpEventsByDeviceId deviceId timeStamp) := by
  refine dispatchKeyUpEventsLoop_induction deviceId timeStamp ?_ _ state (.refl state)
  intro reached releases k member device
  refine releases.trans (releases_dispatchKeyUpEvent reached k.2 timeStamp ?_)
  rw [← device]
  exact releases.sublist.subset member

end Releases

/-! ## What every reachable state of the dispatcher satisfies -/

/-- No usage pair is held twice, no modifier is held as a key, and only flags that
are dispatched are pressed. -/
structure Sound (state : KeyDispatch) : Prop where
  nodup : (state.dispatcher.pressedKeys.map Prod.snd).Nodup
  noModifier : ∀ k ∈ state.dispatcher.pressedKeys,
    (MomentarySwitchEvent.mk k.2).makeModifierFlag = none
  flags : ∀ flag ∈ state.dispatcher.pressedModifierFlags, flag ∈ dispatchedFlags

omit [MachTimebase] in
theorem sound_initial : Sound KeyDispatch.initial where
  nodup := List.nodup_nil
  noModifier := fun _ member => absurd member List.not_mem_nil
  flags := fun _ member => absurd member (Finset.notMem_empty _)

omit [MachTimebase] in
/-- Releasing keys keeps a state sound. -/
theorem Sound.of_releases {before after : KeyDispatch} (sound : Sound before)
    {allowed : UsagePair → Prop} (releases : Releases allowed before after)
    (flags : ∀ flag ∈ after.dispatcher.pressedModifierFlags, flag ∈ dispatchedFlags) :
    Sound after where
  nodup := sound.nodup.sublist (releases.sublist.map Prod.snd)
  noModifier := fun k member => sound.noModifier k (releases.sublist.subset member)
  flags := flags

/-- A key_down of a key that is no modifier keeps the dispatcher sound: modifiers are pressed as
flags only. -/
theorem Sound.dispatchKeyDownEvent {state : KeyDispatch} (sound : Sound state)
    (deviceId : DeviceId) (usagePair : UsagePair) (timeStamp : Int)
    (noModifier : (MomentarySwitchEvent.mk usagePair).makeModifierFlag = none) :
    Sound (state.dispatchKeyDownEvent deviceId usagePair timeStamp) := by
  unfold KeyDispatch.dispatchKeyDownEvent
  split
  · exact sound
  rename_i absent
  refine ⟨?_, ?_, sound.flags⟩
  · exact nodup_pressedKeys_append sound.nodup absent deviceId
  · intro k member
    rcases List.mem_append.mp member with member | member
    · exact sound.noModifier k member
    · rw [List.mem_singleton.mp member]
      exact noModifier

theorem Sound.dispatchKeyUpEvent {state : KeyDispatch} (sound : Sound state)
    (usagePair : UsagePair) (timeStamp : Int) :
    Sound (state.dispatchKeyUpEvent usagePair timeStamp) := by
  have releases : Releases (fun _ => True) state (state.dispatchKeyUpEvent usagePair timeStamp) :=
    releases_dispatchKeyUpEvent state usagePair timeStamp trivial
  refine sound.of_releases releases ?_
  unfold KeyDispatch.dispatchKeyUpEvent
  split
  · exact sound.flags
  · exact sound.flags

theorem Sound.dispatchModifierKeyEvent {state : KeyDispatch} (sound : Sound state)
    (manager : ModifierFlagManager) (timeStamp : Int) :
    Sound (state.dispatchModifierKeyEvent manager timeStamp) := by
  refine sound.of_releases (releases_dispatchModifierKeyEvent state manager timeStamp) ?_
  intro flag member
  by_contra notDispatched
  have before := (mem_foldl_dispatchModifierFlag manager timeStamp dispatchedFlags state flag).mp
    member
  rw [if_neg notDispatched] at before
  exact notDispatched (sound.flags flag before)

theorem Sound.dispatchKeyUpEventsByDeviceId {state : KeyDispatch} (sound : Sound state)
    (deviceId : DeviceId) (timeStamp : Int) :
    Sound (state.dispatchKeyUpEventsByDeviceId deviceId timeStamp) :=
  dispatchKeyUpEventsLoop_induction deviceId timeStamp
    (fun _ reached k _ _ => reached.dispatchKeyUpEvent k.2 timeStamp) _ state sound

end KeyDispatch

namespace PostEventToVirtualDevices

theorem sound_postKey {m : PostEventToVirtualDevices} (sound : m.keys.Sound) (front : Entry)
    (event : MomentarySwitchEvent) (output : EventQueue) (noModifier : event.modifierFlag = false) :
    (m.postKey front event output).keys.Sound := by
  have plain : event.makeModifierFlag = none := by
    simpa [MomentarySwitchEvent.modifierFlag] using noModifier
  unfold postKey
  split
  · exact sound.dispatchKeyDownEvent _ _ _ plain
  · exact sound.dispatchKeyUpEvent _ _
  · exact sound

/-- Posting an event keeps the dispatcher sound. -/
theorem sound_postEvent {m : PostEventToVirtualDevices} (sound : m.keys.Sound) (front : Entry)
    (output : EventQueue) : (m.postEvent front output).keys.Sound := by
  have command : ∀ value, (m.postCommand front value).keys.Sound := by
    intro value
    unfold postCommand
    split <;> exact ⟨sound.nodup, sound.noModifier, sound.flags⟩
  have pointing : (m.postPointingInputReport front output).keys.Sound :=
    ⟨sound.nodup, sound.noModifier, sound.flags⟩
  unfold postEvent
  cases front.event with
  | momentarySwitchEvent event =>
      dsimp only
      split
      · split
        · exact pointing
        · split
          · exact sound
          · rename_i noModifier
            exact sound_postKey sound front event output (Bool.eq_false_iff.mpr noModifier)
      · exact sound
  | pointingMotion motion => exact pointing
  | shellCommand text => exact command _
  | sendUserCommand json => exact command _
  | selectInputSource specifiers => exact command _
  | softwareFunction json => exact command _
  | mouseKey key =>
      dsimp only
      split <;> exact sound
  | stopKeyboardRepeat =>
      dsimp only
      split
      · exact sound.dispatchKeyUpEvent _ _
      · exact sound
  | _ => exact sound

omit [MachTimebase] in
/-- Synchronizing caps lock keeps the dispatcher sound. -/
theorem sound_synchronizeCapsLock {m : PostEventToVirtualDevices} (sound : m.keys.Sound)
    (front : Entry) (output : EventQueue) : (m.synchronizeCapsLock front output).keys.Sound := by
  unfold synchronizeCapsLock
  cases front.event with
  | capsLockStateChanged state =>
      dsimp only
      split
      · split
        · refine ⟨sound.nodup, sound.noModifier, fun flag member => ?_⟩
          rcases Finset.mem_insert.mp member with rfl | before
          · decide
          · exact sound.flags flag before
        · exact ⟨sound.nodup, sound.noModifier,
            fun flag member => sound.flags flag (Finset.mem_of_mem_erase member)⟩
      · exact sound
  | _ => exact sound

/-- The manipulator keeps its dispatcher sound, whatever the front entry is. -/
theorem sound_manipulate [ExpressionLibrary] {m : PostEventToVirtualDevices}
    (sound : m.keys.Sound) (front : Entry) (output : EventQueue) :
    (m.manipulate front output).1.keys.Sound := by
  have synchronized := sound_synchronizeCapsLock sound front output
  unfold manipulate
  split
  · exact sound
  dsimp only
  have before : (if (m.synchronizeCapsLock front output).dispatchesBefore front = true then
      (m.synchronizeCapsLock front output).dispatchModifierKeyEvent output.modifierFlagManager
        front.eventTimeStamp.timeStamp
      else m.synchronizeCapsLock front output).keys.Sound := by
    split
    · exact synchronized.dispatchModifierKeyEvent _ _
    · exact synchronized
  have posted := sound_postEvent before { front with validity := .invalid }
    (output.pushBackEntry front)
  split
  · exact posted.dispatchModifierKeyEvent _ _
  · exact posted

theorem sound_reportButtons {m : PostEventToVirtualDevices} (sound : m.keys.Sound)
    (output : EventQueue) (timeStamp : Int) : (m.reportButtons output timeStamp).keys.Sound := by
  unfold reportButtons
  dsimp only
  split
  · exact sound
  · exact ⟨sound.nodup, sound.noModifier, sound.flags⟩

theorem sound_handleReleased {m : PostEventToVirtualDevices} (sound : m.keys.Sound)
    (front : Entry) (output : EventQueue) :
    (m.handleDeviceKeysAndPointingButtonsAreReleasedEvent front output).1.keys.Sound := by
  have dispatched : (m.dispatchModifierKeyEvent output.modifierFlagManager
      front.eventTimeStamp.timeStamp).keys.Sound := sound.dispatchModifierKeyEvent _ _
  exact sound_reportButtons dispatched _ _

theorem sound_handleDeviceUngrabbedEvent {m : PostEventToVirtualDevices} (sound : m.keys.Sound)
    (deviceId : DeviceId) (output : EventQueue) (timeStamp : Int) :
    (m.handleDeviceUngrabbedEvent deviceId output timeStamp).keys.Sound := by
  have released : ({ m with
      keys := m.keys.dispatchKeyUpEventsByDeviceId deviceId timeStamp } :
      PostEventToVirtualDevices).keys.Sound := sound.dispatchKeyUpEventsByDeviceId _ _
  exact (sound_reportButtons released output timeStamp).dispatchModifierKeyEvent _ _

theorem sound_handlePointing {m : PostEventToVirtualDevices} (sound : m.keys.Sound)
    (front : Entry) (output : EventQueue) :
    (m.handlePointingDeviceEventFromEventTap front output).keys.Sound := by
  unfold handlePointingDeviceEventFromEventTap
  split
  · split
    · exact sound.dispatchModifierKeyEvent _ _
    · exact sound
  · split
    · exact sound.dispatchModifierKeyEvent _ _
    · exact sound
  · exact sound

end PostEventToVirtualDevices

/-! ## Runs of the last stage -/

/-- The last stage: a manager whose manipulator posts to the virtual devices. -/
abbrev PostingStage := Stage PostEventToVirtualDevices

namespace PostingStage

open PostEventToVirtualDevices

def initial : PostingStage := ⟨[.initial], .initial, .initial⟩

/-- What can happen to the last stage: entries arrive, the manager is called, the
output queue is cleared, queued events are posted, the timer of the mouse key
handler posts a report, the posted keys are taken and released, and the pressed
modifier flags are forgotten. The client of the virtual devices outlives the stage. -/
inductive Action where
  | push (entry : Entry)
  | manipulate (now : Int) (reorder : Bool)
  | clearOutput
  | post (now : Int)
  | mouseKeyReport (x y verticalWheel horizontalWheel timeStamp : Int)
  | takePostedKeys
  | clearPressedModifierFlags
  | releasePressedKeys (pressedKeys : List MomentarySwitchEvent) (timeStamp : Int)

variable [ExpressionLibrary]

def step (stage : PostingStage) : Action → PostingStage
  | .push entry => { stage with input := stage.input.pushBackEntry entry }
  | .manipulate now reorder => (stage.manipulate now reorder).2
  | .clearOutput => { stage with output := stage.output.clearEvents }
  | .post now =>
      { stage with manipulators := stage.manipulators.map fun m => (m.asyncPostEvents true now).2 }
  | .mouseKeyReport x y verticalWheel horizontalWheel timeStamp =>
      { stage with
        manipulators := stage.manipulators.map fun m =>
          m.postMouseKeyReport stage.output x y verticalWheel horizontalWheel timeStamp }
  | .takePostedKeys =>
      { stage with
        manipulators := stage.manipulators.map clearVirtualHidKeyboardPressedKeys }
  | .clearPressedModifierFlags =>
      { stage with
        manipulators := stage.manipulators.map fun m =>
          { m with keys := m.keys.clearPressedModifierFlags } }
  | .releasePressedKeys pressedKeys timeStamp =>
      { stage with
        manipulators := stage.manipulators.map fun m => m.releasePressedKeys pressedKeys timeStamp }

/-- Every reachable last stage has its one manipulator, with a sound dispatcher, and
lists presses of buttons only. -/
structure Invariant (stage : PostingStage) : Prop where
  manipulator : ∃ m, stage.manipulators = [m] ∧ m.keys.Sound
  presses : stage.output.pointingButtonManager.OnlyPresses

omit [MachTimebase] [ExpressionLibrary] in
theorem invariant_initial : Invariant PostingStage.initial :=
  ⟨⟨_, rfl, KeyDispatch.sound_initial⟩, PointingButtonManager.onlyPresses_empty⟩

omit [HidReportLibrary] [MachTimebase] in
theorem onlyPresses_pushBackEntry {queue : EventQueue}
    (presses : queue.pointingButtonManager.OnlyPresses) (entry : Entry) :
    (queue.pushBackEntry entry).pointingButtonManager.OnlyPresses := by
  change (EventQueue.updatePointingButtons queue.pointingButtonManager _ _ _).OnlyPresses
  unfold EventQueue.updatePointingButtons
  split
  · split
    · exact presses.push _
    · exact presses
  · exact presses

omit [HidReportLibrary] [MachTimebase] in
theorem onlyPresses_finishFront {M : Type} (input : EventQueue) (result : Stage.LoopResult M)
    (reorder : Bool) (presses : result.output.pointingButtonManager.OnlyPresses) :
    (Stage.finishFront input result reorder).output.pointingButtonManager.OnlyPresses := by
  have pushed : (if result.front.validity = .valid then result.output.pushBackEntry result.front
      else result.output).pointingButtonManager.OnlyPresses := by
    split
    · exact onlyPresses_pushBackEntry presses _
    · exact presses
  unfold Stage.finishFront
  dsimp only
  split
  · exact pushed
  · exact pushed

/-- The manipulator never makes the manager wait, and the switch on the front entry
keeps it sound. -/
theorem dispatchFront_sound {stage : PostingStage} (invariant : Invariant stage) (front : Entry)
    (rest : List Entry) (now : Int) :
    (stage.dispatchFront front rest now).waits = false ∧
      (∃ m, (stage.dispatchFront front rest now).manipulators = [m] ∧ m.keys.Sound) ∧
      (stage.dispatchFront front rest now).output.pointingButtonManager.OnlyPresses := by
  obtain ⟨⟨m, single, sound⟩, presses⟩ := invariant
  unfold Stage.dispatchFront
  rw [single]
  cases Stage.eventKind front.event with
  | keysReleased =>
      exact ⟨rfl, ⟨_, rfl, sound_handleReleased sound front _⟩, presses.erase front.deviceId⟩
  | deviceUngrabbed =>
      exact ⟨rfl, ⟨_, rfl, sound_handleDeviceUngrabbedEvent sound front.deviceId _ _⟩,
        presses.erase front.deviceId⟩
  | fromEventTap => exact ⟨rfl, ⟨_, rfl, sound_handlePointing sound front _⟩, presses⟩
  | ignored => exact ⟨rfl, ⟨m, rfl, sound⟩, presses⟩
  | manipulated =>
      dsimp only
      split
      · exact ⟨rfl, ⟨m, rfl, sound⟩, presses⟩
      · refine ⟨rfl, ⟨_, rfl, sound_manipulate sound front stage.output⟩, ?_⟩
        change (m.manipulate front stage.output).2.2.pointingButtonManager.OnlyPresses
        unfold PostEventToVirtualDevices.manipulate
        split
        · exact presses
        · exact onlyPresses_pushBackEntry presses front

/-- A manipulation of the stage keeps its invariant. -/
theorem invariant_manipulate {stage : PostingStage} (invariant : Invariant stage) (now : Int)
    (reorder : Bool) : Invariant (stage.manipulate now reorder).2 := by
  cases next : stage.input.events with
  | nil =>
      obtain ⟨⟨m, single, sound⟩, presses⟩ := invariant
      unfold Stage.manipulate
      rw [next, single]
      exact ⟨⟨m, rfl, sound⟩, presses⟩
  | cons front rest =>
      obtain ⟨waits, manipulator, presses⟩ := dispatchFront_sound invariant front rest now
      rw [Stage.manipulate_of_not_waits next waits]
      exact ⟨manipulator, onlyPresses_finishFront stage.input _ reorder presses⟩

/-- Every action of the stage keeps its invariant. -/
theorem invariant_step (stage : PostingStage) (action : Action) (invariant : Invariant stage) :
    Invariant (stage.step action) := by
  cases action with
  | manipulate now reorder => exact invariant_manipulate invariant now reorder
  | push entry => exact ⟨invariant.manipulator, invariant.presses⟩
  | clearOutput => exact ⟨invariant.manipulator, invariant.presses⟩
  | post now =>
      obtain ⟨m, single, sound⟩ := invariant.manipulator
      refine ⟨⟨(m.asyncPostEvents true now).2, ?_, ?_⟩, invariant.presses⟩
      · simp only [step, single, List.map_cons, List.map_nil]
      · exact ⟨sound.nodup, sound.noModifier, sound.flags⟩
  | mouseKeyReport x y verticalWheel horizontalWheel timeStamp =>
      obtain ⟨m, single, sound⟩ := invariant.manipulator
      refine ⟨⟨m.postMouseKeyReport stage.output x y verticalWheel horizontalWheel timeStamp,
        ?_, ?_⟩, invariant.presses⟩
      · simp only [step, single, List.map_cons, List.map_nil]
      · exact ⟨sound.nodup, sound.noModifier, sound.flags⟩
  | takePostedKeys =>
      obtain ⟨m, single, sound⟩ := invariant.manipulator
      refine ⟨⟨m.clearVirtualHidKeyboardPressedKeys, ?_, ?_⟩, invariant.presses⟩
      · simp only [step, single, List.map_cons, List.map_nil]
      · exact ⟨sound.nodup, sound.noModifier, sound.flags⟩
  | clearPressedModifierFlags =>
      obtain ⟨m, single, sound⟩ := invariant.manipulator
      refine ⟨⟨{ m with keys := m.keys.clearPressedModifierFlags }, ?_, ?_⟩, invariant.presses⟩
      · simp only [step, single, List.map_cons, List.map_nil]
      · exact ⟨sound.nodup, sound.noModifier, fun _ member => absurd member (Finset.notMem_empty _)⟩
  | releasePressedKeys pressedKeys timeStamp =>
      obtain ⟨m, single, sound⟩ := invariant.manipulator
      refine ⟨⟨m.releasePressedKeys pressedKeys timeStamp, ?_, ?_⟩, invariant.presses⟩
      · simp only [step, single, List.map_cons, List.map_nil]
      · unfold PostEventToVirtualDevices.releasePressedKeys
        split
        · exact sound
        · exact ⟨List.nodup_nil, fun _ member => absurd member List.not_mem_nil,
            fun _ member => absurd member (Finset.notMem_empty _)⟩

theorem invariant_run (actions : List Action) :
    Invariant (actions.foldl step PostingStage.initial) :=
  Foundation.Execution.invariant_of_steps invariant_step invariant_initial actions

end PostingStage

end Karabiner

import Mathlib.Data.Finset.Insert
import Mathlib.Data.Finset.Erase
import Mathlib.Data.Finset.Dedup
import Karabiner.Foundation.Execution
import Karabiner.ModifierFlags.Manager
import Karabiner.VirtualDevices.Queue

/-! # The key event dispatcher

`key_event_dispatcher` remembers which keys and modifiers the virtual devices
hold, so that a key is pressed once however many devices press it. Keys and
modifiers travel separately and caps lock in both ways; the reports of the queue
nevertheless always show exactly the keys and modifiers remembered here.
-/

namespace Karabiner

/-- `key_event_dispatcher`. -/
structure KeyEventDispatcher where
  pressedKeys : List (DeviceId × UsagePair)
  pressedModifierFlags : Finset ModifierFlag

variable [HidReportLibrary] [MachTimebase]

/-- The dispatcher together with the queue its functions write to. -/
structure KeyDispatch where
  dispatcher : KeyEventDispatcher
  queue : PostedEventQueue

namespace KeyDispatch

def initial : KeyDispatch := ⟨⟨[], ∅⟩, .initial⟩

/-- `key_event_exists`. -/
def keyEventExists (state : KeyDispatch) (usagePair : UsagePair) : Bool :=
  state.dispatcher.pressedKeys.any fun k => k.2 == usagePair

/-- `enqueue_key_event`. -/
def enqueueKeyEvent (state : KeyDispatch) (usagePair : UsagePair) (eventType : EventType)
    (timeStamp : Int) : KeyDispatch :=
  { state with queue := state.queue.emplaceBackKeyEvent usagePair eventType timeStamp }

def setPressedKeys (state : KeyDispatch) (pressedKeys : List (DeviceId × UsagePair)) :
    KeyDispatch :=
  { state with dispatcher := { state.dispatcher with pressedKeys := pressedKeys } }

def setPressedModifierFlags (state : KeyDispatch) (flags : Finset ModifierFlag) : KeyDispatch :=
  { state with dispatcher := { state.dispatcher with pressedModifierFlags := flags } }

/-- `dispatch_key_down_event`: enqueue a key_down unless it was sent already. -/
def dispatchKeyDownEvent (state : KeyDispatch) (deviceId : DeviceId) (usagePair : UsagePair)
    (timeStamp : Int) : KeyDispatch :=
  if state.keyEventExists usagePair then state
  else
    (state.setPressedKeys (state.dispatcher.pressedKeys ++ [(deviceId, usagePair)])).enqueueKeyEvent
      usagePair .keyDown timeStamp

/-- `dispatch_key_up_event`: enqueue a key_up if a key_down was sent. -/
def dispatchKeyUpEvent (state : KeyDispatch) (usagePair : UsagePair) (timeStamp : Int) :
    KeyDispatch :=
  if state.keyEventExists usagePair then
    (state.setPressedKeys
      (state.dispatcher.pressedKeys.filter fun k => !(k.2 == usagePair))).enqueueKeyEvent
      usagePair .keyUp timeStamp
  else state

/-- The caps lock handling at the end of the loop of
`dispatch_modifier_key_event`: caps lock is pressed and released. -/
def sendCapsLock (state : KeyDispatch) (timeStamp : Int) : KeyDispatch :=
  let usagePair := (MomentarySwitchEvent.ofModifierFlag .capsLock).usagePair
  let released := if state.keyEventExists usagePair then
      state.dispatchKeyUpEvent usagePair timeStamp
    else state
  (released.enqueueKeyEvent usagePair .keyDown timeStamp).enqueueKeyEvent usagePair .keyUp
    timeStamp

/-- Enqueue the key event of a modifier, or the press and release of caps lock. -/
def sendModifier (state : KeyDispatch) (flag : ModifierFlag) (eventType : EventType)
    (timeStamp : Int) : KeyDispatch :=
  if flag = .capsLock then state.sendCapsLock timeStamp
  else
    let event := MomentarySwitchEvent.ofModifierFlag flag
    if event.valid then state.enqueueKeyEvent event.usagePair eventType timeStamp else state

/-- One iteration of the loop of `dispatch_modifier_key_event`. -/
def dispatchModifierFlag (manager : ModifierFlagManager) (timeStamp : Int) (state : KeyDispatch)
    (flag : ModifierFlag) : KeyDispatch :=
  let pressed := state.dispatcher.pressedModifierFlags
  if manager.isPressed flag then
    if flag ∈ pressed then state
    else (state.setPressedModifierFlags (insert flag pressed)).sendModifier flag .keyDown timeStamp
  else
    if flag ∈ pressed then
      (state.setPressedModifierFlags (pressed.erase flag)).sendModifier flag .keyUp timeStamp
    else state

/-- The flags `dispatch_modifier_key_event` runs over: the general modifiers and
then caps lock. -/
def dispatchedFlags : List ModifierFlag :=
  [.leftControl, .leftShift, .leftOption, .leftCommand, .rightControl, .rightShift,
    .rightOption, .rightCommand, .fn, .capsLock]

/-- `dispatch_modifier_key_event`. -/
def dispatchModifierKeyEvent (state : KeyDispatch) (manager : ModifierFlagManager)
    (timeStamp : Int) : KeyDispatch :=
  dispatchedFlags.foldl (dispatchModifierFlag manager timeStamp) state

/-- The loop of `dispatch_key_up_events_by_device_id`: release the first key of
the device until there is none. -/
def dispatchKeyUpEventsLoop : Nat → DeviceId → Int → KeyDispatch → KeyDispatch
  | 0, _, _, state => state
  | fuel + 1, deviceId, timeStamp, state =>
      match state.dispatcher.pressedKeys.find? fun k => k.1 == deviceId with
      | some k =>
          dispatchKeyUpEventsLoop fuel deviceId timeStamp (state.dispatchKeyUpEvent k.2 timeStamp)
      | none => state

/-- `dispatch_key_up_events_by_device_id`. Every iteration erases a key, so the
number of keys bounds the iterations (`dispatchKeyUpEventsLoop_stable`). -/
def dispatchKeyUpEventsByDeviceId (state : KeyDispatch) (deviceId : DeviceId) (timeStamp : Int) :
    KeyDispatch :=
  dispatchKeyUpEventsLoop state.dispatcher.pressedKeys.length deviceId timeStamp state

def insertPressedModifierFlag (state : KeyDispatch) (flag : ModifierFlag) : KeyDispatch :=
  state.setPressedModifierFlags (insert flag state.dispatcher.pressedModifierFlags)

def erasePressedModifierFlag (state : KeyDispatch) (flag : ModifierFlag) : KeyDispatch :=
  state.setPressedModifierFlags (state.dispatcher.pressedModifierFlags.erase flag)

/-- `clear_pressed_modifier_flags`. -/
def clearPressedModifierFlags (state : KeyDispatch) : KeyDispatch :=
  state.setPressedModifierFlags ∅

/-- `key_event_dispatcher::clear`. -/
def clear (state : KeyDispatch) : KeyDispatch := { state with dispatcher := ⟨[], ∅⟩ }

/-! ## The loop over the keys of a device -/

omit [MachTimebase] in
theorem keyEventExists_iff (state : KeyDispatch) (usagePair : UsagePair) :
    state.keyEventExists usagePair = true ↔
      ∃ k ∈ state.dispatcher.pressedKeys, k.2 = usagePair := by
  simp [keyEventExists]

omit [MachTimebase] in
/-- A key is pressed only when its usage pair is not held, so that none is held twice. -/
theorem nodup_pressedKeys_append {state : KeyDispatch} {usagePair : UsagePair}
    (nodup : (state.dispatcher.pressedKeys.map Prod.snd).Nodup)
    (absent : ¬ state.keyEventExists usagePair = true) (deviceId : DeviceId) :
    ((state.dispatcher.pressedKeys ++ [(deviceId, usagePair)]).map Prod.snd).Nodup := by
  rw [List.map_append, List.nodup_append]
  refine ⟨nodup, List.nodup_singleton _, ?_⟩
  intro held heldMember other otherMember same
  obtain ⟨k, member, rfl⟩ := List.mem_map.mp heldMember
  rw [List.map_singleton, List.mem_singleton] at otherMember
  exact absent ((keyEventExists_iff state usagePair).mpr ⟨k, member, same.trans otherMember⟩)

theorem pressedKeys_dispatchKeyUpEvent (state : KeyDispatch) (usagePair : UsagePair)
    (timeStamp : Int) :
    (state.dispatchKeyUpEvent usagePair timeStamp).dispatcher.pressedKeys =
      state.dispatcher.pressedKeys.filter fun k => !(k.2 == usagePair) := by
  unfold dispatchKeyUpEvent
  split
  · rfl
  · rename_i absent
    refine (List.filter_eq_self.mpr fun k member => ?_).symm
    have different : ¬ k.2 = usagePair := fun same =>
      absent ((keyEventExists_iff state usagePair).mpr ⟨k, member, same⟩)
    simpa using different

/-- Releasing a key that is held shortens the list of held keys. -/
theorem length_dispatchKeyUpEvent_lt (state : KeyDispatch) {k : DeviceId × UsagePair}
    (member : k ∈ state.dispatcher.pressedKeys) (timeStamp : Int) :
    (state.dispatchKeyUpEvent k.2 timeStamp).dispatcher.pressedKeys.length <
      state.dispatcher.pressedKeys.length := by
  rw [pressedKeys_dispatchKeyUpEvent]
  exact List.length_filter_lt_length_iff_exists.mpr ⟨k, member, by simp⟩

/-- Fuel beyond the number of held keys changes nothing: the loop ends by itself. -/
theorem dispatchKeyUpEventsLoop_stable (fuel extra : Nat) (deviceId : DeviceId) (timeStamp : Int)
    (state : KeyDispatch) (enough : state.dispatcher.pressedKeys.length ≤ fuel) :
    dispatchKeyUpEventsLoop (fuel + extra) deviceId timeStamp state =
      dispatchKeyUpEventsLoop fuel deviceId timeStamp state := by
  induction fuel generalizing state with
  | zero =>
      have empty : state.dispatcher.pressedKeys = [] :=
        List.length_eq_zero_iff.mp (Nat.le_zero.mp enough)
      cases extra with
      | zero => rfl
      | succ extra => simp [dispatchKeyUpEventsLoop, empty]
  | succ fuel ih =>
      rw [Nat.succ_add, dispatchKeyUpEventsLoop, dispatchKeyUpEventsLoop]
      cases found : state.dispatcher.pressedKeys.find? fun k => k.1 == deviceId with
      | none => rfl
      | some k =>
          have member := List.mem_of_find?_eq_some found
          have shorter := length_dispatchKeyUpEvent_lt state member timeStamp
          exact ih _ (by omega)

/-- What the loop over a device's keys preserves, given that releasing one of its
keys does. -/
theorem dispatchKeyUpEventsLoop_induction {motive : KeyDispatch → Prop} (deviceId : DeviceId)
    (timeStamp : Int)
    (release : ∀ state, motive state → ∀ k ∈ state.dispatcher.pressedKeys, k.1 = deviceId →
      motive (state.dispatchKeyUpEvent k.2 timeStamp))
    (fuel : Nat) (state : KeyDispatch) (start : motive state) :
    motive (dispatchKeyUpEventsLoop fuel deviceId timeStamp state) := by
  induction fuel generalizing state with
  | zero => exact start
  | succ fuel ih =>
      unfold dispatchKeyUpEventsLoop
      cases found : state.dispatcher.pressedKeys.find? fun k => k.1 == deviceId with
      | none => exact start
      | some k =>
          have member := List.mem_of_find?_eq_some found
          have device := List.find?_some found
          exact ih _ (release state start k member (beq_iff_eq.mp device))

/-- When the loop has ended no key of the device is held. -/
theorem dispatchKeyUpEventsLoop_released (fuel : Nat) (deviceId : DeviceId) (timeStamp : Int)
    (state : KeyDispatch) (enough : state.dispatcher.pressedKeys.length ≤ fuel) :
    ∀ k ∈ (dispatchKeyUpEventsLoop fuel deviceId timeStamp state).dispatcher.pressedKeys,
      k.1 ≠ deviceId := by
  induction fuel generalizing state with
  | zero =>
      have empty : state.dispatcher.pressedKeys = [] :=
        List.length_eq_zero_iff.mp (Nat.le_zero.mp enough)
      intro k member
      rw [dispatchKeyUpEventsLoop, empty] at member
      cases member
  | succ fuel ih =>
      unfold dispatchKeyUpEventsLoop
      cases found : state.dispatcher.pressedKeys.find? fun k => k.1 == deviceId with
      | none =>
          intro k member same
          exact List.find?_eq_none.mp found k member (beq_iff_eq.mpr same)
      | some k =>
          have member := List.mem_of_find?_eq_some found
          have shorter := length_dispatchKeyUpEvent_lt state member timeStamp
          exact ih _ (by omega)

/-! ## What the dispatcher does to the queue -/

/-- A relation of queues that holds along every call of `emplace_back_key_event`. The
dispatcher changes its queue by such calls only, so it holds along the dispatcher's functions
too. -/
structure KeyRelation (related : PostedEventQueue → PostedEventQueue → Prop) : Prop where
  refl : ∀ queue, related queue queue
  trans : ∀ {first second third}, related first second → related second third →
    related first third
  keyEvent : ∀ queue usagePair eventType timeStamp,
    related queue (queue.emplaceBackKeyEvent usagePair eventType timeStamp)

namespace KeyRelation

variable {related : PostedEventQueue → PostedEventQueue → Prop}

theorem enqueueKeyEvent (relation : KeyRelation related) (state : KeyDispatch)
    (usagePair : UsagePair) (eventType : EventType) (timeStamp : Int) :
    related state.queue (state.enqueueKeyEvent usagePair eventType timeStamp).queue :=
  relation.keyEvent state.queue usagePair eventType timeStamp

theorem dispatchKeyDownEvent (relation : KeyRelation related) (state : KeyDispatch)
    (deviceId : DeviceId) (usagePair : UsagePair) (timeStamp : Int) :
    related state.queue (state.dispatchKeyDownEvent deviceId usagePair timeStamp).queue := by
  unfold KeyDispatch.dispatchKeyDownEvent
  split
  · exact relation.refl state.queue
  · exact relation.keyEvent state.queue usagePair .keyDown timeStamp

theorem dispatchKeyUpEvent (relation : KeyRelation related) (state : KeyDispatch)
    (usagePair : UsagePair) (timeStamp : Int) :
    related state.queue (state.dispatchKeyUpEvent usagePair timeStamp).queue := by
  unfold KeyDispatch.dispatchKeyUpEvent
  split
  · exact relation.keyEvent state.queue usagePair .keyUp timeStamp
  · exact relation.refl state.queue

/-- Sending a modifier relates the queues, as it is one key event. -/
theorem sendModifier (relation : KeyRelation related) (state : KeyDispatch) (flag : ModifierFlag)
    (eventType : EventType) (timeStamp : Int) :
    related state.queue (state.sendModifier flag eventType timeStamp).queue := by
  unfold KeyDispatch.sendModifier
  split
  · have tap : ∀ released : KeyDispatch, related released.queue
        ((released.enqueueKeyEvent (MomentarySwitchEvent.ofModifierFlag .capsLock).usagePair
          .keyDown timeStamp).enqueueKeyEvent
          (MomentarySwitchEvent.ofModifierFlag .capsLock).usagePair .keyUp timeStamp).queue :=
      fun released => relation.trans (relation.enqueueKeyEvent released _ .keyDown timeStamp)
        (relation.enqueueKeyEvent _ _ .keyUp timeStamp)
    unfold KeyDispatch.sendCapsLock
    dsimp only
    split
    · exact relation.trans (KeyRelation.dispatchKeyUpEvent relation state _ timeStamp) (tap _)
    · exact tap state
  · dsimp only
    split
    · exact relation.keyEvent state.queue _ eventType timeStamp
    · exact relation.refl state.queue

/-- Sending the modifiers that have changed relates the queues, one key event after the other. -/
theorem dispatchModifierKeyEvent (relation : KeyRelation related) (state : KeyDispatch)
    (manager : ModifierFlagManager) (timeStamp : Int) :
    related state.queue (state.dispatchModifierKeyEvent manager timeStamp).queue := by
  have step : ∀ (reached : KeyDispatch) (flag : ModifierFlag),
      related reached.queue (dispatchModifierFlag manager timeStamp reached flag).queue := by
    intro reached flag
    have send : ∀ flags eventType, related reached.queue
        ((reached.setPressedModifierFlags flags).sendModifier flag eventType timeStamp).queue :=
      fun flags eventType => relation.sendModifier (reached.setPressedModifierFlags flags) flag
        eventType timeStamp
    unfold dispatchModifierFlag
    dsimp only
    split
    · split
      · exact relation.refl reached.queue
      · exact send _ .keyDown
    · split
      · exact send _ .keyUp
      · exact relation.refl reached.queue
  have run : ∀ (flags : List ModifierFlag) (reached : KeyDispatch), related reached.queue
      (flags.foldl (dispatchModifierFlag manager timeStamp) reached).queue := by
    intro flags
    induction flags with
    | nil => exact fun reached => relation.refl reached.queue
    | cons flag rest ih => exact fun reached => relation.trans (step reached flag) (ih _)
  exact run dispatchedFlags state

theorem dispatchKeyUpEventsByDeviceId (relation : KeyRelation related) (state : KeyDispatch)
    (deviceId : DeviceId) (timeStamp : Int) :
    related state.queue (state.dispatchKeyUpEventsByDeviceId deviceId timeStamp).queue := by
  have release : ∀ reached : KeyDispatch, related state.queue reached.queue →
      ∀ k ∈ reached.dispatcher.pressedKeys, k.1 = deviceId →
      related state.queue (reached.dispatchKeyUpEvent k.2 timeStamp).queue :=
    fun reached before k _ _ =>
      relation.trans before (relation.dispatchKeyUpEvent reached k.2 timeStamp)
  exact dispatchKeyUpEventsLoop_induction deviceId timeStamp release _ state
    (relation.refl state.queue)

end KeyRelation

/-! ## The pressed modifier flags -/

theorem pressedModifierFlags_sendModifier (state : KeyDispatch) (flag : ModifierFlag)
    (eventType : EventType) (timeStamp : Int) :
    (state.sendModifier flag eventType timeStamp).dispatcher.pressedModifierFlags =
      state.dispatcher.pressedModifierFlags := by
  unfold sendModifier sendCapsLock dispatchKeyUpEvent
  dsimp only
  split
  · split <;> rfl
  · split <;> rfl

/-- After an iteration the flag is pressed as the manager says, and the other flags
are as before. -/
theorem mem_dispatchModifierFlag (manager : ModifierFlagManager) (timeStamp : Int)
    (state : KeyDispatch) (flag other : ModifierFlag) :
    other ∈ (dispatchModifierFlag manager timeStamp state flag).dispatcher.pressedModifierFlags ↔
      if other = flag then manager.isPressed flag = true
      else other ∈ state.dispatcher.pressedModifierFlags := by
  unfold dispatchModifierFlag
  dsimp only
  by_cases same : other = flag
  · subst same
    rw [if_pos rfl]
    split
    · rename_i pressed
      split
      · rename_i present
        exact iff_of_true present pressed
      · rw [pressedModifierFlags_sendModifier]
        exact iff_of_true (Finset.mem_insert_self _ _) pressed
    · rename_i released
      split
      · rw [pressedModifierFlags_sendModifier]
        exact iff_of_false (Finset.notMem_erase _ _) released
      · rename_i absent
        exact iff_of_false absent released
  · rw [if_neg same]
    split
    · split
      · rfl
      · rw [pressedModifierFlags_sendModifier]
        exact Finset.mem_insert.trans (or_iff_right same)
    · split
      · rw [pressedModifierFlags_sendModifier]
        exact Finset.mem_erase.trans (and_iff_right same)
      · rfl

/-- After the modifiers have been dispatched those of the list are pressed exactly if the manager
has them pressed. -/
theorem mem_foldl_dispatchModifierFlag (manager : ModifierFlagManager) (timeStamp : Int)
    (flags : List ModifierFlag) (state : KeyDispatch) (other : ModifierFlag) :
    other ∈ (flags.foldl (dispatchModifierFlag manager timeStamp)
        state).dispatcher.pressedModifierFlags ↔
      if other ∈ flags then manager.isPressed other = true
      else other ∈ state.dispatcher.pressedModifierFlags := by
  induction flags generalizing state with
  | nil => simp
  | cons flag rest ih =>
      rw [List.foldl_cons, ih, mem_dispatchModifierFlag]
      by_cases inRest : other ∈ rest
      · rw [if_pos inRest, if_pos (List.mem_cons_of_mem _ inRest)]
      · rw [if_neg inRest]
        by_cases same : other = flag
        · subst same
          rw [if_pos rfl, if_pos List.mem_cons_self]
        · rw [if_neg same, if_neg (by simp [same, inRest])]

/-- After dispatching the modifiers exactly the flags that the manager reports as
pressed are pressed. -/
theorem pressedModifierFlags_dispatchModifierKeyEvent (state : KeyDispatch)
    (manager : ModifierFlagManager) (timeStamp : Int)
    (dispatched : ∀ flag ∈ state.dispatcher.pressedModifierFlags, flag ∈ dispatchedFlags) :
    (state.dispatchModifierKeyEvent manager timeStamp).dispatcher.pressedModifierFlags =
      manager.makeModifierFlags.toFinset := by
  have sameFlags : ∀ flag, flag ∈ dispatchedFlags ↔
      flag ∈ ModifierFlagManager.allModifierFlags := by
    intro flag
    cases flag <;> decide
  ext flag
  rw [List.mem_toFinset, ModifierFlagManager.makeModifierFlags, List.mem_filter, ← sameFlags]
  refine (mem_foldl_dispatchModifierFlag manager timeStamp dispatchedFlags state flag).trans ?_
  by_cases member : flag ∈ dispatchedFlags
  · rw [if_pos member, and_iff_right member]
  · rw [if_neg member]
    exact iff_of_false (fun held => member (dispatched flag held)) fun both => member both.1

end KeyDispatch

end Karabiner

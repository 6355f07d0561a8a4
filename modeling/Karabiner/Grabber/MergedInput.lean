import Karabiner.EventQueue.Queue
import Karabiner.VirtualDevices.PostedKeys

/-! # The merged input queue and its balance filter

`device_grabber` pushes the entries of all devices and of the event tap to one
queue, `merged_input_event_queue_`. In front of it
`unbalanced_momentary_switch_event` remembers the keys that are physically pressed
and drops a second key_down and a key_up without a key_down. What it remembers is
what the pushed entries say (`MergedInput.Balanced`).
-/

namespace Karabiner

/-- `physical_pressed_momentary_switch_events_`. -/
abbrev PhysicalPressed := DeviceId → List MomentarySwitchEvent

/-- The part of `device_grabber` in front of the manipulators. -/
structure MergedInput where
  physicalPressed : PhysicalPressed
  mergedInputEventQueue : EventQueue
  /-- Every entry pushed to the queue so far, in order. -/
  pushed : List Entry

namespace MergedInput

def initial : MergedInput := ⟨fun _ => [], .initial, []⟩

def setPhysicalPressed (input : MergedInput) (deviceId : DeviceId)
    (keys : List MomentarySwitchEvent) : MergedInput :=
  { input with
    physicalPressed := fun other =>
      if other = deviceId then keys else input.physicalPressed other }

/-- `unbalanced_momentary_switch_event`: whether the event is dropped. -/
def unbalancedMomentarySwitchEvent (input : MergedInput) (deviceId : DeviceId) (event : Event)
    (eventType : EventType) : Bool × MergedInput :=
  let pressed := input.physicalPressed deviceId
  match event.momentarySwitchEvent? with
  | some key =>
      if !key.valid then (false, input)
      else
        match eventType with
        | .keyDown =>
            if key ∈ pressed then (true, input)
            else (false, input.setPhysicalPressed deviceId (key :: pressed))
        | .keyUp =>
            if key ∉ pressed then (true, input)
            else (false, input.setPhysicalPressed deviceId (pressed.filter fun k => !(k == key)))
        | .single => (false, input)
  | none => (false, input)

variable [ExpressionLibrary]

/-- `merged_input_event_queue_->push_back_entry`. -/
def pushBackEntry (input : MergedInput) (entry : Entry) : MergedInput :=
  { input with
    mergedInputEventQueue := input.mergedInputEventQueue.pushBackEntry entry
    pushed := input.pushed ++ [entry] }

/-- An entry that has to pass the balance filter. -/
def pushBalanced (input : MergedInput) (entry : Entry) : MergedInput :=
  let (unbalanced, noted) :=
    input.unbalancedMomentarySwitchEvent entry.deviceId entry.event entry.eventType
  if unbalanced then noted else noted.pushBackEntry entry

/-- An entry of the grabber itself, at the time it is posted. -/
def post (input : MergedInput) (deviceId : DeviceId) (event : Event) (now : Int) : MergedInput :=
  input.pushBackEntry (.make deviceId ⟨now, 0⟩ event .single none event .virtualEvent)

/-- `post_device_grabbed_event`. -/
def postDeviceGrabbedEvent (input : MergedInput) (deviceId : DeviceId)
    (properties : DeviceProperties) (now : Int) : MergedInput :=
  input.post deviceId (.deviceGrabbed properties) now

/-- `post_device_ungrabbed_event`. -/
def postDeviceUngrabbedEvent (input : MergedInput) (deviceId : DeviceId) (now : Int) :
    MergedInput :=
  input.post deviceId .deviceUngrabbed now

/-- `post_device_keys_and_pointing_buttons_are_released_event`. -/
def postDeviceKeysAndPointingButtonsAreReleasedEvent (input : MergedInput) (now : Int) :
    MergedInput :=
  input.post 0 .deviceKeysAndPointingButtonsAreReleased now

/-- `post_caps_lock_state_changed_event`. -/
def postCapsLockStateChangedEvent (input : MergedInput) (state : Bool) (now : Int) :
    MergedInput :=
  input.post 0 (.capsLockStateChanged (if state then 1 else 0)) now

/-- What `stopped` and `device_terminated` do: the keys of the device are forgotten
and its ungrabbed entry is posted. -/
def ungrab (input : MergedInput) (deviceId : DeviceId) (now : Int) : MergedInput :=
  (input.setPhysicalPressed deviceId []).postDeviceUngrabbedEvent deviceId now

/-- `event_tap_keyboard_event_arrived`. -/
def eventTapKeyboardEventArrived (input : MergedInput) (eventType : EventType) (event : Event)
    (now : Int) : MergedInput :=
  input.pushBalanced (.original 0 now event eventType)

def sortEvents (input : MergedInput) : MergedInput :=
  { input with mergedInputEventQueue := input.mergedInputEventQueue.sortEvents }

/-! ## What the pushed entries say about a key -/

/-- Whether a key of a device is down after an entry, given whether it was before. -/
def noteEntry (deviceId : DeviceId) (key : MomentarySwitchEvent) (down : Bool) (entry : Entry) :
    Bool :=
  if entry.deviceId = deviceId then
    match entry.event, entry.eventType with
    | .deviceUngrabbed, _ => false
    | .momentarySwitchEvent other, .keyDown => decide (other = key) || down
    | .momentarySwitchEvent other, .keyUp => !decide (other = key) && down
    | _, _ => down
  else down

/-- The last pushed entry of a key since the last ungrabbed entry of its device is a
key_down. -/
def lastKeyDown (deviceId : DeviceId) (key : MomentarySwitchEvent) (pushed : List Entry) : Bool :=
  pushed.foldl (noteEntry deviceId key) false

omit [ExpressionLibrary] in
theorem lastKeyDown_append (deviceId : DeviceId) (key : MomentarySwitchEvent)
    (pushed : List Entry) (entry : Entry) :
    lastKeyDown deviceId key (pushed ++ [entry]) =
      noteEntry deviceId key (lastKeyDown deviceId key pushed) entry := by
  unfold lastKeyDown
  rw [List.foldl_append]
  rfl

/-- The balance filter remembers a valid key exactly when the last pushed entry of
the key is a key_down. -/
def Balanced (input : MergedInput) : Prop :=
  ∀ deviceId key, key.valid = true →
    (key ∈ input.physicalPressed deviceId ↔ lastKeyDown deviceId key input.pushed = true)

omit [ExpressionLibrary] in
theorem balanced_initial : Balanced MergedInput.initial := by
  intro deviceId key _
  simp [MergedInput.initial, lastKeyDown]

/-- An entry that is neither about a key nor an ungrabbed entry keeps the balance. -/
theorem Balanced.pushBackEntry {input : MergedInput} (balanced : Balanced input) {entry : Entry}
    (noKey : entry.event.momentarySwitchEvent? = none) (grabbed : entry.event ≠ .deviceUngrabbed) :
    Balanced (input.pushBackEntry entry) := by
  intro deviceId key valid
  change key ∈ input.physicalPressed deviceId ↔
    lastKeyDown deviceId key (input.pushed ++ [entry]) = true
  rw [lastKeyDown_append, balanced deviceId key valid]
  have same : noteEntry deviceId key (lastKeyDown deviceId key input.pushed) entry =
      lastKeyDown deviceId key input.pushed := by
    unfold noteEntry
    split
    · cases event : entry.event with
      | deviceUngrabbed => exact absurd event grabbed
      | momentarySwitchEvent other =>
          rw [event] at noKey
          cases noKey
      | _ => rfl
    · rfl
  rw [same]

theorem Balanced.ungrab {input : MergedInput} (balanced : Balanced input) (ungrabbed : DeviceId)
    (now : Int) : Balanced (input.ungrab ungrabbed now) := by
  intro deviceId key valid
  change key ∈ (if deviceId = ungrabbed then [] else input.physicalPressed deviceId) ↔
    lastKeyDown deviceId key (input.pushed ++ [_]) = true
  rw [lastKeyDown_append]
  unfold noteEntry
  by_cases same : deviceId = ungrabbed
  · subst same
    rw [if_pos rfl]
    exact iff_of_false List.not_mem_nil (by simp [Entry.make])
  · rw [if_neg same, balanced deviceId key valid, if_neg (fun equal => same equal.symm)]

/-- The filter and the pushed entries change together at an entry of a key. -/
theorem Balanced.setPhysicalPressed_pushBackEntry {input : MergedInput}
    (balanced : Balanced input) (entry : Entry) (keys : List MomentarySwitchEvent)
    (changed : ∀ key, key.valid = true → (key ∈ keys ↔
      noteEntry entry.deviceId key (decide (key ∈ input.physicalPressed entry.deviceId)) entry =
        true)) :
    Balanced ((input.setPhysicalPressed entry.deviceId keys).pushBackEntry entry) := by
  intro deviceId key valid
  change key ∈ (if deviceId = entry.deviceId then keys else input.physicalPressed deviceId) ↔
    lastKeyDown deviceId key (input.pushed ++ [entry]) = true
  rw [lastKeyDown_append]
  have before := balanced deviceId key valid
  by_cases same : deviceId = entry.deviceId
  · subst same
    rw [if_pos rfl, changed key valid]
    have down : decide (key ∈ input.physicalPressed entry.deviceId) =
        lastKeyDown entry.deviceId key input.pushed := by
      rw [Bool.eq_iff_iff, decide_eq_true_iff, before]
    rw [down]
  · rw [if_neg same, before]
    unfold noteEntry
    rw [if_neg (fun equal => same equal.symm)]

/-- An entry that changes nothing for any valid key keeps the balance. -/
theorem Balanced.pushBackEntry_quiet {input : MergedInput} (balanced : Balanced input)
    {entry : Entry}
    (quiet : ∀ deviceId key down, key.valid = true → noteEntry deviceId key down entry = down) :
    Balanced (input.pushBackEntry entry) := by
  intro deviceId key valid
  change key ∈ input.physicalPressed deviceId ↔
    lastKeyDown deviceId key (input.pushed ++ [entry]) = true
  rw [lastKeyDown_append, quiet deviceId key _ valid]
  exact balanced deviceId key valid

/-- Every entry that passes the balance filter keeps the balance. -/
theorem Balanced.pushBalanced {input : MergedInput} (balanced : Balanced input) {entry : Entry}
    (grabbed : entry.event ≠ .deviceUngrabbed) : Balanced (input.pushBalanced entry) := by
  unfold MergedInput.pushBalanced unbalancedMomentarySwitchEvent
  cases isKey : entry.event.momentarySwitchEvent? with
  | none => exact balanced.pushBackEntry isKey grabbed
  | some pressedKey =>
      have event := Event.momentarySwitchEvent?_eq_some.mp isKey
      dsimp only
      cases valid : pressedKey.valid with
      | false =>
          refine balanced.pushBackEntry_quiet fun deviceId key down keyValid => ?_
          have other : pressedKey ≠ key := by
            rintro rfl
            rw [valid] at keyValid
            cases keyValid
          unfold noteEntry
          rw [event]
          split
          · cases entry.eventType <;> simp [other]
          · rfl
      | true =>
          cases type : entry.eventType with
          | single =>
              refine balanced.pushBackEntry_quiet fun deviceId key down _ => ?_
              unfold noteEntry
              rw [event, type]
              split <;> rfl
          | keyDown =>
              by_cases held : pressedKey ∈ input.physicalPressed entry.deviceId
              · simpa [held] using balanced
              · simp only [Bool.not_true, Bool.false_eq_true, if_false, if_neg held]
                refine balanced.setPhysicalPressed_pushBackEntry entry _ fun key _ => ?_
                unfold noteEntry
                rw [if_pos rfl, event, type, List.mem_cons]
                dsimp only
                rw [Bool.or_eq_true, decide_eq_true_iff, decide_eq_true_iff]
                exact or_congr_left eq_comm
          | keyUp =>
              by_cases held : pressedKey ∈ input.physicalPressed entry.deviceId
              swap
              · simpa [held] using balanced
              · simp only [Bool.not_true, Bool.false_eq_true, if_false, if_neg (not_not.mpr held)]
                refine balanced.setPhysicalPressed_pushBackEntry entry _ fun key _ => ?_
                unfold noteEntry
                rw [if_pos rfl, event, type, List.mem_filter]
                dsimp only
                rw [Bool.and_eq_true, decide_eq_true_iff, and_comm, Bool.not_eq_true',
                  Bool.not_eq_true', beq_eq_false_iff_ne, decide_eq_false_iff_not]
                exact and_congr_left fun _ => ne_comm

/-- An entry is pushed, or it is dropped because it says what is known of its key. -/
theorem pushBalanced_cases (input : MergedInput) (entry : Entry) :
    (input.pushBalanced entry).pushed = input.pushed ++ [entry] ∨
      input.pushBalanced entry = input ∧ ∃ key : MomentarySwitchEvent,
        entry.event = .momentarySwitchEvent key ∧ key.valid = true ∧
        (entry.eventType = .keyDown ∧ key ∈ input.physicalPressed entry.deviceId ∨
          entry.eventType = .keyUp ∧ key ∉ input.physicalPressed entry.deviceId) := by
  unfold MergedInput.pushBalanced unbalancedMomentarySwitchEvent
  cases isKey : entry.event.momentarySwitchEvent? with
  | none => exact .inl rfl
  | some pressedKey =>
      have event := Event.momentarySwitchEvent?_eq_some.mp isKey
      dsimp only
      cases valid : pressedKey.valid with
      | false => exact .inl rfl
      | true =>
          cases type : entry.eventType with
          | single => exact .inl rfl
          | keyDown =>
              by_cases held : pressedKey ∈ input.physicalPressed entry.deviceId
              · exact .inr ⟨by simp [held], pressedKey, event, valid, .inl ⟨rfl, held⟩⟩
              · exact .inl (by simp [held, MergedInput.pushBackEntry, setPhysicalPressed])
          | keyUp =>
              by_cases held : pressedKey ∈ input.physicalPressed entry.deviceId
              · exact .inl (by simp [held, MergedInput.pushBackEntry, setPhysicalPressed])
              · exact .inr ⟨by simp [held], pressedKey, event, valid, .inr ⟨rfl, held⟩⟩

/-- Pushed or dropped, the entry is what is known of its key afterwards. -/
theorem Balanced.lastKeyDown_pushBalanced {input : MergedInput} (balanced : Balanced input)
    (entry : Entry) (deviceId : DeviceId) (key : MomentarySwitchEvent) :
    lastKeyDown deviceId key (input.pushBalanced entry).pushed =
      noteEntry deviceId key (lastKeyDown deviceId key input.pushed) entry := by
  rcases pushBalanced_cases input entry with pushed | ⟨dropped, pressedKey, event, valid, known⟩
  · rw [pushed, lastKeyDown_append]
  · rw [dropped]
    unfold noteEntry
    rw [event]
    split
    · rename_i same
      by_cases equal : pressedKey = key
      · subst equal
        have known' := balanced entry.deviceId pressedKey valid
        rw [same] at known known'
        rcases known with ⟨type, held⟩ | ⟨type, released⟩
        · simp [type, known'.mp held]
        · simp [type, Bool.eq_false_iff.mpr (mt known'.mpr released)]
      · cases entry.eventType <;> simp [equal]
    · rfl

end MergedInput

end Karabiner

import Karabiner.Grabber.GrabbedDevice

/-! # The releases a device delivers

On the keys of a device a batch of values is the sequence of its values: motions and
markers change nothing, and the hat switch remembers its direction. So a release
can be followed from the value to the merged input queue, and it is answered by a
key_up exactly when it passes the filter of a device that is not disabled.
-/

namespace Karabiner

/-- An event of a key, without its device and time. -/
abbrev KeyEvent := MomentarySwitchEvent × EventType

/-- Whether a key is down after a key event, given whether it was before. -/
def noteKey (key : MomentarySwitchEvent) (down : Bool) (event : KeyEvent) : Bool :=
  match event.2 with
  | .keyDown => decide (event.1 = key) || down
  | .keyUp => !decide (event.1 = key) && down
  | .single => down

/-- The key events among the entries. -/
def keyEvents (entries : List Entry) : List KeyEvent :=
  entries.filterMap fun entry => entry.event.momentarySwitchEvent?.map fun key => (key, entry.eventType)

theorem keyEvents_append (first second : List Entry) :
    keyEvents (first ++ second) = keyEvents first ++ keyEvents second :=
  List.filterMap_append

/-- A release that is not followed by a press of the same key leaves the key up. -/
theorem foldl_noteKey_released (key : MomentarySwitchEvent) (events : List KeyEvent) (down : Bool)
    (released : (key, EventType.keyUp) ∈ events) (notPressed : (key, EventType.keyDown) ∉ events) :
    events.foldl (noteKey key) down = false := by
  have stays : ∀ rest : List KeyEvent, (key, EventType.keyDown) ∉ rest →
      rest.foldl (noteKey key) false = false := by
    intro rest
    induction rest with
    | nil => exact fun _ => rfl
    | cons event others ih =>
        intro absent
        have next : noteKey key false event = false := by
          unfold noteKey
          cases type : event.2 with
          | keyDown =>
              have different : event.1 ≠ key := fun same =>
                absent (List.mem_cons.mpr (.inl (Prod.ext same.symm type.symm)))
              simp [different]
          | keyUp => simp
          | single => rfl
        rw [List.foldl_cons, next]
        exact ih fun member => absent (List.mem_cons_of_mem _ member)
  induction events generalizing down with
  | nil => cases released
  | cons event rest ih =>
      rw [List.foldl_cons]
      rcases List.mem_cons.mp released with rfl | later
      · have next : noteKey key down (key, EventType.keyUp) = false := by simp [noteKey]
        rw [next]
        exact stays rest fun member => notPressed (List.mem_cons_of_mem _ member)
      · exact ih _ later fun member => notPressed (List.mem_cons_of_mem _ member)

/-! ## The key events of values -/

namespace HidValue

/-- The value is one of the hat switch of a game pad. -/
def hatSwitch (value : HidValue) (isGamePad : Bool) : Bool :=
  isGamePad && value.conformsTo UsagePage.genericDesktop Usage.genericDesktopHatSwitch

/-- The key events that a value stands for, given the direction of the hat switch. -/
def keyEvents (value : HidValue) (isGamePad : Bool) (hat : HatDirection) : List KeyEvent :=
  match value.usagePage, value.usage with
  | some usagePage, some usage =>
      if MomentarySwitchEvent.target usagePage usage then
        [(.make usagePage usage, if value.integerValue ≠ 0 then .keyDown else .keyUp)]
      else if value.hatSwitch isGamePad then
        HatDirection.toDpadEvents hat (HatDirection.ofValue value.integerValue)
      else []
  | _, _ => []

/-- The direction of the hat switch after a value. -/
def nextHat (value : HidValue) (isGamePad : Bool) (hat : HatDirection) : HatDirection :=
  if value.hatSwitch isGamePad then HatDirection.ofValue value.integerValue else hat

theorem conformsTo_iff (value : HidValue) (usagePage : UsagePage) (usage : Usage) :
    value.conformsTo usagePage usage = true ↔
      value.usagePage = some usagePage ∧ value.usage = some usage := by
  unfold conformsTo
  rw [Bool.and_eq_true, beq_iff_eq, beq_iff_eq]

/-- A value of another usage is not one of the hat switch. -/
theorem hatSwitch_eq_false {value : HidValue} {usagePage : UsagePage} {usage : Usage}
    (conforms : value.conformsTo usagePage usage = true)
    (other : usagePage ≠ UsagePage.genericDesktop ∨ usage ≠ Usage.genericDesktopHatSwitch)
    (isGamePad : Bool) : value.hatSwitch isGamePad = false := by
  refine Bool.eq_false_iff.mpr fun hatSwitch => ?_
  obtain ⟨page, number⟩ := (conformsTo_iff _ _ _).mp (Bool.and_eq_true_iff.mp hatSwitch).2
  obtain ⟨otherPage, otherNumber⟩ := (conformsTo_iff _ _ _).mp conforms
  rcases other with different | different
  · exact different (Option.some.inj (otherPage.symm.trans page))
  · exact different (Option.some.inj (otherNumber.symm.trans number))

/-- The hat switch is not a key. -/
theorem hatSwitch_eq_false_of_target {value : HidValue} {usagePage : UsagePage} {usage : Usage}
    (page : value.usagePage = some usagePage) (number : value.usage = some usage)
    (target : MomentarySwitchEvent.target usagePage usage = true) (isGamePad : Bool) :
    value.hatSwitch isGamePad = false := by
  refine hatSwitch_eq_false ((conformsTo_iff _ _ _).mpr ⟨page, number⟩) ?_ isGamePad
  by_contra same
  rw [not_or, not_not, not_not] at same
  obtain ⟨rfl, rfl⟩ := same
  exact absurd target (by decide)

/-- No value both presses and releases a key. -/
theorem keyEvents_exclusive (value : HidValue) (isGamePad : Bool) (hat : HatDirection)
    (key : MomentarySwitchEvent)
    (released : (key, EventType.keyUp) ∈ value.keyEvents isGamePad hat) :
    (key, EventType.keyDown) ∉ value.keyEvents isGamePad hat := by
  unfold HidValue.keyEvents at released ⊢
  cases usagePage : value.usagePage with
  | none =>
      rw [usagePage] at released
      cases released
  | some page =>
      cases usage : value.usage with
      | none =>
          rw [usagePage, usage] at released
          cases released
      | some number =>
          rw [usagePage, usage] at released
          dsimp only at released ⊢
          split
          · rename_i target
            rw [if_pos target, List.mem_singleton] at released
            intro pressed
            rw [List.mem_singleton] at pressed
            have same := (congrArg Prod.snd released).trans (congrArg Prod.snd pressed).symm
            cases same
          · rename_i target
            rw [if_neg target] at released
            split
            · rename_i hatSwitch
              rw [if_pos hatSwitch] at released
              obtain ⟨up, _, upPair⟩ := List.mem_filterMap.mp released
              intro pressed
              obtain ⟨down, _, downPair⟩ := List.mem_filterMap.mp pressed
              split at upPair
              · cases upPair
              split at upPair
              · rename_i upMoved
                split at downPair
                · rename_i downMoved
                  have upKey := congrArg Prod.fst (Option.some.inj upPair)
                  have downKey := congrArg Prod.fst (Option.some.inj downPair)
                  have same : up = down := by
                    have equal := upKey.trans downKey.symm
                    simpa [MomentarySwitchEvent.make] using equal
                  exact downMoved.1 (same ▸ upMoved.1)
                split at downPair
                · cases downPair
                · cases downPair
              · cases upPair
            · exact List.not_mem_nil

end HidValue

/-- The key events of a list of values. -/
def keyEventsOfValues (isGamePad : Bool) : HatDirection → List HidValue → List KeyEvent
  | _, [] => []
  | hat, value :: rest =>
      value.keyEvents isGamePad hat ++ keyEventsOfValues isGamePad (value.nextHat isGamePad hat) rest

/-- The key events of a batch are those of its first part and, from the hat switch reached there, of
its second part. -/
theorem keyEventsOfValues_append (isGamePad : Bool) (hat : HatDirection)
    (first second : List HidValue) :
    keyEventsOfValues isGamePad hat (first ++ second) =
      keyEventsOfValues isGamePad hat first ++
        keyEventsOfValues isGamePad
          (first.foldl (fun hat value => value.nextHat isGamePad hat) hat) second := by
  induction first generalizing hat with
  | nil => rfl
  | cons value rest ih => simp only [List.cons_append, keyEventsOfValues, ih, List.append_assoc,
      List.foldl_cons]

namespace MakeEntries

theorem keyEvents_parts (parts : MotionParts) (deviceId : DeviceId) :
    keyEvents (parts.entries deviceId) = [] := by
  unfold MotionParts.entries
  split <;> rfl

theorem keyEvents_flushIf (state : MakeEntries) (deviceId : DeviceId) (taken : Option Int) :
    keyEvents (state.flushIf deviceId taken).result = keyEvents state.result ∧
      (state.flushIf deviceId taken).hat = state.hat := by
  unfold flushIf
  split
  · refine ⟨?_, rfl⟩
    rw [keyEvents_append, keyEvents_parts, List.append_nil]
  · exact ⟨rfl, rfl⟩

theorem keyEvents_dpad (deviceId : DeviceId) (timeStamp : Int) (events : List KeyEvent) :
    keyEvents (events.map fun pair =>
      .original deviceId timeStamp (.momentarySwitchEvent pair.1) pair.2) = events := by
  induction events with
  | nil => rfl
  | cons event rest ih => exact congrArg (event :: ·) ih

/-- A value adds its key events to the entries. -/
theorem step_keyEvents (deviceId : DeviceId) (isGamePad : Bool)
    (parameters : MakeEntriesParameters) (state : MakeEntries) (value : HidValue) :
    keyEvents (step deviceId isGamePad parameters state value).result =
        keyEvents state.result ++ value.keyEvents isGamePad state.hat ∧
      (step deviceId isGamePad parameters state value).hat = value.nextHat isGamePad state.hat := by
  -- The branches of the axes, the wheels and the LED add no key event.
  have quiet : ∀ {page : UsagePage} {number : Usage} {after : MakeEntries},
      value.usagePage = some page → value.usage = some number →
      ¬ MomentarySwitchEvent.target page number = true → value.hatSwitch isGamePad = false →
      keyEvents after.result = keyEvents state.result → after.hat = state.hat →
      keyEvents after.result = keyEvents state.result ++ value.keyEvents isGamePad state.hat ∧
        after.hat = value.nextHat isGamePad state.hat := by
    intro page number after usagePage usage notTarget noHat result hat
    unfold HidValue.keyEvents HidValue.nextHat
    rw [usagePage, usage, noHat]
    dsimp only
    rw [if_neg notTarget, result, hat]
    exact ⟨(List.append_nil _).symm, rfl⟩
  have flush := fun taken => state.keyEvents_flushIf deviceId taken
  unfold step
  cases usagePage : value.usagePage with
  | none => simp [HidValue.keyEvents, HidValue.nextHat, HidValue.hatSwitch, HidValue.conformsTo,
      usagePage]
  | some page =>
    cases usage : value.usage with
    | none => simp [HidValue.keyEvents, HidValue.nextHat, HidValue.hatSwitch, HidValue.conformsTo,
        usagePage, usage]
    | some number =>
    dsimp only
    split
    · rename_i target
      have noHat := HidValue.hatSwitch_eq_false_of_target usagePage usage target isGamePad
      unfold HidValue.keyEvents HidValue.nextHat
      rw [usagePage, usage, noHat]
      dsimp only
      rw [if_pos target, keyEvents_append]
      exact ⟨rfl, rfl⟩
    rename_i notTarget
    split
    · rename_i axis
      have noHat := HidValue.hatSwitch_eq_false (Bool.and_eq_true_iff.mp axis).1
        (.inr (by decide)) isGamePad
      exact quiet usagePage usage notTarget noHat (flush _).1 (flush _).2
    split
    · rename_i axis
      have noHat := HidValue.hatSwitch_eq_false (Bool.and_eq_true_iff.mp axis).1
        (.inr (by decide)) isGamePad
      exact quiet usagePage usage notTarget noHat (flush _).1 (flush _).2
    split
    · rename_i wheel
      have noHat := HidValue.hatSwitch_eq_false wheel (.inr (by decide)) isGamePad
      exact quiet usagePage usage notTarget noHat (flush _).1 (flush _).2
    split
    · rename_i pan
      have noHat := HidValue.hatSwitch_eq_false pan (.inl (by decide)) isGamePad
      exact quiet usagePage usage notTarget noHat (flush _).1 (flush _).2
    split
    · rename_i led
      have noHat := HidValue.hatSwitch_eq_false led (.inl (by decide)) isGamePad
      refine quiet usagePage usage notTarget noHat ?_ rfl
      rw [keyEvents_append]
      exact List.append_nil _
    split
    · rename_i isHat
      have isHatSwitch : value.hatSwitch isGamePad = true := isHat
      unfold HidValue.keyEvents HidValue.nextHat
      rw [usagePage, usage, isHatSwitch]
      dsimp only
      rw [if_neg notTarget, keyEvents_append, keyEvents_dpad]
      exact ⟨rfl, rfl⟩
    · rename_i noHat
      exact quiet usagePage usage notTarget (Bool.eq_false_iff.mpr noHat) rfl rfl

/-- The entries that are made of a batch have the key events of its values, in their order. -/
theorem makeEntries_keyEvents (deviceId : DeviceId) (isGamePad : Bool)
    (parameters : MakeEntriesParameters) (hat : HatDirection) (values : List HidValue) :
    keyEvents (makeEntries deviceId isGamePad parameters hat values).1 =
        keyEventsOfValues isGamePad hat values ∧
      (makeEntries deviceId isGamePad parameters hat values).2 =
        values.foldl (fun hat value => value.nextHat isGamePad hat) hat := by
  have fold : ∀ state : MakeEntries,
      keyEvents (values.foldl (step deviceId isGamePad parameters) state).result =
          keyEvents state.result ++ keyEventsOfValues isGamePad state.hat values ∧
        (values.foldl (step deviceId isGamePad parameters) state).hat =
          values.foldl (fun hat value => value.nextHat isGamePad hat) state.hat := by
    induction values with
    | nil => exact fun state => ⟨(List.append_nil _).symm, rfl⟩
    | cons value rest ih =>
        intro state
        obtain ⟨events, next⟩ := step_keyEvents deviceId isGamePad parameters state value
        obtain ⟨restEvents, restHat⟩ := ih (step deviceId isGamePad parameters state value)
        rw [List.foldl_cons, List.foldl_cons, restEvents, restHat, events, next, List.append_assoc]
        exact ⟨rfl, rfl⟩
  obtain ⟨events, final⟩ := fold ⟨[], .empty, hat⟩
  refine ⟨?_, final⟩
  unfold makeEntries
  dsimp only
  rw [keyEvents_append, keyEvents_parts, List.append_nil, events]
  rfl

/-- Every made entry belongs to the device and none is an ungrabbed entry. -/
def FromDevice (deviceId : DeviceId) (entries : List Entry) : Prop :=
  ∀ entry ∈ entries, entry.deviceId = deviceId ∧ entry.event ≠ .deviceUngrabbed

theorem fromDevice_append {deviceId : DeviceId} {first second : List Entry}
    (early : FromDevice deviceId first) (late : FromDevice deviceId second) :
    FromDevice deviceId (first ++ second) := by
  intro entry member
  rcases List.mem_append.mp member with member | member
  · exact early entry member
  · exact late entry member

theorem fromDevice_parts (parts : MotionParts) (deviceId : DeviceId) :
    FromDevice deviceId (parts.entries deviceId) := by
  unfold MotionParts.entries
  split
  · intro entry member
    rw [List.mem_singleton.mp member]
    exact ⟨rfl, Event.noConfusion⟩
  · exact fun _ member => absurd member List.not_mem_nil

/-- A value makes entries of its own device only. -/
theorem fromDevice_step {deviceId : DeviceId} (isGamePad : Bool)
    (parameters : MakeEntriesParameters) {state : MakeEntries} (value : HidValue)
    (before : FromDevice deviceId state.result) :
    FromDevice deviceId (step deviceId isGamePad parameters state value).result := by
  have single : ∀ entry : Entry, entry.deviceId = deviceId → entry.event ≠ .deviceUngrabbed →
      FromDevice deviceId [entry] := by
    intro entry device grabbed other member
    rw [List.mem_singleton.mp member]
    exact ⟨device, grabbed⟩
  have flushed : ∀ taken, FromDevice deviceId (state.flushIf deviceId taken).result := by
    intro taken
    unfold flushIf
    split
    · exact fromDevice_append before (fromDevice_parts _ _)
    · exact before
  unfold step
  split
  · split
    · exact fromDevice_append before (single _ rfl Event.noConfusion)
    split
    · exact flushed _
    split
    · exact flushed _
    split
    · exact flushed _
    split
    · exact flushed _
    split
    · exact fromDevice_append before (single _ rfl Event.noConfusion)
    split
    · refine fromDevice_append before fun entry member => ?_
      obtain ⟨pair, _, rfl⟩ := List.mem_map.mp member
      exact ⟨rfl, Event.noConfusion⟩
    · exact before
  · exact before

theorem fromDevice_makeEntries (deviceId : DeviceId) (isGamePad : Bool)
    (parameters : MakeEntriesParameters) (hat : HatDirection) (values : List HidValue) :
    FromDevice deviceId (makeEntries deviceId isGamePad parameters hat values).1 := by
  have fold : ∀ state : MakeEntries, FromDevice deviceId state.result →
      FromDevice deviceId (values.foldl (step deviceId isGamePad parameters) state).result := by
    induction values with
    | nil => exact fun _ before => before
    | cons value rest ih =>
        exact fun state before => ih _ (fromDevice_step isGamePad parameters value before)
  refine fromDevice_append (fold ⟨[], .empty, hat⟩ ?_) (fromDevice_parts _ _)
  exact fun _ member => absurd member List.not_mem_nil

end MakeEntries

open MakeEntries (FromDevice fromDevice_append)

/-- The markers that are inserted are no key events. -/
theorem insertReleasedEvents_keyEvents (deviceId : DeviceId) (entries : List Entry)
    (manager : PressedKeysManager) :
    keyEvents (insertReleasedEvents deviceId entries manager).1 = keyEvents entries := by
  induction entries generalizing manager with
  | nil => rfl
  | cons entry rest ih =>
      have marker : ∀ (condition : Prop) [Decidable condition] (marked : Entry),
          marked.event.momentarySwitchEvent? = none →
          keyEvents (if condition then [marked] else []) = [] := by
        intro condition _ marked noKey
        split
        · simp [keyEvents, noKey]
        · rfl
      unfold insertReleasedEvents
      dsimp only
      rw [List.cons_append, ← List.singleton_append, keyEvents_append, keyEvents_append,
        marker _ _ rfl, List.nil_append, ih, ← keyEvents_append]
      rfl

/-- The markers that are inserted are of the device itself. -/
theorem fromDevice_insertReleasedEvents {deviceId : DeviceId} {entries : List Entry}
    (before : FromDevice deviceId entries) (manager : PressedKeysManager) :
    FromDevice deviceId (insertReleasedEvents deviceId entries manager).1 := by
  induction entries generalizing manager with
  | nil => exact before
  | cons entry rest ih =>
      unfold insertReleasedEvents
      dsimp only
      refine fromDevice_append (fun other member => ?_) (ih (fun other member =>
        before other (List.mem_cons_of_mem _ member)) _)
      rcases List.mem_cons.mp member with rfl | member
      · exact before _ List.mem_cons_self
      · obtain ⟨_, member⟩ := List.mem_ite_nil_right.mp member
        rw [List.mem_singleton.mp member]
        exact ⟨rfl, Event.noConfusion⟩

/-! ## What a batch of values does to a key -/

namespace MergedInput

/-- An entry of the device that is not an ungrabbed entry acts through its key. -/
theorem noteEntry_eq_noteKey {deviceId : DeviceId} {entry : Entry}
    (device : entry.deviceId = deviceId) (grabbed : entry.event ≠ .deviceUngrabbed)
    (key : MomentarySwitchEvent) (down : Bool) :
    noteEntry deviceId key down entry = (keyEvents [entry]).foldl (noteKey key) down := by
  unfold noteEntry keyEvents noteKey
  rw [if_pos device]
  cases event : entry.event with
  | deviceUngrabbed => exact absurd event grabbed
  | momentarySwitchEvent other => cases type : entry.eventType <;> simp [event, type]
  | _ => simp [event, Event.momentarySwitchEvent?]

variable [ExpressionLibrary]

/-- Pushing the entries of a device through the filter keeps the input balanced and knows the last
stroke of each key. -/
theorem foldl_pushBalanced {input : MergedInput} (balanced : Balanced input)
    {deviceId : DeviceId} {entries : List Entry} (fromDevice : FromDevice deviceId entries) :
    Balanced (entries.foldl MergedInput.pushBalanced input) ∧
      ∀ key, lastKeyDown deviceId key (entries.foldl MergedInput.pushBalanced input).pushed =
        (keyEvents entries).foldl (noteKey key) (lastKeyDown deviceId key input.pushed) := by
  induction entries generalizing input with
  | nil => exact ⟨balanced, fun _ => rfl⟩
  | cons entry rest ih =>
      obtain ⟨device, grabbed⟩ := fromDevice entry List.mem_cons_self
      obtain ⟨restBalanced, restDown⟩ := ih (balanced.pushBalanced grabbed)
        fun other member => fromDevice other (List.mem_cons_of_mem _ member)
      refine ⟨restBalanced, fun key => ?_⟩
      rw [List.foldl_cons, restDown, balanced.lastKeyDown_pushBalanced,
        noteEntry_eq_noteKey device grabbed, ← List.foldl_append, ← keyEvents_append]
      rfl

end MergedInput

namespace Grabber

open MergedInput

variable [ExpressionLibrary]

/-- The last pushed entry of a key of the device is a key_down. -/
def keyDown (grabber : Grabber) (key : MomentarySwitchEvent) : Bool :=
  lastKeyDown grabber.device.deviceId key grabber.input.pushed

/-- The key events that a value of the device stands for. -/
def delivered (grabber : Grabber) (value : HidValue) : List KeyEvent :=
  value.keyEvents grabber.device.properties.isGamePad grabber.device.hat

/-- The values of the device reach the balance filter. -/
def forwards (grabber : Grabber) : Bool :=
  grabber.connected && !grabber.device.properties.isVirtualDevice && !grabber.device.disabled &&
    grabber.device.seized

/-- What every reachable state satisfies. -/
structure Sound (grabber : Grabber) : Prop where
  balanced : grabber.input.Balanced
  virtual : grabber.device.properties.isVirtualDevice = true →
    ∀ key, grabber.keyDown key = false

/-- The values of a batch that pass the filter. -/
def kept (grabber : Grabber) (values : List HidValue) : List HidValue :=
  values.filter fun value => !grabber.device.filtered value

/-- The entries of the virtual keyboard post nothing about keys. -/
theorem foldl_arriveVirtual (now : Int) (entries : List Entry) (grabber : Grabber)
    (sound : grabber.Sound) :
    (entries.foldl (arriveVirtual now) grabber).device = grabber.device ∧
      (entries.foldl (arriveVirtual now) grabber).connected = grabber.connected ∧
      (entries.foldl (arriveVirtual now) grabber).Sound ∧
      ∀ key, (entries.foldl (arriveVirtual now) grabber).keyDown key = grabber.keyDown key := by
  induction entries generalizing grabber with
  | nil => exact ⟨rfl, rfl, sound, fun _ => rfl⟩
  | cons entry rest ih =>
      have posts : ∀ (state : Int) (key : MomentarySwitchEvent),
          lastKeyDown grabber.device.deviceId key (grabber.input.pushed ++
            [.make 0 ⟨now, 0⟩ (.capsLockStateChanged state) .single none
              (.capsLockStateChanged state) .virtualEvent]) = grabber.keyDown key := by
        intro state key
        rw [lastKeyDown_append]
        unfold noteEntry
        split <;> rfl
      have next : (arriveVirtual now grabber entry).device = grabber.device ∧
          (arriveVirtual now grabber entry).connected = grabber.connected ∧
          (arriveVirtual now grabber entry).Sound ∧
          ∀ key, (arriveVirtual now grabber entry).keyDown key = grabber.keyDown key := by
        unfold arriveVirtual
        split
        · rename_i state _
          have same := posts (if decide (state ≠ 0) = true then 1 else 0)
          refine ⟨rfl, rfl,
            ⟨sound.balanced.pushBackEntry rfl Event.noConfusion, fun virtual key => ?_⟩,
            same⟩
          exact (same key).trans (sound.virtual virtual key)
        · exact ⟨rfl, rfl, sound, fun _ => rfl⟩
      obtain ⟨device, connected, nextSound, down⟩ := next
      obtain ⟨restDevice, restConnected, restSound, restDown⟩ := ih _ nextSound
      exact ⟨restDevice.trans device, restConnected.trans connected, restSound,
        fun key => (restDown key).trans (down key)⟩

/-- The entries of another device act through the balance filter or not at all. -/
theorem foldl_arriveEntry (device : GrabbedDevice) (entries : List Entry) (input : MergedInput) :
    entries.foldl (arriveEntry device) input =
      if !device.disabled && device.seized then entries.foldl MergedInput.pushBalanced input
      else input := by
  cases active : !device.disabled && device.seized with
  | true =>
      have same : arriveEntry device = MergedInput.pushBalanced := by
        funext input entry
        unfold arriveEntry
        rw [active]
        rfl
      rw [same, if_pos rfl]
  | false =>
      rw [if_neg Bool.false_ne_true]
      induction entries with
      | nil => rfl
      | cons entry rest ih =>
          have same : arriveEntry device input entry = input := by
            unfold arriveEntry
            rw [active]
            rfl
          rw [List.foldl_cons, same, ih]

omit [ExpressionLibrary] in
/-- The entries of a batch: those of the values that pass the filter. -/
theorem arrivedEntries_spec (device : GrabbedDevice) (values : List HidValue) :
    FromDevice device.deviceId (device.arrivedEntries values).1 ∧
      keyEvents (device.arrivedEntries values).1 =
        keyEventsOfValues device.properties.isGamePad device.hat
          (values.filter fun value => !device.filtered value) ∧
      ∃ manager, (device.arrivedEntries values).2 =
        { device with
          hat := (values.filter fun value => !device.filtered value).foldl
            (fun hat value => value.nextHat device.properties.isGamePad hat) device.hat
          pressedKeysManager := manager } := by
  obtain ⟨events, hat⟩ := MakeEntries.makeEntries_keyEvents device.deviceId
    device.properties.isGamePad device.configuration.makeEntriesParameters device.hat
    (values.filter fun value => !device.filtered value)
  refine ⟨?_, ?_, ?_⟩
  · exact fromDevice_insertReleasedEvents (MakeEntries.fromDevice_makeEntries _ _ _ _ _) _
  · exact (insertReleasedEvents_keyEvents _ _ _).trans events
  · refine ⟨(insertReleasedEvents device.deviceId (MakeEntries.makeEntries device.deviceId
      device.properties.isGamePad device.configuration.makeEntriesParameters device.hat
      (values.filter fun value => !device.filtered value)).1 device.pressedKeysManager).2, ?_⟩
    rw [← hat]
    rfl

/-- A batch changes what is known of the keys of the device by the key events of the
values that pass the filter, while the device forwards them. -/
theorem valuesArrived_spec {grabber : Grabber} (sound : grabber.Sound) (values : List HidValue)
    (now : Int) :
    (∃ hat manager, (grabber.valuesArrived values now).device =
        { grabber.device with hat := hat, pressedKeysManager := manager } ∧
        (grabber.connected = true → hat = (grabber.kept values).foldl
          (fun hat value => value.nextHat grabber.device.properties.isGamePad hat)
          grabber.device.hat)) ∧
      (grabber.valuesArrived values now).connected = grabber.connected ∧
      (grabber.valuesArrived values now).Sound ∧
      ∀ key, (grabber.valuesArrived values now).keyDown key =
        if grabber.forwards then
          (keyEventsOfValues grabber.device.properties.isGamePad grabber.device.hat
            (grabber.kept values)).foldl (noteKey key) (grabber.keyDown key)
        else grabber.keyDown key := by
  cases connected : grabber.connected with
  | false =>
      have same : grabber.valuesArrived values now = grabber := by
        unfold valuesArrived
        rw [connected]
        rfl
      rw [same]
      refine ⟨⟨grabber.device.hat, grabber.device.pressedKeysManager, rfl, fun isTrue => ?_⟩,
        connected, sound, fun key => ?_⟩
      · cases isTrue
      · simp [forwards, connected]
  | true =>
      obtain ⟨fromDevice, events, manager, device⟩ := arrivedEntries_spec grabber.device values
      have arrived : grabber.valuesArrived values now =
          { grabber with device := (grabber.device.arrivedEntries values).2 }.hidValuesArrived
            (grabber.device.arrivedEntries values).1 now := by
        unfold valuesArrived
        rw [connected]
        rfl
      rw [arrived]
      generalize (grabber.device.arrivedEntries values).1 = entries at fromDevice events
      rw [device]
      unfold hidValuesArrived
      cases virtual : grabber.device.properties.isVirtualDevice with
      | true =>
          have start : Sound { grabber with device := { grabber.device with
              hat := (grabber.kept values).foldl
                (fun hat value => value.nextHat grabber.device.properties.isGamePad hat)
                grabber.device.hat
              pressedKeysManager := manager } } := ⟨sound.balanced, sound.virtual⟩
          obtain ⟨sameDevice, sameConnected, after, down⟩ :=
            foldl_arriveVirtual now entries _ start
          rw [if_pos rfl]
          refine ⟨⟨_, _, sameDevice, fun _ => rfl⟩, sameConnected.trans connected, after,
            fun key => ?_⟩
          rw [forwards, virtual, Bool.not_true, Bool.and_false, Bool.false_and, Bool.false_and,
            if_neg Bool.false_ne_true]
          exact down key
      | false =>
          rw [if_neg Bool.false_ne_true, foldl_arriveEntry]
          dsimp only
          have sorted : ∀ (input : MergedInput) (reorder : Bool),
              (if reorder = true then input.sortEvents else input).pushed = input.pushed ∧
                ((if reorder = true then input.sortEvents else input).Balanced ↔
                  input.Balanced) := by
            intro input reorder
            cases reorder with
            | true => exact ⟨rfl, Iff.rfl⟩
            | false => exact ⟨rfl, Iff.rfl⟩
          obtain ⟨balanced, down⟩ := foldl_pushBalanced sound.balanced fromDevice
          refine ⟨⟨_, _, rfl, fun _ => rfl⟩, connected, ⟨?_, fun isTrue => ?_⟩, fun key => ?_⟩
          · refine (sorted _ _).2.mpr ?_
            split
            · exact balanced
            · exact sound.balanced
          · rw [virtual] at isTrue
            cases isTrue
          · unfold keyDown
            rw [(sorted _ _).1, forwards, connected, virtual, Bool.not_false, Bool.and_true,
              Bool.true_and]
            cases !grabber.device.disabled && grabber.device.seized with
            | true =>
                rw [if_pos rfl, if_pos rfl]
                refine (down key).trans ?_
                rw [events]
                rfl
            | false => rfl

/-- On what is known of the keys a batch is the sequence of its parts. -/
theorem valuesArrived_append {grabber : Grabber} (sound : grabber.Sound)
    (first second : List HidValue) (now : Int) (key : MomentarySwitchEvent) :
    (grabber.valuesArrived (first ++ second) now).keyDown key =
      ((grabber.valuesArrived first now).valuesArrived second now).keyDown key := by
  obtain ⟨⟨hat, manager, device, hatAfter⟩, connected, firstSound, firstDown⟩ :=
    valuesArrived_spec sound first now
  obtain ⟨_, _, _, wholeDown⟩ := valuesArrived_spec sound (first ++ second) now
  obtain ⟨_, _, _, secondDown⟩ := valuesArrived_spec firstSound second now
  rw [wholeDown, secondDown, firstDown]
  have forwards : (grabber.valuesArrived first now).forwards = grabber.forwards := by
    unfold Grabber.forwards
    rw [device, connected]
  have kept : (grabber.valuesArrived first now).kept second = grabber.kept second := by
    unfold Grabber.kept
    rw [device]
    rfl
  rw [forwards, kept]
  cases active : grabber.forwards with
  | false => rfl
  | true =>
      have isConnected : grabber.connected = true := by
        unfold Grabber.forwards at active
        rw [Bool.and_assoc, Bool.and_assoc, Bool.and_eq_true] at active
        exact active.1
      rw [if_pos rfl, if_pos rfl, if_pos rfl, device, hatAfter isConnected]
      unfold Grabber.kept
      rw [List.filter_append, keyEventsOfValues_append, List.foldl_append]

/-! ## Releases -/

/-- The release of a key that is down is answered: a key_up is pushed, and the balance
filter holds no key that has been released. -/
def Answered (grabber : Grabber) (value : HidValue) (now : Int) : Prop :=
  grabber.connected = true → grabber.device.seized = true →
    ∀ key, (key, EventType.keyUp) ∈ grabber.delivered value →
      (grabber.keyDown key = true → (grabber.valuesArrived [value] now).keyDown key = false) ∧
        (key.valid = true →
          key ∉ (grabber.valuesArrived [value] now).input.physicalPressed grabber.device.deviceId)

/-- The release of a key that is down finds the device not disabled and passes its
filter. -/
def LetThrough (grabber : Grabber) (value : HidValue) : Prop :=
  grabber.connected = true → grabber.device.seized = true →
    ∀ key, (key, EventType.keyUp) ∈ grabber.delivered value → grabber.keyDown key = true →
      grabber.device.disabled = false ∧ grabber.device.filtered value = false

/-- Every release in a batch is answered; a batch is taken value by value
(`valuesArrived_append`). -/
def ReleasesAnswered (grabber : Grabber) : Action → Prop
  | .valuesArrived values now => ∀ before value after, values = before ++ value :: after →
      (grabber.valuesArrived before now).Answered value now
  | _ => True

/-- Every release in a batch of a key that is down is let through. -/
def ReleasesLetThrough (grabber : Grabber) : Action → Prop
  | .valuesArrived values now => ∀ before value after, values = before ++ value :: after →
      (grabber.valuesArrived before now).LetThrough value
  | _ => True

/-- A value is answered exactly when it is let through. -/
theorem answered_iff {grabber : Grabber} (sound : grabber.Sound) (value : HidValue) (now : Int) :
    grabber.Answered value now ↔ grabber.LetThrough value := by
  obtain ⟨⟨hat, manager, device, _⟩, _, afterSound, down⟩ := valuesArrived_spec sound [value] now
  refine forall_congr' fun connected => forall_congr' fun seized => forall_congr' fun key =>
    forall_congr' fun released => ?_
  have pressed : key.valid = true →
      (key ∈ (grabber.valuesArrived [value] now).input.physicalPressed grabber.device.deviceId ↔
        (grabber.valuesArrived [value] now).keyDown key = true) := by
    intro valid
    have balanced := afterSound.balanced grabber.device.deviceId key valid
    unfold keyDown
    rw [device]
    exact balanced
  have after : (grabber.valuesArrived [value] now).keyDown key =
      if grabber.forwards && !grabber.device.filtered value then false
      else grabber.keyDown key := by
    rw [down key]
    cases grabber.forwards with
    | false => rfl
    | true =>
        rw [if_pos rfl, Bool.true_and]
        unfold kept
        cases filtered : grabber.device.filtered value with
        | true => simp [filtered, keyEventsOfValues]
        | false =>
            have single : [value].filter (fun value => !grabber.device.filtered value) = [value] := by
              simp [filtered]
            rw [single, keyEventsOfValues, keyEventsOfValues, List.append_nil, Bool.not_false,
              if_pos rfl]
            exact foldl_noteKey_released key _ _ released
              (value.keyEvents_exclusive _ _ key released)
  cases before : grabber.keyDown key with
  | false =>
      have up : (grabber.valuesArrived [value] now).keyDown key = false := by
        rw [after, before, ite_self]
      refine iff_of_true ⟨fun isTrue => absurd isTrue Bool.false_ne_true, fun valid => ?_⟩
        fun isTrue => absurd isTrue Bool.false_ne_true
      rw [pressed valid, up]
      exact Bool.false_ne_true
  | true =>
      have notVirtual : grabber.device.properties.isVirtualDevice = false := by
        refine Bool.eq_false_iff.mpr fun virtual => ?_
        rw [sound.virtual virtual key] at before
        cases before
      have active : (grabber.forwards && !grabber.device.filtered value) = true ↔
          grabber.device.disabled = false ∧ grabber.device.filtered value = false := by
        unfold forwards
        rw [connected, seized, notVirtual]
        simp
      constructor
      · rintro ⟨answered, _⟩ _
        rw [← active]
        by_contra blocked
        rw [after, if_neg blocked, before] at answered
        exact absurd (answered rfl) Bool.noConfusion
      · intro letThrough
        have through := active.mpr (letThrough rfl)
        have up : (grabber.valuesArrived [value] now).keyDown key = false := by
          rw [after, if_pos through]
        refine ⟨fun _ => up, fun valid => ?_⟩
        rw [pressed valid, up]
        exact Bool.false_ne_true

/-! ## Runs -/

omit [ExpressionLibrary] in
theorem sound_initial (deviceId : DeviceId) (properties : DeviceProperties)
    (configuration : DeviceConfiguration) :
    (Grabber.initial deviceId properties configuration).Sound :=
  ⟨MergedInput.balanced_initial, fun _ _ => rfl⟩

omit [ExpressionLibrary] in
theorem sound_updateDevicesDisabled {grabber : Grabber} (sound : grabber.Sound)
    (needToDisable : Bool) : (grabber.updateDevicesDisabled needToDisable).Sound := by
  unfold updateDevicesDisabled GrabbedDevice.setDisabled
  split
  · exact sound
  · exact ⟨sound.balanced, sound.virtual⟩

theorem sound_ungrab {grabber : Grabber} (sound : grabber.Sound) (now : Int) :
    Sound { grabber with input := grabber.input.ungrab grabber.device.deviceId now } := by
  refine ⟨sound.balanced.ungrab _ now, fun _ key => ?_⟩
  change lastKeyDown grabber.device.deviceId key (grabber.input.pushed ++ [_]) = false
  rw [lastKeyDown_append]
  simp [noteEntry, Entry.make]

/-- Every action of the grabber keeps it sound. -/
theorem sound_step (grabber : Grabber) (action : Action) (sound : grabber.Sound) :
    (grabber.step action).Sound := by
  cases action with
  | valuesArrived values now => exact (valuesArrived_spec sound values now).2.2.1
  | seizedChanged seized => exact ⟨sound.balanced, sound.virtual⟩
  | started now =>
      simp only [step]
      split
      · refine ⟨sound.balanced.pushBackEntry rfl Event.noConfusion, fun virtual key => ?_⟩
        change lastKeyDown grabber.device.deviceId key (grabber.input.pushed ++ [_]) = false
        rw [lastKeyDown_append]
        refine Eq.trans ?_ (sound.virtual virtual key)
        simp [noteEntry, Entry.make, keyDown]
      · exact sound
  | stopped now =>
      simp only [step]
      split
      · exact sound_ungrab sound now
      · exact sound
  | terminated now => exact ⟨(sound_ungrab sound now).balanced, (sound_ungrab sound now).virtual⟩
  | updateDevicesDisabled needToDisable => exact sound_updateDevicesDisabled sound needToDisable
  | coreConfigurationUpdated configuration needToDisable =>
      have updated : Sound { grabber with
          device := { grabber.device with configuration := configuration } } :=
        ⟨sound.balanced, sound.virtual⟩
      exact sound_updateDevicesDisabled updated needToDisable

theorem releasesAnswered_step_iff {grabber : Grabber} (sound : grabber.Sound) (action : Action) :
    grabber.ReleasesAnswered action ↔ grabber.ReleasesLetThrough action := by
  cases action with
  | valuesArrived values now =>
      refine forall_congr' fun before => forall_congr' fun value => forall_congr' fun after =>
        forall_congr' fun _ => ?_
      exact answered_iff (valuesArrived_spec sound before now).2.2.1 value now
  | _ => exact Iff.rfl

/-- In every run: every release of a key that is down is answered exactly when every
such release finds the device not disabled and passes its filter. -/
theorem releasesAnswered_iff (deviceId : DeviceId) (properties : DeviceProperties)
    (configuration : DeviceConfiguration) (actions : List Action) :
    Foundation.Execution.StepsMeet step ReleasesAnswered
        (Grabber.initial deviceId properties configuration) actions ↔
      Foundation.Execution.StepsMeet step ReleasesLetThrough
        (Grabber.initial deviceId properties configuration) actions := by
  have start := sound_initial deviceId properties configuration
  generalize Grabber.initial deviceId properties configuration = grabber at start
  induction actions generalizing grabber with
  | nil => exact Iff.rfl
  | cons action rest ih =>
      exact and_congr (releasesAnswered_step_iff start action) (ih _ (sound_step _ action start))

/-! ## A built-in keyboard that is disabled while a key is down -/

def builtInKeyboard : DeviceProperties where
  vendorId := 0x05ac
  productId := 0x0342
  deviceAddress := ""
  transport := "FIFO"
  isApple := true
  isKeyboard := true
  isPointingDevice := false
  isGamePad := false
  isConsumer := false
  isVirtualDevice := false
  isBuiltInKeyboard := true
  isBuiltInTouchBar := false

def defaultConfiguration : DeviceConfiguration where
  ignoreVendorEvents := false
  treatAsBuiltInKeyboard := false
  makeEntriesParameters := ⟨fun v => v, fun v => v⟩
  filterUselessEventsFromSpecificDevices := true
  reorderSameTimestampInputEventsToPrioritizeModifiers := true

/-- The value of the key `a`. -/
def keyAValue (timeStamp integerValue : Int) : HidValue :=
  ⟨timeStamp, integerValue, some UsagePage.keyboardOrKeypad, some Usage.keyboardA⟩

/-- The key `a` goes down, a keyboard is plugged in that disables the built-in one,
and `a` is released. -/
def disabledWhileHeld : List Action :=
  [.seizedChanged true, .started 10, .valuesArrived [keyAValue 20 1] 20,
    .updateDevicesDisabled true, .valuesArrived [keyAValue 30 0] 30]

omit [ExpressionLibrary] in
/-- The release of `a` is delivered while the device is seized, and nothing is pushed
for it: `a` stays down and stays in the balance filter. -/
theorem disabledWhileHeld_notAnswered :
    let _ := zeroExpressions
    let start := Grabber.initial 1 builtInKeyboard defaultConfiguration
    let keyA := MomentarySwitchEvent.make UsagePage.keyboardOrKeypad Usage.keyboardA
    let final := disabledWhileHeld.foldl step start
    (keyA, EventType.keyUp) ∈ final.delivered (keyAValue 30 0) ∧
      final.device.seized = true ∧ final.keyDown keyA = true ∧
      keyA ∈ final.input.physicalPressed 1 ∧
      ¬ Foundation.Execution.StepsMeet step ReleasesAnswered start disabledWhileHeld := by
  let _ := zeroExpressions
  refine ⟨by decide, by decide, by decide, by decide, ?_⟩
  rintro ⟨_, _, _, _, answered, _⟩
  have released := (answered [] (keyAValue 30 0) [] rfl (by decide) (by decide)
    (.make UsagePage.keyboardOrKeypad Usage.keyboardA) (by decide)).1 (by decide)
  exact absurd released (by decide)

end Grabber

end Karabiner

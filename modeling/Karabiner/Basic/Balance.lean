import Karabiner.Basic.Manipulator

/-! # What a basic manipulator owes its output queue

Every key_down that `event_sender` posts is answered by a key_up that is posted later in
the same call or kept for the key_up, and every mandatory modifier it releases is pressed
again or noted as released. So the key_downs minus the key_ups in the output queue,
together with what the record still owes, stay the same (`Sends`), and a record whose
key_up has been sent owes nothing.
-/

namespace Karabiner

/-- What an event counts for a key of a device: a key_down one, a key_up minus one. -/
def eventCount (deviceId : DeviceId) (key : MomentarySwitchEvent) (sender : DeviceId)
    (event : Event) (eventType : EventType) : Int :=
  if sender = deviceId ∧ event = .momentarySwitchEvent key then
    match eventType with
    | .keyDown => 1
    | .keyUp => -1
    | .single => 0
  else 0

theorem eventCount_keyUp (deviceId : DeviceId) (key : MomentarySwitchEvent) (sender : DeviceId)
    (event : Event) :
    eventCount deviceId key sender event .keyUp =
      -eventCount deviceId key sender event .keyDown := by
  unfold eventCount
  split <;> rfl

/-- The key_downs minus the key_ups of a key of a device. -/
def balance (deviceId : DeviceId) (key : MomentarySwitchEvent) (entries : List Entry) : Int :=
  (entries.map fun entry => eventCount deviceId key entry.deviceId entry.event entry.eventType).sum

@[simp] theorem balance_nil (deviceId : DeviceId) (key : MomentarySwitchEvent) :
    balance deviceId key [] = 0 := rfl

@[simp] theorem balance_append (deviceId : DeviceId) (key : MomentarySwitchEvent)
    (first second : List Entry) :
    balance deviceId key (first ++ second) =
      balance deviceId key first + balance deviceId key second := by
  simp [balance]

@[simp] theorem balance_singleton (deviceId : DeviceId) (key : MomentarySwitchEvent)
    (entry : Entry) :
    balance deviceId key [entry] =
      eventCount deviceId key entry.deviceId entry.event entry.eventType := by
  simp [balance]

theorem balance_perm {deviceId : DeviceId} {key : MomentarySwitchEvent}
    {first second : List Entry} (perm : first.Perm second) :
    balance deviceId key first = balance deviceId key second :=
  (perm.map _).sum_eq

/-- What the event of a modifier counts; caps lock is not sent as a key. -/
def modifierCount (deviceId : DeviceId) (key : MomentarySwitchEvent) (sender : DeviceId)
    (event : MomentarySwitchEvent) (eventType : EventType) : Int :=
  if event.valid then
    eventCount deviceId key sender (makeLazyModifierKeyEvent event eventType).1
      (makeLazyModifierKeyEvent event eventType).2
  else 0

/-- A modifier key sent up takes back exactly what the same key sent down adds to the balance of a
key. -/
theorem modifierCount_keyUp (deviceId : DeviceId) (key : MomentarySwitchEvent)
    (sender : DeviceId) (event : MomentarySwitchEvent) :
    modifierCount deviceId key sender event .keyUp =
      -modifierCount deviceId key sender event .keyDown := by
  unfold modifierCount makeLazyModifierKeyEvent
  split
  · split
    · simp [eventCount]
    · exact eventCount_keyUp deviceId key sender _
  · rfl

namespace ManipulatedOriginalEvent

/-- The mandatory modifiers that are released and not pressed again. -/
def liftedModifiers (current : ManipulatedOriginalEvent) : List ModifierFlag :=
  current.fromMandatoryModifiers.filter fun modifier =>
    decide (modifier ∈ current.keyUpPostedFromMandatoryModifiers)

/-- What the record still has to send counts, if its modifiers are pressed again for the
given device. -/
def owed (current : ManipulatedOriginalEvent) (sender : DeviceId) (deviceId : DeviceId)
    (key : MomentarySwitchEvent) : Int :=
  (current.eventsAtKeyUp.map fun event =>
      eventCount deviceId key event.deviceId event.event event.eventType).sum +
    (current.liftedModifiers.map fun modifier =>
      modifierCount deviceId key sender (.ofModifierFlag modifier) .keyDown).sum

/-- Nothing is left to send. -/
def Discharged (current : ManipulatedOriginalEvent) : Prop :=
  current.eventsAtKeyUp = [] ∧ current.liftedModifiers = []

theorem Discharged.owed_eq_zero {current : ManipulatedOriginalEvent}
    (discharged : current.Discharged) (sender deviceId : DeviceId) (key : MomentarySwitchEvent) :
    current.owed sender deviceId key = 0 := by
  unfold owed
  rw [discharged.1, discharged.2]
  rfl

/-- The device matters only while modifiers are released. -/
theorem owed_congr {current : ManipulatedOriginalEvent} {sender other : DeviceId}
    (same : current.liftedModifiers ≠ [] → sender = other) (deviceId : DeviceId)
    (key : MomentarySwitchEvent) :
    current.owed sender deviceId key = current.owed other deviceId key := by
  by_cases none : current.liftedModifiers = []
  · unfold owed
    rw [none]
    rfl
  · rw [same none]

/-- What sending does not change. -/
def keys (current : ManipulatedOriginalEvent) : List FromEvent × Bool × DeviceId :=
  (current.fromEvents, current.keyUpPosted, current.keyDownDeviceId)

end ManipulatedOriginalEvent

namespace Sending

/-- The balance of the output queue once the record has sent what it owes. -/
def settled (sending : Sending) (sender deviceId : DeviceId) (key : MomentarySwitchEvent) : Int :=
  balance deviceId key sending.queue.events + sending.current.owed sender deviceId key

/-- Events that count as `net` are sent or kept for later. -/
structure Sends (front : Entry) (net : DeviceId → MomentarySwitchEvent → Int)
    (sending after : Sending) : Prop where
  settled : ∀ deviceId key, after.settled front.deviceId deviceId key =
    sending.settled front.deviceId deviceId key + net deviceId key
  keys : after.current.keys = sending.current.keys

namespace Sends

variable {front : Entry} {net others : DeviceId → MomentarySwitchEvent → Int}
  {sending middle after : Sending}

theorem refl (front : Entry) (sending : Sending) : Sends front (fun _ _ => 0) sending sending :=
  ⟨fun _ _ => (Int.add_zero _).symm, rfl⟩

theorem trans (first : Sends front net sending middle) (second : Sends front others middle after) :
    Sends front (fun deviceId key => net deviceId key + others deviceId key) sending after := by
  refine ⟨fun deviceId key => ?_, second.keys.trans first.keys⟩
  rw [second.settled, first.settled, Int.add_assoc]

theorem congr (sends : Sends front net sending after)
    (same : ∀ deviceId key, net deviceId key = others deviceId key) :
    Sends front others sending after :=
  ⟨fun deviceId key => (sends.settled deviceId key).trans (by rw [same]), sends.keys⟩

/-- Two computations that balance each other. -/
theorem trans_zero (first : Sends front net sending middle)
    (second : Sends front others middle after)
    (zero : ∀ deviceId key, net deviceId key + others deviceId key = 0) :
    Sends front (fun _ _ => 0) sending after :=
  (first.trans second).congr zero

/-- Sending the elements of a list one after the other adds the sum of what each of them adds,
whatever the sending is when its turn comes. -/
theorem foldl {α : Type} {send : Sending → α → Sending}
    {count : α → DeviceId → MomentarySwitchEvent → Int}
    (elements : List α)
    (each : ∀ element ∈ elements, ∀ sending,
      Sends front (count element) sending (send sending element)) (sending : Sending) :
    Sends front (fun deviceId key => (elements.map fun element => count element deviceId key).sum)
      sending (elements.foldl send sending) := by
  induction elements generalizing sending with
  | nil => exact refl front sending
  | cons element rest ih =>
      have first := each element List.mem_cons_self sending
      have others := ih (fun other member => each other (List.mem_cons_of_mem _ member))
        (send sending element)
      exact (first.trans others).congr fun _ _ => (List.sum_cons).symm

/-- A fold of computations that count nothing. -/
theorem foldl_zero {α : Type} {send : Sending → α → Sending}
    (each : ∀ sending element, Sends front (fun _ _ => 0) sending (send sending element))
    (elements : List α) (sending : Sending) :
    Sends front (fun _ _ => 0) sending (elements.foldl send sending) := by
  refine (foldl elements (fun element _ sending => each sending element) sending).congr
    fun _ _ => ?_
  simp

end Sends

variable [ExpressionLibrary]

/-- An event that is posted adds its own stroke to the balance of its key and nothing to that of
another. -/
theorem sends_post (sending : Sending) (front : Entry) (event : EventAtKeyUp) :
    Sends front (fun deviceId key =>
        eventCount deviceId key event.deviceId event.event event.eventType)
      sending (sending.post front event) := by
  refine ⟨fun deviceId key => ?_, rfl⟩
  change balance deviceId key (sending.queue.events ++ [_]) + _ = _
  rw [balance_append, balance_singleton]
  unfold settled
  change _ + eventCount deviceId key event.deviceId event.event event.eventType + _ = _
  rw [add_right_comm]
  rfl

/-- A lazy or direct modifier key event adds its own stroke, which for caps lock is that of the
sticky key. -/
theorem sends_postLazyModifierKeyEvent (sending : Sending) (front : Entry)
    (event : MomentarySwitchEvent) (eventType : EventType) (sender : DeviceId) (lazy : Bool) :
    Sends front (fun deviceId key => modifierCount deviceId key sender event eventType) sending
      (sending.postLazyModifierKeyEvent front event eventType sender lazy) := by
  unfold postLazyModifierKeyEvent modifierCount
  cases event.valid with
  | true =>
      exact sends_post sending front ⟨sender, (makeLazyModifierKeyEvent event eventType).1,
        (makeLazyModifierKeyEvent event eventType).2, front.originalEvent, lazy⟩
  | false => exact Sends.refl front sending

theorem sends_postLazyModifierKeyEvents (sending : Sending) (front : Entry)
    (modifiers : List ModifierFlag) (eventType : EventType) :
    Sends front (fun deviceId key => (modifiers.map fun modifier =>
        modifierCount deviceId key front.deviceId (.ofModifierFlag modifier) eventType).sum)
      sending (sending.postLazyModifierKeyEvents front modifiers eventType) :=
  Sends.foldl modifiers (fun _ _ sending => sends_postLazyModifierKeyEvent sending front _
    eventType front.deviceId true) sending

/-- The current record after events of modifiers is the one before. -/
@[simp] theorem current_postLazyModifierKeyEvent (sending : Sending) (front : Entry)
    (event : MomentarySwitchEvent) (eventType : EventType) (sender : DeviceId) (lazy : Bool) :
    (sending.postLazyModifierKeyEvent front event eventType sender lazy).current =
      sending.current := by
  unfold postLazyModifierKeyEvent
  split <;> rfl

omit [ExpressionLibrary] in
theorem current_foldl {α : Type} {send : Sending → α → Sending}
    (each : ∀ sending element, (send sending element).current = sending.current)
    (elements : List α) (sending : Sending) :
    (elements.foldl send sending).current = sending.current := by
  induction elements generalizing sending with
  | nil => rfl
  | cons element rest ih => exact (ih _).trans (each sending element)

@[simp] theorem current_postLazyModifierKeyEvents (sending : Sending) (front : Entry)
    (modifiers : List ModifierFlag) (eventType : EventType) :
    (sending.postLazyModifierKeyEvents front modifiers eventType).current = sending.current :=
  current_foldl (fun sending _ => current_postLazyModifierKeyEvent sending front _ _ _ _)
    modifiers sending

omit [ExpressionLibrary] in
/-- A sum over the elements with one of two properties that exclude each other. -/
theorem sum_filter_or {α : Type} (count : α → Int) (first second : α → Bool)
    (exclusive : ∀ element, first element = true → second element = false)
    (elements : List α) :
    ((elements.filter fun element => first element || second element).map count).sum =
      ((elements.filter first).map count).sum + ((elements.filter second).map count).sum := by
  induction elements with
  | nil => rfl
  | cons element rest ih =>
      cases isFirst : first element with
      | true =>
          have notSecond := exclusive element isFirst
          simp [isFirst, notSecond, ih, Int.add_assoc]
      | false =>
          cases isSecond : second element with
          | true => simp [isFirst, isSecond, ih, Int.add_left_comm]
          | false => simp [isFirst, isSecond, ih]

/-- A mandatory modifier that is released is owed a key_down. -/
theorem sends_postFromMandatoryModifiersKeyUp (sending : Sending) (front : Entry) :
    Sends front (fun _ _ => 0) sending (sending.postFromMandatoryModifiersKeyUp front) := by
  unfold postFromMandatoryModifiersKeyUp
  dsimp only
  generalize lifted : (sending.current.fromMandatoryModifiers.filter fun modifier =>
    !decide (modifier ∈ sending.current.keyUpPostedFromMandatoryModifiers) &&
      sending.queue.modifierFlagManager.isPressed modifier) = modifiers
  have noted : Sends front (fun deviceId key => (modifiers.map fun modifier =>
        modifierCount deviceId key front.deviceId (.ofModifierFlag modifier) .keyDown).sum) sending
      { sending with
        current := { sending.current with
          keyUpPostedFromMandatoryModifiers :=
            sending.current.keyUpPostedFromMandatoryModifiers ++ modifiers } } := by
    refine ⟨fun deviceId key => ?_, rfl⟩
    have split := sum_filter_or
      (fun modifier => modifierCount deviceId key front.deviceId (.ofModifierFlag modifier) .keyDown)
      (fun modifier => decide (modifier ∈ sending.current.keyUpPostedFromMandatoryModifiers))
      (fun modifier => !decide (modifier ∈ sending.current.keyUpPostedFromMandatoryModifiers) &&
        sending.queue.modifierFlagManager.isPressed modifier)
      (fun modifier isFirst => by simp [isFirst]) sending.current.fromMandatoryModifiers
    have same : ∀ modifier ∈ sending.current.fromMandatoryModifiers,
        decide (modifier ∈ sending.current.keyUpPostedFromMandatoryModifiers ++ modifiers) =
          (decide (modifier ∈ sending.current.keyUpPostedFromMandatoryModifiers) ||
            (!decide (modifier ∈ sending.current.keyUpPostedFromMandatoryModifiers) &&
              sending.queue.modifierFlagManager.isPressed modifier)) := by
      intro modifier member
      rw [← lifted, Bool.eq_iff_iff]
      simp [member]
    unfold settled ManipulatedOriginalEvent.owed ManipulatedOriginalEvent.liftedModifiers
    dsimp only
    rw [List.filter_congr same, split, lifted]
    omega
  refine noted.trans_zero (sends_postLazyModifierKeyEvents _ front modifiers .keyUp)
    fun deviceId key => ?_
  rw [← List.sum_map_add]
  refine List.sum_eq_zero fun count member => ?_
  obtain ⟨modifier, _, rfl⟩ := List.mem_map.mp member
  rw [modifierCount_keyUp]
  exact Int.add_right_neg _

/-- The released mandatory modifiers are pressed again. -/
theorem sends_postFromMandatoryModifiersKeyDown (sending : Sending) (front : Entry) :
    Sends front (fun _ _ => 0) sending (sending.postFromMandatoryModifiersKeyDown front) ∧
      (sending.postFromMandatoryModifiersKeyDown front).current.liftedModifiers = [] := by
  unfold postFromMandatoryModifiersKeyDown
  dsimp only
  generalize lifted : (sending.current.fromMandatoryModifiers.filter fun modifier =>
    decide (modifier ∈ sending.current.keyUpPostedFromMandatoryModifiers)) = modifiers
  have none : ManipulatedOriginalEvent.liftedModifiers { sending.current with
      keyUpPostedFromMandatoryModifiers :=
        sending.current.keyUpPostedFromMandatoryModifiers.filter fun modifier =>
          !decide (modifier ∈ modifiers) } = [] := by
    unfold ManipulatedOriginalEvent.liftedModifiers
    refine List.filter_eq_nil_iff.mpr fun modifier member => ?_
    rw [← lifted]
    simp [member]
  refine ⟨?_, ?_⟩
  · have noted : Sends front (fun deviceId key => -(modifiers.map fun modifier =>
          modifierCount deviceId key front.deviceId (.ofModifierFlag modifier) .keyDown).sum)
        sending { sending with
          current := { sending.current with
            keyUpPostedFromMandatoryModifiers :=
              sending.current.keyUpPostedFromMandatoryModifiers.filter fun modifier =>
                !decide (modifier ∈ modifiers) } } := by
      refine ⟨fun deviceId key => ?_, rfl⟩
      unfold settled ManipulatedOriginalEvent.owed
      rw [none]
      unfold ManipulatedOriginalEvent.liftedModifiers
      rw [lifted]
      simp only [List.map_nil, List.sum_nil]
      omega
    exact noted.trans_zero (sends_postLazyModifierKeyEvents _ front modifiers .keyDown)
      fun deviceId key => Int.add_left_neg _
  · rw [current_postLazyModifierKeyEvents]
    exact none

/-! ## The events of the definitions -/

omit [ExpressionLibrary] in
/-- A key up event that is kept for the release counts as if it had been sent: the debt of the
record and the queue are counted together. -/
theorem sends_keepForKeyUp (sending : Sending) (front : Entry) (event : EventAtKeyUp) :
    Sends front (fun deviceId key =>
        eventCount deviceId key event.deviceId event.event event.eventType)
      sending (sending.keepForKeyUp event) := by
  refine ⟨fun deviceId key => ?_, rfl⟩
  unfold settled ManipulatedOriginalEvent.owed keepForKeyUp
  dsimp only
  rw [List.map_append, List.sum_append, List.map_singleton, List.sum_singleton,
    add_right_comm _ (eventCount _ _ _ _ _), ← add_assoc]
  rfl

/-- The key down part of an element of a list adds one press of the key it is made to, on the device
of the front entry. -/
theorem sends_postKeyDown (sending : Sending) (front : Entry) (definition : ToEventDefinition)
    (event : Event) :
    Sends front (fun deviceId key => eventCount deviceId key front.deviceId event .keyDown)
      sending (sending.postKeyDown front definition event) := by
  unfold postKeyDown
  have posted := sends_post sending front
    ⟨front.deviceId, event, .keyDown, front.originalEvent, definition.lazy⟩
  dsimp only
  split
  · exact ⟨posted.settled, posted.keys⟩
  · exact posted

variable [MachTimebase]

theorem sends_postKeyUp (sending : Sending) (front : Entry) (definition : ToEventDefinition)
    (event : Event) :
    Sends front (fun deviceId key => eventCount deviceId key front.deviceId event .keyUp)
      sending (sending.postKeyUp front definition event) := by
  have posted := sends_post (sending.holdDown definition) front
    ⟨front.deviceId, event, .keyUp, front.originalEvent, definition.lazy⟩
  exact ⟨posted.settled, posted.keys⟩

omit [ExpressionLibrary] [MachTimebase] in
/-- The modifiers of an element of a list are keys of the keyboard page, so that none of them is
lost when it is posted. -/
theorem valid_of_mem_makeModifierEvents {definition : ToEventDefinition}
    {event : MomentarySwitchEvent} (member : event ∈ definition.makeModifierEvents) :
    event.valid = true := by
  obtain ⟨modifier, _, made⟩ := List.mem_filterMap.mp member
  cases flags : modifier.getModifierFlags with
  | nil =>
      rw [flags] at made
      cases made
  | cons flag rest =>
      rw [flags] at made
      dsimp only at made
      split at made
      · rename_i valid
        exact Option.some.inj made ▸ valid
      · cases made

omit [ExpressionLibrary] [MachTimebase] in
/-- The key_ups of the modifiers undo their key_downs. -/
theorem sum_modifierCount (deviceId : DeviceId) (key : MomentarySwitchEvent) (sender : DeviceId)
    (events : List MomentarySwitchEvent) :
    (events.map fun event => modifierCount deviceId key sender event .keyUp).sum =
      -(events.map fun event => modifierCount deviceId key sender event .keyDown).sum := by
  induction events with
  | nil => rfl
  | cons event rest ih =>
      rw [List.map_cons, List.map_cons, List.sum_cons, List.sum_cons, ih, modifierCount_keyUp]
      omega

omit [MachTimebase] in
/-- The key up events of the modifiers of an element add one release each, whether they are posted
at once or kept for the release. -/
theorem sends_modifierKeyUps (sending : Sending) (front : Entry) (kept : Bool)
    (definition : ToEventDefinition) :
    Sends front (fun deviceId key => (definition.makeModifierEvents.map fun modifier =>
        modifierCount deviceId key front.deviceId modifier .keyUp).sum) sending
      (definition.makeModifierEvents.foldl (postModifierKeyUp front kept) sending) := by
  refine Sends.foldl definition.makeModifierEvents (fun modifier member sending => ?_) sending
  unfold postModifierKeyUp
  cases kept with
  | true =>
      refine (sends_keepForKeyUp sending front _).congr fun deviceId key => ?_
      unfold modifierCount
      rw [if_pos (valid_of_mem_makeModifierEvents member)]
  | false => exact sends_postLazyModifierKeyEvent sending front modifier .keyUp front.deviceId true

/-- A `to` event is posted with its modifiers, and what goes up later is kept. -/
theorem sends_postEventAtKeyDown (sending : Sending) (front : Entry) (last : Bool)
    (definition : ToEventDefinition) :
    Sends front (fun _ _ => 0) sending (sending.postEventAtKeyDown front last definition) := by
  unfold postEventAtKeyDown
  cases definition.eventDefinition.toEvent with
  | none => exact Sends.refl front sending
  | some event =>
      dsimp only
      generalize lazy : (!isModifierKeyEvent event || definition.lazy) = isLazy
      have modifiersDown := Sends.foldl definition.makeModifierEvents
        (fun modifier _ sending => sends_postLazyModifierKeyEvent sending front modifier .keyDown
          front.deviceId isLazy) sending
      generalize definition.makeModifierEvents.foldl (fun sending modifier =>
        sending.postLazyModifierKeyEvent front modifier .keyDown front.deviceId isLazy) sending =
          withModifiers at modifiersDown ⊢
      have pressed := sends_postKeyDown withModifiers front definition event
      generalize withModifiers.postKeyDown front definition event = down at pressed ⊢
      have released : Sends front
          (fun deviceId key => eventCount deviceId key front.deviceId event .keyUp) down
          (if !last || !definition.repeat_ then down.postKeyUp front definition event
            else down.keepForKeyUp
              ⟨front.deviceId, event, .keyUp, front.originalEvent, definition.lazy⟩) := by
        split
        · exact sends_postKeyUp down front definition event
        · exact sends_keepForKeyUp down front
            ⟨front.deviceId, event, .keyUp, front.originalEvent, definition.lazy⟩
      generalize (if (!last || !definition.repeat_) = true then
          down.postKeyUp front definition event
        else down.keepForKeyUp
          ⟨front.deviceId, event, .keyUp, front.originalEvent, definition.lazy⟩) = up
        at released ⊢
      have modifiersUp := sends_modifierKeyUps up front (last && isModifierKeyEvent event) definition
      refine (((modifiersDown.trans pressed).trans released).trans modifiersUp).congr
        fun deviceId key => ?_
      rw [eventCount_keyUp, sum_modifierCount]
      omega

theorem sends_postEachAtKeyDown (front : Entry) (definitions : List ToEventDefinition)
    (sending : Sending) :
    Sends front (fun _ _ => 0) sending (postEachAtKeyDown front definitions sending) := by
  induction definitions generalizing sending with
  | nil => exact Sends.refl front sending
  | cons definition rest ih =>
      exact (sends_postEventAtKeyDown sending front rest.isEmpty definition).trans_zero (ih _)
        fun _ _ => Int.add_zero 0

omit [ExpressionLibrary] [MachTimebase] in
/-- Filtering only refreshes the clock of the environment. -/
theorem sends_sendFiltered (sending : Sending) (front : Entry)
    (definitions : List ToEventDefinition) {send : List ToEventDefinition → Sending → Sending}
    (each : ∀ filtered sending, Sends front (fun _ _ => 0) sending (send filtered sending)) :
    Sends front (fun _ _ => 0) sending (sending.sendFiltered front definitions send) := by
  unfold sendFiltered
  split
  · exact Sends.refl front sending
  · have sent := each (filterAndReplaceEvents ⟨front.deviceId, front.state⟩ sending.current
      definitions sending.queue.manipulatorEnvironment).1 { sending with
        queue := { sending.queue with
          manipulatorEnvironment := (filterAndReplaceEvents ⟨front.deviceId, front.state⟩
            sending.current definitions sending.queue.manipulatorEnvironment).2 } }
    exact ⟨sent.settled, sent.keys⟩

theorem sends_postEventsAtKeyDown (sending : Sending) (front : Entry)
    (definitions : List ToEventDefinition) :
    Sends front (fun _ _ => 0) sending (sending.postEventsAtKeyDown front definitions) :=
  sends_sendFiltered sending front definitions (sends_postEachAtKeyDown front)

/-- An element of a list of extra events is sent down and up, which leaves every balance as it was
and keeps nothing for the release. -/
theorem sends_postExtraToEvent (front : Entry) (sending : Sending)
    (definition : ToEventDefinition) :
    Sends front (fun _ _ => 0) sending (postExtraToEvent front sending definition) ∧
      (postExtraToEvent front sending definition).current.eventsAtKeyUp =
        sending.current.eventsAtKeyUp := by
  unfold postExtraToEvent
  cases definition.eventDefinition.toEvent with
  | none => exact ⟨Sends.refl front sending, rfl⟩
  | some event =>
      dsimp only
      have modifiersDown := Sends.foldl definition.makeModifierEvents
        (fun modifier _ sending => sends_postLazyModifierKeyEvent sending front modifier .keyDown
          front.deviceId true) sending
      have modifiersKept := current_foldl (fun sending modifier =>
        current_postLazyModifierKeyEvent sending front modifier .keyDown front.deviceId true)
        definition.makeModifierEvents sending
      generalize definition.makeModifierEvents.foldl (fun sending modifier =>
        sending.postLazyModifierKeyEvent front modifier .keyDown front.deviceId true) sending =
          withModifiers at modifiersDown modifiersKept ⊢
      have pressed := sends_postKeyDown withModifiers front definition event
      have pressedKept : (withModifiers.postKeyDown front definition event).current.eventsAtKeyUp =
          withModifiers.current.eventsAtKeyUp := by
        unfold postKeyDown
        dsimp only
        split <;> rfl
      generalize withModifiers.postKeyDown front definition event = down
        at pressed pressedKept ⊢
      have released := sends_postKeyUp down front definition event
      have releasedKept : (down.postKeyUp front definition event).current = down.current := rfl
      generalize down.postKeyUp front definition event = up at released releasedKept ⊢
      have modifiersUp := sends_modifierKeyUps up front false definition
      have upKept := current_foldl (fun sending modifier => by
        exact current_postLazyModifierKeyEvent sending front modifier .keyUp front.deviceId true)
        definition.makeModifierEvents up
      refine ⟨(((modifiersDown.trans pressed).trans released).trans modifiersUp).congr
        fun deviceId key => ?_, ?_⟩
      · rw [eventCount_keyUp, sum_modifierCount]
        omega
      · refine (congrArg ManipulatedOriginalEvent.eventsAtKeyUp upKept).trans ?_
        rw [releasedKept, pressedKept, modifiersKept]

/-- A list of extra events is neutral as well: each element leaves every balance and the events that
are kept as they were. -/
theorem sends_postExtraToEvents (sending : Sending) (front : Entry)
    (definitions : List ToEventDefinition) :
    Sends front (fun _ _ => 0) sending (sending.postExtraToEvents front definitions) ∧
      (sending.postExtraToEvents front definitions).current.eventsAtKeyUp =
        sending.current.eventsAtKeyUp := by
  refine ⟨sends_sendFiltered sending front definitions fun filtered sending =>
    Sends.foldl_zero (fun sending definition =>
      (sends_postExtraToEvent front sending definition).1) filtered sending, ?_⟩
  have kept : ∀ (filtered : List ToEventDefinition) (sending : Sending),
      (filtered.foldl (postExtraToEvent front) sending).current.eventsAtKeyUp =
        sending.current.eventsAtKeyUp := by
    intro filtered
    induction filtered with
    | nil => exact fun _ => rfl
    | cons definition rest ih =>
        exact fun sending => (ih _).trans (sends_postExtraToEvent front sending definition).2
  unfold postExtraToEvents sendFiltered
  split
  · rfl
  · exact kept _ _

omit [MachTimebase] in
theorem eventsAtKeyUp_postFromMandatoryModifiers (sending : Sending) (front : Entry) :
    (sending.postFromMandatoryModifiersKeyUp front).current.eventsAtKeyUp =
        sending.current.eventsAtKeyUp ∧
      (sending.postFromMandatoryModifiersKeyDown front).current.eventsAtKeyUp =
        sending.current.eventsAtKeyUp := by
  unfold postFromMandatoryModifiersKeyUp postFromMandatoryModifiersKeyDown
  dsimp only
  rw [current_postLazyModifierKeyEvents, current_postLazyModifierKeyEvents]
  exact ⟨rfl, rfl⟩

/-- Extra events leave a record that owes nothing as it is. -/
theorem sends_postExtraWithoutMandatoryModifiers (sending : Sending) (front : Entry)
    (definitions : List ToEventDefinition) :
    Sends front (fun _ _ => 0) sending
        (sending.postExtraWithoutMandatoryModifiers front definitions) ∧
      (sending.current.Discharged →
        (sending.postExtraWithoutMandatoryModifiers front definitions).current.Discharged) := by
  unfold postExtraWithoutMandatoryModifiers
  have released := sends_postFromMandatoryModifiersKeyUp sending front
  have releasedKept := (eventsAtKeyUp_postFromMandatoryModifiers sending front).1
  generalize sending.postFromMandatoryModifiersKeyUp front = up at released releasedKept ⊢
  obtain ⟨extra, extraKept⟩ := sends_postExtraToEvents up front definitions
  generalize up.postExtraToEvents front definitions = posted at extra extraKept ⊢
  obtain ⟨pressed, none⟩ := sends_postFromMandatoryModifiersKeyDown posted front
  have pressedKept := (eventsAtKeyUp_postFromMandatoryModifiers posted front).2
  refine ⟨(released.trans_zero extra fun _ _ => rfl).trans_zero pressed fun _ _ => rfl,
    fun discharged => ⟨?_, none⟩⟩
  rw [pressedKept, extraKept, releasedKept]
  exact discharged.1

/-- What the event of an active modifier flag counts. -/
def flagCount (deviceId : DeviceId) (key : MomentarySwitchEvent) (flag : ActiveModifierFlag) :
    Int :=
  modifierCount deviceId key flag.deviceId (.ofModifierFlag flag.modifierFlag)
    (if flag.getCount > 0 then .keyDown else .keyUp)

omit [ExpressionLibrary] [MachTimebase] in
/-- The inverse of a flag, which the restorer posts at the end of a scope, takes back what the flag
adds. -/
theorem flagCount_inverse (deviceId : DeviceId) (key : MomentarySwitchEvent)
    (flag : ActiveModifierFlag) :
    flagCount deviceId key flag.inverse = -flagCount deviceId key flag := by
  unfold flagCount
  rw [ActiveModifierFlag.inverse_deviceId, ActiveModifierFlag.inverse_modifierFlag]
  have count : flag.inverse.getCount = -flag.getCount :=
    ActiveModifierFlagType.getCount_inverse flag.type
  have cases : flag.getCount = 1 ∨ flag.getCount = -1 := by
    unfold ActiveModifierFlag.getCount
    cases flag.type <;> simp [ActiveModifierFlagType.getCount]
  rw [count]
  rcases cases with up | down
  · rw [up]
    exact modifierCount_keyUp deviceId key flag.deviceId _
  · rw [down]
    have opposite :=
      modifierCount_keyUp deviceId key flag.deviceId (.ofModifierFlag flag.modifierFlag)
    simp only [Int.reduceNeg, neg_neg, Int.reduceGT, if_pos, if_false]
    omega

omit [ExpressionLibrary] [MachTimebase] in
/-- Flags and their inverses balance. -/
theorem sum_flagCount_inverse (deviceId : DeviceId) (key : MomentarySwitchEvent)
    (flags : List ActiveModifierFlag) :
    (flags.map (flagCount deviceId key)).sum +
      ((flags.map ActiveModifierFlag.inverse).map (flagCount deviceId key)).sum = 0 := by
  induction flags with
  | nil => rfl
  | cons flag rest ih =>
      rw [List.map_cons, List.map_cons, List.map_cons, List.sum_cons, List.sum_cons,
        flagCount_inverse]
      omega

omit [MachTimebase] in
theorem sends_postActiveModifierFlags (sending : Sending) (front : Entry)
    (flags : List ActiveModifierFlag) :
    Sends front (fun deviceId key => (flags.map (flagCount deviceId key)).sum) sending
        (sending.postActiveModifierFlags front flags) ∧
      (sending.postActiveModifierFlags front flags).current = sending.current := by
  unfold postActiveModifierFlags
  refine ⟨Sends.foldl flags (fun flag _ sending => sends_postLazyModifierKeyEvent sending front _ _
    flag.deviceId true) sending, current_foldl (fun sending flag => ?_) flags sending⟩
  exact current_postLazyModifierKeyEvent sending front _ _ flag.deviceId true

omit [MachTimebase] in
/-- The modifiers of the key_down are set before the events and taken back after them. -/
theorem sends_withKeyDownModifierFlags (sending : Sending) (front : Entry)
    {body : Sending → Sending}
    (each : ∀ sending, Sends front (fun _ _ => 0) sending (body sending) ∧
      (sending.current.Discharged → (body sending).current.Discharged)) :
    Sends front (fun _ _ => 0) sending (sending.withKeyDownModifierFlags front body) ∧
      (sending.current.Discharged →
        (sending.withKeyDownModifierFlags front body).current.Discharged) := by
  unfold withKeyDownModifierFlags
  dsimp only
  generalize ScopedModifierFlags.make sending.queue.modifierFlagManager
    sending.current.keyDownModifierFlags = scope
  have start : Sends front (fun _ _ => 0) sending { sending with
      queue := { sending.queue with modifierFlagManager := scope.destroy } } :=
    ⟨fun _ _ => (Int.add_zero _).symm, rfl⟩
  obtain ⟨before, beforeKept⟩ := sends_postActiveModifierFlags { sending with
    queue := { sending.queue with modifierFlagManager := scope.destroy } } front
    scope.scopedActiveModifierFlags
  generalize postActiveModifierFlags { sending with
    queue := { sending.queue with modifierFlagManager := scope.destroy } } front
    scope.scopedActiveModifierFlags = reached at before beforeKept ⊢
  obtain ⟨inside, insideKept⟩ := each reached
  obtain ⟨after, afterKept⟩ :=
    sends_postActiveModifierFlags (body reached) front scope.getInverseActiveModifierFlags
  refine ⟨(((start.trans before).trans inside).trans after).congr fun deviceId key => ?_,
    fun discharged => ?_⟩
  · have zero := sum_flagCount_inverse deviceId key scope.scopedActiveModifierFlags
    unfold ScopedModifierFlags.getInverseActiveModifierFlags
    omega
  · rw [afterKept]
    refine insideKept ?_
    rw [beforeKept]
    exact discharged

omit [MachTimebase] in
/-- The kept events are sent. -/
theorem sends_postEventsAtKeyUp (sending : Sending) (front : Entry) :
    Sends front (fun _ _ => 0) sending (sending.postEventsAtKeyUp front) ∧
      (sending.postEventsAtKeyUp front).current.eventsAtKeyUp = [] := by
  unfold postEventsAtKeyUp
  dsimp only
  have posted := Sends.foldl sending.current.eventsAtKeyUp
    (fun event _ sending => sends_post sending front event) sending
  have kept := current_foldl (fun sending event => by
    exact (rfl : (Sending.post sending front event).current = sending.current))
    sending.current.eventsAtKeyUp sending
  generalize sending.current.eventsAtKeyUp.foldl (fun sending event => sending.post front event)
    sending = after at posted kept ⊢
  refine ⟨⟨fun deviceId key => ?_, posted.keys⟩, rfl⟩
  have total := posted.settled deviceId key
  unfold settled ManipulatedOriginalEvent.owed at total ⊢
  rw [kept] at total ⊢
  unfold ManipulatedOriginalEvent.liftedModifiers at total ⊢
  simp only [List.map_nil, List.sum_nil] at total ⊢
  omega

end Sending

namespace Basic

variable [ExpressionLibrary] [MachTimebase]

theorem sends_sendAtKeyDown (basic : Basic) (front : Entry) (sending : Sending) :
    Sending.Sends front (fun _ _ => 0) sending (basic.sendAtKeyDown front sending) := by
  unfold sendAtKeyDown
  have sent := (Sending.sends_postFromMandatoryModifiersKeyUp sending front).trans_zero
    (Sending.sends_postEventsAtKeyDown _ front basic.to_) fun _ _ => rfl
  dsimp only
  split
  · exact sent
  · exact sent.trans_zero (Sending.sends_postFromMandatoryModifiersKeyDown _ front).1
      fun _ _ => rfl

theorem sends_sendExtra (definitions : List ToEventDefinition) (front : Entry)
    (sending : Sending) :
    Sending.Sends front (fun _ _ => 0) sending (sendExtra definitions front sending) ∧
      (sending.current.Discharged → (sendExtra definitions front sending).current.Discharged) := by
  unfold sendExtra
  split
  · exact ⟨Sending.Sends.refl front sending, id⟩
  · exact Sending.sends_postExtraWithoutMandatoryModifiers sending front definitions

/-- `to_if_alone` is balanced, and a record that has discharged its key up events stays discharged.
-/
theorem sends_sendToIfAlone (basic : Basic) (front : Entry) (sending : Sending) :
    Sending.Sends front (fun _ _ => 0) sending (basic.sendToIfAlone front sending) ∧
      (sending.current.Discharged → (basic.sendToIfAlone front sending).current.Discharged) := by
  unfold sendToIfAlone
  dsimp only
  split
  · exact ⟨Sending.Sends.refl front sending, id⟩
  · split
    · exact Sending.sends_withKeyDownModifierFlags sending front fun sending =>
        Sending.sends_postExtraWithoutMandatoryModifiers sending front basic.toIfAlone
    · exact ⟨Sending.Sends.refl front sending, id⟩

/-- What is sent once at a key_up settles the record. -/
theorem sends_sendOnceAtKeyUp (basic : Basic) (front : Entry) (sending : Sending)
    (posted : sending.current.keyUpPosted = true → sending.current.Discharged) :
    (∀ deviceId key, (basic.sendOnceAtKeyUp front sending).settled front.deviceId deviceId key =
        sending.settled front.deviceId deviceId key) ∧
      (basic.sendOnceAtKeyUp front sending).current.fromEvents = sending.current.fromEvents ∧
      (basic.sendOnceAtKeyUp front sending).current.Discharged := by
  unfold sendOnceAtKeyUp
  cases already : sending.current.keyUpPosted with
  | true => exact ⟨fun _ _ => rfl, rfl, posted already⟩
  | false =>
      rw [if_neg Bool.false_ne_true]
      dsimp only
      generalize marking : ({ sending with
        current := { sending.current with keyUpPosted := true } } : Sending) = marked
      have start : ∀ deviceId key, marked.settled front.deviceId deviceId key =
          sending.settled front.deviceId deviceId key := by
        intro deviceId key
        rw [← marking]
        rfl
      obtain ⟨keyUps, none⟩ := Sending.sends_postEventsAtKeyUp marked front
      generalize marked.postEventsAtKeyUp front = up at keyUps none ⊢
      obtain ⟨modifiers, lifted⟩ := Sending.sends_postFromMandatoryModifiersKeyDown up front
      have kept := (Sending.eventsAtKeyUp_postFromMandatoryModifiers up front).2
      generalize up.postFromMandatoryModifiersKeyDown front = released at modifiers lifted kept ⊢
      have discharged : released.current.Discharged := ⟨kept.trans none, lifted⟩
      obtain ⟨alone, aloneKept⟩ := basic.sends_sendToIfAlone front released
      generalize basic.sendToIfAlone front released = reached at alone aloneKept ⊢
      obtain ⟨extra, extraKept⟩ := sends_sendExtra basic.toAfterKeyUp front reached
      have total := ((keyUps.trans_zero modifiers fun _ _ => rfl).trans_zero alone
        fun _ _ => rfl).trans_zero extra fun _ _ => rfl
      refine ⟨fun deviceId key => ?_, ?_, extraKept (aloneKept discharged)⟩
      · rw [total.settled, start, Int.add_zero]
      · have fromEvents := congrArg Prod.fst total.keys
        refine fromEvents.trans ?_
        rw [← marking]
        rfl

/-- The events sent at a key_up balance what the record owes; only a record that waits
for its other keys still owes something. -/
theorem sends_sendAtKeyUp (basic : Basic) (front : Entry) (sending : Sending)
    (posted : sending.current.keyUpPosted = true → sending.current.Discharged) :
    (∀ deviceId key, (basic.sendAtKeyUp front sending).settled front.deviceId deviceId key =
        sending.settled front.deviceId deviceId key) ∧
      (basic.sendAtKeyUp front sending).current.fromEvents = sending.current.fromEvents ∧
      (basic.sendAtKeyUp front sending = sending ∧ sending.current.fromEvents ≠ [] ∨
        (basic.sendAtKeyUp front sending).current.Discharged) := by
  unfold sendAtKeyUp
  dsimp only
  split
  · rename_i waits
    exact ⟨fun _ _ => rfl, rfl, .inl ⟨rfl, waits.2⟩⟩
  · obtain ⟨settled, fromEvents, discharged⟩ := basic.sends_sendOnceAtKeyUp front sending posted
    generalize basic.sendOnceAtKeyUp front sending = sent at settled fromEvents discharged ⊢
    split
    · obtain ⟨extra, extraKept⟩ :=
        sends_sendExtra basic.from_.simultaneousOptions.toAfterKeyUp front sent
      refine ⟨fun deviceId key => ?_, (congrArg Prod.fst extra.keys).trans fromEvents,
        .inr (extraKept discharged)⟩
      rw [extra.settled, settled, Int.add_zero]
    · exact ⟨settled, fromEvents, .inr discharged⟩

end Basic

end Karabiner

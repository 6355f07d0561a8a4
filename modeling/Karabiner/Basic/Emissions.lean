import Karabiner.Basic.Balance
import Karabiner.Basic.FirstPosted

/-! # What the functions of `event_sender` emit

Each function posts a list of events that is known beforehand: one tick after the other, but for
the hold times in between, and with the modifier flags of the output queue following the events
(`Sending.Emits`). What is proved about a call is then proved about that list.
-/

namespace Karabiner

/-- An entry without its time stamp. -/
structure Sent where
  deviceId : DeviceId
  event : Event
  eventType : EventType
deriving DecidableEq

def Entry.sent (entry : Entry) : Sent := ⟨entry.deviceId, entry.event, entry.eventType⟩

def EventAtKeyUp.sent (event : EventAtKeyUp) : Sent :=
  ⟨event.deviceId, event.event, event.eventType⟩

/-- What an event that is posted does to the modifier flags of the output queue. -/
def Sent.applyFlags (manager : ModifierFlagManager) (sent : Sent) : ModifierFlagManager :=
  EventQueue.updateModifierFlags manager sent.deviceId sent.event sent.eventType .valid

/-- What is sent for a modifier. -/
def modifierSent (deviceId : DeviceId) (eventType : EventType) (modifier : MomentarySwitchEvent) :
    Sent :=
  ⟨deviceId, (makeLazyModifierKeyEvent modifier eventType).1,
    (makeLazyModifierKeyEvent modifier eventType).2⟩

/-- What is sent for modifier flags; those without a key are left out. -/
def modifierFlagsSent (deviceId : DeviceId) (eventType : EventType)
    (modifierFlags : List ModifierFlag) : List Sent :=
  (modifierFlags.filter fun flag => (MomentarySwitchEvent.ofModifierFlag flag).valid).map
    fun flag => modifierSent deviceId eventType (.ofModifierFlag flag)

/-- What is sent for active modifier flags. -/
def activeModifierFlagsSent (flags : List ActiveModifierFlag) : List Sent :=
  (flags.filter fun flag => (MomentarySwitchEvent.ofModifierFlag flag.modifierFlag).valid).map
    fun flag => modifierSent flag.deviceId (if flag.getCount > 0 then .keyDown else .keyUp)
      (.ofModifierFlag flag.modifierFlag)

namespace ToEventDefinition

/-- The presses of a `to` event: its modifiers, then the event. -/
def presses (deviceId : DeviceId) (definition : ToEventDefinition) : List Sent :=
  match definition.eventDefinition.toEvent with
  | none => []
  | some event => definition.makeModifierEvents.map (modifierSent deviceId .keyDown) ++
      [⟨deviceId, event, .keyDown⟩]

/-- The releases of a `to` event: the event, then its modifiers. -/
def releases (deviceId : DeviceId) (definition : ToEventDefinition) : List Sent :=
  match definition.eventDefinition.toEvent with
  | none => []
  | some event => ⟨deviceId, event, .keyUp⟩ ::
      definition.makeModifierEvents.map (modifierSent deviceId .keyUp)

/-- The hold time of a `to` event, if it is one that is sent. -/
def holds [MachTimebase] (definition : ToEventDefinition) : List Int :=
  match definition.eventDefinition.toEvent with
  | none => []
  | some _ => [MachTimebase.makeAbsoluteTimeDuration definition.holdDownMilliseconds]

end ToEventDefinition

theorem Sent.eventType_modifierSent_keyUp (deviceId : DeviceId) (modifier : MomentarySwitchEvent) :
    (modifierSent deviceId .keyUp modifier).eventType ≠ .keyDown := by
  unfold modifierSent makeLazyModifierKeyEvent
  split <;> exact nofun

/-- What an element releases are no presses, so that it leaves no key down. -/
theorem Sent.eventType_of_mem_releases {deviceId : DeviceId} {definition : ToEventDefinition}
    {sent : Sent} (member : sent ∈ definition.releases deviceId) : sent.eventType ≠ .keyDown := by
  unfold ToEventDefinition.releases at member
  cases isEvent : definition.eventDefinition.toEvent with
  | none =>
      rw [isEvent] at member
      cases member
  | some event =>
      rw [isEvent] at member
      rcases List.mem_cons.mp member with rfl | isModifier
      · exact nofun
      · obtain ⟨modifier, -, rfl⟩ := List.mem_map.mp isModifier
        exact Sent.eventType_modifierSent_keyUp deviceId modifier

/-! ## Rising times -/

/-- Times from the start on, one tick after the other but for the hold times. The next one
follows the last one directly. -/
structure Rises (holds : List Int) (start : Int) (times : List Int) (next : Int) : Prop where
  chain : ∀ gap : Int, gap ≤ 1 →
    (((start - 1) :: times).IsChain (fun one other => one + gap ≤ other) ↔
      ∀ hold ∈ holds, gap - 1 ≤ hold)
  ends : ((start - 1) :: times).getLast? = some (next - 1)

namespace Rises

variable {holds later : List Int} {start middle next : Int} {times others : List Int}

theorem refl (start : Int) : Rises [] start [] start :=
  ⟨fun _ _ => iff_of_true (List.isChain_singleton _) fun _ none => absurd none List.not_mem_nil,
    rfl⟩

/-- Two chains of time stamps are one: the holds are added up along both of them. -/
theorem append (first : Rises holds start times middle)
    (second : Rises later middle others next) :
    Rises (holds ++ later) start (times ++ others) next where
  chain gap small := by
    have joined : (((start - 1) :: times) ++ others).IsChain (fun one other => one + gap ≤ other) ↔
        ((start - 1) :: times).IsChain (fun one other => one + gap ≤ other) ∧
          ((middle - 1) :: others).IsChain (fun one other => one + gap ≤ other) := by
      rw [List.isChain_append, first.ends, List.isChain_cons (x := middle - 1) (l := others)]
      simp only [Option.mem_def, Option.some.injEq, forall_eq']
      exact and_congr_right fun _ => and_comm
    rw [List.forall_mem_append]
    exact joined.trans (and_congr (first.chain gap small) (second.chain gap small))
  ends := by
    rw [← List.cons_append, List.getLast?_append, first.ends]
    have ends := second.ends
    cases others with
    | nil => exact ends
    | cons time rest =>
        rw [List.getLast?_cons_cons] at ends
        rw [ends]
        rfl

/-- A time that comes later by a hold time. -/
theorem held (start hold : Int) : Rises [hold] start [start + hold] (start + hold + 1) where
  chain gap _ := by
    rw [List.isChain_cons_cons, List.forall_mem_singleton]
    refine ⟨fun rises => ?_, fun allows => ⟨?_, List.isChain_singleton _⟩⟩
    · have behind := rises.1
      omega
    · omega
  ends := by
    change some (start + hold) = some (start + hold + 1 - 1)
    rw [Int.add_sub_cancel]

theorem single (start : Int) : Rises [] start [start] (start + 1) where
  chain gap small := by
    rw [List.isChain_cons_cons]
    refine iff_of_true ⟨?_, List.isChain_singleton _⟩ fun _ none => absurd none List.not_mem_nil
    omega
  ends := by
    change some start = some (start + 1 - 1)
    rw [Int.add_sub_cancel]

end Rises

/-! ## Emissions -/

namespace Sending

/-- The entries that a computation posts. -/
def entriesPosted (before after : Sending) : List Entry :=
  after.queue.events.drop before.queue.events.length

/-- What a computation posts. -/
structure Emits (front : Entry) (sent : List Sent) (holds : List Int) (before after : Sending) :
    Prop where
  posted : ∃ entries : List Entry, after.queue.events = before.queue.events ++ entries ∧
    entries.map Entry.sent = sent ∧
    Rises holds (before.nextTimeStamp front)
      (entries.map fun entry => entry.eventTimeStamp.timeStamp) (after.nextTimeStamp front)
  flags : after.queue.modifierFlagManager =
    sent.foldl Sent.applyFlags before.queue.modifierFlagManager
  delay : after.queue.timeStampDelay = before.queue.timeStampDelay

theorem entriesPosted_of_append {before after : Sending} {entries : List Entry}
    (events : after.queue.events = before.queue.events ++ entries) :
    before.entriesPosted after = entries := by
  unfold entriesPosted
  rw [events, List.drop_left]

namespace Emits

variable {front : Entry} {sent others : List Sent} {holds later : List Int}
  {before middle after : Sending}

/-- Changes of the record and of the environment emit nothing. -/
theorem of_idle (events : after.queue.events = before.queue.events)
    (flags : after.queue.modifierFlagManager = before.queue.modifierFlagManager)
    (delay : after.queue.timeStampDelay = before.queue.timeStampDelay)
    (sameDelay : after.timeStampDelay = before.timeStampDelay) :
    Emits front [] [] before after where
  posted := by
    have same : after.nextTimeStamp front = before.nextTimeStamp front := by
      unfold nextTimeStamp
      rw [delay, sameDelay]
    refine ⟨[], by rw [events, List.append_nil], rfl, ?_⟩
    rw [same]
    exact Rises.refl _
  flags := flags
  delay := delay

theorem refl (front : Entry) (sending : Sending) : Emits front [] [] sending sending :=
  of_idle rfl rfl rfl rfl

/-- Emissions compose: what is posted and what is held are those of the first sending and then those
of the second one. -/
theorem trans (first : Emits front sent holds before middle)
    (second : Emits front others later middle after) :
    Emits front (sent ++ others) (holds ++ later) before after where
  posted := by
    obtain ⟨entries, events, isSent, rises⟩ := first.posted
    obtain ⟨more, moreEvents, isMore, moreRises⟩ := second.posted
    refine ⟨entries ++ more, by rw [moreEvents, events, List.append_assoc],
      by rw [List.map_append, isSent, isMore], ?_⟩
    rw [List.map_append]
    exact rises.append moreRises
  flags := by rw [second.flags, first.flags, List.foldl_append]
  delay := second.delay.trans first.delay

/-- Only the queue and the delay of the call matter. -/
theorem andIdle (emits : Emits front sent holds before middle)
    (idle : Emits front [] [] middle after) : Emits front sent holds before after := by
  have both := emits.trans idle
  rw [List.append_nil, List.append_nil] at both
  exact both

/-- A fold in which every element emits something. -/
theorem foldl {α : Type} {send : Sending → α → Sending} {sentFor : α → List Sent}
    {holdsFor : α → List Int} (elements : List α)
    (each : ∀ element ∈ elements, ∀ sending,
      Emits front (sentFor element) (holdsFor element) sending (send sending element))
    (sending : Sending) :
    Emits front (elements.flatMap sentFor) (elements.flatMap holdsFor) sending
      (elements.foldl send sending) := by
  induction elements generalizing sending with
  | nil => exact refl front sending
  | cons element rest ih =>
      obtain ⟨own, others⟩ := List.forall_mem_cons.mp each
      exact (own sending).trans (ih others _)

/-- A fold in which no element is held. -/
theorem foldl_single {α : Type} {send : Sending → α → Sending} {sentFor : α → Sent}
    (elements : List α)
    (each : ∀ element ∈ elements, ∀ sending,
      Emits front [sentFor element] [] sending (send sending element))
    (sending : Sending) :
    Emits front (elements.map sentFor) [] sending (elements.foldl send sending) := by
  have emits := foldl elements each sending
  rw [← List.map_eq_flatMap, List.flatMap_eq_nil_iff.mpr fun _ _ => rfl] at emits
  exact emits

/-- The entries that are posted. -/
theorem sent_entriesPosted (emits : Emits front sent holds before after) :
    (before.entriesPosted after).map Entry.sent = sent := by
  obtain ⟨entries, events, isSent, -⟩ := emits.posted
  rw [entriesPosted_of_append events, isSent]

/-- The entries have the gaps that the hold times allow, if the first one is not held. -/
theorem isChain_iff (emits : Emits front sent holds before after)
    (starts : ∀ entry ∈ (before.entriesPosted after).head?,
      entry.eventTimeStamp.timeStamp = before.nextTimeStamp front) (gap : Int) (small : gap ≤ 1) :
    ((before.entriesPosted after).map fun entry => entry.eventTimeStamp.timeStamp).IsChain
      (fun one other => one + gap ≤ other) ↔ ∀ hold ∈ holds, gap - 1 ≤ hold := by
  obtain ⟨entries, events, -, rises⟩ := emits.posted
  rw [entriesPosted_of_append events] at starts ⊢
  rw [← rises.chain gap small, List.isChain_cons]
  refine (and_iff_right fun time isFirst => ?_).symm
  rw [List.head?_map] at isFirst
  obtain ⟨entry, member, rfl⟩ := Option.map_eq_some_iff.mp isFirst
  rw [starts entry member]
  omega

end Emits

/-- The first entry that is posted is not held. -/
theorem Posts.starts {front : Entry} {first : Option (Event × EventType)}
    {before after : Sending} (posts : Posts front first before after) :
    ∀ entry ∈ (before.entriesPosted after).head?,
      entry.eventTimeStamp.timeStamp = before.nextTimeStamp front := by
  obtain ⟨entries, posted⟩ := posts
  rw [entriesPosted_of_append posted.events]
  exact posted.starts

/-! ## The functions of `event_sender` -/

variable [ExpressionLibrary]

theorem emits_post (sending : Sending) (front : Entry) (event : EventAtKeyUp) :
    Emits front [event.sent] [] sending (sending.post front event) where
  posted := by
    refine ⟨[sending.entryOf front event], events_post sending front event, rfl, ?_⟩
    rw [nextTimeStamp_post]
    exact Rises.single _
  flags := rfl
  delay := rfl

theorem emits_postLazyModifierKeyEvent (sending : Sending) (front : Entry)
    {event : MomentarySwitchEvent} (valid : event.valid = true) (eventType : EventType)
    (sender : DeviceId) (lazy : Bool) :
    Emits front [modifierSent sender eventType event] [] sending
      (sending.postLazyModifierKeyEvent front event eventType sender lazy) := by
  unfold postLazyModifierKeyEvent
  rw [if_pos valid]
  exact emits_post sending front ⟨sender, (makeLazyModifierKeyEvent event eventType).1,
    (makeLazyModifierKeyEvent event eventType).2, front.originalEvent, lazy⟩

theorem postLazyModifierKeyEvent_of_invalid (sending : Sending) (front : Entry)
    {event : MomentarySwitchEvent} (invalid : event.valid = false) (eventType : EventType)
    (sender : DeviceId) (lazy : Bool) :
    sending.postLazyModifierKeyEvent front event eventType sender lazy = sending := by
  unfold postLazyModifierKeyEvent
  rw [if_neg (by rw [invalid]; exact Bool.false_ne_true)]

/-- A list of lazy modifier key events emits, in order, those of its events that are valid, and
holds nothing back. -/
theorem emits_lazyModifierKeyEvents {α : Type} (front : Entry) (event : α → MomentarySwitchEvent)
    (eventType : α → EventType) (sender : α → DeviceId) (elements : List α) (sending : Sending) :
    Emits front ((elements.filter fun element => (event element).valid).map fun element =>
        modifierSent (sender element) (eventType element) (event element)) [] sending
      (elements.foldl (fun sending element => sending.postLazyModifierKeyEvent front
        (event element) (eventType element) (sender element) true) sending) := by
  induction elements generalizing sending with
  | nil => exact Emits.refl front sending
  | cons element rest ih =>
      rw [List.foldl_cons]
      cases valid : (event element).valid with
      | true =>
          rw [List.filter_cons_of_pos (p := fun element => (event element).valid) valid]
          exact (emits_postLazyModifierKeyEvent sending front valid (eventType element)
            (sender element) true).trans (ih _)
      | false =>
          rw [List.filter_cons_of_neg (p := fun element => (event element).valid)
            (by rw [valid]; exact Bool.false_ne_true),
            postLazyModifierKeyEvent_of_invalid sending front valid]
          exact ih sending

theorem emits_postLazyModifierKeyEvents (sending : Sending) (front : Entry)
    (modifiers : List ModifierFlag) (eventType : EventType) :
    Emits front (modifierFlagsSent front.deviceId eventType modifiers) [] sending
      (sending.postLazyModifierKeyEvents front modifiers eventType) :=
  emits_lazyModifierKeyEvents front MomentarySwitchEvent.ofModifierFlag (fun _ => eventType)
    (fun _ => front.deviceId) modifiers sending

theorem emits_postActiveModifierFlags (sending : Sending) (front : Entry)
    (flags : List ActiveModifierFlag) :
    Emits front (activeModifierFlagsSent flags) [] sending
      (sending.postActiveModifierFlags front flags) :=
  emits_lazyModifierKeyEvents front
    (fun flag : ActiveModifierFlag => .ofModifierFlag flag.modifierFlag)
    (fun flag => if flag.getCount > 0 then .keyDown else .keyUp) ActiveModifierFlag.deviceId flags
    sending

/-- The key_ups of the mandatory modifiers that are pressed and not released yet. -/
theorem emits_postFromMandatoryModifiersKeyUp (sending : Sending) (front : Entry) :
    Emits front (modifierFlagsSent front.deviceId .keyUp
        (sending.current.fromMandatoryModifiers.filter fun modifier =>
          !decide (modifier ∈ sending.current.keyUpPostedFromMandatoryModifiers) &&
            sending.queue.modifierFlagManager.isPressed modifier)) [] sending
      (sending.postFromMandatoryModifiersKeyUp front) := by
  have start : Emits front [] [] sending { sending with
      current := { sending.current with
        keyUpPostedFromMandatoryModifiers :=
          sending.current.keyUpPostedFromMandatoryModifiers ++
            sending.current.fromMandatoryModifiers.filter fun modifier =>
              !decide (modifier ∈ sending.current.keyUpPostedFromMandatoryModifiers) &&
                sending.queue.modifierFlagManager.isPressed modifier } } :=
    Emits.of_idle rfl rfl rfl rfl
  exact start.trans (emits_postLazyModifierKeyEvents _ front _ .keyUp)

/-- The key_downs of the mandatory modifiers that are released. -/
theorem emits_postFromMandatoryModifiersKeyDown (sending : Sending) (front : Entry) :
    Emits front (modifierFlagsSent front.deviceId .keyDown sending.current.liftedModifiers) []
      sending (sending.postFromMandatoryModifiersKeyDown front) := by
  have start : Emits front [] [] sending { sending with
      current := { sending.current with
        keyUpPostedFromMandatoryModifiers :=
          sending.current.keyUpPostedFromMandatoryModifiers.filter fun modifier =>
            !decide (modifier ∈ sending.current.liftedModifiers) } } :=
    Emits.of_idle rfl rfl rfl rfl
  exact start.trans (emits_postLazyModifierKeyEvents _ front _ .keyDown)

theorem emits_modifierKeyDowns (sending : Sending) (front : Entry) (lazy : Bool)
    (definition : ToEventDefinition) :
    Emits front (definition.makeModifierEvents.map (modifierSent front.deviceId .keyDown)) []
      sending (definition.makeModifierEvents.foldl (fun sending modifier =>
        sending.postLazyModifierKeyEvent front modifier .keyDown front.deviceId lazy) sending) :=
  Emits.foldl_single definition.makeModifierEvents (fun _ member sending =>
    emits_postLazyModifierKeyEvent sending front (valid_of_mem_makeModifierEvents member)
      .keyDown front.deviceId lazy) sending

omit [ExpressionLibrary] in
theorem emits_keepForKeyUp (sending : Sending) (front : Entry) (event : EventAtKeyUp) :
    Emits front [] [] sending (sending.keepForKeyUp event) :=
  Emits.of_idle rfl rfl rfl rfl

theorem emits_postKeyDown (sending : Sending) (front : Entry) (definition : ToEventDefinition)
    (event : Event) :
    Emits front [⟨front.deviceId, event, .keyDown⟩] [] sending
      (sending.postKeyDown front definition event) := by
  have emits := emits_post sending front
    ⟨front.deviceId, event, .keyDown, front.originalEvent, definition.lazy⟩
  unfold postKeyDown
  dsimp only
  split
  · exact emits.andIdle (Emits.of_idle rfl rfl rfl rfl)
  · exact emits

/-- The key_ups of the modifiers are posted, or all of them are kept. -/
theorem emits_modifierKeyUps (sending : Sending) (front : Entry) (isKept : Bool)
    (definition : ToEventDefinition) :
    Emits front (if isKept then []
        else definition.makeModifierEvents.map (modifierSent front.deviceId .keyUp)) [] sending
      (definition.makeModifierEvents.foldl (postModifierKeyUp front isKept) sending) := by
  cases isKept with
  | true =>
      have emits := Emits.foldl definition.makeModifierEvents (fun modifier _ sending =>
        emits_keepForKeyUp sending front ⟨front.deviceId,
          (makeLazyModifierKeyEvent modifier .keyUp).1,
          (makeLazyModifierKeyEvent modifier .keyUp).2, front.originalEvent, true⟩) sending
      rw [List.flatMap_eq_nil_iff.mpr fun _ _ => rfl,
        List.flatMap_eq_nil_iff.mpr fun _ _ => rfl] at emits
      exact emits
  | false =>
      exact Emits.foldl_single definition.makeModifierEvents (fun modifier member sending =>
        emits_postLazyModifierKeyEvent sending front (valid_of_mem_makeModifierEvents member)
          .keyUp front.deviceId true) sending

/-- The key_up posts what the record has kept, in order. -/
theorem emits_postEventsAtKeyUp (sending : Sending) (front : Entry) :
    Emits front (sending.current.eventsAtKeyUp.map EventAtKeyUp.sent) [] sending
      (sending.postEventsAtKeyUp front) :=
  (Emits.foldl_single sending.current.eventsAtKeyUp
    (fun event _ sending => emits_post sending front event) sending).andIdle
    (Emits.of_idle rfl rfl rfl rfl)

variable [MachTimebase]

/-- The key up part of an element is emitted after the hold time of the element, by which the delay
grows. -/
theorem emits_postKeyUp (sending : Sending) (front : Entry) (definition : ToEventDefinition)
    (event : Event) :
    Emits front [⟨front.deviceId, event, .keyUp⟩]
      [MachTimebase.makeAbsoluteTimeDuration definition.holdDownMilliseconds] sending
      (sending.postKeyUp front definition event) where
  posted := by
    let released : EventAtKeyUp :=
      ⟨front.deviceId, event, .keyUp, front.originalEvent, definition.lazy⟩
    have held : (sending.holdDown definition).nextTimeStamp front =
        sending.nextTimeStamp front +
          MachTimebase.makeAbsoluteTimeDuration definition.holdDownMilliseconds := by
      unfold holdDown nextTimeStamp
      dsimp only
      omega
    have next : (sending.postKeyUp front definition event).nextTimeStamp front =
        (sending.holdDown definition).nextTimeStamp front + 1 :=
      nextTimeStamp_post (sending.holdDown definition) front released
    refine ⟨[(sending.holdDown definition).entryOf front released], rfl, rfl, ?_⟩
    rw [next]
    change Rises _ _ [(sending.holdDown definition).nextTimeStamp front] _
    rw [held]
    exact Rises.held _ _
  flags := rfl
  delay := rfl

/-- An extra `to` event is pressed and released at once. -/
theorem emits_postExtraToEvent (front : Entry) (sending : Sending)
    (definition : ToEventDefinition) :
    Emits front (definition.presses front.deviceId ++ definition.releases front.deviceId)
      definition.holds sending (postExtraToEvent front sending definition) := by
  unfold postExtraToEvent ToEventDefinition.presses ToEventDefinition.releases
    ToEventDefinition.holds
  cases definition.eventDefinition.toEvent with
  | none => exact Emits.refl front sending
  | some event =>
      dsimp only
      have emits := (((emits_modifierKeyDowns sending front true definition).trans
        (emits_postKeyDown _ front definition event)).trans
        (emits_postKeyUp _ front definition event)).trans
        (emits_modifierKeyUps _ front false definition)
      rw [List.append_assoc _ [_] (if false = true then [] else _)] at emits
      exact emits

theorem emits_postExtraToEvents (sending : Sending) (front : Entry)
    (definitions : List ToEventDefinition) :
    Emits front (definitions.flatMap fun definition =>
        definition.presses front.deviceId ++ definition.releases front.deviceId)
      (definitions.flatMap ToEventDefinition.holds) sending
      (definitions.foldl (postExtraToEvent front) sending) :=
  Emits.foldl definitions (fun definition _ sending =>
    emits_postExtraToEvent front sending definition) sending

end Sending

end Karabiner

import Karabiner.Basic.Manipulator
import Karabiner.EventQueue.SortedEvents

/-! # The order of the events that are posted

Each event of one call is posted one tick after the one before, so `sort_events` has
nothing to swap among them (`Sending.Posts`). What it may swap is the first of them with
what the output queue held before, and that first event is found in the state before the
call (`Basic.keyDownLead`, `Basic.keyUpLead`).
-/

namespace Karabiner

/-! ## The first event -/

/-- The event posted for the key of a modifier, if it is posted. -/
def lazyLead (event : MomentarySwitchEvent) (eventType : EventType) :
    Option (Event × EventType) :=
  if event.valid then some (makeLazyModifierKeyEvent event eventType) else none

/-- The first event posted for some modifiers. -/
def modifierLead (modifiers : List ModifierFlag) (eventType : EventType) :
    Option (Event × EventType) :=
  modifiers.findSome? fun modifier => lazyLead (.ofModifierFlag modifier) eventType

/-- The first event posted for some active modifier flags. -/
def flagLead (flags : List ActiveModifierFlag) : Option (Event × EventType) :=
  flags.findSome? fun flag => lazyLead (.ofModifierFlag flag.modifierFlag)
    (if flag.getCount > 0 then .keyDown else .keyUp)

/-- The first event posted for a `to` event. -/
def definitionLead (definition : ToEventDefinition) : Option (Event × EventType) :=
  match definition.eventDefinition.toEvent with
  | none => none
  | some event =>
      (definition.makeModifierEvents.findSome? fun modifier => lazyLead modifier .keyDown).or
        (some (event, .keyDown))

namespace Sending

/-- The first event posted for a `to` list. -/
def listLead (sending : Sending) (front : Entry) (toEvents : List ToEventDefinition) :
    Option (Event × EventType) :=
  if sending.current.halted then none
  else (filterAndReplaceEvents ⟨front.deviceId, front.state⟩ sending.current toEvents
    sending.queue.manipulatorEnvironment).1.findSome? definitionLead

/-- The first event of `post_from_mandatory_modifiers_key_up`. -/
def liftingLead (sending : Sending) : Option (Event × EventType) :=
  modifierLead (sending.current.fromMandatoryModifiers.filter fun modifier =>
    !decide (modifier ∈ sending.current.keyUpPostedFromMandatoryModifiers) &&
      sending.queue.modifierFlagManager.isPressed modifier) .keyUp

/-- The first event of `post_from_mandatory_modifiers_key_down`. -/
def loweringLead (sending : Sending) : Option (Event × EventType) :=
  modifierLead (sending.current.fromMandatoryModifiers.filter fun modifier =>
    decide (modifier ∈ sending.current.keyUpPostedFromMandatoryModifiers)) .keyDown

/-- The first extra event with the mandatory modifiers released around it. -/
def extraLead (sending : Sending) (front : Entry) (toEvents : List ToEventDefinition) :
    Option (Event × EventType) :=
  (sending.liftingLead.or (sending.listLead front toEvents)).or sending.loweringLead

end Sending

namespace Basic

variable [MachTimebase]

/-- The first event of `to_if_alone`. -/
def aloneLead (basic : Basic) (front : Entry) (sending : Sending) : Option (Event × EventType) :=
  if basic.toIfAlone.isEmpty then none
  else if sending.current.alone ∧
      MachTimebase.makeMilliseconds
          (front.eventTimeStamp.timeStamp - sending.current.keyDownTimeStamp) <
        basic.parameters.basicToIfAloneTimeoutMilliseconds then
    let scope := ScopedModifierFlags.make sending.queue.modifierFlagManager
      sending.current.keyDownModifierFlags
    ((flagLead scope.scopedActiveModifierFlags).or
      (sending.extraLead front basic.toIfAlone)).or
      (flagLead scope.getInverseActiveModifierFlags)
  else none

omit [MachTimebase] in
/-- The first extra event of a list that may be empty. -/
def extraListLead (toEvents : List ToEventDefinition) (front : Entry) (sending : Sending) :
    Option (Event × EventType) :=
  if toEvents.isEmpty then none else sending.extraLead front toEvents

omit [MachTimebase] in
/-- The first event that is posted when a key_down is taken. -/
def keyDownLead (basic : Basic) (front : Entry) (sending : Sending) :
    Option (Event × EventType) :=
  (sending.liftingLead.or (sending.listLead front basic.to_)).or
    (if isLastToEventModifierKeyEvent basic.to_ then none else sending.loweringLead)

/-- The first event that is posted once for a record. -/
def onceLead (basic : Basic) (front : Entry) (sending : Sending) : Option (Event × EventType) :=
  if sending.current.keyUpPosted then none
  else
    (((sending.current.eventsAtKeyUp.head?.map fun event => (event.event, event.eventType)).or
      sending.loweringLead).or (basic.aloneLead front sending)).or
      (extraListLead basic.toAfterKeyUp front sending)

/-- The first event that is posted at a key_up of a record. -/
def keyUpLead (basic : Basic) (front : Entry) (sending : Sending) : Option (Event × EventType) :=
  if basic.from_.simultaneousOptions.keyUpWhen = .all ∧ sending.current.fromEvents ≠ [] then none
  else
    (basic.onceLead front sending).or
      (if sending.current.fromEvents = [] then
        extraListLead basic.from_.simultaneousOptions.toAfterKeyUp front sending
      else none)

end Basic

/-! ## Posting in order -/

namespace ManipulatorEnvironment

/-- The clock is read once. -/
@[simp] theorem setVariableSystemNowMilliseconds_twice (environment : ManipulatorEnvironment) :
    environment.setVariableSystemNowMilliseconds.setVariableSystemNowMilliseconds =
      environment.setVariableSystemNowMilliseconds := by
  unfold setVariableSystemNowMilliseconds setVariable
  congr 1
  funext name
  by_cases clock : name = "system.now.milliseconds" <;> simp [clock]

end ManipulatorEnvironment

namespace Sending

/-- What the choice of the events depends on. -/
def setting (sending : Sending) :
    ManipulatedOriginalEvent × Int × ModifierFlagManager × ManipulatorEnvironment :=
  ({ sending.current with
      eventsAtKeyUp := []
      keyUpPosted := true
      keyUpPostedFromMandatoryModifiers :=
        sending.current.keyUpPostedFromMandatoryModifiers.filter fun modifier =>
          (MomentarySwitchEvent.ofModifierFlag modifier).valid },
    sending.timeStampDelay, sending.queue.modifierFlagManager,
    sending.queue.manipulatorEnvironment.setVariableSystemNowMilliseconds)

/-- The time stamp of the event that is posted next. -/
def nextTimeStamp (sending : Sending) (front : Entry) : Int :=
  front.eventTimeStamp.timeStamp + sending.timeStampDelay + sending.queue.timeStampDelay

/-- The entries that are posted by a computation. -/
structure Posted (front : Entry) (first : Option (Event × EventType)) (before after : Sending)
    (posted : List Entry) : Prop where
  events : after.queue.events = before.queue.events ++ posted
  ordered : EventQueue.Ordered posted
  first : (posted.head?.map fun entry => (entry.event, entry.eventType)) = first
  starts : ∀ entry ∈ posted.head?, entry.eventTimeStamp.timeStamp = before.nextTimeStamp front
  ends : ∀ entry ∈ posted.getLast?, entry.eventTimeStamp.timeStamp + 1 = after.nextTimeStamp front
  delay : after.queue.timeStampDelay = before.queue.timeStampDelay
  idle : posted = [] → after.setting = before.setting

/-- A computation posts entries in order, the given one first. -/
def Posts (front : Entry) (first : Option (Event × EventType)) (before after : Sending) : Prop :=
  ∃ posted, Posted front first before after posted

namespace Posts

variable {front : Entry} {first second : Option (Event × EventType)}
  {before middle after : Sending}

/-- Nothing is posted, and nothing changes that the choice depends on. -/
theorem of_idle (events : after.queue.events = before.queue.events)
    (delay : after.queue.timeStampDelay = before.queue.timeStampDelay)
    (idle : after.setting = before.setting) : Posts front none before after :=
  ⟨[], by rw [events, List.append_nil], List.isChain_nil, rfl,
    fun _ member => absurd member (Option.not_mem_none _),
    fun _ member => absurd member (Option.not_mem_none _), delay, fun _ => idle⟩

theorem refl (front : Entry) (sending : Sending) : Posts front none sending sending :=
  of_idle rfl rfl rfl

/-- One computation after the other: what comes first is posted by the first one that posts
anything. -/
theorem trans (one : Posts front first before middle) (two : Posts front second middle after) :
    Posts front (first.or second) before after := by
  obtain ⟨earlier, one⟩ := one
  obtain ⟨later, two⟩ := two
  have delay := two.delay.trans one.delay
  refine ⟨earlier ++ later, by rw [two.events, one.events, List.append_assoc], ?_, ?_, ?_, ?_,
    delay, fun none => ?_⟩
  · refine List.isChain_append.mpr ⟨one.ordered, two.ordered, fun last isLast next isNext => ?_⟩
    have ended := one.ends last isLast
    have started := two.starts next isNext
    exact EventQueue.needsSwap_of_ne (by omega)
  · cases earlier with
    | nil =>
        rw [← one.first, ← two.first]
        rfl
    | cons entry rest =>
        rw [← one.first]
        rfl
  · cases earlier with
    | nil =>
        intro entry isFirst
        have same := one.idle rfl
        have started := two.starts entry isFirst
        have equal : middle.timeStampDelay = before.timeStampDelay := congrArg (·.2.1) same
        unfold nextTimeStamp at started ⊢
        rw [started, equal, one.delay]
    | cons entry rest => exact one.starts
  · intro entry isLast
    cases later with
    | nil =>
        have same := two.idle rfl
        rw [List.append_nil] at isLast
        have ended := one.ends entry isLast
        have equal : after.timeStampDelay = middle.timeStampDelay := congrArg (·.2.1) same
        unfold nextTimeStamp at ended ⊢
        rw [ended, equal, two.delay]
    | cons other rest =>
        rw [List.getLast?_append_of_ne_nil _ (List.cons_ne_nil other rest)] at isLast
        exact two.ends entry isLast
  · obtain ⟨noEarlier, noLater⟩ := List.append_eq_nil_iff.mp none
    exact (two.idle noLater).trans (one.idle noEarlier)

/-- The second computation is looked at in the state before the first one, which counts if
that one posts nothing. -/
theorem andThen (one : Posts front first before middle) {given : Option (Event × EventType)}
    (two : Posts front given middle after)
    (same : middle.setting = before.setting → given = second) :
    Posts front (first.or second) before after := by
  have both := one.trans two
  cases first with
  | some lead => exact both
  | none =>
      obtain ⟨posted, own⟩ := one
      have nothing : posted = [] := by
        have absent := own.first
        cases posted with
        | nil => rfl
        | cons entry rest => cases absent
      rw [same (own.idle nothing)] at both
      exact both

theorem congr (posts : Posts front first before after) (same : first = second) :
    Posts front second before after := same ▸ posts

/-- A fold of computations, each with a first event that is known beforehand. -/
theorem foldl {α : Type} {send : Sending → α → Sending} {lead : α → Option (Event × EventType)}
    (each : ∀ sending element, Posts front (lead element) sending (send sending element))
    (elements : List α) (sending : Sending) :
    Posts front (elements.findSome? lead) sending (elements.foldl send sending) := by
  induction elements generalizing sending with
  | nil => exact refl front sending
  | cons element rest ih =>
      refine ((each sending element).trans (ih (send sending element))).congr ?_
      rw [List.findSome?_cons]
      cases lead element <;> rfl

end Posts

variable [ExpressionLibrary]

omit [ExpressionLibrary] in
/-- The entry that is posted next for an event. -/
def entryOf (sending : Sending) (front : Entry) (event : EventAtKeyUp) : Entry :=
  event.makeEntry { front.eventTimeStamp with timeStamp := sending.nextTimeStamp front }

theorem events_post (sending : Sending) (front : Entry) (event : EventAtKeyUp) :
    (sending.post front event).queue.events =
      sending.queue.events ++ [sending.entryOf front event] := rfl

theorem nextTimeStamp_post (sending : Sending) (front : Entry) (event : EventAtKeyUp) :
    (sending.post front event).nextTimeStamp front = sending.nextTimeStamp front + 1 := by
  unfold post nextTimeStamp EventQueue.pushBackEntry
  dsimp only
  omega

theorem posts_post (sending : Sending) (front : Entry) (event : EventAtKeyUp) :
    Posts front (some (event.event, event.eventType)) sending (sending.post front event) := by
  refine ⟨[sending.entryOf front event], events_post sending front event,
    List.isChain_singleton _, rfl, fun entry isFirst => ?_, fun entry isLast => ?_, rfl, nofun⟩
  · obtain rfl := Option.some.inj isFirst
    rfl
  · obtain rfl := Option.some.inj isLast
    exact (nextTimeStamp_post sending front event).symm

theorem posts_postLazyModifierKeyEvent (sending : Sending) (front : Entry)
    (event : MomentarySwitchEvent) (eventType : EventType) (sender : DeviceId) (lazy : Bool) :
    Posts front (lazyLead event eventType) sending
      (sending.postLazyModifierKeyEvent front event eventType sender lazy) := by
  unfold postLazyModifierKeyEvent lazyLead
  cases event.valid with
  | true => exact posts_post sending front ⟨sender, _, _, front.originalEvent, lazy⟩
  | false => exact Posts.refl front sending

theorem posts_postLazyModifierKeyEvents (sending : Sending) (front : Entry)
    (modifiers : List ModifierFlag) (eventType : EventType) :
    Posts front (modifierLead modifiers eventType) sending
      (sending.postLazyModifierKeyEvents front modifiers eventType) :=
  Posts.foldl (fun sending modifier => posts_postLazyModifierKeyEvent sending front
    (.ofModifierFlag modifier) eventType front.deviceId true) modifiers sending

/-! ## The mandatory modifiers -/

omit [ExpressionLibrary] in
/-- Modifiers whose first event is missing have no key. -/
theorem valid_eq_false_of_modifierLead {modifiers : List ModifierFlag} {eventType : EventType}
    (none : modifierLead modifiers eventType = none) :
    ∀ modifier ∈ modifiers, (MomentarySwitchEvent.ofModifierFlag modifier).valid = false := by
  intro modifier member
  have absent := List.findSome?_eq_none_iff.mp none modifier member
  unfold lazyLead at absent
  split at absent
  · cases absent
  · rename_i invalid
    exact Bool.not_eq_true _ ▸ invalid

/-- Posting events of modifiers after a change of the record that only concerns modifiers
without a key, if nothing is posted. -/
theorem posts_changed (sending : Sending) (front : Entry) (changed : List ModifierFlag)
    (modifiers : List ModifierFlag) (eventType : EventType)
    (same : (∀ modifier ∈ modifiers,
        (MomentarySwitchEvent.ofModifierFlag modifier).valid = false) →
      (changed.filter fun modifier => (MomentarySwitchEvent.ofModifierFlag modifier).valid) =
        sending.current.keyUpPostedFromMandatoryModifiers.filter fun modifier =>
          (MomentarySwitchEvent.ofModifierFlag modifier).valid) :
    Posts front (modifierLead modifiers eventType) sending
      (postLazyModifierKeyEvents { sending with
          current := { sending.current with keyUpPostedFromMandatoryModifiers := changed } }
        front modifiers eventType) := by
  obtain ⟨posted, own⟩ := posts_postLazyModifierKeyEvents { sending with
    current := { sending.current with keyUpPostedFromMandatoryModifiers := changed } } front
    modifiers eventType
  refine ⟨posted, own.events, own.ordered, own.first, own.starts, own.ends, own.delay,
    fun none => (own.idle none).trans ?_⟩
  have lead := own.first
  rw [none] at lead
  unfold setting
  dsimp only
  rw [same (valid_eq_false_of_modifierLead lead.symm)]

theorem posts_postFromMandatoryModifiersKeyUp (sending : Sending) (front : Entry) :
    Posts front sending.liftingLead sending (sending.postFromMandatoryModifiersKeyUp front) := by
  refine posts_changed sending front _ _ .keyUp fun invalid => ?_
  rw [List.filter_append, List.append_right_eq_self, List.filter_eq_nil_iff]
  intro modifier member
  rw [invalid modifier member]
  exact Bool.false_ne_true

/-- Pressing the mandatory modifiers again begins with the first of them that had been released
before. -/
theorem posts_postFromMandatoryModifiersKeyDown (sending : Sending) (front : Entry) :
    Posts front sending.loweringLead sending
      (sending.postFromMandatoryModifiersKeyDown front) := by
  refine posts_changed sending front _ _ .keyDown fun invalid => ?_
  rw [List.filter_filter]
  refine List.filter_congr fun modifier _ => ?_
  cases valid : (MomentarySwitchEvent.ofModifierFlag modifier).valid with
  | false => rfl
  | true =>
      rw [Bool.true_and, Bool.not_eq_true', decide_eq_false_iff_not]
      intro member
      rw [invalid modifier member] at valid
      cases valid

/-! ## The events of the definitions -/

omit [ExpressionLibrary] in
theorem posts_keepForKeyUp (sending : Sending) (front : Entry) (event : EventAtKeyUp) :
    Posts front none sending (sending.keepForKeyUp event) :=
  Posts.of_idle rfl rfl rfl

/-- The key down part of an element posts the event it is made to, and that event first. -/
theorem posts_postKeyDown (sending : Sending) (front : Entry) (definition : ToEventDefinition)
    (event : Event) :
    Posts front (some (event, .keyDown)) sending
      (sending.postKeyDown front definition event) := by
  obtain ⟨posted, own⟩ := posts_post sending front
    ⟨front.deviceId, event, .keyDown, front.originalEvent, definition.lazy⟩
  have present : posted ≠ [] := by
    rintro rfl
    cases own.first
  unfold postKeyDown
  dsimp only
  split
  · exact ⟨posted, own.events, own.ordered, own.first, own.starts, own.ends, own.delay,
      fun none => absurd none present⟩
  · exact ⟨posted, own⟩

variable [MachTimebase]

/-- However long a key is held down, its key_up is not swapped with its key_down. -/
theorem posts_keyDownAndUp (sending : Sending) (front : Entry) (definition : ToEventDefinition)
    (event : Event) :
    Posts front (some (event, .keyDown)) sending
      ((sending.postKeyDown front definition event).postKeyUp front definition event) := by
  have queue : (sending.postKeyDown front definition event).queue = (sending.post front
      ⟨front.deviceId, event, .keyDown, front.originalEvent, definition.lazy⟩).queue := by
    unfold postKeyDown
    dsimp only
    split <;> rfl
  have delay : (sending.postKeyDown front definition event).timeStampDelay =
      sending.timeStampDelay + 1 := by
    unfold postKeyDown
    dsimp only
    split <;> rfl
  generalize sending.postKeyDown front definition event = down at queue delay ⊢
  let pressed : EventAtKeyUp :=
    ⟨front.deviceId, event, .keyDown, front.originalEvent, definition.lazy⟩
  let released : EventAtKeyUp :=
    ⟨front.deviceId, event, .keyUp, front.originalEvent, definition.lazy⟩
  refine ⟨[sending.entryOf front pressed, (down.holdDown definition).entryOf front released],
    ?_, ?_, rfl, fun entry isFirst => ?_, fun entry isLast => ?_, ?_, nofun⟩
  · change down.queue.events ++ [(down.holdDown definition).entryOf front released] = _
    rw [queue, events_post, List.append_assoc]
    rfl
  · exact List.isChain_cons_cons.mpr
      ⟨EventQueue.needsSwap_of_eq rfl, List.isChain_singleton _⟩
  · obtain rfl := Option.some.inj isFirst
    rfl
  · obtain rfl := Option.some.inj isLast
    exact (nextTimeStamp_post (down.holdDown definition) front released).symm
  · change down.queue.timeStampDelay = _
    rw [queue]
    rfl

omit [MachTimebase] in
/-- The key_ups of the modifiers of a `to` event are posted, or kept. -/
theorem posts_modifierKeyUps (sending : Sending) (front : Entry) (kept : Bool)
    (events : List MomentarySwitchEvent) :
    ∃ first, Posts front first sending (events.foldl (postModifierKeyUp front kept) sending) := by
  cases kept with
  | true =>
      exact ⟨_, Posts.foldl (fun sending modifier => posts_keepForKeyUp sending front
        ⟨front.deviceId, (makeLazyModifierKeyEvent modifier .keyUp).1,
          (makeLazyModifierKeyEvent modifier .keyUp).2, front.originalEvent, true⟩) events sending⟩
  | false =>
      exact ⟨_, Posts.foldl (fun sending modifier => posts_postLazyModifierKeyEvent sending front
        modifier .keyUp front.deviceId true) events sending⟩

omit [ExpressionLibrary] [MachTimebase] in
/-- A `to` event starts with its modifiers. -/
theorem posts_definition {front : Entry} {sending withModifiers released after : Sending}
    {modifiers : List MomentarySwitchEvent} {event : Event}
    {last : Option (Event × EventType)}
    (modifiersDown : Posts front (modifiers.findSome? fun modifier => lazyLead modifier .keyDown)
      sending withModifiers)
    (pressed : Posts front (some (event, .keyDown)) withModifiers released)
    (modifiersUp : Posts front last released after) :
    Posts front ((modifiers.findSome? fun modifier => lazyLead modifier .keyDown).or
      (some (event, .keyDown))) sending after := by
  refine ((modifiersDown.trans pressed).trans modifiersUp).congr ?_
  cases modifiers.findSome? fun modifier => lazyLead modifier .keyDown <;> rfl

/-- An element that is sent at the press begins with its first modifier that has a key, or else with
its event. -/
theorem posts_postEventAtKeyDown (sending : Sending) (front : Entry) (last : Bool)
    (definition : ToEventDefinition) :
    Posts front (definitionLead definition) sending
      (sending.postEventAtKeyDown front last definition) := by
  unfold postEventAtKeyDown definitionLead
  cases definition.eventDefinition.toEvent with
  | none => exact Posts.refl front sending
  | some event =>
      dsimp only
      have modifiersDown := Posts.foldl (fun sending modifier =>
        posts_postLazyModifierKeyEvent sending front modifier .keyDown front.deviceId
          (!isModifierKeyEvent event || definition.lazy)) definition.makeModifierEvents sending
      obtain ⟨_, modifiersUp⟩ := posts_modifierKeyUps _ front (last && isModifierKeyEvent event)
        definition.makeModifierEvents
      refine posts_definition modifiersDown ?_ modifiersUp
      split
      · exact posts_keyDownAndUp _ front definition event
      · exact ((posts_postKeyDown _ front definition event).trans
          (posts_keepForKeyUp _ front _)).congr rfl

theorem posts_postEachAtKeyDown (front : Entry) (definitions : List ToEventDefinition)
    (sending : Sending) :
    Posts front (definitions.findSome? definitionLead) sending
      (postEachAtKeyDown front definitions sending) := by
  induction definitions generalizing sending with
  | nil => exact Posts.refl front sending
  | cons definition rest ih =>
      refine ((posts_postEventAtKeyDown sending front rest.isEmpty definition).trans
        (ih _)).congr ?_
      rw [List.findSome?_cons]
      cases definitionLead definition <;> rfl

/-- An extra event begins like an element of a list, as its presses come before its releases. -/
theorem posts_postExtraToEvent (front : Entry) (sending : Sending)
    (definition : ToEventDefinition) :
    Posts front (definitionLead definition) sending
      (postExtraToEvent front sending definition) := by
  unfold postExtraToEvent definitionLead
  cases definition.eventDefinition.toEvent with
  | none => exact Posts.refl front sending
  | some event =>
      dsimp only
      have modifiersDown := Posts.foldl (fun sending modifier =>
        posts_postLazyModifierKeyEvent sending front modifier .keyDown front.deviceId true)
        definition.makeModifierEvents sending
      obtain ⟨_, modifiersUp⟩ := posts_modifierKeyUps _ front false definition.makeModifierEvents
      exact posts_definition modifiersDown (posts_keyDownAndUp _ front definition event) modifiersUp

omit [ExpressionLibrary] [MachTimebase] in
/-- The choice among the `to` events depends on the keys of the record and on the
environment, whose clock is read anyway. -/
theorem filterAndReplaceEvents_congr {context : ConditionContext}
    {current other : ManipulatedOriginalEvent} (keys : current.fromEvents = other.fromEvents)
    (definitions : List ToEventDefinition) {environment refreshed : ManipulatorEnvironment}
    (same : environment.setVariableSystemNowMilliseconds =
      refreshed.setVariableSystemNowMilliseconds) :
    (filterAndReplaceEvents context current definitions environment).1 =
        (filterAndReplaceEvents context other definitions refreshed).1 ∧
      (filterAndReplaceEvents context current definitions
        environment).2.setVariableSystemNowMilliseconds =
          environment.setVariableSystemNowMilliseconds := by
  induction definitions generalizing environment refreshed with
  | nil => exact ⟨rfl, rfl⟩
  | cons definition rest ih =>
      unfold filterAndReplaceEvents ConditionManager.isFulfilled
      dsimp only
      rw [← same, ← keys]
      obtain ⟨others, clock⟩ := @ih environment.setVariableSystemNowMilliseconds
        environment.setVariableSystemNowMilliseconds rfl
      rw [ManipulatorEnvironment.setVariableSystemNowMilliseconds_twice] at clock
      rw [others]
      split
      · split
        · exact ⟨rfl, clock⟩
        · exact ⟨rfl, clock⟩
      · exact ⟨rfl, clock⟩

omit [ExpressionLibrary] [MachTimebase] in
/-- What is sent of a list begins with the first element left by the filter, whichever way the
elements are sent. -/
theorem posts_sendFiltered (sending : Sending) (front : Entry)
    (definitions : List ToEventDefinition)
    {send : List ToEventDefinition → Sending → Sending}
    (sends : ∀ filtered sending, Posts front (filtered.findSome? definitionLead) sending
      (send filtered sending)) :
    Posts front (sending.listLead front definitions) sending
      (sending.sendFiltered front definitions send) := by
  unfold sendFiltered listLead
  split
  · exact Posts.refl front sending
  · dsimp only
    have clock := (@filterAndReplaceEvents_congr ⟨front.deviceId, front.state⟩ sending.current
      sending.current rfl definitions sending.queue.manipulatorEnvironment
      sending.queue.manipulatorEnvironment rfl).2
    generalize filterAndReplaceEvents ⟨front.deviceId, front.state⟩ sending.current definitions
      sending.queue.manipulatorEnvironment = chosen at clock ⊢
    have start : Posts front none sending { sending with
        queue := { sending.queue with manipulatorEnvironment := chosen.2 } } :=
      Posts.of_idle rfl rfl (by
        unfold setting
        dsimp only
        rw [clock])
    exact (start.trans (sends chosen.1 _)).congr rfl

theorem posts_postEventsAtKeyDown (sending : Sending) (front : Entry)
    (definitions : List ToEventDefinition) :
    Posts front (sending.listLead front definitions) sending
      (sending.postEventsAtKeyDown front definitions) :=
  posts_sendFiltered sending front definitions fun filtered sending =>
    posts_postEachAtKeyDown front filtered sending

theorem posts_postExtraToEvents (sending : Sending) (front : Entry)
    (definitions : List ToEventDefinition) :
    Posts front (sending.listLead front definitions) sending
      (sending.postExtraToEvents front definitions) :=
  posts_sendFiltered sending front definitions fun filtered sending =>
    Posts.foldl (fun sending definition => posts_postExtraToEvent front sending definition)
      filtered sending

/-! ## The setting decides the first event -/

section Setting

variable {sending other : Sending}

omit [ExpressionLibrary] [MachTimebase] in
/-- Records of the same setting differ in what they keep for the key_up, and in modifiers
without a key. -/
theorem current_of_setting (same : sending.setting = other.setting) :
    sending.current.fromEvents = other.current.fromEvents ∧
      sending.current.fromMandatoryModifiers = other.current.fromMandatoryModifiers ∧
      sending.current.halted = other.current.halted ∧
      ∀ modifier, (MomentarySwitchEvent.ofModifierFlag modifier).valid = true →
        (modifier ∈ sending.current.keyUpPostedFromMandatoryModifiers ↔
          modifier ∈ other.current.keyUpPostedFromMandatoryModifiers) := by
  have current := congrArg Prod.fst same
  have keys := congrArg ManipulatedOriginalEvent.fromEvents current
  have mandatory := congrArg ManipulatedOriginalEvent.fromMandatoryModifiers current
  have halted := congrArg ManipulatedOriginalEvent.halted current
  refine ⟨keys, mandatory, halted, fun modifier valid => ?_⟩
  have posted : (sending.current.keyUpPostedFromMandatoryModifiers.filter fun modifier =>
        (MomentarySwitchEvent.ofModifierFlag modifier).valid) =
      other.current.keyUpPostedFromMandatoryModifiers.filter fun modifier =>
        (MomentarySwitchEvent.ofModifierFlag modifier).valid :=
    congrArg ManipulatedOriginalEvent.keyUpPostedFromMandatoryModifiers current
  have members := congrArg (modifier ∈ ·) posted
  simpa only [List.mem_filter, valid, and_true, eq_iff_iff] using members

omit [ExpressionLibrary] [MachTimebase] in
/-- Modifiers without a key do not count for the first event. -/
theorem modifierLead_filter_congr (modifiers : List ModifierFlag) (eventType : EventType)
    {first second : ModifierFlag → Bool}
    (same : ∀ modifier, (MomentarySwitchEvent.ofModifierFlag modifier).valid = true →
      first modifier = second modifier) :
    modifierLead (modifiers.filter first) eventType =
      modifierLead (modifiers.filter second) eventType := by
  unfold modifierLead
  induction modifiers with
  | nil => rfl
  | cons modifier rest ih =>
      cases valid : (MomentarySwitchEvent.ofModifierFlag modifier).valid with
      | true =>
          rw [List.filter_cons, List.filter_cons, same modifier valid]
          split
          · rw [List.findSome?_cons, List.findSome?_cons, ih]
          · exact ih
      | false =>
          have absent : lazyLead (.ofModifierFlag modifier) eventType = none := by
            unfold lazyLead
            rw [valid]
            rfl
          rw [List.filter_cons, List.filter_cons]
          split <;> split <;> simp only [List.findSome?_cons, absent, ih]

omit [ExpressionLibrary] [MachTimebase] in
theorem liftingLead_congr (same : sending.setting = other.setting) :
    sending.liftingLead = other.liftingLead := by
  obtain ⟨_, mandatory, _, posted⟩ := current_of_setting same
  have flags : sending.queue.modifierFlagManager = other.queue.modifierFlagManager :=
    congrArg (·.2.2.1) same
  unfold liftingLead
  rw [mandatory, flags]
  exact modifierLead_filter_congr _ _ fun modifier valid => by simp only [posted modifier valid]

omit [ExpressionLibrary] [MachTimebase] in
theorem loweringLead_congr (same : sending.setting = other.setting) :
    sending.loweringLead = other.loweringLead := by
  obtain ⟨_, mandatory, _, posted⟩ := current_of_setting same
  unfold loweringLead
  rw [mandatory]
  exact modifierLead_filter_congr _ _ fun modifier valid => by simp only [posted modifier valid]

omit [ExpressionLibrary] [MachTimebase] in
theorem listLead_congr (same : sending.setting = other.setting) (front : Entry)
    (toEvents : List ToEventDefinition) :
    sending.listLead front toEvents = other.listLead front toEvents := by
  obtain ⟨keys, _, halted, _⟩ := current_of_setting same
  have clock : sending.queue.manipulatorEnvironment.setVariableSystemNowMilliseconds =
      other.queue.manipulatorEnvironment.setVariableSystemNowMilliseconds :=
    congrArg (·.2.2.2) same
  unfold listLead
  rw [halted, (filterAndReplaceEvents_congr keys toEvents clock).1]

omit [ExpressionLibrary] [MachTimebase] in
theorem extraLead_congr (same : sending.setting = other.setting) (front : Entry)
    (toEvents : List ToEventDefinition) :
    sending.extraLead front toEvents = other.extraLead front toEvents := by
  unfold extraLead
  rw [liftingLead_congr same, listLead_congr same, loweringLead_congr same]

end Setting

theorem posts_postExtraWithoutMandatoryModifiers (sending : Sending) (front : Entry)
    (definitions : List ToEventDefinition) :
    Posts front (sending.extraLead front definitions) sending
      (sending.postExtraWithoutMandatoryModifiers front definitions) := by
  have lifted := posts_postFromMandatoryModifiersKeyUp sending front
  have extra := lifted.andThen (posts_postExtraToEvents _ front definitions)
    fun same => listLead_congr same front definitions
  exact extra.andThen (posts_postFromMandatoryModifiersKeyDown _ front) loweringLead_congr

omit [MachTimebase] in
theorem posts_postActiveModifierFlags (sending : Sending) (front : Entry)
    (flags : List ActiveModifierFlag) :
    Posts front (flagLead flags) sending (sending.postActiveModifierFlags front flags) :=
  Posts.foldl (fun sending flag => posts_postLazyModifierKeyEvent sending front
    (.ofModifierFlag flag.modifierFlag) (if flag.getCount > 0 then .keyDown else .keyUp)
    flag.deviceId true) flags sending

end Sending

/-! ## The modifiers of the key_down -/

namespace ScopedModifierFlags

/-- The flags pushed so far are about modifiers with a key, and are all that happened to the
manager. -/
structure Noted (base : ModifierFlagManager) (scope : ScopedModifierFlags) : Prop where
  manager : scope.manager =
    scope.scopedActiveModifierFlags.foldl ModifierFlagManager.pushBackActiveModifierFlag base
  modifiers : ∀ flag ∈ scope.scopedActiveModifierFlags,
    flag.modifierFlag ∈ ModifierFlagManager.allModifierFlags

/-- A flag that is pushed within the scope is noted by it, so that the restorer can take it back. -/
theorem Noted.push {base : ModifierFlagManager} {scope : ScopedModifierFlags}
    (noted : scope.Noted base) {flag : ActiveModifierFlag}
    (member : flag.modifierFlag ∈ ModifierFlagManager.allModifierFlags) :
    (scope.push flag).Noted base := by
  refine ⟨?_, fun other pushed => ?_⟩
  · unfold ScopedModifierFlags.push
    dsimp only
    rw [List.foldl_append, ← noted.manager]
    rfl
  · rcases List.mem_append.mp pushed with earlier | own
    · exact noted.modifiers other earlier
    · rw [List.mem_singleton.mp own]
      exact member

theorem Noted.press {base : ModifierFlagManager} {modifierFlag : ModifierFlag}
    (member : modifierFlag ∈ ModifierFlagManager.allModifierFlags) (fuel : Nat)
    {scope : ScopedModifierFlags} (noted : scope.Noted base) :
    (scope.press modifierFlag fuel).Noted base := by
  induction fuel generalizing scope with
  | zero => exact noted
  | succ fuel ih =>
      unfold ScopedModifierFlags.press
      split
      · exact noted
      · exact ih (noted.push member)

theorem Noted.release {base : ModifierFlagManager} {modifierFlag : ModifierFlag}
    (member : modifierFlag ∈ ModifierFlagManager.allModifierFlags)
    (flags : List ActiveModifierFlag) {scope : ScopedModifierFlags} (noted : scope.Noted base) :
    (scope.release modifierFlag flags).Noted base := by
  induction flags generalizing scope with
  | nil => exact noted
  | cons flag rest ih =>
      unfold ScopedModifierFlags.release
      split
      · rename_i own
        exact ih (noted.push (own ▸ member))
      · exact ih noted

/-- A scope that has just been made has noted every change that it made to the manager. -/
theorem noted_make (manager : ModifierFlagManager) (modifierFlags : List ModifierFlag) :
    (make manager modifierFlags).Noted manager := by
  have each : ∀ (flags : List ModifierFlag) (scope : ScopedModifierFlags),
      (∀ flag ∈ flags, flag ∈ ModifierFlagManager.allModifierFlags) → scope.Noted manager →
        (flags.foldl (scopeFlag modifierFlags) scope).Noted manager := by
    intro flags
    induction flags with
    | nil => exact fun scope _ noted => noted
    | cons flag rest ih =>
        intro scope members noted
        have member := members flag List.mem_cons_self
        refine ih _ (fun other later => members other (List.mem_cons_of_mem _ later)) ?_
        unfold scopeFlag
        split
        · exact noted.press member _
        · split
          · exact noted.release member _
          · exact noted
  exact each _ _ (fun _ member => member) ⟨rfl, nofun⟩

theorem valid_of_mem_allModifierFlags {flag : ModifierFlag}
    (member : flag ∈ ModifierFlagManager.allModifierFlags) :
    (MomentarySwitchEvent.ofModifierFlag flag).valid = true := by
  revert member
  cases flag <;> decide

/-- A scope that posts nothing leaves the manager as it is. -/
theorem destroy_of_flagLead {manager : ModifierFlagManager} {modifierFlags : List ModifierFlag}
    (none : flagLead (make manager modifierFlags).scopedActiveModifierFlags = none) :
    (make manager modifierFlags).destroy = manager := by
  have noted := noted_make manager modifierFlags
  generalize make manager modifierFlags = scope at none noted ⊢
  have empty : scope.scopedActiveModifierFlags = [] := by
    cases flags : scope.scopedActiveModifierFlags with
    | nil => rfl
    | cons flag rest =>
        have absent := List.findSome?_eq_none_iff.mp none flag (by rw [flags]; exact .head rest)
        have valid := valid_of_mem_allModifierFlags
          (noted.modifiers flag (by rw [flags]; exact .head rest))
        unfold lazyLead at absent
        rw [valid] at absent
        cases absent
  unfold destroy getInverseActiveModifierFlags
  rw [noted.manager, empty]
  rfl

end ScopedModifierFlags

namespace Basic

variable [ExpressionLibrary] [MachTimebase]

omit [ExpressionLibrary] [MachTimebase] in
/-- Posts of a computation that starts with other modifier flags, if these are the same
when nothing is posted. -/
theorem posts_of_flags {front : Entry} {first : Option (Event × EventType)}
    {sending after : Sending} {flags : ModifierFlagManager}
    (posts : Sending.Posts front first
      { sending with queue := { sending.queue with modifierFlagManager := flags } } after)
    (same : first = none → flags = sending.queue.modifierFlagManager) :
    Sending.Posts front first sending after := by
  obtain ⟨posted, own⟩ := posts
  refine ⟨posted, own.events, own.ordered, own.first, own.starts, own.ends, own.delay,
    fun none => (own.idle none).trans ?_⟩
  have lead := own.first
  rw [none] at lead
  unfold Sending.setting
  dsimp only
  rw [same lead.symm]

/-- `to_if_alone` begins with the flags that its scope changes, if the key is alone and in time, and
else posts nothing. -/
theorem posts_sendToIfAlone (basic : Basic) (front : Entry) (sending : Sending) :
    Sending.Posts front (basic.aloneLead front sending) sending
      (basic.sendToIfAlone front sending) := by
  unfold aloneLead sendToIfAlone
  split
  · exact Sending.Posts.refl front sending
  · dsimp only
    split
    · unfold Sending.withKeyDownModifierFlags
      dsimp only
      have restored := @ScopedModifierFlags.destroy_of_flagLead sending.queue.modifierFlagManager
        sending.current.keyDownModifierFlags
      generalize ScopedModifierFlags.make sending.queue.modifierFlagManager
        sending.current.keyDownModifierFlags = scope at restored ⊢
      have start := posts_of_flags (Sending.posts_postActiveModifierFlags { sending with
        queue := { sending.queue with modifierFlagManager := scope.destroy } } front
        scope.scopedActiveModifierFlags) restored
      have extra := start.andThen (Sending.posts_postExtraWithoutMandatoryModifiers _ front
        basic.toIfAlone) fun same => Sending.extraLead_congr same front basic.toIfAlone
      exact extra.trans (Sending.posts_postActiveModifierFlags _ front
        scope.getInverseActiveModifierFlags)
    · exact Sending.Posts.refl front sending

omit [ExpressionLibrary] in
/-- The lead of `to_if_alone` depends on the setting of the sending only, not on what has been
posted so far. -/
theorem aloneLead_congr {sending other : Sending} (same : sending.setting = other.setting)
    (basic : Basic) (front : Entry) :
    basic.aloneLead front sending = basic.aloneLead front other := by
  have alone : sending.current.alone = other.current.alone := congrArg (·.1.alone) same
  have time : sending.current.keyDownTimeStamp = other.current.keyDownTimeStamp :=
    congrArg (·.1.keyDownTimeStamp) same
  have modifiers : sending.current.keyDownModifierFlags = other.current.keyDownModifierFlags :=
    congrArg (·.1.keyDownModifierFlags) same
  have flags : sending.queue.modifierFlagManager = other.queue.modifierFlagManager :=
    congrArg (·.2.2.1) same
  unfold aloneLead
  rw [alone, time, modifiers, flags, Sending.extraLead_congr same]

omit [ExpressionLibrary] [MachTimebase] in
theorem extraListLead_congr {sending other : Sending} (same : sending.setting = other.setting)
    (toEvents : List ToEventDefinition) (front : Entry) :
    extraListLead toEvents front sending = extraListLead toEvents front other := by
  unfold extraListLead
  rw [Sending.extraLead_congr same]

theorem posts_sendExtra (toEvents : List ToEventDefinition) (front : Entry)
    (sending : Sending) :
    Sending.Posts front (extraListLead toEvents front sending) sending
      (sendExtra toEvents front sending) := by
  unfold extraListLead sendExtra
  split
  · exact Sending.Posts.refl front sending
  · exact Sending.posts_postExtraWithoutMandatoryModifiers sending front toEvents

omit [MachTimebase] in
theorem posts_postEventsAtKeyUp (sending : Sending) (front : Entry) :
    Sending.Posts front
      (sending.current.eventsAtKeyUp.head?.map fun event => (event.event, event.eventType))
      sending (sending.postEventsAtKeyUp front) := by
  have sent := Sending.Posts.foldl (fun sending event => Sending.posts_post sending front event)
    sending.current.eventsAtKeyUp sending
  have cleared : Sending.Posts front none (sending.current.eventsAtKeyUp.foldl
      (fun sending event => sending.post front event) sending)
      (sending.postEventsAtKeyUp front) := Sending.Posts.of_idle rfl rfl rfl
  refine (sent.trans cleared).congr ?_
  cases sending.current.eventsAtKeyUp <;> rfl

/-- A press begins with the mandatory modifiers that are released, then with its list, then with
those pressed again. -/
theorem posts_sendAtKeyDown (basic : Basic) (front : Entry) (sending : Sending) :
    Sending.Posts front (basic.keyDownLead front sending) sending
      (basic.sendAtKeyDown front sending) := by
  have lifted := Sending.posts_postFromMandatoryModifiersKeyUp sending front
  have sent := lifted.andThen (Sending.posts_postEventsAtKeyDown _ front basic.to_)
    fun same => Sending.listLead_congr same front basic.to_
  unfold keyDownLead sendAtKeyDown
  dsimp only
  split
  · exact sent.trans (Sending.Posts.refl front _)
  · exact sent.andThen (Sending.posts_postFromMandatoryModifiersKeyDown _ front)
      Sending.loweringLead_congr

/-- What is posted once begins with the kept key up events, then the modifiers, `to_if_alone` and
`to_after_key_up`. -/
theorem posts_sendOnceAtKeyUp (basic : Basic) (front : Entry) (sending : Sending) :
    Sending.Posts front (basic.onceLead front sending) sending
      (basic.sendOnceAtKeyUp front sending) := by
  unfold onceLead sendOnceAtKeyUp
  split
  · exact Sending.Posts.refl front sending
  · dsimp only
    have marked : Sending.Posts front none sending
        { sending with current := { sending.current with keyUpPosted := true } } :=
      Sending.Posts.of_idle rfl rfl rfl
    have keyUps := marked.andThen (posts_postEventsAtKeyUp _ front) fun _ => rfl
    have lowered := keyUps.andThen (Sending.posts_postFromMandatoryModifiersKeyDown _ front)
      Sending.loweringLead_congr
    have alone := lowered.andThen (basic.posts_sendToIfAlone front _)
      fun same => aloneLead_congr same basic front
    exact alone.andThen (posts_sendExtra basic.toAfterKeyUp front _)
      fun same => extraListLead_congr same basic.toAfterKeyUp front

/-- What is posted at a key_up of a record starts with the given event. -/
theorem posts_sendAtKeyUp (basic : Basic) (front : Entry) (sending : Sending) :
    Sending.Posts front (basic.keyUpLead front sending) sending
      (basic.sendAtKeyUp front sending) := by
  unfold keyUpLead sendAtKeyUp
  dsimp only
  split
  · exact Sending.Posts.refl front sending
  · have once := basic.posts_sendOnceAtKeyUp front sending
    generalize basic.sendOnceAtKeyUp front sending = sent at once ⊢
    have extra : Sending.Posts front (if sent.current.fromEvents = [] then
          extraListLead basic.from_.simultaneousOptions.toAfterKeyUp front sent else none) sent
        (if sent.current.fromEvents = [] then
          sendExtra basic.from_.simultaneousOptions.toAfterKeyUp front sent else sent) := by
      split
      · exact posts_sendExtra basic.from_.simultaneousOptions.toAfterKeyUp front sent
      · exact Sending.Posts.refl front sent
    refine once.andThen extra fun same => ?_
    rw [(Sending.current_of_setting same).1, extraListLead_congr same]

end Basic

end Karabiner

import Karabiner.Basic.LoadedDefinition
import Karabiner.Basic.PostedList
import Karabiner.Configuration.SavedModifications

/-! # Posting loaded definitions

`post_events_at_key_down` and `post_extra_to_events` read the event of each definition that is
left of a `to` list, and an exception of `to_event` leaves them. Where every event can be read
they are the functions of `event_sender` on what was read, and each definition has its key_down
(`AcceptedDefinition.posts_iff`).
-/

namespace Karabiner

namespace TaggedEventDefinition

variable [JsonText]

/-- What `to_event` reads, as the event definition that it is read as. -/
def read (definition : TaggedEventDefinition) : Except BadVariantAccess EventDefinition :=
  match definition.type, definition.value with
  | .none, _ => .ok .none
  | .fromEvent, _ => .ok .fromEvent
  | .any, .anyType type => .ok (.any type)
  -- `to_event` does not look at the value.
  | .any, _ => .ok .none
  | .momentarySwitchEvent, .momentarySwitchEvent event => .ok (.momentarySwitchEvent event)
  | .shellCommand, .string command => .ok (.shellCommand command)
  | .sendUserCommand, .json json => .ok (.sendUserCommand (JsonText.dump json))
  | .selectInputSource, .specifiers specifiers => .ok (.selectInputSource specifiers)
  | .setVariable, .setVariable command => .ok (.setVariable command)
  | .setNotificationMessage, .notificationMessage message => .ok (.setNotificationMessage message)
  | .mouseKey, .mouseKey key => .ok (.mouseKey key)
  | .stickyModifier, .stickyModifier modifierFlag type => .ok (.stickyModifier modifierFlag type)
  | .softwareFunction, .softwareFunction json => .ok (.softwareFunction json)
  | _, _ => .error .badVariantAccess

/-- What is read has the event of the definition. -/
theorem toEvent_read (definition : TaggedEventDefinition) :
    definition.toEvent = definition.read.map EventDefinition.toEvent := by
  obtain ⟨type, value⟩ := definition
  cases type <;> cases value <;> rfl

end TaggedEventDefinition

namespace LoadedToEventDefinition

/-- `make_from_momentary_switch_event`. -/
def makeFromMomentarySwitchEvent (event : MomentarySwitchEvent) (base : LoadedToEventDefinition) :
    LoadedToEventDefinition :=
  { base with eventDefinition := .makeFromMomentarySwitchEvent event }

/-- What stands for a definition whose conditions are fulfilled: the keys of the record for
`from_event`. -/
def replaced (current : ManipulatedOriginalEvent) (definition : LoadedToEventDefinition) :
    List LoadedToEventDefinition :=
  if definition.eventDefinition.type = .fromEvent then
    current.fromEvents.filterMap fun fromEvent =>
      fromEvent.event.momentarySwitchEvent?.map fun event =>
        makeFromMomentarySwitchEvent event definition
  else [definition]

/-- `filter_and_replace_events`. -/
def filterAndReplaceEvents (context : ConditionContext) (current : ManipulatedOriginalEvent) :
    List LoadedToEventDefinition → ManipulatorEnvironment →
      List LoadedToEventDefinition × ManipulatorEnvironment
  | [], environment => ([], environment)
  | definition :: rest, environment =>
      let (fulfilled, refreshed) := definition.conditionManager.isFulfilled context environment
      let (others, final) := filterAndReplaceEvents context current rest refreshed
      if fulfilled then (definition.replaced current ++ others, final) else (others, final)

/-- `make_modifier_events`. -/
def makeModifierEvents (definition : LoadedToEventDefinition) : List MomentarySwitchEvent :=
  definition.modifiers.filterMap fun modifier =>
    match modifier.getModifierFlags with
    | flag :: _ =>
        let event := MomentarySwitchEvent.ofModifierFlag flag
        if event.valid then some event else none
    | [] => none

/-- The conditions are fulfilled. -/
def Fulfilled (context : ConditionContext) (environment : ManipulatorEnvironment)
    (definition : LoadedToEventDefinition) : Prop :=
  (definition.conditionManager.isFulfilled context environment).1 = true

/-- A list is replaced by the elements whose conditions are fulfilled, each of them with what it is
replaced by. -/
theorem mem_filterAndReplaceEvents {context : ConditionContext}
    {current : ManipulatedOriginalEvent} {definition : LoadedToEventDefinition}
    (definitions : List LoadedToEventDefinition) (environment : ManipulatorEnvironment) :
    definition ∈ (filterAndReplaceEvents context current definitions environment).1 ↔
      ∃ own ∈ definitions, own.Fulfilled context environment ∧
        definition ∈ own.replaced current := by
  induction definitions generalizing environment with
  | nil => simp [filterAndReplaceEvents]
  | cons first rest ih =>
      have sameClock : ∀ own : LoadedToEventDefinition,
          own.Fulfilled context environment.setVariableSystemNowMilliseconds ↔
            own.Fulfilled context environment := by
        intro own
        simp [Fulfilled, ConditionManager.isFulfilled]
      have onRest := ih environment.setVariableSystemNowMilliseconds
      simp only [sameClock] at onRest
      rw [filterAndReplaceEvents, List.exists_mem_cons_iff]
      dsimp only
      by_cases fulfilled : (first.conditionManager.isFulfilled context environment).1 = true
      · rw [if_pos fulfilled, List.mem_append]
        exact or_congr (and_iff_right fulfilled).symm onRest
      · rw [if_neg fulfilled]
        exact onRest.trans (or_iff_right fun both => fulfilled both.1).symm

variable [JsonText]

/-- The definition with the event that is read. -/
def read (definition : LoadedToEventDefinition) : Except BadVariantAccess ToEventDefinition := do
  return ⟨← definition.eventDefinition.read, definition.modifiers, definition.lazy,
    definition.repeat_, definition.halt, definition.holdDownMilliseconds,
    definition.conditionManager⟩

end LoadedToEventDefinition

namespace Sending

/-- The definitions that a call goes through. -/
def loadedList (sending : Sending) (front : Entry) (toEvents : List LoadedToEventDefinition) :
    List LoadedToEventDefinition :=
  if sending.current.halted then []
  else (LoadedToEventDefinition.filterAndReplaceEvents ⟨front.deviceId, front.state⟩
    sending.current toEvents sending.queue.manipulatorEnvironment).1

variable [ExpressionLibrary] [MachTimebase] [JsonText]

/-- The loop of `post_events_at_key_down`. -/
def postEachLoadedAtKeyDown (front : Entry) :
    List LoadedToEventDefinition → Sending → Except BadVariantAccess Sending
  | [], sending => .ok sending
  | loaded :: rest, sending => do
      let definition ← loaded.read
      postEachLoadedAtKeyDown front rest
        (sending.postEventAtKeyDown front rest.isEmpty definition)

/-- The loop of `post_extra_to_events`. -/
def postEachLoadedExtra (front : Entry) (loaded : List LoadedToEventDefinition)
    (sending : Sending) : Except BadVariantAccess Sending :=
  loaded.foldlM (fun sending own => do return postExtraToEvent front sending (← own.read)) sending

/-- Filter a `to` list and send what is left, unless the record is halted. -/
def sendLoaded (sending : Sending) (front : Entry) (toEvents : List LoadedToEventDefinition)
    (send : List LoadedToEventDefinition → Sending → Except BadVariantAccess Sending) :
    Except BadVariantAccess Sending :=
  if sending.current.halted then .ok sending
  else
    let (filtered, environment) := LoadedToEventDefinition.filterAndReplaceEvents
      ⟨front.deviceId, front.state⟩ sending.current toEvents
      sending.queue.manipulatorEnvironment
    send filtered { sending with
      queue := { sending.queue with manipulatorEnvironment := environment } }

/-- `post_events_at_key_down`. -/
def postLoadedEventsAtKeyDown (sending : Sending) (front : Entry)
    (toEvents : List LoadedToEventDefinition) : Except BadVariantAccess Sending :=
  sending.sendLoaded front toEvents (postEachLoadedAtKeyDown front)

/-- `post_extra_to_events`. -/
def postLoadedExtraToEvents (sending : Sending) (front : Entry)
    (toEvents : List LoadedToEventDefinition) : Except BadVariantAccess Sending :=
  sending.sendLoaded front toEvents (postEachLoadedExtra front)

/-- The key_downs that a definition with the event sends: those of its modifiers, and its own.
Caps lock as a modifier is turned on, which is no key_down. -/
def keyDownsOf (deviceId : DeviceId) (definition : LoadedToEventDefinition) (event : Event) :
    List Sent :=
  ((definition.makeModifierEvents.map (modifierSent deviceId .keyDown)).filter
    fun sent => decide (sent.eventType = .keyDown)) ++ [⟨deviceId, event, .keyDown⟩]

/-- A call returns, and the key_downs it has posted are those of each definition it has gone
through, with an event for each. -/
def PostsKeyDowns (sending : Sending) (front : Entry) (loaded : List LoadedToEventDefinition)
    (result : Except BadVariantAccess Sending) : Prop :=
  ∃ (after : Sending) (events : List Event), result = .ok after ∧
    List.Forall₂ (fun definition event => definition.eventDefinition.toEvent = .ok (some event))
      loaded events ∧
    ((sending.entriesPosted after).map Entry.sent).filter
        (fun sent => decide (sent.eventType = .keyDown)) =
      (loaded.zip events).flatMap fun pair => keyDownsOf front.deviceId pair.1 pair.2

/-! ## The key_downs of what is read -/

section Sent

omit [ExpressionLibrary] [MachTimebase] [JsonText]

theorem filter_keyDown_releases (deviceId : DeviceId) (definition : ToEventDefinition) :
    (definition.releases deviceId).filter
      (fun sent => decide (sent.eventType = .keyDown)) = [] := by
  rw [List.filter_eq_nil_iff]
  intro sent member
  simpa using Sent.eventType_of_mem_releases member

/-- Whatever is released, the key_downs of a list are those of its presses. -/
theorem filter_keyDown_of_byPosition {deviceId : DeviceId} {definitions : List ToEventDefinition}
    {posted kept : List Sent} (byPosition : ByPosition deviceId definitions posted kept) :
    posted.filter (fun sent => decide (sent.eventType = .keyDown)) =
      definitions.flatMap fun definition => (definition.presses deviceId).filter
        fun sent => decide (sent.eventType = .keyDown) := by
  induction byPosition with
  | nil => rfl
  | last definition released kept split =>
      have none : released.filter (fun sent => decide (sent.eventType = .keyDown)) = [] := by
        rw [List.filter_eq_nil_iff]
        intro sent member
        have isRelease := split.mem_iff.mp (List.mem_append_left kept member)
        simpa using Sent.eventType_of_mem_releases isRelease
      simp [none]
  | cons definition more others ih =>
      simp [filter_keyDown_releases deviceId definition, ih]

end Sent

omit [ExpressionLibrary] [MachTimebase] in
/-- The presses of what is read. -/
theorem filter_keyDown_presses {own : LoadedToEventDefinition} {definition : ToEventDefinition}
    {event : Event} (isRead : own.read = .ok definition)
    (isEvent : own.eventDefinition.toEvent = .ok (some event)) (deviceId : DeviceId) :
    (definition.presses deviceId).filter (fun sent => decide (sent.eventType = .keyDown)) =
      keyDownsOf deviceId own event := by
  obtain ⟨eventDefinition, isDefinition, isRead⟩ := exists_of_bind_eq_ok isRead
  obtain rfl := Except.ok.inj isRead
  have same : eventDefinition.toEvent = some event := by
    rw [TaggedEventDefinition.toEvent_read, isDefinition] at isEvent
    exact Except.ok.inj isEvent
  rw [ToEventDefinition.presses]
  dsimp only
  rw [same]
  dsimp only
  rw [List.filter_append]
  rfl

omit [ExpressionLibrary] [MachTimebase] in
/-- When every element is read and has an event, their presses are those of the elements that the
list was read into. -/
theorem flatMap_presses {loaded : List LoadedToEventDefinition}
    {definitions : List ToEventDefinition} {events : List Event}
    (areRead : List.Forall₂ (fun own definition => own.read = .ok definition) loaded definitions)
    (areEvents : List.Forall₂ (fun own event => own.eventDefinition.toEvent = .ok (some event))
      loaded events) (deviceId : DeviceId) :
    (definitions.flatMap fun definition => (definition.presses deviceId).filter
        fun sent => decide (sent.eventType = .keyDown)) =
      (loaded.zip events).flatMap fun pair => keyDownsOf deviceId pair.1 pair.2 := by
  induction areRead generalizing events with
  | nil => rfl
  | cons isRead areRead ih =>
      cases areEvents with
      | cons isEvent areEvents =>
          rw [List.flatMap_cons, List.zip_cons_cons, List.flatMap_cons, ih areEvents,
            filter_keyDown_presses isRead isEvent]

/-! ## Posting what is read -/

/-- The loop of `post_events_at_key_down` returns when every event can be read. -/
theorem postEachLoadedAtKeyDown_of_read {front : Entry} {loaded : List LoadedToEventDefinition}
    {definitions : List ToEventDefinition}
    (areRead : List.Forall₂ (fun own definition => own.read = .ok definition) loaded definitions)
    (sending : Sending) :
    postEachLoadedAtKeyDown front loaded sending =
      .ok (postEachAtKeyDown front definitions sending) := by
  induction areRead generalizing sending with
  | nil => rfl
  | @cons own definition rest definitions isRead areRead ih =>
      have sameEnd : rest.isEmpty = definitions.isEmpty := by cases areRead <;> rfl
      rw [postEachLoadedAtKeyDown, isRead, sameEnd]
      exact ih _

/-- The loop of `post_extra_to_events` returns when every event can be read. -/
theorem postEachLoadedExtra_of_read {front : Entry} {loaded : List LoadedToEventDefinition}
    {definitions : List ToEventDefinition}
    (areRead : List.Forall₂ (fun own definition => own.read = .ok definition) loaded definitions)
    (sending : Sending) :
    postEachLoadedExtra front loaded sending =
      .ok (definitions.foldl (postExtraToEvent front) sending) := by
  induction areRead generalizing sending with
  | nil => rfl
  | @cons own definition rest definitions isRead areRead ih =>
      rw [postEachLoadedExtra, List.foldlM_cons, isRead]
      exact ih _

omit [ExpressionLibrary] [MachTimebase] [JsonText] in
theorem exists_forall₂_iff {α β : Type} {related : α → β → Prop} {elements : List α} :
    (∃ others, List.Forall₂ related elements others) ↔
      ∀ element ∈ elements, ∃ other, related element other := by
  induction elements with
  | nil => simp
  | cons element rest ih =>
      rw [List.forall_mem_cons, ← ih]
      constructor
      · rintro ⟨_, all⟩
        cases all with
        | cons own others => exact ⟨⟨_, own⟩, _, others⟩
      · rintro ⟨⟨other, own⟩, others, all⟩
        exact ⟨other :: others, .cons own all⟩

omit [ExpressionLibrary] [MachTimebase] in
theorem exists_read {loaded : List LoadedToEventDefinition} {events : List Event}
    (areEvents : List.Forall₂ (fun own event => own.eventDefinition.toEvent = .ok (some event))
      loaded events) :
    ∃ definitions, List.Forall₂ (fun own definition => own.read = .ok definition) loaded
      definitions := by
  induction areEvents with
  | nil => exact ⟨[], .nil⟩
  | @cons own event rest events isEvent areEvents ih =>
      obtain ⟨definitions, areRead⟩ := ih
      rw [TaggedEventDefinition.toEvent_read] at isEvent
      obtain ⟨eventDefinition, isRead, -⟩ := exists_of_map_eq_ok isEvent
      exact ⟨_, .cons (by rw [LoadedToEventDefinition.read, isRead]; rfl) areRead⟩

omit [ExpressionLibrary] [MachTimebase] in
/-- A call whose loop sends the presses of what it reads has every key_down posted exactly when
every definition has an event. -/
theorem postsKeyDowns_sendLoaded_iff (sending : Sending) (front : Entry)
    (toEvents : List LoadedToEventDefinition)
    {send : List LoadedToEventDefinition → Sending → Except BadVariantAccess Sending}
    (sends : ∀ loaded definitions start,
      List.Forall₂ (fun own definition => own.read = .ok definition) loaded definitions →
        ∃ after sent holds, send loaded start = .ok after ∧
          Emits front sent holds start after ∧
          sent.filter (fun sent => decide (sent.eventType = .keyDown)) =
            definitions.flatMap fun definition => (definition.presses front.deviceId).filter
              fun sent => decide (sent.eventType = .keyDown)) :
    PostsKeyDowns sending front (sending.loadedList front toEvents)
        (sending.sendLoaded front toEvents send) ↔
      ∀ own ∈ sending.loadedList front toEvents,
        ∃ event, own.eventDefinition.toEvent = .ok (some event) := by
  rw [← exists_forall₂_iff]
  refine ⟨fun ⟨_, events, _, areEvents, _⟩ => ⟨events, areEvents⟩, fun ⟨events, areEvents⟩ => ?_⟩
  rw [sendLoaded]
  rw [loadedList] at areEvents ⊢
  cases halted : sending.current.halted with
  | true =>
      rw [halted] at areEvents
      cases areEvents
      refine ⟨sending, [], rfl, .nil, ?_⟩
      rw [entriesPosted_of_append (List.append_nil _).symm]
      rfl
  | false =>
      rw [halted] at areEvents
      obtain ⟨definitions, areRead⟩ := exists_read areEvents
      obtain ⟨after, sent, holds, returned, emits, keyDowns⟩ := sends _ definitions _ areRead
      refine ⟨after, events, returned, areEvents, ?_⟩
      rw [← flatMap_presses areRead areEvents, ← keyDowns, ← emits.sent_entriesPosted]
      rfl

/-- A list that is sent at the press posts a key_down for each element exactly when each element has
an event. -/
theorem postsKeyDowns_atKeyDown_iff (sending : Sending) (front : Entry)
    (toEvents : List LoadedToEventDefinition) :
    PostsKeyDowns sending front (sending.loadedList front toEvents)
        (sending.postLoadedEventsAtKeyDown front toEvents) ↔
      ∀ own ∈ sending.loadedList front toEvents,
        ∃ event, own.eventDefinition.toEvent = .ok (some event) := by
  apply postsKeyDowns_sendLoaded_iff
  intro loaded definitions start areRead
  obtain ⟨posted, kept, byPosition, emits, -⟩ := emits_postEachAtKeyDown front definitions start
  exact ⟨_, posted, _, postEachLoadedAtKeyDown_of_read areRead start, emits,
    filter_keyDown_of_byPosition byPosition⟩

/-- Extra events are posted with a key_down for each element exactly when each element has an event.
-/
theorem postsKeyDowns_extra_iff (sending : Sending) (front : Entry)
    (toEvents : List LoadedToEventDefinition) :
    PostsKeyDowns sending front (sending.loadedList front toEvents)
        (sending.postLoadedExtraToEvents front toEvents) ↔
      ∀ own ∈ sending.loadedList front toEvents,
        ∃ event, own.eventDefinition.toEvent = .ok (some event) := by
  apply postsKeyDowns_sendLoaded_iff
  intro loaded definitions start areRead
  refine ⟨_, _, _, postEachLoadedExtra_of_read areRead start,
    emits_postExtraToEvents start front definitions, ?_⟩
  rw [List.filter_flatMap]
  congr 1
  funext definition
  rw [List.filter_append, filter_keyDown_releases, List.append_nil]

end Sending

namespace AcceptedDefinition

variable [DefinitionLibrary] [JsonText]

/-- What stands for an accepted definition has an event, unless the definition is an empty
`sticky_modifier`. -/
theorem exists_toEvent_replaced_iff (own : AcceptedDefinition)
    (current : ManipulatedOriginalEvent) :
    (∀ definition ∈ own.definition.replaced current,
        ∃ event, definition.eventDefinition.toEvent = .ok (some event)) ↔
      ¬own.HasEmptyStickyModifier := by
  obtain ⟨members, -, -, notNone, notAny⟩ := LoadedToEventDefinition.ofJson_eq_ok own.accepted
  rw [LoadedToEventDefinition.replaced]
  split
  · rename_i isFromEvent
    have agrees := LoadedToEventDefinition.agrees_of_ne_stickyModifier own.accepted
      (by rw [isFromEvent]; nofun)
    refine iff_of_true (fun definition member => ?_) (own.agrees_iff.mp agrees)
    obtain ⟨fromEvent, -, isReplaced⟩ := List.mem_filterMap.mp member
    obtain ⟨event, -, rfl⟩ := Option.map_eq_some_iff.mp isReplaced
    exact ⟨.momentarySwitchEvent event, rfl⟩
  · rename_i notFromEvent
    rw [List.forall_mem_singleton, ← own.agrees_iff]
    exact TaggedEventDefinition.exists_toEvent_iff notNone notAny notFromEvent

/-- No definition of a `to` list that the call goes through is an empty `sticky_modifier`. -/
def NoEmptyStickyModifier (sending : Sending) (front : Entry) (toEvents : List AcceptedDefinition) :
    Prop :=
  sending.current.halted = false → ∀ own ∈ toEvents,
    own.definition.Fulfilled ⟨front.deviceId, front.state⟩ sending.queue.manipulatorEnvironment →
      ¬own.HasEmptyStickyModifier

/-- What the loader accepted has an event throughout exactly when none of its sticky modifiers is
empty. -/
theorem exists_toEvent_loadedList_iff (sending : Sending) (front : Entry)
    (toEvents : List AcceptedDefinition) :
    (∀ definition ∈ sending.loadedList front (toEvents.map AcceptedDefinition.definition),
        ∃ event, definition.eventDefinition.toEvent = .ok (some event)) ↔
      NoEmptyStickyModifier sending front toEvents := by
  rw [Sending.loadedList, NoEmptyStickyModifier]
  cases halted : sending.current.halted with
  | true => simp
  | false =>
      simp only [Bool.false_eq_true, if_false, forall_const,
        LoadedToEventDefinition.mem_filterAndReplaceEvents, List.mem_map]
      constructor
      · intro all own member fulfilled
        apply (own.exists_toEvent_replaced_iff sending.current).mp
        exact fun definition isReplaced =>
          all definition ⟨own.definition, ⟨own, member, rfl⟩, fulfilled, isReplaced⟩
      · rintro none definition ⟨_, ⟨own, member, rfl⟩, fulfilled, isReplaced⟩
        exact (own.exists_toEvent_replaced_iff sending.current).mpr (none own member fulfilled)
          definition isReplaced

variable [ExpressionLibrary] [MachTimebase]

/-- `post_events_at_key_down` and `post_extra_to_events` return and post the key_downs of every
definition that they go through. -/
def PostsEach (sending : Sending) (front : Entry) (toEvents : List AcceptedDefinition) : Prop :=
  let loaded := toEvents.map AcceptedDefinition.definition
  Sending.PostsKeyDowns sending front (sending.loadedList front loaded)
      (sending.postLoadedEventsAtKeyDown front loaded) ∧
    Sending.PostsKeyDowns sending front (sending.loadedList front loaded)
      (sending.postLoadedExtraToEvents front loaded)

/-- The type and the value of an accepted definition agree, and a list of accepted definitions is
posted without an exception, exactly when no empty `sticky_modifier` takes part. -/
theorem settles_and_posts_iff :
    (∀ own : AcceptedDefinition, own.Settled ↔ ¬own.HasEmptyStickyModifier) ∧
      ∀ (toEvents : List AcceptedDefinition) (sending : Sending) (front : Entry),
        PostsEach sending front toEvents ↔ NoEmptyStickyModifier sending front toEvents := by
  refine ⟨settled_iff, fun toEvents sending front => ?_⟩
  have atKeyDown := Sending.postsKeyDowns_atKeyDown_iff sending front
    (toEvents.map AcceptedDefinition.definition)
  have extra := Sending.postsKeyDowns_extra_iff sending front
    (toEvents.map AcceptedDefinition.definition)
  rw [exists_toEvent_loadedList_iff] at atKeyDown extra
  exact ⟨fun posts => atKeyDown.mp posts.1, fun none => ⟨atKeyDown.mpr none, extra.mpr none⟩⟩

/-- A library whose tables know the key A, and nothing else. -/
@[reducible] def keyALibrary : DefinitionLibrary where
  makeUsagePair _ json :=
    match json with
    | .string "a" => .ok ⟨UsagePage.keyboardOrKeypad, Usage.keyboardA⟩
    | _ => .error (.mustBeOneOf "key" "known" json)
  specifier json := .error (.mustBeOneOf "specifier" "known" json)
  softwareFunction json := .error (.mustBeOneOf "software_function" "known" json)
  isExpression _ := false
  makeCondition json := .error (.mustBeOneOf "condition" "known" json)

/-- `{"sticky_modifier": {}}`, which is accepted. -/
def emptyStickyModifier : let _ := keyALibrary; AcceptedDefinition :=
  let _ := keyALibrary
  { json := .object [("sticky_modifier", .object [])]
    definition := { LoadedToEventDefinition.initial with
      eventDefinition := ⟨.stickyModifier, .monostate⟩ }
    accepted := rfl }

omit [DefinitionLibrary] [JsonText] [ExpressionLibrary] [MachTimebase] in
/-- The key that sends it throws. -/
theorem emptyStickyModifier_throws :
    let _ := keyALibrary
    let _ := SimpleModifications.sampleText
    let _ := zeroExpressions
    let _ := nanosecondTimebase
    emptyStickyModifier.definition.eventDefinition.toEvent = .error .badVariantAccess ∧
      Sending.sendingForKeyA.postLoadedEventsAtKeyDown (Sending.entryForKeyA 10 .keyDown)
        [emptyStickyModifier.definition] = .error .badVariantAccess ∧
      ¬(∀ own : AcceptedDefinition, own.Settled) ∧
      ¬∀ (toEvents : List AcceptedDefinition) (sending : Sending) (front : Entry),
        PostsEach sending front toEvents := by
  intro library text expressions timebase
  refine ⟨rfl, rfl, fun all => ?_, fun all => ?_⟩
  · exact absurd (all emptyStickyModifier).agrees nofun
  · obtain ⟨⟨after, _, returned, _, _⟩, _⟩ :=
      all [emptyStickyModifier] Sending.sendingForKeyA (Sending.entryForKeyA 10 .keyDown)
    cases returned

end AcceptedDefinition

end Karabiner

import Karabiner.Basic.Emissions
import Karabiner.Foundation.BalancedStrokes

/-! # The entries of one `to` list

A `to` event presses its modifiers and itself, and releases itself and its modifiers. All of
that is posted before the next event of the list; only the last event may keep releases for the
key_up. So every press is answered by one release behind it. The entries of a call rise in time
as long as no `hold_down_milliseconds` among them is negative (`Sending.listInOrder_iff`). The
times are compared as the 64-bit time points they are in the source, and none of them wraps.
-/

namespace Karabiner

open Foundation

/-- What is pressed and released: an event of a device, or caps lock as a sticky modifier. -/
inductive StrokeKey where
  | event (deviceId : DeviceId) (event : Event)
  | stickyCapsLock (deviceId : DeviceId)
deriving DecidableEq

/-- What an entry presses or releases. Caps lock as a modifier is turned on and off. -/
def Sent.stroke (sent : Sent) : Option (Stroke StrokeKey) :=
  match sent.eventType, sent.event with
  | .keyDown, event => some (.down (.event sent.deviceId event))
  | .keyUp, event => some (.up (.event sent.deviceId event))
  | .single, .stickyModifier .capsLock .on => some (.down (.stickyCapsLock sent.deviceId))
  | .single, .stickyModifier .capsLock .off => some (.up (.stickyCapsLock sent.deviceId))
  | .single, _ => none

/-- The keys of a `to` event. -/
def ToEventDefinition.strokeKeys (deviceId : DeviceId) (definition : ToEventDefinition) :
    List StrokeKey :=
  match definition.eventDefinition.toEvent with
  | none => []
  | some event => definition.makeModifierEvents.map (fun modifier =>
      if modifier.capsLock then .stickyCapsLock deviceId
      else .event deviceId (.momentarySwitchEvent modifier)) ++ [.event deviceId event]

/-- A list is sent position by position: everything of a `to` event before anything of the
next one. Only the last one keeps some of its releases. -/
inductive ByPosition (deviceId : DeviceId) :
    List ToEventDefinition → List Sent → List Sent → Prop
  | nil : ByPosition deviceId [] [] []
  | last (definition : ToEventDefinition) (released kept : List Sent)
      (split : (released ++ kept).Perm (definition.releases deviceId)) :
      ByPosition deviceId [definition] (definition.presses deviceId ++ released) kept
  | cons (definition : ToEventDefinition) {rest : List ToEventDefinition} {posted kept : List Sent}
      (more : rest ≠ []) (others : ByPosition deviceId rest posted kept) :
      ByPosition deviceId (definition :: rest)
        (definition.presses deviceId ++ definition.releases deviceId ++ posted) kept

section

variable {deviceId : DeviceId}

theorem stroke_modifierSent (modifier : MomentarySwitchEvent) :
    (modifierSent deviceId .keyDown modifier).stroke =
        some (.down (if modifier.capsLock then .stickyCapsLock deviceId
          else .event deviceId (.momentarySwitchEvent modifier))) ∧
      (modifierSent deviceId .keyUp modifier).stroke =
        some (.up (if modifier.capsLock then .stickyCapsLock deviceId
          else .event deviceId (.momentarySwitchEvent modifier))) := by
  unfold modifierSent makeLazyModifierKeyEvent
  cases modifier.capsLock with
  | true => exact ⟨rfl, rfl⟩
  | false => exact ⟨rfl, rfl⟩

theorem strokes_presses (definition : ToEventDefinition) :
    (definition.presses deviceId).filterMap Sent.stroke =
      (definition.strokeKeys deviceId).map Stroke.down := by
  unfold ToEventDefinition.presses ToEventDefinition.strokeKeys
  cases definition.eventDefinition.toEvent with
  | none => rfl
  | some event =>
      rw [List.filterMap_append, List.filterMap_map, List.map_append, List.map_map]
      congr 1
      rw [← List.filterMap_eq_map]
      exact List.filterMap_congr fun modifier _ => (stroke_modifierSent modifier).1

/-- The releases of an element are the strokes up of the same keys, in another order. -/
theorem strokes_releases (definition : ToEventDefinition) :
    ((definition.releases deviceId).filterMap Sent.stroke).Perm
      ((definition.strokeKeys deviceId).map Stroke.up) := by
  unfold ToEventDefinition.releases ToEventDefinition.strokeKeys
  cases definition.eventDefinition.toEvent with
  | none => exact .nil
  | some event =>
      rw [List.map_append, List.map_map]
      have modifiers : (definition.makeModifierEvents.map
          (modifierSent deviceId .keyUp)).filterMap Sent.stroke =
          definition.makeModifierEvents.map (Stroke.up ∘ fun modifier =>
            if modifier.capsLock then .stickyCapsLock deviceId
            else .event deviceId (.momentarySwitchEvent modifier)) := by
        rw [List.filterMap_map, ← List.filterMap_eq_map]
        exact List.filterMap_congr fun modifier _ => (stroke_modifierSent modifier).2
      change (Stroke.up (StrokeKey.event deviceId event) :: _).Perm _
      rw [modifiers]
      exact (List.perm_append_singleton _ _).symm

/-- A list that is sent position by position is balanced. -/
theorem ByPosition.balanced {definitions : List ToEventDefinition} {posted kept : List Sent}
    (byPosition : ByPosition deviceId definitions posted kept) :
    Balanced ((posted ++ kept).filterMap Sent.stroke) := by
  have both : ∀ (definition : ToEventDefinition) (releases : List Sent),
      releases.Perm (definition.releases deviceId) →
      Balanced ((definition.presses deviceId ++ releases).filterMap Sent.stroke) := by
    intro definition releases perm
    rw [List.filterMap_append, strokes_presses]
    exact Balanced.of_perm ((perm.filterMap Sent.stroke).trans (strokes_releases definition))
  induction byPosition with
  | nil => exact Balanced.nil
  | last definition released kept split =>
      rw [List.append_assoc]
      exact both definition _ split
  | cons definition more others ih =>
      rw [List.append_assoc, List.filterMap_append]
      exact (both definition _ (.refl _)).append ih

end

/-! ## What a list emits and keeps -/

namespace Sending

/-- What a computation adds to the events that the record keeps for the key_up. -/
def Keeps (kept : List Sent) (before after : Sending) : Prop :=
  ∃ events : List EventAtKeyUp,
    after.current.eventsAtKeyUp = before.current.eventsAtKeyUp ++ events ∧
      events.map EventAtKeyUp.sent = kept

theorem Keeps.of_eq {before after : Sending}
    (same : after.current.eventsAtKeyUp = before.current.eventsAtKeyUp) : Keeps [] before after :=
  ⟨[], by rw [same, List.append_nil], rfl⟩

theorem Keeps.trans {kept more : List Sent} {before middle after : Sending}
    (first : Keeps kept before middle) (second : Keeps more middle after) :
    Keeps (kept ++ more) before after := by
  obtain ⟨events, isKept, same⟩ := first
  obtain ⟨later, isLater, laterSame⟩ := second
  exact ⟨events ++ later, by rw [isLater, isKept, List.append_assoc],
    by rw [List.map_append, same, laterSame]⟩

variable [ExpressionLibrary]

theorem keeps_postKeyDown (sending : Sending) (front : Entry) (definition : ToEventDefinition)
    (event : Event) : Keeps [] sending (sending.postKeyDown front definition event) := by
  refine Keeps.of_eq ?_
  unfold postKeyDown
  dsimp only
  split <;> rfl

theorem keeps_modifierKeyDowns (front : Entry) (lazy : Bool)
    (modifiers : List MomentarySwitchEvent) (sending : Sending) :
    Keeps [] sending (modifiers.foldl (fun sending modifier =>
      sending.postLazyModifierKeyEvent front modifier .keyDown front.deviceId lazy) sending) :=
  Keeps.of_eq (congrArg ManipulatedOriginalEvent.eventsAtKeyUp (current_foldl
    (fun sending modifier => current_postLazyModifierKeyEvent sending front modifier .keyDown
      front.deviceId lazy) modifiers sending))

/-- Key up events of modifiers are kept for the release in their order, or none is if they are
posted at once. -/
theorem keeps_modifierKeyUps (front : Entry) (isKept : Bool)
    (modifiers : List MomentarySwitchEvent) (sending : Sending) :
    Keeps (if isKept then modifiers.map (modifierSent front.deviceId .keyUp) else []) sending
      (modifiers.foldl (postModifierKeyUp front isKept) sending) := by
  cases isKept with
  | false =>
      exact Keeps.of_eq (congrArg ManipulatedOriginalEvent.eventsAtKeyUp (current_foldl
        (fun sending modifier => current_postLazyModifierKeyEvent sending front modifier .keyUp
          front.deviceId true) modifiers sending))
  | true =>
      induction modifiers generalizing sending with
      | nil => exact Keeps.of_eq rfl
      | cons modifier rest ih =>
          have own : Keeps [modifierSent front.deviceId .keyUp modifier] sending
              (postModifierKeyUp front true sending modifier) := ⟨[_], rfl, rfl⟩
          exact own.trans (ih _)

variable [MachTimebase]

/-- The hold time of a `to` event, if its key_up is posted at once. -/
def holdsAtKeyDown (last : Bool) (definition : ToEventDefinition) : List Int :=
  if !last || !definition.repeat_ then definition.holds else []

/-- The hold times of a list, where the key_up is posted at once. -/
def holdsOfList : List ToEventDefinition → List Int
  | [] => []
  | definition :: rest => holdsAtKeyDown rest.isEmpty definition ++ holdsOfList rest

/-- No hold time of a list is negative, where the key_up is posted at once. -/
def HoldsForward (definitions : List ToEventDefinition) : Prop :=
  ∀ hold ∈ holdsOfList definitions, 0 ≤ hold

/-- What one `to` event sends: all of it, unless it is the last of its list. -/
theorem emits_postEventAtKeyDown (sending : Sending) (front : Entry) (last : Bool)
    (definition : ToEventDefinition) :
    ∃ released kept : List Sent,
      (released ++ kept).Perm (definition.releases front.deviceId) ∧
      (last = false → released = definition.releases front.deviceId ∧ kept = []) ∧
      Emits front (definition.presses front.deviceId ++ released) (holdsAtKeyDown last definition)
        sending (sending.postEventAtKeyDown front last definition) ∧
      Keeps kept sending (sending.postEventAtKeyDown front last definition) := by
  unfold postEventAtKeyDown holdsAtKeyDown ToEventDefinition.presses ToEventDefinition.releases
    ToEventDefinition.holds
  cases definition.eventDefinition.toEvent with
  | none =>
      refine ⟨[], [], .nil, fun _ => ⟨rfl, rfl⟩, ?_, Keeps.of_eq rfl⟩
      rw [ite_self]
      exact Emits.refl front sending
  | some event =>
      dsimp only
      have pressed := (emits_modifierKeyDowns sending front
        (!isModifierKeyEvent event || definition.lazy) definition).trans
        (emits_postKeyDown _ front definition event)
      have pressedKeeps := (keeps_modifierKeyDowns front
        (!isModifierKeyEvent event || definition.lazy) definition.makeModifierEvents sending).trans
        (keeps_postKeyDown _ front definition event)
      generalize postKeyDown _ front definition event = down at pressed pressedKeeps ⊢
      cases now : !last || !definition.repeat_ with
      | true =>
          rw [if_pos rfl, if_pos rfl]
          have emits := (pressed.trans (emits_postKeyUp down front definition event)).trans
            (emits_modifierKeyUps _ front (last && isModifierKeyEvent event) definition)
          have upKeeps : Keeps [] down (down.postKeyUp front definition event) := Keeps.of_eq rfl
          have keeps := (pressedKeeps.trans upKeeps).trans (keeps_modifierKeyUps front
            (last && isModifierKeyEvent event) definition.makeModifierEvents _)
          rw [List.append_assoc] at emits
          refine ⟨_, _, ?_, ?_, emits, keeps⟩
          · cases last && isModifierKeyEvent event with
            | true => exact .refl _
            | false => exact .of_eq (by simp)
          · rintro rfl
            exact ⟨rfl, rfl⟩
      | false =>
          rw [if_neg Bool.false_ne_true, if_neg Bool.false_ne_true]
          have isLast : last = true := by
            cases last with
            | true => rfl
            | false => cases now
          let released : EventAtKeyUp :=
            ⟨front.deviceId, event, .keyUp, front.originalEvent, definition.lazy⟩
          have emits := (pressed.trans (emits_keepForKeyUp down front released)).trans
            (emits_modifierKeyUps _ front (last && isModifierKeyEvent event) definition)
          have upKeeps : Keeps [released.sent] down (down.keepForKeyUp released) :=
            ⟨[released], rfl, rfl⟩
          have keeps := (pressedKeeps.trans upKeeps).trans (keeps_modifierKeyUps front
            (last && isModifierKeyEvent event) definition.makeModifierEvents _)
          rw [List.append_assoc] at emits
          refine ⟨_, _, ?_, fun notLast => ?_, emits, keeps⟩
          · cases last && isModifierKeyEvent event with
            | true => exact .refl _
            | false => exact List.perm_append_singleton _ _
          · rw [isLast] at notLast
            cases notLast

/-- What a list sends. -/
theorem emits_postEachAtKeyDown (front : Entry) (definitions : List ToEventDefinition)
    (sending : Sending) :
    ∃ posted kept : List Sent, ByPosition front.deviceId definitions posted kept ∧
      Emits front posted (holdsOfList definitions) sending
        (postEachAtKeyDown front definitions sending) ∧
      Keeps kept sending (postEachAtKeyDown front definitions sending) := by
  induction definitions generalizing sending with
  | nil => exact ⟨[], [], .nil, Emits.refl front sending, Keeps.of_eq rfl⟩
  | cons definition rest ih =>
      obtain ⟨released, kept, split, whole, emits, keeps⟩ :=
        emits_postEventAtKeyDown sending front rest.isEmpty definition
      obtain ⟨posted, keptLater, byPosition, later, laterKeeps⟩ :=
        ih (sending.postEventAtKeyDown front rest.isEmpty definition)
      have both := emits.trans later
      have bothKeep := keeps.trans laterKeeps
      cases rest with
      | nil =>
          cases byPosition
          rw [List.append_nil] at both bothKeep
          exact ⟨_, _, .last definition released kept split, both, bothKeep⟩
      | cons next others =>
          obtain ⟨rfl, rfl⟩ := whole rfl
          rw [List.nil_append] at bothKeep
          exact ⟨_, _, .cons definition (List.cons_ne_nil _ _) byPosition, both, bothKeep⟩

/-! ## The list at its key_down and its key_up -/

/-- The `to` events whose conditions are fulfilled, with the keys of the `from` in place of
`from_event`. -/
def filteredList (sending : Sending) (front : Entry) (toEvents : List ToEventDefinition) :
    List ToEventDefinition :=
  (filterAndReplaceEvents ⟨front.deviceId, front.state⟩ sending.current toEvents
    sending.queue.manipulatorEnvironment).1

/-- What the key_down posts for a list. -/
def postedAtKeyDown (sending : Sending) (front : Entry) (toEvents : List ToEventDefinition) :
    List Entry :=
  sending.entriesPosted (sending.postEventsAtKeyDown front toEvents)

/-- What a later key_up posts for the list, among what the record has kept in all. -/
def postedAtKeyUp (sending : Sending) (front : Entry) (toEvents : List ToEventDefinition)
    (later : Sending) (laterFront : Entry) : List Entry :=
  let before := sending.current.eventsAtKeyUp.length
  let after := (sending.postEventsAtKeyDown front toEvents).current.eventsAtKeyUp.length
  ((later.entriesPosted (later.postEventsAtKeyUp laterFront)).take after).drop before

/-- The entries of a list are balanced, follow its positions, and rise in time within each
of the two calls. -/
structure ListInOrder (sending : Sending) (front : Entry) (toEvents : List ToEventDefinition)
    (later : Sending) (laterFront : Entry) : Prop where
  byPosition : ByPosition front.deviceId (sending.filteredList front toEvents)
    ((sending.postedAtKeyDown front toEvents).map Entry.sent)
    ((sending.postedAtKeyUp front toEvents later laterFront).map Entry.sent)
  balanced : Balanced ((sending.postedAtKeyDown front toEvents ++
    sending.postedAtKeyUp front toEvents later laterFront).filterMap fun entry =>
      entry.sent.stroke)
  atKeyDown : (sending.postedAtKeyDown front toEvents).Pairwise fun one other =>
    one.eventTimeStamp.toUInt64 < other.eventTimeStamp.toUInt64
  atKeyUp : (later.entriesPosted (later.postEventsAtKeyUp laterFront)).Pairwise fun one other =>
    one.eventTimeStamp.toUInt64 < other.eventTimeStamp.toUInt64

/-- What the key_down of a list sends. -/
theorem emits_postEventsAtKeyDown (sending : Sending) (front : Entry)
    (toEvents : List ToEventDefinition) (notHalted : sending.current.halted = false) :
    ∃ posted kept : List Sent,
      ByPosition front.deviceId (sending.filteredList front toEvents) posted kept ∧
      Emits front posted (holdsOfList (sending.filteredList front toEvents)) sending
        (sending.postEventsAtKeyDown front toEvents) ∧
      Keeps kept sending (sending.postEventsAtKeyDown front toEvents) := by
  unfold postEventsAtKeyDown sendFiltered filteredList
  rw [notHalted, if_neg Bool.false_ne_true]
  dsimp only
  generalize filterAndReplaceEvents ⟨front.deviceId, front.state⟩ sending.current toEvents
    sending.queue.manipulatorEnvironment = chosen
  obtain ⟨posted, kept, byPosition, emits, keeps⟩ := emits_postEachAtKeyDown front chosen.1
    { sending with queue := { sending.queue with manipulatorEnvironment := chosen.2 } }
  have start : Emits front [] [] sending
      { sending with queue := { sending.queue with manipulatorEnvironment := chosen.2 } } :=
    Emits.of_idle rfl rfl rfl rfl
  exact ⟨posted, kept, byPosition, start.trans emits, keeps⟩

omit [ExpressionLibrary] [MachTimebase] in
/-- Entries rise strictly when every gap between them is a tick at least. -/
theorem pairwise_lt_iff {entries : List Entry}
    (inRange : ∀ entry ∈ entries, entry.eventTimeStamp.InRange) :
    (entries.Pairwise fun one other =>
      one.eventTimeStamp.toUInt64 < other.eventTimeStamp.toUInt64) ↔
      (entries.map fun entry => entry.eventTimeStamp.timeStamp).IsChain
        fun one other => one + 1 ≤ other := by
  calc (entries.Pairwise fun one other =>
        one.eventTimeStamp.toUInt64 < other.eventTimeStamp.toUInt64)
      ↔ (entries.Pairwise fun one other =>
        one.eventTimeStamp.timeStamp < other.eventTimeStamp.timeStamp) :=
        List.Pairwise.iff_of_mem fun isOne isOther =>
          EventTimeStamp.toUInt64_lt_iff (inRange _ isOne) (inRange _ isOther)
    _ ↔ (entries.map fun entry => entry.eventTimeStamp.timeStamp).Pairwise (· < ·) :=
        List.pairwise_map.symm
    _ ↔ (entries.map fun entry => entry.eventTimeStamp.timeStamp).IsChain (· < ·) :=
        List.isChain_iff_pairwise.symm

/-- What a record keeps for a list is what its key_up posts. -/
theorem sent_postedAtKeyUp {sending later : Sending} {front : Entry}
    {toEvents : List ToEventDefinition} {kept : List EventAtKeyUp}
    (own : (sending.postEventsAtKeyDown front toEvents).current.eventsAtKeyUp =
      sending.current.eventsAtKeyUp ++ kept)
    (pending : (sending.postEventsAtKeyDown front toEvents).current.eventsAtKeyUp <+:
      later.current.eventsAtKeyUp) (laterFront : Entry) :
    (sending.postedAtKeyUp front toEvents later laterFront).map Entry.sent =
      kept.map EventAtKeyUp.sent := by
  obtain ⟨more, isLater⟩ := pending
  unfold postedAtKeyUp
  rw [List.map_drop, List.map_take,
    (emits_postEventsAtKeyUp later laterFront).sent_entriesPosted, ← List.map_take,
    ← List.map_drop, ← isLater,
    own, List.take_left, List.drop_left]

/-- The entries of a `to` list are in order exactly when no key_up that is posted at once comes
before its time, provided that no time stamp of an entry wraps. -/
theorem listInOrder_iff (sending : Sending) (front : Entry) (toEvents : List ToEventDefinition)
    (notHalted : sending.current.halted = false) (later : Sending) (laterFront : Entry)
    (pending : (sending.postEventsAtKeyDown front toEvents).current.eventsAtKeyUp <+:
      later.current.eventsAtKeyUp)
    (atKeyDownInRange : ∀ entry ∈ sending.postedAtKeyDown front toEvents,
      entry.eventTimeStamp.InRange)
    (atKeyUpInRange : ∀ entry ∈ later.entriesPosted (later.postEventsAtKeyUp laterFront),
      entry.eventTimeStamp.InRange) :
    sending.ListInOrder front toEvents later laterFront ↔
      HoldsForward (sending.filteredList front toEvents) := by
  obtain ⟨posted, kept, byPosition, emits, events, own, same⟩ :=
    sending.emits_postEventsAtKeyDown front toEvents notHalted
  have isPosted : (sending.postedAtKeyDown front toEvents).map Entry.sent = posted :=
    emits.sent_entriesPosted
  have isKept : (sending.postedAtKeyUp front toEvents later laterFront).map Entry.sent = kept := by
    rw [sent_postedAtKeyUp own pending laterFront, same]
  have atKeyDown := emits.isChain_iff (posts_postEventsAtKeyDown sending front toEvents).starts 1
    (le_refl 1)
  rw [Int.sub_self] at atKeyDown
  replace atKeyDown := (pairwise_lt_iff atKeyDownInRange).trans atKeyDown
  refine ⟨fun inOrder => atKeyDown.mp inOrder.atKeyDown, fun forward => ?_⟩
  refine ⟨?_, ?_, atKeyDown.mpr forward, ?_⟩
  · rw [isPosted, isKept]
    exact byPosition
  · have strokes : ((sending.postedAtKeyDown front toEvents ++
        sending.postedAtKeyUp front toEvents later laterFront).map Entry.sent).filterMap
          Sent.stroke = (posted ++ kept).filterMap Sent.stroke := by
      rw [List.map_append, isPosted, isKept]
    rw [List.filterMap_map] at strokes
    exact strokes ▸ byPosition.balanced
  · rw [pairwise_lt_iff atKeyUpInRange]
    exact ((emits_postEventsAtKeyUp later laterFront).isChain_iff
      (Basic.posts_postEventsAtKeyUp later laterFront).starts 1 (le_refl 1)).mpr
      fun _ none => absurd none List.not_mem_nil

/-- The key A is pressed, and its record is made. -/
def sendingForKeyA : Sending :=
  ⟨.initial, 0, .make [⟨1, .momentarySwitchEvent (.make UsagePage.keyboardOrKeypad Usage.keyboardA),
    .momentarySwitchEvent (.make UsagePage.keyboardOrKeypad Usage.keyboardA)⟩] [] 10 [] 1⟩

/-- The key A at a time. -/
def entryForKeyA (timeStamp : Int) (eventType : EventType) : Entry :=
  .original 1 timeStamp
    (.momentarySwitchEvent (.make UsagePage.keyboardOrKeypad Usage.keyboardA)) eventType

/-- Left shift and B, and then what was pressed. -/
def toShiftedKeys (holdDownMilliseconds : Int) : List ToEventDefinition :=
  [⟨.momentarySwitchEvent (.make UsagePage.keyboardOrKeypad Usage.keyboardB), [.leftShift], false,
      true, false, holdDownMilliseconds, ⟨[]⟩⟩,
    ⟨.fromEvent, [.capsLock], false, true, false, 0, ⟨[]⟩⟩]

omit [ExpressionLibrary] [MachTimebase] in
/-- Held for 100 milliseconds, B and its shift are released before the second event. -/
theorem listInOrder_toShiftedKeys :
    let _ := zeroExpressions
    let _ := nanosecondTimebase
    sendingForKeyA.ListInOrder (entryForKeyA 2000010 .keyDown) (toShiftedKeys 100)
      (sendingForKeyA.postEventsAtKeyDown (entryForKeyA 2000010 .keyDown) (toShiftedKeys 100))
      (entryForKeyA 2000020 .keyUp) := by
  intro expressions timebase
  have forward : HoldsForward (sendingForKeyA.filteredList (entryForKeyA 2000010 .keyDown)
      (toShiftedKeys 100)) := by
    intro hold member
    revert hold
    decide
  exact (listInOrder_iff sendingForKeyA (entryForKeyA 2000010 .keyDown) (toShiftedKeys 100) rfl
    (sendingForKeyA.postEventsAtKeyDown (entryForKeyA 2000010 .keyDown) (toShiftedKeys 100))
    (entryForKeyA 2000020 .keyUp) (List.prefix_refl _) (by decide) (by decide)).mpr forward

omit [ExpressionLibrary] [MachTimebase] in
/-- The key_up of B is in time a millisecond before its key_down. -/
theorem negativeHold_notInOrder :
    let _ := zeroExpressions
    let _ := nanosecondTimebase
    ¬sendingForKeyA.ListInOrder (entryForKeyA 2000010 .keyDown) (toShiftedKeys (-1))
        (sendingForKeyA.postEventsAtKeyDown (entryForKeyA 2000010 .keyDown) (toShiftedKeys (-1)))
        (entryForKeyA 2000020 .keyUp) := by
  intro expressions timebase inOrder
  exact absurd inOrder.atKeyDown (by decide)

end Sending

end Karabiner

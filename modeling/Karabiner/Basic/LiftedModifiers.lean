import Karabiner.Basic.RecordLife

/-! # The mandatory modifiers are released before the `to` events

A key_down releases one flag for each mandatory modifier, once and for its own device. The other
flag of the modifier stays pressed, and so does a flag that another key holds as well
(`Basic.mandatoryReleased_iff`). Which modifiers are pressed when the first `to` event is posted is
read off the entries that `manipulate` adds to the output queue before it.
-/

namespace Karabiner

open ModifierFlagManager

/-! ## One key_up of a modifier -/

namespace ModifierFlagManager

/-- The flag that is pushed for the key_down or the key_up of a modifier. -/
def modifierPush (deviceId : DeviceId) (isDown : Bool) (flag : ModifierFlag) :
    ActiveModifierFlag :=
  .make (if flag = .capsLock then (if isDown then .increaseSticky else .decreaseSticky)
    else (if isDown then .increase else .decrease)) flag deviceId

/-- One key_up of the device releases the modifier: the counts come to one at most, and if they
are a single key_down of the device, no LED shows through. -/
def LiftedByOne (manager : ModifierFlagManager) (deviceId : DeviceId) (flag : ModifierFlag) :
    Prop :=
  manager.weigh (ownCounts flag) ≤ 1 ∧
    (manager.activeModifierFlags.filter (ownCounts flag) = [modifierPush deviceId true flag] →
      manager.ledLockSize flag = 0)

instance (manager : ModifierFlagManager) (deviceId : DeviceId) (flag : ModifierFlag) :
    Decidable (manager.LiftedByOne deviceId flag) :=
  inferInstanceAs (Decidable (_ ∧ (_ → _)))

theorem type_modifierPush (deviceId : DeviceId) (isDown : Bool) (flag : ModifierFlag) :
    (modifierPush deviceId isDown flag).type ∈ summedTypes := by
  unfold modifierPush ActiveModifierFlag.make
  dsimp only
  split
  · cases isDown <;> decide
  · cases isDown <;> decide

theorem inverse_modifierPush (deviceId : DeviceId) (flag : ModifierFlag) :
    (modifierPush deviceId false flag).inverse = modifierPush deviceId true flag := by
  rw [ActiveModifierFlag.ext_iff', ActiveModifierFlag.inverse_deviceId]
  unfold modifierPush ActiveModifierFlag.make
  by_cases isCapsLock : flag = .capsLock
  · simp [isCapsLock, ActiveModifierFlagType.inverse, ActiveModifierFlagType.ledLock,
      ActiveModifierFlag.inverse, ActiveModifierFlag.make]
  · simp [isCapsLock, ActiveModifierFlagType.inverse, ActiveModifierFlagType.ledLock,
      ActiveModifierFlag.inverse, ActiveModifierFlag.make]

theorem ownCounts_modifierPush (deviceId : DeviceId) (isDown : Bool) (flag : ModifierFlag) :
    ownCounts flag (modifierPush deviceId isDown flag) = true := by
  unfold ownCounts modifierPush ActiveModifierFlag.make ActiveModifierFlag.ledLock
  dsimp only
  rw [beq_self_eq_true, Bool.true_and]
  split
  · cases isDown <;> rfl
  · cases isDown <;> rfl

theorem getCount_modifierPush (deviceId : DeviceId) (flag : ModifierFlag) :
    (modifierPush deviceId false flag).getCount = -1 := by
  unfold modifierPush ActiveModifierFlag.getCount ActiveModifierFlag.make
  dsimp only
  split <;> rfl

/-- A modifier has no count left after its key_up exactly if there was one, of its key_down. -/
theorem filter_modifierPush {manager : ModifierFlagManager} {counters : ModifierFlagCounters}
    (represents : Represents manager counters) (deviceId : DeviceId) (flag : ModifierFlag) :
    (manager.pushBackActiveModifierFlag
        (modifierPush deviceId false flag)).activeModifierFlags.filter (ownCounts flag) = [] ↔
      manager.activeModifierFlags.filter (ownCounts flag) = [modifierPush deviceId true flag] := by
  have own := ownCounts_modifierPush deviceId true flag
  have pushed : (manager.pushBackActiveModifierFlag
      (modifierPush deviceId false flag)).activeModifierFlags =
        Foundation.CancellingList.push ActiveModifierFlag.inverse manager.activeModifierFlags
          (modifierPush deviceId false flag) := by
    rw [← erasePairs_append _ _ represents.reduced]
    have summed := type_modifierPush deviceId false flag
    unfold pushBackActiveModifierFlag
    revert summed
    cases (modifierPush deviceId false flag).type <;> simp [summedTypes]
  rw [pushed]
  unfold Foundation.CancellingList.push
  rw [inverse_modifierPush]
  split
  · rename_i present
    have kept : modifierPush deviceId true flag ∈
        manager.activeModifierFlags.filter (ownCounts flag) := List.mem_filter.mpr ⟨present, own⟩
    have erased : (manager.activeModifierFlags.erase (modifierPush deviceId true flag)).filter
        (ownCounts flag) = (manager.activeModifierFlags.filter (ownCounts flag)).erase
          (modifierPush deviceId true flag) := by
      rw [List.erase_filter]
    rw [erased]
    generalize manager.activeModifierFlags.filter (ownCounts flag) = flags at kept ⊢
    constructor
    · intro empty
      have length := List.length_erase_of_mem kept
      rw [empty] at length
      have positive := List.length_pos_of_mem kept
      obtain ⟨only, rfl⟩ := List.length_eq_one_iff.mp (show flags.length = 1 by
        rw [List.length_nil] at length
        omega)
      rw [List.mem_singleton.mp kept]
    · rintro rfl
      exact List.erase_cons_head _ _
  · rename_i absent
    refine iff_of_false (fun empty => ?_) fun single => absent ?_
    · have member : modifierPush deviceId false flag ∈ (manager.activeModifierFlags ++
          [modifierPush deviceId false flag]).filter (ownCounts flag) :=
        List.mem_filter.mpr ⟨List.mem_append_right _ (List.mem_singleton.mpr rfl),
          ownCounts_modifierPush deviceId false flag⟩
      rw [empty] at member
      exact absurd member List.not_mem_nil
    · exact (List.mem_filter.mp (single ▸ List.mem_singleton.mpr rfl)).1

/-- Whether one key_up of a device is enough. -/
theorem isPressed_modifierPush {manager : ModifierFlagManager} {counters : ModifierFlagCounters}
    (reached : Queued manager counters) (deviceId : DeviceId) (flag : ModifierFlag) :
    (manager.pushBackActiveModifierFlag (modifierPush deviceId false flag)).isPressed flag =
        false ↔ manager.LiftedByOne deviceId flag := by
  have queued : (modifierPush deviceId false flag).type ∈ queuedTypes :=
    List.mem_append_left _ (type_modifierPush deviceId false flag)
  have pushed := reached.pushBack queued
  have weighs := reached.weigh_pushBack queued (ownCounts_inverse flag)
    (fun _ led => ownCounts_ledLock flag led)
  have led : (counters.push (modifierPush deviceId false flag)).led flag = counters.led flag := by
    rw [push_led, if_neg]
    have notLed := ownCounts_modifierPush deviceId false flag
    unfold ownCounts at notLed
    simp only [Bool.and_eq_true, Bool.not_eq_true'] at notLed
    rw [notLed.2]
    exact Bool.false_ne_true
  rw [weight, if_pos (ownCounts_modifierPush deviceId false flag), getCount_modifierPush] at weighs
  rw [← Bool.not_eq_true, isPressed_iff_weigh pushed.represents, weighs, led,
    filter_modifierPush reached.represents, not_or, not_and]
  unfold LiftedByOne
  rw [reached.represents.ledLockSize_eq]
  refine and_congr (by omega) (imp_congr_right fun _ => ?_)
  cases counters.led flag <;> simp

end ModifierFlagManager

/-! ## The flags of the mandatory modifiers -/

namespace FromModifiersDefinition

/-- The flags that belong to a mandatory modifier. -/
def mandatoryFlags (definition : FromModifiersDefinition) : List ModifierFlag :=
  definition.mandatoryModifiers.flatMap Modifier.getModifierFlags

theorem valid_of_mem_getModifierFlags {modifier : Modifier} {flag : ModifierFlag}
    (member : flag ∈ modifier.getModifierFlags) :
    (MomentarySwitchEvent.ofModifierFlag flag).valid = true := by
  revert member
  cases modifier <;> revert flag <;> decide

/-- A mandatory modifier that is found by the test is one of its flags and is pressed in the
manager. -/
theorem testModifier_spec {manager : ModifierFlagManager} {modifier : Modifier}
    {flag : ModifierFlag} (tested : testModifier manager modifier = (true, some flag)) :
    flag ∈ modifier.getModifierFlags ∧ manager.isPressed flag = true := by
  unfold testModifier at tested
  split at tested
  · cases tested
  · cases found : modifier.getModifierFlags.find? manager.isPressed with
    | none =>
        rw [found] at tested
        cases tested
    | some pressed =>
        rw [found] at tested
        cases tested
        exact ⟨List.mem_of_find?_eq_some found, List.find?_some found⟩

/-- One pressed flag is found for each modifier, and no flag twice. -/
theorem testMandatory_spec {manager : ModifierFlagManager} {modifiers : List Modifier}
    {found flags : List ModifierFlag} (nodup : found.Nodup)
    (pressed : ∀ flag ∈ found, manager.isPressed flag = true ∧
      (MomentarySwitchEvent.ofModifierFlag flag).valid = true)
    (tested : testMandatory manager modifiers found = some flags) :
    flags.Nodup ∧ ∀ flag ∈ flags, manager.isPressed flag = true ∧
      (MomentarySwitchEvent.ofModifierFlag flag).valid = true := by
  induction modifiers generalizing found with
  | nil =>
      cases tested
      exact ⟨nodup, pressed⟩
  | cons modifier rest ih =>
      unfold testMandatory at tested
      generalize test : testModifier manager modifier = result at tested
      obtain ⟨passes, choice⟩ := result
      cases passes with
      | false => cases tested
      | true =>
          cases choice with
          | none => exact ih nodup pressed tested
          | some flag =>
              obtain ⟨own, isPressed⟩ := testModifier_spec test
              refine ih (List.Nodup.insert nodup) (fun other member => ?_) tested
              rcases List.mem_insert_iff.mp member with rfl | earlier
              · exact ⟨isPressed, valid_of_mem_getModifierFlags own⟩
              · exact pressed other earlier

/-- The flags that are found for the mandatory modifiers are pressed. -/
theorem testModifiers_spec {definition : FromModifiersDefinition} {manager : ModifierFlagManager}
    (notAny : .any ∉ definition.mandatoryModifiers) {flags : List ModifierFlag}
    (tested : definition.testModifiers manager = some flags) :
    flags.Nodup ∧ ∀ flag ∈ flags, manager.isPressed flag = true ∧
      (MomentarySwitchEvent.ofModifierFlag flag).valid = true := by
  unfold testModifiers at tested
  rw [if_neg notAny] at tested
  cases mandatory : testMandatory manager
      (Modifier.all.filter fun modifier => decide (modifier ∈ definition.mandatoryModifiers))
      [] with
  | none =>
      rw [mandatory] at tested
      cases tested
  | some found =>
      rw [mandatory] at tested
      dsimp only at tested
      split at tested
      · cases tested
      · cases tested
        exact testMandatory_spec List.nodup_nil (fun _ none => absurd none List.not_mem_nil)
          mandatory

end FromModifiersDefinition

/-- A key_down is claimed with the flags that `test_modifiers` has found. -/
theorem Basic.testModifiers_of_claims [MachTimebase] {basic : Basic} {front delayed : Entry}
    {entries : List Entry} {output : EventQueue} {now : Int} {fromEvents : List FromEvent}
    {mandatory : List ModifierFlag} {environment : ManipulatorEnvironment}
    (claims : basic.decideKeyDown front entries output now =
      (.claims fromEvents mandatory, delayed, environment)) :
    basic.from_.fromModifiersDefinition.testModifiers output.modifierFlagManager =
      some mandatory := by
  unfold decideKeyDown at claims
  split at claims
  · cases claims
  · split at claims
    · cases claims
    · rename_i found tested
      dsimp only at claims
      split at claims
      · cases claims
      · split at claims
        · have decided : (basic.decideByLookAhead front entries now found).1 =
              .claims fromEvents mandatory := congrArg Prod.fst claims
          rw [tested]
          unfold decideByLookAhead at decided
          dsimp only at decided
          split at decided
          · cases decided
          · split at decided
            · split at decided
              · cases decided
              · split at decided
                · cases decided
                · cases decided
                  rfl
            · cases decided
              rfl
        · cases claims

/-! ## What is pushed for modifiers -/

namespace Sent

/-- The flags that are pushed for the events of modifier flags. -/
theorem foldl_modifierSent (deviceId : DeviceId) {flags : List ModifierFlag}
    (valid : ∀ flag ∈ flags, (MomentarySwitchEvent.ofModifierFlag flag).valid = true)
    (isDown : Bool) (manager : ModifierFlagManager) :
    (flags.map fun flag => modifierSent deviceId (if isDown then .keyDown else .keyUp)
        (.ofModifierFlag flag)).foldl applyFlags manager =
      (flags.map (modifierPush deviceId isDown)).foldl pushBackActiveModifierFlag manager := by
  rw [List.foldl_map, List.foldl_map]
  induction flags generalizing manager with
  | nil => rfl
  | cons flag rest ih =>
      obtain ⟨own, others⟩ := List.forall_mem_cons.mp valid
      rw [List.foldl_cons, List.foldl_cons, ih others, applyFlags_eq (direct_modifierSent _ _ _),
        erasesSticky_modifierSent own, if_neg Bool.false_ne_true]
      cases isDown with
      | true =>
          rw [if_pos rfl, (pushedFlags_modifierSent own deviceId).1]
          rfl
      | false =>
          rw [if_neg Bool.false_ne_true, (pushedFlags_modifierSent own deviceId).2]
          rfl

/-- The modifiers of a `to` event are keys of modifier flags. -/
theorem exists_flags_makeModifierEvents (definition : ToEventDefinition) :
    ∃ flags : List ModifierFlag, definition.makeModifierEvents = flags.map .ofModifierFlag ∧
      ∀ flag ∈ flags, (MomentarySwitchEvent.ofModifierFlag flag).valid = true := by
  have each := fun event (member : event ∈ definition.makeModifierEvents) =>
    exists_flag_of_mem_makeModifierEvents member
  generalize definition.makeModifierEvents = events at each
  induction events with
  | nil => exact ⟨[], rfl, fun _ none => absurd none List.not_mem_nil⟩
  | cons event rest ih =>
      obtain ⟨⟨flag, rfl, valid⟩, others⟩ := List.forall_mem_cons.mp each
      obtain ⟨flags, rfl, allValid⟩ := ih others
      exact ⟨flag :: flags, rfl, List.forall_mem_cons.mpr ⟨valid, allValid⟩⟩

end Sent

/-! ## The first `to` event -/

/-- A modifier after key_ups of some modifiers and key_downs of others. -/
theorem ModifierFlagManager.isPressed_lifted {manager : ModifierFlagManager}
    {counters : ModifierFlagCounters} (reached : Queued manager counters) (deviceId : DeviceId)
    {lifted pressed : List ModifierFlag} (nodup : lifted.Nodup) {flag : ModifierFlag}
    (notPressed : flag ∉ pressed) :
    ((lifted.map (modifierPush deviceId false) ++
        pressed.map (modifierPush deviceId true)).foldl pushBackActiveModifierFlag
          manager).isPressed flag =
      if flag ∈ lifted then
        (manager.pushBackActiveModifierFlag (modifierPush deviceId false flag)).isPressed flag
      else manager.isPressed flag := by
  have others : ∀ lifted : List ModifierFlag, flag ∉ lifted →
      ∀ push ∈ lifted.map (modifierPush deviceId false) ++
        pressed.map (modifierPush deviceId true), push.modifierFlag ≠ flag := by
    intro lifted notLifted push member same
    rcases List.mem_append.mp member with down | up
    · obtain ⟨other, isOther, rfl⟩ := List.mem_map.mp down
      exact notLifted (same ▸ isOther)
    · obtain ⟨other, isOther, rfl⟩ := List.mem_map.mp up
      exact notPressed (same ▸ isOther)
  by_cases own : flag ∈ lifted
  · rw [if_pos own]
    have perm := ((List.perm_cons_erase own).map (modifierPush deviceId false)).append_right
      (pressed.map (modifierPush deviceId true))
    have summed : ∀ push ∈ lifted.map (modifierPush deviceId false) ++
        pressed.map (modifierPush deviceId true), push.type ∈ summedTypes := by
      intro push member
      rcases List.mem_append.mp member with down | up
      · obtain ⟨other, -, rfl⟩ := List.mem_map.mp down
        exact type_modifierPush deviceId false other
      · obtain ⟨other, -, rfl⟩ := List.mem_map.mp up
        exact type_modifierPush deviceId true other
    have first := (reached.pushes fun push member =>
      List.mem_append_left _ (summed push member)).represents
    have second := (reached.pushes fun push member =>
      List.mem_append_left _ (summed push (perm.mem_iff.mpr member))).represents
    have counts := count_pushes_perm counters summed perm
    rw [List.foldl_map, List.foldl_map] at counts
    change List.foldl ModifierFlagCounters.push counters _ =
      List.foldl ModifierFlagCounters.push counters _ at counts
    rw [counts] at first
    rw [first.isPressed_congr second, List.map_cons, List.cons_append, List.foldl_cons]
    exact isPressed_pushes_other (reached.represents.pushBack _)
      (others (lifted.erase flag) (nodup.not_mem_erase))
  · rw [if_neg own]
    exact isPressed_pushes_other reached.represents (others lifted own)

namespace Sending

variable [ExpressionLibrary]

/-- The first event of a list that is posted, and the state in which its key_down is posted.
Its modifiers are pressed by then. -/
def firstPressed (front : Entry) :
    List ToEventDefinition → Sending → Option (ToEventDefinition × Event × Sending)
  | [], _ => none
  | definition :: rest, sending =>
      match definition.eventDefinition.toEvent with
      | none => firstPressed front rest sending
      | some event =>
          some (definition, event, definition.makeModifierEvents.foldl (fun sending modifier =>
            sending.postLazyModifierKeyEvent front modifier .keyDown front.deviceId
              (!isModifierKeyEvent event || definition.lazy)) sending)

/-- The same for a `to` list at its key_down. -/
def atFirstToEvent (sending : Sending) (front : Entry) (toEvents : List ToEventDefinition) :
    Option (ToEventDefinition × Event × Sending) :=
  if sending.current.halted then none
  else
    let (filtered, environment) := filterAndReplaceEvents ⟨front.deviceId, front.state⟩
      sending.current toEvents sending.queue.manipulatorEnvironment
    firstPressed front filtered { sending with
      queue := { sending.queue with manipulatorEnvironment := environment } }

/-- The first element with an event is found by its definition alone, and what precedes its event
are the presses of its own modifiers. -/
theorem firstPressed_eq (front : Entry) (definitions : List ToEventDefinition)
    (sending : Sending) {definition : ToEventDefinition} {event : Event} {moment : Sending}
    (first : firstPressed front definitions sending = some (definition, event, moment)) :
    (definitions.find? fun definition => definition.eventDefinition.toEvent.isSome) =
        some definition ∧
      definition.eventDefinition.toEvent = some event ∧
      Emits front (definition.makeModifierEvents.map (modifierSent front.deviceId .keyDown)) []
        sending moment := by
  induction definitions with
  | nil => cases first
  | cons head rest ih =>
      unfold firstPressed at first
      cases isEvent : head.eventDefinition.toEvent with
      | none =>
          rw [isEvent] at first
          rw [List.find?_cons_of_neg (by rw [isEvent]; exact Bool.false_ne_true)]
          exact ih first
      | some own =>
          rw [isEvent] at first
          cases first
          rw [List.find?_cons_of_pos (by rw [isEvent]; rfl)]
          exact ⟨rfl, isEvent, emits_modifierKeyDowns sending front _ _⟩

/-- A list with such an element has a first one, whatever the manager is when the list begins. -/
theorem exists_firstPressed (front : Entry) {definitions : List ToEventDefinition}
    {definition : ToEventDefinition}
    (found : (definitions.find? fun definition =>
      definition.eventDefinition.toEvent.isSome) = some definition) (sending : Sending) :
    ∃ event moment, firstPressed front definitions sending = some (definition, event, moment) := by
  induction definitions with
  | nil => cases found
  | cons head rest ih =>
      unfold firstPressed
      cases isEvent : head.eventDefinition.toEvent with
      | none =>
          rw [List.find?_cons_of_neg (by rw [isEvent]; exact Bool.false_ne_true)] at found
          exact ih found
      | some own =>
          rw [List.find?_cons_of_pos (by rw [isEvent]; rfl)] at found
          cases found
          exact ⟨own, _, rfl⟩

variable [MachTimebase]

/-- The key_down is posted in that state, and what follows comes behind it. -/
theorem prefix_firstPressed (front : Entry) (definitions : List ToEventDefinition)
    (sending : Sending) {definition : ToEventDefinition} {event : Event} {moment : Sending}
    (first : firstPressed front definitions sending = some (definition, event, moment)) :
    (moment.postKeyDown front definition event).queue.events <+:
      (postEachAtKeyDown front definitions sending).queue.events := by
  have appended : ∀ {before after : Sending} {sent : List Sent} {holds : List Int},
      Emits front sent holds before after → before.queue.events <+: after.queue.events := by
    intro before after sent holds emits
    obtain ⟨entries, events, -⟩ := emits.posted
    exact ⟨entries, events.symm⟩
  induction definitions generalizing sending with
  | nil => cases first
  | cons head rest ih =>
      unfold firstPressed at first
      unfold postEachAtKeyDown
      cases isEvent : head.eventDefinition.toEvent with
      | none =>
          rw [isEvent] at first
          have same : sending.postEventAtKeyDown front rest.isEmpty head = sending := by
            unfold postEventAtKeyDown
            rw [isEvent]
          rw [same]
          exact ih sending first
      | some own =>
          rw [isEvent] at first
          cases first
          obtain ⟨_, _, _, later, _⟩ := emits_postEachAtKeyDown front rest
            (sending.postEventAtKeyDown front rest.isEmpty definition)
          refine List.IsPrefix.trans ?_ (appended later)
          unfold postEventAtKeyDown
          rw [isEvent]
          dsimp only
          refine List.IsPrefix.trans ?_ (appended (emits_modifierKeyUps _ front _ definition))
          split
          · exact appended (emits_postKeyUp _ front definition event)
          · exact List.prefix_refl _

/-- The queue at the moment of the first event is a prefix of the queue after the whole list. -/
theorem prefix_atFirstToEvent (sending : Sending) (front : Entry)
    (toEvents : List ToEventDefinition) {definition : ToEventDefinition} {event : Event}
    {moment : Sending}
    (first : sending.atFirstToEvent front toEvents = some (definition, event, moment)) :
    (moment.postKeyDown front definition event).queue.events <+:
      (sending.postEventsAtKeyDown front toEvents).queue.events := by
  unfold atFirstToEvent at first
  unfold postEventsAtKeyDown sendFiltered
  cases halted : sending.current.halted with
  | true =>
      rw [halted, if_pos rfl] at first
      cases first
  | false =>
      rw [halted, if_neg Bool.false_ne_true] at first
      exact prefix_firstPressed front _ _ first

end Sending

namespace Basic

variable [ExpressionLibrary] [MachTimebase]

/-- The state in which the events of a claimed key_down are sent. -/
def claimedSending (output : EventQueue) (environment : ManipulatorEnvironment) (front : Entry)
    (fromEvents : List FromEvent) (mandatory : List ModifierFlag) : Sending :=
  ⟨{ output with manipulatorEnvironment := environment }, 0,
    .make fromEvents mandatory front.eventTimeStamp.timeStamp
      output.modifierFlagManager.makeModifierFlags front.deviceId⟩

omit [ExpressionLibrary] [MachTimebase] in
/-- The modifier flags of a queue after entries have been pushed to it. -/
def flagsAfter (queue : EventQueue) (entries : List Entry) : ModifierFlagManager :=
  (entries.map Entry.sent).foldl Sent.applyFlags queue.modifierFlagManager

/-- The first event of the `to` list that is sent is posted behind a key_up for each mandatory
modifier that was found and the key_downs of its own modifiers. No flag of a mandatory modifier is
pressed in the output queue after these, but for those that the modifiers of the event press
again. The list is what the key_down has added to the output queue. -/
def MandatoryReleased (basic : Basic) (front : Entry) (sending : Sending) (posted : List Entry) :
    Prop :=
  ∀ definition ∈ (sending.filteredList front basic.to_).find? fun definition =>
      definition.eventDefinition.toEvent.isSome,
    ∀ event ∈ definition.eventDefinition.toEvent,
      let earlier := sending.current.fromMandatoryModifiers.length +
        definition.makeModifierEvents.length
      (posted[earlier]?).map Entry.sent = some ⟨front.deviceId, event, .keyDown⟩ ∧
      ∀ flag ∈ basic.from_.fromModifiersDefinition.mandatoryFlags,
        MomentarySwitchEvent.ofModifierFlag flag ∉ definition.makeModifierEvents →
        (flagsAfter sending.queue (posted.take earlier)).isPressed flag = false

/-- Once the key_up of the record has been sent, the flags of the mandatory modifiers have gone up
for it as often as down. -/
def MandatoryRestored (basic : Basic) (front : Entry) (sending : Sending) : Prop :=
  ∀ actions : List (EventQueue × RecordAction),
    let start := RecordLife.start basic front sending.queue sending.current
    let life := actions.foldl (RecordLife.step basic) start
    Foundation.Execution.StepsMeet (RecordLife.step basic) RecordLife.Allowed start actions →
    life.current.keyUpPosted = true →
    ∀ flag ∈ basic.from_.fromModifiersDefinition.mandatoryFlags,
      (life.posted.map Entry.sent).countP (Sent.isModifierEvent flag .keyUp) =
        (life.posted.map Entry.sent).countP (Sent.isModifierEvent flag .keyDown)

/-- Of the flags of the mandatory modifiers only those that `test_modifiers` has found are
pressed, and one key_up of the device releases them. -/
def HeldOnce (basic : Basic) (front : Entry) (sending : Sending) : Prop :=
  ∀ definition ∈ (sending.filteredList front basic.to_).find? fun definition =>
      definition.eventDefinition.toEvent.isSome,
    ∀ flag ∈ basic.from_.fromModifiersDefinition.mandatoryFlags,
      MomentarySwitchEvent.ofModifierFlag flag ∉ definition.makeModifierEvents →
      if flag ∈ sending.current.fromMandatoryModifiers then
        sending.queue.modifierFlagManager.LiftedByOne front.deviceId flag
      else sending.queue.modifierFlagManager.isPressed flag = false

instance (basic : Basic) (front : Entry) (sending : Sending) :
    Decidable (basic.HeldOnce front sending) :=
  inferInstanceAs (Decidable (∀ definition ∈ (_ : Option ToEventDefinition), ∀ flag ∈ _, _ ∉ _ → _))

/-- What a claimed key_down sends. -/
theorem manipulateKeyDown_claims {basic : Basic} {front delayed : Entry}
    {input output : EventQueue} {now : Int} {fromEvents : List FromEvent}
    {mandatory : List ModifierFlag} {environment : ManipulatorEnvironment}
    (claims : basic.decideKeyDown front input.events output now =
      (.claims fromEvents mandatory, delayed, environment)) :
    (basic.manipulateKeyDown front input output now).2.2.2 = finishSending
      (basic.sendAtKeyDown delayed (claimedSending output environment front fromEvents
        mandatory)) := by
  unfold manipulateKeyDown
  rw [claims]
  rfl

omit [MachTimebase] in
/-- The state of the output queue when the mandatory modifiers are released. -/
theorem released_of_claimed {basic : Basic} {output : EventQueue}
    {environment : ManipulatorEnvironment} {front delayed : Entry} {fromEvents : List FromEvent}
    {mandatory : List ModifierFlag}
    (pressed : ∀ flag ∈ mandatory, output.modifierFlagManager.isPressed flag = true ∧
      (MomentarySwitchEvent.ofModifierFlag flag).valid = true) :
    let sending := claimedSending output environment front fromEvents mandatory
    let released := sending.postFromMandatoryModifiersKeyUp delayed
    Sending.Emits delayed (mandatory.map fun flag => modifierSent delayed.deviceId .keyUp
        (.ofModifierFlag flag)) [] sending released ∧
      released.current.halted = false ∧
      released.filteredList delayed basic.to_ = sending.filteredList delayed basic.to_ := by
  intro sending released
  have lifted : (mandatory.filter fun modifier => !decide (modifier ∈ ([] : List ModifierFlag)) &&
      output.modifierFlagManager.isPressed modifier) = mandatory :=
    List.filter_eq_self.mpr fun flag member => by simp [(pressed flag member).1]
  have emits := Sending.emits_postFromMandatoryModifiersKeyUp sending delayed
  have current : released.current = { sending.current with
      keyUpPostedFromMandatoryModifiers := mandatory } := by
    refine (Sending.current_postLazyModifierKeyEvents _ delayed _ .keyUp).trans ?_
    exact congrArg (fun lifted : List ModifierFlag =>
      { sending.current with keyUpPostedFromMandatoryModifiers := [] ++ lifted }) lifted
  refine ⟨?_, congrArg ManipulatedOriginalEvent.halted current, ?_⟩
  · have sents : modifierFlagsSent delayed.deviceId .keyUp
        (sending.current.fromMandatoryModifiers.filter fun modifier =>
          !decide (modifier ∈ sending.current.keyUpPostedFromMandatoryModifiers) &&
            sending.queue.modifierFlagManager.isPressed modifier) =
        mandatory.map fun flag => modifierSent delayed.deviceId .keyUp (.ofModifierFlag flag) := by
      refine (congrArg (modifierFlagsSent delayed.deviceId .keyUp) lifted).trans ?_
      unfold modifierFlagsSent
      rw [List.filter_eq_self.mpr fun flag member => (pressed flag member).2]
    rw [← sents]
    exact emits
  · have environments : released.queue.manipulatorEnvironment =
        sending.queue.manipulatorEnvironment := by
      unfold released Sending.postFromMandatoryModifiersKeyUp Sending.postLazyModifierKeyEvents
      dsimp only
      rw [← List.foldl_map (f := MomentarySwitchEvent.ofModifierFlag)
        (g := fun sending event => Sending.postLazyModifierKeyEvent sending delayed event .keyUp
          delayed.deviceId true)]
      exact (Sending.continues_foldl delayed .keyUp delayed.deviceId true _ _).environment
    have keys : released.current.fromEvents = sending.current.fromEvents := by
      rw [current]
    unfold Sending.filteredList
    rw [environments]
    exact (Sending.filterAndReplaceEvents_congr keys basic.to_ rfl).1

omit [MachTimebase] in
/-- Which modifiers are pressed at the first `to` event, as it is decided before the call. -/
theorem isPressed_atFirstToEvent {basic : Basic} {output : EventQueue}
    {counters : ModifierFlagCounters} (reached : Queued output.modifierFlagManager counters)
    {environment : ManipulatorEnvironment} {front delayed : Entry} {fromEvents : List FromEvent}
    {mandatory : List ModifierFlag} (nodup : mandatory.Nodup)
    (pressed : ∀ flag ∈ mandatory, output.modifierFlagManager.isPressed flag = true ∧
      (MomentarySwitchEvent.ofModifierFlag flag).valid = true)
    {definition : ToEventDefinition} {event : Event} {moment : Sending} :
    let sending := claimedSending output environment front fromEvents mandatory
    (sending.postFromMandatoryModifiersKeyUp delayed).atFirstToEvent delayed basic.to_ =
      some (definition, event, moment) →
    (sending.filteredList delayed basic.to_).find? (fun definition =>
        definition.eventDefinition.toEvent.isSome) = some definition ∧
      definition.eventDefinition.toEvent = some event ∧
      Sending.Emits delayed ((mandatory.map fun flag => modifierSent delayed.deviceId .keyUp
          (.ofModifierFlag flag)) ++
        definition.makeModifierEvents.map (modifierSent delayed.deviceId .keyDown)) [] sending
          moment ∧
      ∀ flag, MomentarySwitchEvent.ofModifierFlag flag ∉ definition.makeModifierEvents →
        (moment.queue.modifierFlagManager.isPressed flag = false ↔
          if flag ∈ mandatory then output.modifierFlagManager.LiftedByOne delayed.deviceId flag
          else output.modifierFlagManager.isPressed flag = false) := by
  intro sending first
  obtain ⟨lifts, notHalted, sameList⟩ := @released_of_claimed _ basic output environment front
    delayed fromEvents mandatory pressed
  change (sending.postFromMandatoryModifiersKeyUp delayed).filteredList delayed basic.to_ =
    sending.filteredList delayed basic.to_ at sameList
  change (sending.postFromMandatoryModifiersKeyUp delayed).current.halted = false at notHalted
  change Sending.Emits delayed _ [] sending
    (sending.postFromMandatoryModifiersKeyUp delayed) at lifts
  unfold Sending.atFirstToEvent at first
  rw [notHalted, if_neg Bool.false_ne_true] at first
  obtain ⟨found, isEvent, presses⟩ := Sending.firstPressed_eq delayed _ _ first
  have idle : ∀ environment, Sending.Emits delayed [] []
      (sending.postFromMandatoryModifiersKeyUp delayed) { sending.postFromMandatoryModifiersKeyUp
        delayed with queue := { (sending.postFromMandatoryModifiersKeyUp delayed).queue with
          manipulatorEnvironment := environment } } :=
    fun _ => Sending.Emits.of_idle rfl rfl rfl rfl
  have emits := (lifts.andIdle (idle _)).trans presses
  refine ⟨by rw [← sameList]; exact found, isEvent, emits, fun flag notPressed => ?_⟩
  obtain ⟨modifiers, isModifiers, valid⟩ := Sent.exists_flags_makeModifierEvents definition
  have flags := emits.flags
  rw [isModifiers] at notPressed flags
  rw [List.foldl_append, List.map_map] at flags
  have all : moment.queue.modifierFlagManager =
      (mandatory.map (modifierPush delayed.deviceId false) ++
        modifiers.map (modifierPush delayed.deviceId true)).foldl pushBackActiveModifierFlag
          output.modifierFlagManager := by
    rw [List.foldl_append, ← Sent.foldl_modifierSent delayed.deviceId valid true,
      ← Sent.foldl_modifierSent delayed.deviceId (fun flag member => (pressed flag member).2) false]
    exact flags
  rw [all, isPressed_lifted reached delayed.deviceId nodup
    (fun member => notPressed (List.mem_map_of_mem member))]
  split
  · exact isPressed_modifierPush reached delayed.deviceId flag
  · exact Iff.rfl

omit [MachTimebase] in
/-- There is a first `to` event as soon as one of the list is an event. -/
theorem exists_atFirstToEvent {basic : Basic} {output : EventQueue}
    {environment : ManipulatorEnvironment} {front delayed : Entry} {fromEvents : List FromEvent}
    {mandatory : List ModifierFlag}
    (pressed : ∀ flag ∈ mandatory, output.modifierFlagManager.isPressed flag = true ∧
      (MomentarySwitchEvent.ofModifierFlag flag).valid = true)
    {definition : ToEventDefinition} :
    let sending := claimedSending output environment front fromEvents mandatory
    (sending.filteredList delayed basic.to_).find? (fun definition =>
        definition.eventDefinition.toEvent.isSome) = some definition →
    ∃ event moment, (sending.postFromMandatoryModifiersKeyUp delayed).atFirstToEvent delayed
      basic.to_ = some (definition, event, moment) := by
  intro sending isFirst
  obtain ⟨-, notHalted, sameList⟩ := @released_of_claimed _ basic output environment front
    delayed fromEvents mandatory pressed
  change (sending.postFromMandatoryModifiersKeyUp delayed).filteredList delayed basic.to_ =
    sending.filteredList delayed basic.to_ at sameList
  change (sending.postFromMandatoryModifiersKeyUp delayed).current.halted = false at notHalted
  rw [← sameList] at isFirst
  unfold Sending.atFirstToEvent
  rw [notHalted, if_neg Bool.false_ne_true]
  exact Sending.exists_firstPressed delayed isFirst _

/-- What the key_down adds to the output queue before its first `to` event, and this event. -/
theorem posted_atFirstToEvent {basic : Basic} {front delayed : Entry} {input output : EventQueue}
    {now : Int} {fromEvents : List FromEvent} {mandatory : List ModifierFlag}
    {environment : ManipulatorEnvironment}
    (claims : basic.decideKeyDown front input.events output now =
      (.claims fromEvents mandatory, delayed, environment))
    {definition : ToEventDefinition} {event : Event} {moment : Sending} {sent : List Sent} :
    let sending := claimedSending output environment front fromEvents mandatory
    let posted := (basic.manipulateKeyDown front input output now).2.2.2.events.drop
      output.events.length
    (sending.postFromMandatoryModifiersKeyUp delayed).atFirstToEvent delayed basic.to_ =
      some (definition, event, moment) →
    Sending.Emits delayed sent [] sending moment →
    (posted[sent.length]?).map Entry.sent = some ⟨delayed.deviceId, event, .keyDown⟩ ∧
      flagsAfter sending.queue (posted.take sent.length) = moment.queue.modifierFlagManager := by
  intro sending posted first emits
  obtain ⟨earlier, moments, isSent, -⟩ := emits.posted
  obtain ⟨own, isOwn, ownSent, -⟩ := (Sending.emits_postKeyDown moment delayed definition event).posted
  have inList := Sending.prefix_atFirstToEvent _ delayed basic.to_ first
  have inCall : (moment.postKeyDown delayed definition event).queue.events <+:
      (basic.manipulateKeyDown front input output now).2.2.2.events := by
    have finished : (finishSending (basic.sendAtKeyDown delayed sending)).events =
        (basic.sendAtKeyDown delayed sending).queue.events := by
      unfold finishSending
      split <;> rfl
    rw [manipulateKeyDown_claims claims, finished]
    refine inList.trans ?_
    unfold sendAtKeyDown
    dsimp only
    split
    · exact List.prefix_refl _
    · obtain ⟨entries, events, -⟩ := (Sending.emits_postFromMandatoryModifiersKeyDown
        ((sending.postFromMandatoryModifiersKeyUp delayed).postEventsAtKeyDown delayed basic.to_)
        delayed).posted
      exact ⟨entries, events.symm⟩
  obtain ⟨later, whole⟩ := inCall
  obtain ⟨entry, rfl⟩ : ∃ entry, own = [entry] := by
    have single := congrArg List.length ownSent
    rw [List.length_map] at single
    exact List.length_eq_one_iff.mp single
  have isPosted : posted = earlier ++ entry :: later := by
    change (basic.manipulateKeyDown front input output now).2.2.2.events.drop output.events.length = _
    rw [← whole, isOwn, moments]
    change ((output.events ++ earlier ++ [entry]) ++ later).drop output.events.length = _
    rw [List.append_assoc, List.append_assoc, List.drop_left]
    rfl
  have length : sent.length = earlier.length := by rw [← isSent, List.length_map]
  rw [isPosted, length, List.take_left, List.getElem?_append_right (Nat.le_refl _), Nat.sub_self]
  refine ⟨congrArg some (List.singleton_inj.mp ownSent), ?_⟩
  rw [emits.flags, ← isSent]
  rfl

/-- The mandatory modifiers are released before the `to` events, and restored by the key_up,
exactly when each of their flags that is pressed is one that was found and one key holds. -/
theorem mandatoryReleased_iff (operations : List ModifierFlagOperation)
    (kinds : ∀ flag, .pushBack flag ∈ operations → flag.type ∈ queuedTypes) (basic : Basic)
    (notAny : .any ∉ basic.from_.fromModifiersDefinition.mandatoryModifiers)
    (input output : EventQueue) (reached : output.modifierFlagManager =
      operations.foldl ModifierFlagOperation.apply ⟨[]⟩) (front delayed : Entry) (now : Int)
    (fromEvents : List FromEvent) (mandatory : List ModifierFlag)
    (environment : ManipulatorEnvironment)
    (claims : basic.decideKeyDown front input.events output now =
      (.claims fromEvents mandatory, delayed, environment)) :
    let sending := claimedSending output environment front fromEvents mandatory
    let posted := (basic.manipulateKeyDown front input output now).2.2.2.events.drop
      output.events.length
    basic.MandatoryReleased delayed sending posted ∧ basic.MandatoryRestored delayed sending ↔
      basic.HeldOnce delayed sending := by
  intro sending posted
  obtain ⟨counters, queued⟩ := queued_run kinds
  rw [← reached] at queued
  obtain ⟨nodup, pressed⟩ :=
    FromModifiersDefinition.testModifiers_spec notAny (testModifiers_of_claims claims)
  have restored : basic.MandatoryRestored delayed sending := by
    intro actions start life allowed posted flag _
    have fresh : sending.current.Discharged :=
      ⟨rfl, List.filter_eq_nil_iff.mpr fun modifier _ => by
        simp [sending, claimedSending, ManipulatedOriginalEvent.make]⟩
    exact RecordLife.balanced basic delayed sending.queue fresh rfl actions allowed posted flag
  -- What `manipulate` posts before the first `to` event decides which modifiers are pressed.
  have decided : ∀ definition ∈ (sending.filteredList delayed basic.to_).find? fun definition =>
        definition.eventDefinition.toEvent.isSome,
      ∀ event ∈ definition.eventDefinition.toEvent,
        let earlier := sending.current.fromMandatoryModifiers.length +
          definition.makeModifierEvents.length
        (posted[earlier]?).map Entry.sent = some ⟨delayed.deviceId, event, .keyDown⟩ ∧
        ∀ flag, MomentarySwitchEvent.ofModifierFlag flag ∉ definition.makeModifierEvents →
          ((flagsAfter sending.queue (posted.take earlier)).isPressed flag = false ↔
            if flag ∈ mandatory then output.modifierFlagManager.LiftedByOne delayed.deviceId flag
            else output.modifierFlagManager.isPressed flag = false) := by
    intro definition isFirst event isEvent
    obtain ⟨own, moment, first⟩ := exists_atFirstToEvent pressed isFirst
    obtain ⟨-, isOwn, emits, flags⟩ := isPressed_atFirstToEvent queued nodup pressed first
    obtain rfl := Option.some.inj (isOwn.symm.trans isEvent)
    have atFirst := posted_atFirstToEvent claims first emits
    rw [List.length_append, List.length_map, List.length_map] at atFirst
    refine ⟨atFirst.1, fun flag notPressed => ?_⟩
    change (flagsAfter sending.queue (posted.take (mandatory.length + _))).isPressed flag = false ↔ _
    rw [atFirst.2]
    exact flags flag notPressed
  constructor
  · intro both definition isFirst flag isMandatory notPressed
    have isSome : definition.eventDefinition.toEvent.isSome = true := List.find?_some
      (p := fun definition : ToEventDefinition => definition.eventDefinition.toEvent.isSome) isFirst
    obtain ⟨event, isEvent⟩ := Option.isSome_iff_exists.mp isSome
    exact ((decided definition isFirst event isEvent).2 flag notPressed).mp
      ((both.1 definition isFirst event isEvent).2 flag isMandatory notPressed)
  · intro heldOnce
    refine ⟨fun definition isFirst event isEvent => ?_, restored⟩
    obtain ⟨isPosted, flags⟩ := decided definition isFirst event isEvent
    exact ⟨isPosted, fun flag isMandatory notPressed =>
      (flags flag notPressed).mpr (heldOnce definition isFirst flag isMandatory notPressed)⟩

omit [ExpressionLibrary] [MachTimebase] in
/-- From A with shift to B. -/
def fromShiftedKey : Basic where
  validity := .valid
  conditionManager := ⟨[]⟩
  parameters := .initial
  from_ := ⟨[.momentarySwitchEvent (.make UsagePage.keyboardOrKeypad Usage.keyboardA)],
    ⟨[.shift], []⟩, none, .initial⟩
  to_ := [⟨.momentarySwitchEvent (.make UsagePage.keyboardOrKeypad Usage.keyboardB), [], false,
    true, false, 0, ⟨[]⟩⟩]
  toAfterKeyUp := []
  toIfAlone := []
  manipulatedOriginalEvents := []

omit [ExpressionLibrary] [MachTimebase] in
/-- The output queue after some modifier flags were pressed on a keyboard. -/
def outputWithFlags (flags : List ModifierFlag) : EventQueue :=
  { EventQueue.initial with
    modifierFlagManager := (flags.map fun flag => ModifierFlagOperation.pushBack
      (.make .increase flag 1)).foldl ModifierFlagOperation.apply ⟨[]⟩ }

omit [ExpressionLibrary] [MachTimebase] in
/-- With only left shift pressed the mandatory modifiers are up when B is posted, and are restored
behind it. -/
theorem mandatoryReleased_iff_leftShift :
    let _ := zeroExpressions
    let _ := nanosecondTimebase
    let output := outputWithFlags [.leftShift]
    let front := Sending.entryForKeyA 10 .keyDown
    let input := { EventQueue.initial with events := [front] }
    let sending := claimedSending output
      output.manipulatorEnvironment.setVariableSystemNowMilliseconds front [front.fromEvent]
      [.leftShift]
    fromShiftedKey.MandatoryReleased front sending
        ((fromShiftedKey.manipulateKeyDown front input output 10).2.2.2.events.drop
          output.events.length) ∧
      fromShiftedKey.MandatoryRestored front sending := by
  intro expressions timebase output front input sending
  have heldOnce : fromShiftedKey.HeldOnce front sending := by
    decide
  refine (mandatoryReleased_iff [.pushBack (.make .increase .leftShift 1)] (fun flag member => ?_)
    fromShiftedKey (by decide) input output rfl front front 10 [front.fromEvent] [.leftShift]
    _ rfl).mpr heldOnce
  obtain rfl := ModifierFlagOperation.pushBack.inj (List.mem_singleton.mp member)
  decide

omit [ExpressionLibrary] [MachTimebase] in
/-- With both shifts pressed, right shift is still pressed when B is posted. -/
theorem bothShifts_notReleased :
    let _ := zeroExpressions
    let _ := nanosecondTimebase
    let output := outputWithFlags [.leftShift, .rightShift]
    let front := Sending.entryForKeyA 10 .keyDown
    let input := { EventQueue.initial with events := [front] }
    let environment := output.manipulatorEnvironment.setVariableSystemNowMilliseconds
    fromShiftedKey.decideKeyDown front input.events output 10 =
        (.claims [front.fromEvent] [.leftShift], front, environment) ∧
      ¬fromShiftedKey.MandatoryReleased front
        (claimedSending output environment front [front.fromEvent] [.leftShift])
        ((fromShiftedKey.manipulateKeyDown front input output 10).2.2.2.events.drop
          output.events.length) := by
  intro expressions timebase output front input environment
  refine ⟨rfl, fun released => ?_⟩
  have notPressed := (released _ rfl _ rfl).2 .rightShift (by decide) (by decide)
  exact absurd notPressed (by decide)

end Basic

end Karabiner

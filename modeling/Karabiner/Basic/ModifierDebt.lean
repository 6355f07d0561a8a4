import Karabiner.Basic.OptionalTasks
import Karabiner.Basic.PostedList
import Karabiner.Basic.RestoredFlags

/-! # What a record owes of a modifier

Whatever is sent for a record releases a modifier as often as it presses it, but for what the
record still owes: the events it keeps and the mandatory modifiers that are released. So what a
call posts is what the record owes less than before (`Sending.Settles`).
-/

namespace Karabiner

namespace Sent

/-- The event is the one that is posted for a modifier flag. -/
def isModifierEvent (flag : ModifierFlag) (eventType : EventType) (sent : Sent) : Bool :=
  decide ((sent.event, sent.eventType) =
    makeLazyModifierKeyEvent (.ofModifierFlag flag) eventType)

/-- A key_down of a modifier flag counts one, a key_up minus one. -/
def modifierStroke (flag : ModifierFlag) (sent : Sent) : Int :=
  (if sent.isModifierEvent flag .keyDown then 1 else 0) -
    (if sent.isModifierEvent flag .keyUp then 1 else 0)

theorem sum_modifierStroke (flag : ModifierFlag) (sents : List Sent) :
    (sents.map (modifierStroke flag)).sum =
      sents.countP (isModifierEvent flag .keyDown) -
        sents.countP (isModifierEvent flag .keyUp) := by
  induction sents with
  | nil => rfl
  | cons sent rest ih =>
      rw [List.map_cons, List.sum_cons, ih, List.countP_cons, List.countP_cons, modifierStroke,
        Nat.cast_add, Nat.cast_add, Nat.cast_ite, Nat.cast_ite, Nat.cast_one, Nat.cast_zero]
      omega

/-- The key_up of an event undoes its key_down. -/
theorem modifierStroke_keyUp (flag : ModifierFlag) (deviceId : DeviceId) (event : Event) :
    modifierStroke flag ⟨deviceId, event, .keyUp⟩ =
      -modifierStroke flag ⟨deviceId, event, .keyDown⟩ := by
  unfold modifierStroke isModifierEvent makeLazyModifierKeyEvent
  cases (MomentarySwitchEvent.ofModifierFlag flag).capsLock with
  | true => simp
  | false =>
      by_cases own : event = .momentarySwitchEvent (.ofModifierFlag flag)
      · simp [own]
      · simp [own]

/-- So does the key_up of a modifier, for whichever device. -/
theorem modifierStroke_modifierSent (flag : ModifierFlag) (deviceId other : DeviceId)
    (modifier : MomentarySwitchEvent) :
    modifierStroke flag (modifierSent deviceId .keyUp modifier) =
      -modifierStroke flag (modifierSent other .keyDown modifier) := by
  unfold modifierSent makeLazyModifierKeyEvent
  cases modifier.capsLock with
  | false => exact modifierStroke_keyUp flag deviceId _
  | true =>
      unfold modifierStroke isModifierEvent makeLazyModifierKeyEvent
      cases (MomentarySwitchEvent.ofModifierFlag flag).capsLock with
      | true => simp
      | false => simp

/-- A mandatory modifier that is released owes a key_down. -/
def modifierOwed (flag modifier : ModifierFlag) : Int :=
  if (MomentarySwitchEvent.ofModifierFlag modifier).valid then
    modifierStroke flag (modifierSent 0 .keyDown (.ofModifierFlag modifier))
  else 0

/-- Lowering modifiers sends one stroke up for each flag that is owed, and raising them one stroke
down. -/
theorem sum_modifierFlagsSent (flag : ModifierFlag) (deviceId : DeviceId)
    (modifiers : List ModifierFlag) :
    ((modifierFlagsSent deviceId .keyDown modifiers).map (modifierStroke flag)).sum =
        (modifiers.map (modifierOwed flag)).sum ∧
      ((modifierFlagsSent deviceId .keyUp modifiers).map (modifierStroke flag)).sum =
        -(modifiers.map (modifierOwed flag)).sum := by
  have owed : (modifiers.map (modifierOwed flag)).sum =
      ((modifiers.filter fun modifier => (MomentarySwitchEvent.ofModifierFlag modifier).valid).map
        fun modifier => modifierStroke flag
          (modifierSent 0 .keyDown (.ofModifierFlag modifier))).sum := by
    unfold modifierOwed
    rw [List.sum_map_ite, List.map_const', List.sum_replicate, smul_zero, add_zero]
    simp only [Bool.decide_eq_true]
  unfold modifierFlagsSent
  rw [owed, List.map_map, List.map_map]
  generalize (modifiers.filter fun modifier =>
    (MomentarySwitchEvent.ofModifierFlag modifier).valid) = chosen
  refine ⟨?_, sum_map_eq_neg fun modifier _ => modifierStroke_modifierSent flag deviceId 0 _⟩
  have same : ∀ modifier ∈ chosen,
      modifierStroke flag (modifierSent deviceId .keyDown (.ofModifierFlag modifier)) =
        modifierStroke flag (modifierSent 0 .keyDown (.ofModifierFlag modifier)) := by
    intro modifier _
    have one := modifierStroke_modifierSent flag 0 deviceId (.ofModifierFlag modifier)
    rw [modifierStroke_modifierSent flag 0 0] at one
    omega
  exact congrArg List.sum (List.map_congr_left same)

end Sent

namespace ManipulatedOriginalEvent

/-- What the record still has to post counts for a modifier flag. -/
def modifierDebt (flag : ModifierFlag) (current : ManipulatedOriginalEvent) : Int :=
  (current.eventsAtKeyUp.map fun event => event.sent.modifierStroke flag).sum +
    (current.liftedModifiers.map (Sent.modifierOwed flag)).sum

theorem Discharged.modifierDebt_eq_zero {current : ManipulatedOriginalEvent}
    (discharged : current.Discharged) (flag : ModifierFlag) : current.modifierDebt flag = 0 := by
  unfold modifierDebt
  rw [discharged.1, discharged.2]
  rfl

/-- The mandatory modifiers, and those of them that are released. -/
def mandatory (current : ManipulatedOriginalEvent) : List ModifierFlag × List ModifierFlag :=
  (current.fromMandatoryModifiers, current.keyUpPostedFromMandatoryModifiers)

theorem liftedModifiers_congr {current other : ManipulatedOriginalEvent}
    (same : other.mandatory = current.mandatory) :
    other.liftedModifiers = current.liftedModifiers := by
  unfold liftedModifiers
  rw [show other.fromMandatoryModifiers = current.fromMandatoryModifiers from
      congrArg Prod.fst same,
    show other.keyUpPostedFromMandatoryModifiers = current.keyUpPostedFromMandatoryModifiers from
      congrArg Prod.snd same]

end ManipulatedOriginalEvent

namespace Sending

/-! ## What settles a debt -/

/-- What is posted is what the record does not owe any more. -/
def Settles (before after : Sending) : Prop :=
  ∃ entries : List Entry, after.queue.events = before.queue.events ++ entries ∧ ∀ flag,
    (entries.map fun entry => entry.sent.modifierStroke flag).sum +
      after.current.modifierDebt flag = before.current.modifierDebt flag

namespace Settles

variable {before middle after : Sending}

theorem trans (first : Settles before middle) (second : Settles middle after) :
    Settles before after := by
  obtain ⟨entries, events, settled⟩ := first
  obtain ⟨more, moreEvents, moreSettled⟩ := second
  refine ⟨entries ++ more, by rw [moreEvents, events, List.append_assoc], fun flag => ?_⟩
  rw [List.map_append, List.sum_append, add_assoc, moreSettled, settled]

theorem of_idle (events : after.queue.events = before.queue.events)
    (same : ∀ flag, after.current.modifierDebt flag = before.current.modifierDebt flag) :
    Settles before after :=
  ⟨[], by rw [events, List.append_nil], fun flag => (zero_add _).trans (same flag)⟩

theorem refl (sending : Sending) : Settles sending sending := of_idle rfl fun _ => rfl

theorem of_emits {front : Entry} {sent : List Sent} {holds : List Int}
    (emits : Emits front sent holds before after)
    (settled : ∀ flag, (sent.map (Sent.modifierStroke flag)).sum +
      after.current.modifierDebt flag = before.current.modifierDebt flag) :
    Settles before after := by
  obtain ⟨entries, events, isSent, -⟩ := emits.posted
  refine ⟨entries, events, fun flag => ?_⟩
  rw [← settled flag, ← isSent, List.map_map]
  rfl

/-- The strokes of the entries that were posted. -/
theorem entriesPosted (settles : Settles before after) (flag : ModifierFlag) :
    ((before.entriesPosted after).map fun entry => entry.sent.modifierStroke flag).sum +
      after.current.modifierDebt flag = before.current.modifierDebt flag := by
  obtain ⟨entries, events, settled⟩ := settles
  rw [entriesPosted_of_append events]
  exact settled flag

end Settles

variable [ExpressionLibrary]

/-- The key_up posts what the record keeps. -/
theorem settles_postEventsAtKeyUp (sending : Sending) (front : Entry) :
    Settles sending (sending.postEventsAtKeyUp front) ∧
      (sending.postEventsAtKeyUp front).current = { sending.current with eventsAtKeyUp := [] } := by
  have current : (sending.postEventsAtKeyUp front).current =
      { sending.current with eventsAtKeyUp := [] } := by
    have kept := current_foldl (fun sending event => by
      exact (rfl : (Sending.post sending front event).current = sending.current))
      sending.current.eventsAtKeyUp sending
    unfold postEventsAtKeyUp
    dsimp only
    rw [kept]
  refine ⟨Settles.of_emits (emits_postEventsAtKeyUp sending front) fun flag => ?_, current⟩
  rw [current, List.map_map]
  unfold ManipulatedOriginalEvent.modifierDebt
  exact congrArg (_ + ·) (zero_add _)

/-- The mandatory modifiers that are released are owed. -/
theorem settles_postFromMandatoryModifiersKeyUp (sending : Sending) (front : Entry) :
    Settles sending (sending.postFromMandatoryModifiersKeyUp front) := by
  refine Settles.of_emits (emits_postFromMandatoryModifiersKeyUp sending front) fun flag => ?_
  rw [(Sent.sum_modifierFlagsSent flag front.deviceId _).2]
  unfold postFromMandatoryModifiersKeyUp
  dsimp only
  rw [current_postLazyModifierKeyEvents]
  generalize lifted : (sending.current.fromMandatoryModifiers.filter fun modifier =>
    !decide (modifier ∈ sending.current.keyUpPostedFromMandatoryModifiers) &&
      sending.queue.modifierFlagManager.isPressed modifier) = modifiers
  have split := sum_filter_or (Sent.modifierOwed flag)
    (fun modifier => decide (modifier ∈ sending.current.keyUpPostedFromMandatoryModifiers))
    (fun modifier => !decide (modifier ∈ sending.current.keyUpPostedFromMandatoryModifiers) &&
      sending.queue.modifierFlagManager.isPressed modifier)
    (fun modifier isFirst => by simp [isFirst]) sending.current.fromMandatoryModifiers
  have same : ∀ modifier ∈ sending.current.fromMandatoryModifiers,
      decide (modifier ∈ sending.current.keyUpPostedFromMandatoryModifiers ++ modifiers) =
        (decide (modifier ∈ sending.current.keyUpPostedFromMandatoryModifiers) ||
          (!decide (modifier ∈ sending.current.keyUpPostedFromMandatoryModifiers) &&
            sending.queue.modifierFlagManager.isPressed modifier)) := by
    intro modifier member
    rw [← lifted, Bool.eq_iff_iff]
    simp [member]
  unfold ManipulatedOriginalEvent.modifierDebt ManipulatedOriginalEvent.liftedModifiers
  dsimp only
  rw [List.filter_congr same, split, lifted]
  omega

/-- The released mandatory modifiers are pressed again, and nothing of them is owed. -/
theorem settles_postFromMandatoryModifiersKeyDown (sending : Sending) (front : Entry) :
    Settles sending (sending.postFromMandatoryModifiersKeyDown front) := by
  refine Settles.of_emits (emits_postFromMandatoryModifiersKeyDown sending front) fun flag => ?_
  have kept := (eventsAtKeyUp_postFromMandatoryModifiers sending front).2
  rw [(Sent.sum_modifierFlagsSent flag front.deviceId _).1]
  unfold ManipulatedOriginalEvent.modifierDebt
  rw [(sends_postFromMandatoryModifiersKeyDown sending front).2, kept]
  simp only [List.map_nil, List.sum_nil]
  omega

theorem settles_releaseToEvents (sending : Sending) (front : Entry) :
    Settles sending (sending.releaseToEvents front) :=
  (settles_postEventsAtKeyUp sending front).1.trans
    (settles_postFromMandatoryModifiersKeyDown _ front)

/-! ## What a list leaves of the record -/

omit [ExpressionLibrary] in
theorem mandatory_foldl {α : Type} {send : Sending → α → Sending}
    (each : ∀ sending element,
      (send sending element).current.mandatory = sending.current.mandatory)
    (elements : List α) (sending : Sending) :
    (elements.foldl send sending).current.mandatory = sending.current.mandatory := by
  induction elements generalizing sending with
  | nil => rfl
  | cons element rest ih => exact (ih _).trans (each sending element)

theorem mandatory_modifierKeyDowns (front : Entry) (lazy : Bool)
    (modifiers : List MomentarySwitchEvent) (sending : Sending) :
    (modifiers.foldl (fun sending modifier =>
      sending.postLazyModifierKeyEvent front modifier .keyDown front.deviceId lazy)
        sending).current.mandatory = sending.current.mandatory :=
  mandatory_foldl (fun sending modifier => congrArg ManipulatedOriginalEvent.mandatory
    (current_postLazyModifierKeyEvent sending front modifier .keyDown front.deviceId lazy))
    modifiers sending

theorem mandatory_postKeyDown (sending : Sending) (front : Entry)
    (definition : ToEventDefinition) (event : Event) :
    (sending.postKeyDown front definition event).current.mandatory =
      sending.current.mandatory := by
  unfold postKeyDown
  dsimp only
  split <;> rfl

theorem mandatory_modifierKeyUps (front : Entry) (isKept : Bool)
    (modifiers : List MomentarySwitchEvent) (sending : Sending) :
    (modifiers.foldl (postModifierKeyUp front isKept) sending).current.mandatory =
      sending.current.mandatory := by
  refine mandatory_foldl (fun sending modifier => ?_) modifiers sending
  cases isKept with
  | true => rfl
  | false =>
      exact congrArg ManipulatedOriginalEvent.mandatory
        (current_postLazyModifierKeyEvent sending front modifier .keyUp front.deviceId true)

variable [MachTimebase]

/-- An element of a list does not touch the mandatory modifiers of the record. -/
theorem mandatory_postEventAtKeyDown (sending : Sending) (front : Entry) (last : Bool)
    (definition : ToEventDefinition) :
    (sending.postEventAtKeyDown front last definition).current.mandatory =
      sending.current.mandatory := by
  unfold postEventAtKeyDown
  cases definition.eventDefinition.toEvent with
  | none => rfl
  | some event =>
      dsimp only
      rw [mandatory_modifierKeyUps]
      split
      · exact (mandatory_postKeyDown _ front definition event).trans
          (mandatory_modifierKeyDowns front _ _ sending)
      · exact (mandatory_postKeyDown _ front definition event).trans
          (mandatory_modifierKeyDowns front _ _ sending)

theorem mandatory_postEachAtKeyDown (front : Entry) (definitions : List ToEventDefinition)
    (sending : Sending) :
    (postEachAtKeyDown front definitions sending).current.mandatory =
      sending.current.mandatory := by
  induction definitions generalizing sending with
  | nil => rfl
  | cons definition rest ih =>
      exact (ih _).trans (mandatory_postEventAtKeyDown sending front rest.isEmpty definition)

theorem mandatory_postExtraToEvent (front : Entry) (sending : Sending)
    (definition : ToEventDefinition) :
    (postExtraToEvent front sending definition).current.mandatory =
      sending.current.mandatory := by
  unfold postExtraToEvent
  cases definition.eventDefinition.toEvent with
  | none => rfl
  | some event =>
      dsimp only
      rw [mandatory_modifierKeyUps]
      exact (mandatory_postKeyDown _ front definition event).trans
        (mandatory_modifierKeyDowns front true _ sending)

omit [ExpressionLibrary] [MachTimebase] in
theorem mandatory_sendFiltered (sending : Sending) (front : Entry)
    (definitions : List ToEventDefinition) {send : List ToEventDefinition → Sending → Sending}
    (each : ∀ filtered sending,
      (send filtered sending).current.mandatory = sending.current.mandatory) :
    (sending.sendFiltered front definitions send).current.mandatory =
      sending.current.mandatory := by
  unfold sendFiltered
  split
  · rfl
  · exact each _ _

/-! ## The strokes of a list -/

omit [ExpressionLibrary] [MachTimebase] in
/-- The releases of a `to` event undo its presses. -/
theorem sum_releases (flag : ModifierFlag) (deviceId : DeviceId)
    (definition : ToEventDefinition) :
    ((definition.presses deviceId).map (Sent.modifierStroke flag)).sum +
      ((definition.releases deviceId).map (Sent.modifierStroke flag)).sum = 0 := by
  unfold ToEventDefinition.presses ToEventDefinition.releases
  cases definition.eventDefinition.toEvent with
  | none => rfl
  | some event =>
      dsimp only
      rw [List.map_append, List.sum_append, List.map_singleton, List.sum_singleton, List.map_cons,
        List.sum_cons, Sent.modifierStroke_keyUp, List.map_map, List.map_map]
      have modifiers := Sent.sum_map_eq_neg fun modifier
          (_ : modifier ∈ definition.makeModifierEvents) =>
        Sent.modifierStroke_modifierSent flag deviceId deviceId modifier
      change _ + (_ + (definition.makeModifierEvents.map fun modifier =>
        Sent.modifierStroke flag (modifierSent deviceId .keyUp modifier)).sum) = 0
      rw [modifiers]
      change (definition.makeModifierEvents.map fun modifier =>
        Sent.modifierStroke flag (modifierSent deviceId .keyDown modifier)).sum + _ + _ = 0
      omega

omit [ExpressionLibrary] [MachTimebase] in
/-- A list that is posted by position owes nothing: what it presses is released at once or kept for
the release. -/
theorem sum_byPosition (flag : ModifierFlag) {deviceId : DeviceId}
    {definitions : List ToEventDefinition} {posted kept : List Sent}
    (byPosition : ByPosition deviceId definitions posted kept) :
    (posted.map (Sent.modifierStroke flag)).sum + (kept.map (Sent.modifierStroke flag)).sum =
      0 := by
  induction byPosition with
  | nil => rfl
  | last definition released kept split =>
      have zero := sum_releases flag deviceId definition
      have same := (split.map (Sent.modifierStroke flag)).sum_eq
      rw [List.map_append, List.sum_append] at same ⊢
      omega
  | cons definition more others ih =>
      have zero := sum_releases flag deviceId definition
      rw [List.map_append, List.map_append, List.sum_append, List.sum_append]
      omega

/-- A `to` list is posted, and what is not released yet is kept. -/
theorem settles_postEventsAtKeyDown (sending : Sending) (front : Entry)
    (toEvents : List ToEventDefinition) :
    Settles sending (sending.postEventsAtKeyDown front toEvents) := by
  cases halted : sending.current.halted with
  | true =>
      have idle : sending.postEventsAtKeyDown front toEvents = sending :=
        sendFiltered_of_halted halted front toEvents _
      rw [idle]
      exact Settles.refl sending
  | false =>
      obtain ⟨posted, kept, byPosition, emits, events, own, same⟩ :=
        sending.emits_postEventsAtKeyDown front toEvents halted
      refine Settles.of_emits emits fun flag => ?_
      have lifted := ManipulatedOriginalEvent.liftedModifiers_congr (mandatory_sendFiltered sending
        front toEvents (mandatory_postEachAtKeyDown front))
      have zero := sum_byPosition flag byPosition
      change (sending.postEventsAtKeyDown front toEvents).current.liftedModifiers = _ at lifted
      unfold ManipulatedOriginalEvent.modifierDebt
      rw [own, lifted, List.map_append, List.sum_append]
      rw [← same, List.map_map] at zero
      change _ + (events.map fun event => event.sent.modifierStroke flag).sum = 0 at zero
      omega

/-- A list of extra events settles: the mandatory modifiers that it lowers are raised again behind
it. -/
theorem settles_postExtraToEvents (sending : Sending) (front : Entry)
    (toEvents : List ToEventDefinition) :
    Settles sending (sending.postExtraToEvents front toEvents) := by
  have lifted := ManipulatedOriginalEvent.liftedModifiers_congr (mandatory_sendFiltered sending
    front toEvents fun filtered => mandatory_foldl (mandatory_postExtraToEvent front) filtered)
  have kept := (sends_postExtraToEvents sending front toEvents).2
  have same : ∀ flag, (sending.postExtraToEvents front toEvents).current.modifierDebt flag =
      sending.current.modifierDebt flag := by
    intro flag
    change (sending.postExtraToEvents front toEvents).current.liftedModifiers = _ at lifted
    unfold ManipulatedOriginalEvent.modifierDebt
    rw [lifted, kept]
  cases halted : sending.current.halted with
  | true =>
      have idle : sending.postExtraToEvents front toEvents = sending :=
        sendFiltered_of_halted halted front toEvents _
      rw [idle]
      exact Settles.refl sending
  | false =>
      unfold postExtraToEvents sendFiltered at same ⊢
      rw [halted, if_neg Bool.false_ne_true] at same ⊢
      dsimp only at same ⊢
      have start : Emits front [] [] sending { sending with
          queue := { sending.queue with
            manipulatorEnvironment := (filterAndReplaceEvents ⟨front.deviceId, front.state⟩
              sending.current toEvents sending.queue.manipulatorEnvironment).2 } } :=
        Emits.of_idle rfl rfl rfl rfl
      refine Settles.of_emits (start.trans (emits_postExtraToEvents _ front _)) fun flag => ?_
      rw [same, add_eq_right, List.nil_append, List.map_flatMap, List.flatMap_def,
        List.sum_flatten, List.map_map]
      refine List.sum_eq_zero fun sum member => ?_
      obtain ⟨definition, -, rfl⟩ := List.mem_map.mp member
      rw [Function.comp_apply, List.map_append, List.sum_append]
      exact sum_releases flag front.deviceId definition

theorem settles_pressToEvents (sending : Sending) (front : Entry)
    (toEvents : List ToEventDefinition) :
    Settles sending (sending.pressToEvents front toEvents) := by
  have sent := (settles_postFromMandatoryModifiersKeyUp sending front).trans
    (settles_postEventsAtKeyDown _ front toEvents)
  unfold pressToEvents
  dsimp only
  split
  · exact sent
  · exact sent.trans (settles_postFromMandatoryModifiersKeyDown _ front)

theorem settles_sendWhenHeldDown (sending : Sending) (front : Entry)
    (toEvents : List ToEventDefinition) :
    Settles sending (sending.sendWhenHeldDown front toEvents) :=
  (settles_releaseToEvents sending front).trans (settles_pressToEvents _ front toEvents)

theorem settles_postExtraWithoutMandatoryModifiers (sending : Sending) (front : Entry)
    (toEvents : List ToEventDefinition) :
    Settles sending (sending.postExtraWithoutMandatoryModifiers front toEvents) :=
  ((settles_postFromMandatoryModifiersKeyUp sending front).trans
    (settles_postExtraToEvents _ front toEvents)).trans
      (settles_postFromMandatoryModifiersKeyDown _ front)

omit [ExpressionLibrary] [MachTimebase] in
/-- What is sent for active modifier flags is undone by what is sent for their inverses. -/
theorem sum_activeModifierFlagsSent (flag : ModifierFlag) (flags : List ActiveModifierFlag) :
    ((activeModifierFlagsSent flags).map (Sent.modifierStroke flag)).sum +
      ((activeModifierFlagsSent (flags.map ActiveModifierFlag.inverse)).map
        (Sent.modifierStroke flag)).sum = 0 := by
  have inverses : activeModifierFlagsSent (flags.map ActiveModifierFlag.inverse) =
      (flags.filter fun active =>
        (MomentarySwitchEvent.ofModifierFlag active.modifierFlag).valid).map fun active =>
          modifierSent active.deviceId (if active.inverse.getCount > 0 then .keyDown else .keyUp)
            (.ofModifierFlag active.modifierFlag) := by
    unfold activeModifierFlagsSent
    rw [List.filter_map, List.map_map]
    exact List.map_congr_left fun active _ => by
      rw [Function.comp_apply, ActiveModifierFlag.inverse_deviceId,
        ActiveModifierFlag.inverse_modifierFlag]
  rw [inverses]
  unfold activeModifierFlagsSent
  rw [List.map_map, List.map_map, add_eq_zero_iff_eq_neg]
  refine Sent.sum_map_eq_neg fun active _ => ?_
  have count : active.inverse.getCount = -active.getCount :=
    ActiveModifierFlagType.getCount_inverse active.type
  rw [Function.comp_apply, Function.comp_apply, count]
  have undone := Sent.modifierStroke_modifierSent flag active.deviceId active.deviceId
    (.ofModifierFlag active.modifierFlag)
  rcases active.type.getCount_cases with increase | decrease
  · have isOne : active.getCount = 1 := increase
    rw [isOne, if_pos (by decide), if_neg (by decide)]
    omega
  · have isMinusOne : active.getCount = -1 := decrease
    rw [isMinusOne, if_neg (by decide), if_pos (by decide)]
    exact undone

omit [MachTimebase] in
/-- The modifiers that the restorer sets are taken back. -/
theorem settles_withKeyDownModifierFlags (sending : Sending) (front : Entry)
    {body : Sending → Sending} (each : ∀ sending, Settles sending (body sending)) :
    Settles sending (sending.withKeyDownModifierFlags front body) := by
  unfold withKeyDownModifierFlags
  dsimp only
  generalize ScopedModifierFlags.make sending.queue.modifierFlagManager
    sending.current.keyDownModifierFlags = scope
  have before := emits_postActiveModifierFlags { sending with
    queue := { sending.queue with modifierFlagManager := scope.destroy } } front
    scope.scopedActiveModifierFlags
  have beforeKept := (sends_postActiveModifierFlags { sending with
    queue := { sending.queue with modifierFlagManager := scope.destroy } } front
    scope.scopedActiveModifierFlags).2
  generalize postActiveModifierFlags { sending with
    queue := { sending.queue with modifierFlagManager := scope.destroy } } front
    scope.scopedActiveModifierFlags = reached at before beforeKept ⊢
  obtain ⟨inside, insideEvents, insideSettled⟩ := each reached
  have after := emits_postActiveModifierFlags (body reached) front
    scope.getInverseActiveModifierFlags
  have afterKept := (sends_postActiveModifierFlags (body reached) front
    scope.getInverseActiveModifierFlags).2
  obtain ⟨entries, events, isSent, -⟩ := before.posted
  obtain ⟨more, moreEvents, isMore, -⟩ := after.posted
  refine ⟨entries ++ inside ++ more,
    by rw [moreEvents, insideEvents, events]; simp [List.append_assoc], fun flag => ?_⟩
  have zero := sum_activeModifierFlagsSent flag scope.scopedActiveModifierFlags
  have settled := insideSettled flag
  unfold ScopedModifierFlags.getInverseActiveModifierFlags at isMore
  rw [← isSent, ← isMore, List.map_map, List.map_map] at zero
  rw [afterKept, List.map_append, List.map_append, List.sum_append, List.sum_append]
  rw [beforeKept] at settled
  change (entries.map fun entry => entry.sent.modifierStroke flag).sum +
    (more.map fun entry => entry.sent.modifierStroke flag).sum = 0 at zero
  dsimp only at settled
  omega

/-- All mandatory modifiers are released for a delayed action and pressed again. -/
theorem settles_postDelayedAction (sending : Sending) (front : Entry)
    (toEvents : List ToEventDefinition) :
    Settles sending (sending.postDelayedAction front toEvents) := by
  refine settles_withKeyDownModifierFlags sending front fun sending => ?_
  dsimp only
  have up := emits_postLazyModifierKeyEvents sending front
    sending.current.fromMandatoryModifiers .keyUp
  have upKept := current_postLazyModifierKeyEvents sending front
    sending.current.fromMandatoryModifiers .keyUp
  generalize sending.postLazyModifierKeyEvents front sending.current.fromMandatoryModifiers .keyUp =
    released at up upKept ⊢
  obtain ⟨extra, extraEvents, extraSettled⟩ := settles_postExtraToEvents released front toEvents
  have sameModifiers := congrArg Prod.fst (mandatory_sendFiltered released
    front toEvents fun filtered => mandatory_foldl (mandatory_postExtraToEvent front) filtered)
  change (released.postExtraToEvents front toEvents).current.fromMandatoryModifiers =
    released.current.fromMandatoryModifiers at sameModifiers
  generalize released.postExtraToEvents front toEvents = posted
    at extraEvents extraSettled sameModifiers ⊢
  rw [sameModifiers, upKept]
  have down := emits_postLazyModifierKeyEvents posted front
    sending.current.fromMandatoryModifiers .keyDown
  obtain ⟨entries, events, isSent, -⟩ := up.posted
  obtain ⟨more, moreEvents, isMore, -⟩ := down.posted
  refine ⟨entries ++ extra ++ more,
    by rw [moreEvents, extraEvents, events]; simp [List.append_assoc], fun flag => ?_⟩
  have settled := extraSettled flag
  have upSum := (Sent.sum_modifierFlagsSent flag front.deviceId
    sending.current.fromMandatoryModifiers).2
  have downSum := (Sent.sum_modifierFlagsSent flag front.deviceId
    sending.current.fromMandatoryModifiers).1
  rw [← isSent, List.map_map] at upSum
  rw [← isMore, List.map_map] at downSum
  rw [current_postLazyModifierKeyEvents, List.map_append, List.map_append, List.sum_append,
    List.sum_append]
  rw [upKept] at settled
  change (entries.map fun entry => entry.sent.modifierStroke flag).sum = _ at upSum
  change (more.map fun entry => entry.sent.modifierStroke flag).sum = _ at downSum
  omega

end Sending

namespace Basic

variable [ExpressionLibrary] [MachTimebase]

theorem settles_sendExtra (toEvents : List ToEventDefinition) (front : Entry)
    (sending : Sending) : Sending.Settles sending (sendExtra toEvents front sending) := by
  unfold sendExtra
  split
  · exact Sending.Settles.refl sending
  · exact Sending.settles_postExtraWithoutMandatoryModifiers sending front toEvents

theorem settles_sendToIfAlone (basic : Basic) (front : Entry) (sending : Sending) :
    Sending.Settles sending (basic.sendToIfAlone front sending) := by
  unfold sendToIfAlone
  dsimp only
  split
  · exact Sending.Settles.refl sending
  · split
    · exact Sending.settles_withKeyDownModifierFlags sending front fun sending =>
        Sending.settles_postExtraWithoutMandatoryModifiers sending front basic.toIfAlone
    · exact Sending.Settles.refl sending

theorem settles_sendOnceAtKeyUp (basic : Basic) (front : Entry) (sending : Sending) :
    Sending.Settles sending (basic.sendOnceAtKeyUp front sending) := by
  unfold sendOnceAtKeyUp
  split
  · exact Sending.Settles.refl sending
  · dsimp only
    have marked : Sending.Settles sending
        { sending with current := { sending.current with keyUpPosted := true } } :=
      Sending.Settles.of_idle rfl fun _ => rfl
    exact ((marked.trans (Sending.settles_releaseToEvents _ front)).trans
      (basic.settles_sendToIfAlone front _)).trans (settles_sendExtra basic.toAfterKeyUp front _)

theorem settles_sendAtKeyUp (basic : Basic) (front : Entry) (sending : Sending) :
    Sending.Settles sending (basic.sendAtKeyUp front sending) := by
  unfold sendAtKeyUp
  dsimp only
  split
  · exact Sending.Settles.refl sending
  · have sent := basic.settles_sendOnceAtKeyUp front sending
    split
    · exact sent.trans (settles_sendExtra _ front _)
    · exact sent

end Basic

end Karabiner

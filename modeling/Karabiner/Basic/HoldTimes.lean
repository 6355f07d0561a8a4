import Karabiner.Basic.PostedList
import Karabiner.Basic.RestoredFlags

/-! # The hold times of what a basic manipulator posts

The entries of one call follow each other tick by tick, but for the hold times of the key_ups that
are posted at once (`Sending.Paced`). Which hold times these are is decided by the `to` events that
are left when the conditions of a list are tested.
-/

namespace Karabiner

namespace Sending

variable [MachTimebase]

/-- The hold times of a `to` list at a key_down. -/
def listHolds (sending : Sending) (front : Entry) (toEvents : List ToEventDefinition) : List Int :=
  if sending.current.halted then [] else holdsOfList (sending.filteredList front toEvents)

/-- The hold times of extra events. -/
def extraHolds (sending : Sending) (front : Entry) (toEvents : List ToEventDefinition) :
    List Int :=
  if sending.current.halted then []
  else (sending.filteredList front toEvents).flatMap ToEventDefinition.holds

end Sending

namespace Basic

variable [ExpressionLibrary] [MachTimebase]

omit [ExpressionLibrary] in
/-- The hold times of `to_if_alone`. -/
def aloneHolds (basic : Basic) (front : Entry) (sending : Sending) : List Int :=
  if basic.toIfAlone.isEmpty then []
  else if sending.current.alone ∧
      MachTimebase.makeMilliseconds
          (front.eventTimeStamp.timeStamp - sending.current.keyDownTimeStamp) <
        basic.parameters.basicToIfAloneTimeoutMilliseconds then
    sending.extraHolds front basic.toIfAlone
  else []

omit [ExpressionLibrary] in
/-- The hold times of a list of extra events that may be empty. -/
def extraListHolds (toEvents : List ToEventDefinition) (front : Entry) (sending : Sending) :
    List Int :=
  if toEvents.isEmpty then [] else sending.extraHolds front toEvents

/-- The hold times of what is posted once for a record. The kept key_ups and the lists before it
may set variables that the conditions of a list read. -/
def onceHolds (basic : Basic) (front : Entry) (sending : Sending) : List Int :=
  if sending.current.keyUpPosted then []
  else
    let marked := { sending with current := { sending.current with keyUpPosted := true } }
    let released := (marked.postEventsAtKeyUp front).postFromMandatoryModifiersKeyDown front
    basic.aloneHolds front released ++
      extraListHolds basic.toAfterKeyUp front (basic.sendToIfAlone front released)

/-- The hold times of what is posted at a key_up of a record. -/
def keyUpHolds (basic : Basic) (front : Entry) (sending : Sending) : List Int :=
  let options := basic.from_.simultaneousOptions
  if options.keyUpWhen = .all ∧ sending.current.fromEvents ≠ [] then []
  else
    let sent := basic.sendOnceAtKeyUp front sending
    basic.onceHolds front sending ++
      if sent.current.fromEvents = [] then extraListHolds options.toAfterKeyUp front sent else []

end Basic

namespace Sending

/-- The entries that a computation posts follow each other tick by tick, but for hold times. -/
structure Paced (front : Entry) (holds : List Int) (before after : Sending) : Prop where
  posted : ∃ entries : List Entry, after.queue.events = before.queue.events ++ entries ∧
    Rises holds (before.nextTimeStamp front)
      (entries.map fun entry => entry.eventTimeStamp.timeStamp) (after.nextTimeStamp front)
  delay : after.queue.timeStampDelay = before.queue.timeStampDelay

namespace Paced

variable {front : Entry} {holds later : List Int} {before middle after : Sending}

theorem of_emits {sent : List Sent} (emits : Emits front sent holds before after) :
    Paced front holds before after := by
  obtain ⟨⟨entries, events, -, rises⟩, -, delay⟩ := emits
  exact ⟨⟨entries, events, rises⟩, delay⟩

/-- Changes of the record, the modifier flags and the environment. -/
theorem of_idle (events : after.queue.events = before.queue.events)
    (delay : after.queue.timeStampDelay = before.queue.timeStampDelay)
    (sameDelay : after.timeStampDelay = before.timeStampDelay) : Paced front [] before after := by
  refine ⟨⟨[], by rw [events, List.append_nil], ?_⟩, delay⟩
  have same : after.nextTimeStamp front = before.nextTimeStamp front := by
    unfold nextTimeStamp
    rw [delay, sameDelay]
  rw [same]
  exact Rises.refl _

theorem refl (front : Entry) (sending : Sending) : Paced front [] sending sending :=
  of_idle rfl rfl rfl

theorem trans (first : Paced front holds before middle) (second : Paced front later middle after) :
    Paced front (holds ++ later) before after := by
  obtain ⟨entries, events, rises⟩ := first.posted
  obtain ⟨more, moreEvents, moreRises⟩ := second.posted
  refine ⟨⟨entries ++ more, by rw [moreEvents, events, List.append_assoc], ?_⟩,
    second.delay.trans first.delay⟩
  rw [List.map_append]
  exact rises.append moreRises

/-- A computation without hold times comes first. -/
theorem afterUnheld (first : Paced front [] before middle)
    (second : Paced front holds middle after) : Paced front holds before after :=
  first.trans second

/-- A computation without hold times comes last. -/
theorem beforeUnheld (first : Paced front holds before middle)
    (second : Paced front [] middle after) : Paced front holds before after := by
  have both := first.trans second
  rw [List.append_nil] at both
  exact both

end Paced

/-- What the choice of `to` events is made from stays the same. -/
structure SameChoice (before after : Sending) : Prop where
  environment : after.queue.manipulatorEnvironment = before.queue.manipulatorEnvironment
  fromEvents : after.current.fromEvents = before.current.fromEvents
  halted : after.current.halted = before.current.halted

namespace SameChoice

variable {before middle after : Sending}

theorem trans (first : SameChoice before middle) (second : SameChoice middle after) :
    SameChoice before after :=
  ⟨second.environment.trans first.environment, second.fromEvents.trans first.fromEvents,
    second.halted.trans first.halted⟩

theorem of_continues (continues : Continues false before after) : SameChoice before after where
  environment := continues.environment
  fromEvents := by rw [continues.current]
  halted := by rw [continues.current, Bool.or_false]

theorem filteredList (same : SameChoice before after) (front : Entry)
    (toEvents : List ToEventDefinition) :
    after.filteredList front toEvents = before.filteredList front toEvents := by
  unfold Sending.filteredList
  rw [same.environment]
  exact (filterAndReplaceEvents_congr same.fromEvents toEvents rfl).1

variable [MachTimebase]

theorem listHolds (same : SameChoice before after) (front : Entry)
    (toEvents : List ToEventDefinition) :
    after.listHolds front toEvents = before.listHolds front toEvents := by
  unfold Sending.listHolds
  rw [same.halted, same.filteredList]

theorem extraHolds (same : SameChoice before after) (front : Entry)
    (toEvents : List ToEventDefinition) :
    after.extraHolds front toEvents = before.extraHolds front toEvents := by
  unfold Sending.extraHolds
  rw [same.halted, same.filteredList]

end SameChoice

variable [ExpressionLibrary]

/-! ## The mandatory modifiers -/

theorem sameChoice_postLazyModifierKeyEvents (sending : Sending) (front : Entry)
    (modifiers : List ModifierFlag) (eventType : EventType) :
    SameChoice sending (sending.postLazyModifierKeyEvents front modifiers eventType) := by
  have continues := continues_foldl front eventType front.deviceId true
    (modifiers.map MomentarySwitchEvent.ofModifierFlag) sending
  rw [List.foldl_map] at continues
  exact SameChoice.of_continues continues

theorem sameChoice_postFromMandatoryModifiersKeyUp (sending : Sending) (front : Entry) :
    SameChoice sending (sending.postFromMandatoryModifiersKeyUp front) := by
  unfold postFromMandatoryModifiersKeyUp
  dsimp only
  refine SameChoice.trans ?_ (sameChoice_postLazyModifierKeyEvents _ front _ .keyUp)
  exact ⟨rfl, rfl, rfl⟩

variable [MachTimebase]

/-! ## The lists -/

/-- A list that is sent at the press holds the times that `holdsOfList` gives for what the filter
leaves of it. -/
theorem paced_postEventsAtKeyDown (sending : Sending) (front : Entry)
    (toEvents : List ToEventDefinition) :
    Paced front (sending.listHolds front toEvents) sending
      (sending.postEventsAtKeyDown front toEvents) := by
  cases halted : sending.current.halted with
  | true =>
      have idle : sending.postEventsAtKeyDown front toEvents = sending :=
        sendFiltered_of_halted halted front toEvents _
      rw [idle, listHolds, halted, if_pos rfl]
      exact Paced.refl front sending
  | false =>
      obtain ⟨_, _, -, emits, -⟩ := sending.emits_postEventsAtKeyDown front toEvents halted
      unfold listHolds
      rw [halted, if_neg Bool.false_ne_true]
      exact Paced.of_emits emits

/-- A list of extra events holds the time of each of its elements. -/
theorem paced_postExtraToEvents (sending : Sending) (front : Entry)
    (toEvents : List ToEventDefinition) :
    Paced front (sending.extraHolds front toEvents) sending
      (sending.postExtraToEvents front toEvents) := by
  unfold extraHolds filteredList postExtraToEvents sendFiltered
  cases sending.current.halted with
  | true =>
      rw [if_pos rfl, if_pos rfl]
      exact Paced.refl front sending
  | false =>
      rw [if_neg Bool.false_ne_true, if_neg Bool.false_ne_true]
      dsimp only
      generalize filterAndReplaceEvents ⟨front.deviceId, front.state⟩ sending.current toEvents
        sending.queue.manipulatorEnvironment = chosen
      have start : Paced front [] sending { sending with
          queue := { sending.queue with manipulatorEnvironment := chosen.2 } } :=
        Paced.of_idle rfl rfl rfl
      exact start.afterUnheld (Paced.of_emits (emits_postExtraToEvents _ front chosen.1))

theorem paced_postExtraWithoutMandatoryModifiers (sending : Sending) (front : Entry)
    (toEvents : List ToEventDefinition) :
    Paced front (sending.extraHolds front toEvents) sending
      (sending.postExtraWithoutMandatoryModifiers front toEvents) := by
  have lifted := Paced.of_emits (sending.emits_postFromMandatoryModifiersKeyUp front)
  have extra := (sending.postFromMandatoryModifiersKeyUp front).paced_postExtraToEvents front
    toEvents
  rw [(sending.sameChoice_postFromMandatoryModifiersKeyUp front).extraHolds] at extra
  exact (lifted.afterUnheld extra).beforeUnheld
    (Paced.of_emits (emits_postFromMandatoryModifiersKeyDown _ front))

end Sending

namespace Basic

variable [ExpressionLibrary] [MachTimebase]

/-- `to_if_alone` holds the times of its list while the key is alone, and none otherwise. -/
theorem paced_sendToIfAlone (basic : Basic) (front : Entry) (sending : Sending) :
    Sending.Paced front (basic.aloneHolds front sending) sending
      (basic.sendToIfAlone front sending) := by
  unfold aloneHolds sendToIfAlone
  split
  · exact Sending.Paced.refl front sending
  · dsimp only
    split
    · unfold Sending.withKeyDownModifierFlags
      dsimp only
      generalize ScopedModifierFlags.make sending.queue.modifierFlagManager
        sending.current.keyDownModifierFlags = scope
      let start : Sending :=
        { sending with queue := { sending.queue with modifierFlagManager := scope.destroy } }
      have restored : Sending.Paced front [] sending start := Sending.Paced.of_idle rfl rfl rfl
      have pushed := Sending.Paced.of_emits
        (Sending.emits_postActiveModifierFlags start front scope.scopedActiveModifierFlags)
      have unchanged : Sending.SameChoice sending start := ⟨rfl, rfl, rfl⟩
      have same := unchanged.trans (Sending.SameChoice.of_continues
        (Sending.continues_postActiveModifierFlags front scope.scopedActiveModifierFlags start))
      have extra := (start.postActiveModifierFlags front
        scope.scopedActiveModifierFlags).paced_postExtraWithoutMandatoryModifiers front
        basic.toIfAlone
      rw [same.extraHolds] at extra
      exact ((restored.afterUnheld pushed).afterUnheld extra).beforeUnheld
        (Sending.Paced.of_emits (Sending.emits_postActiveModifierFlags _ front _))
    · exact Sending.Paced.refl front sending

theorem paced_sendExtra (toEvents : List ToEventDefinition) (front : Entry) (sending : Sending) :
    Sending.Paced front (extraListHolds toEvents front sending) sending
      (sendExtra toEvents front sending) := by
  unfold extraListHolds sendExtra
  split
  · exact Sending.Paced.refl front sending
  · exact sending.paced_postExtraWithoutMandatoryModifiers front toEvents

/-- What is posted when the keys are taken. -/
theorem paced_sendAtKeyDown (basic : Basic) (front : Entry) (sending : Sending) :
    Sending.Paced front (sending.listHolds front basic.to_) sending
      (basic.sendAtKeyDown front sending) := by
  have lifted := Sending.Paced.of_emits (sending.emits_postFromMandatoryModifiersKeyUp front)
  have listed := (sending.postFromMandatoryModifiersKeyUp front).paced_postEventsAtKeyDown front
    basic.to_
  rw [(sending.sameChoice_postFromMandatoryModifiersKeyUp front).listHolds] at listed
  have sent := lifted.afterUnheld listed
  unfold sendAtKeyDown
  dsimp only
  split
  · exact sent
  · exact sent.beforeUnheld
      (Sending.Paced.of_emits (Sending.emits_postFromMandatoryModifiersKeyDown _ front))

/-- What is posted once holds the times of `to_if_alone` and then those of `to_after_key_up`, unless
it was posted before. -/
theorem paced_sendOnceAtKeyUp (basic : Basic) (front : Entry) (sending : Sending) :
    Sending.Paced front (basic.onceHolds front sending) sending
      (basic.sendOnceAtKeyUp front sending) := by
  unfold onceHolds sendOnceAtKeyUp
  split
  · exact Sending.Paced.refl front sending
  · dsimp only
    let marked : Sending := { sending with current := { sending.current with keyUpPosted := true } }
    have start : Sending.Paced front [] sending marked := Sending.Paced.of_idle rfl rfl rfl
    have keyUps := start.afterUnheld
      (Sending.Paced.of_emits (marked.emits_postEventsAtKeyUp front))
    have lowered := keyUps.afterUnheld
      (Sending.Paced.of_emits (Sending.emits_postFromMandatoryModifiersKeyDown _ front))
    exact (lowered.afterUnheld (basic.paced_sendToIfAlone front _)).trans
      (paced_sendExtra basic.toAfterKeyUp front _)

/-- What is posted at a key_up of a record. -/
theorem paced_sendAtKeyUp (basic : Basic) (front : Entry) (sending : Sending) :
    Sending.Paced front (basic.keyUpHolds front sending) sending
      (basic.sendAtKeyUp front sending) := by
  unfold keyUpHolds sendAtKeyUp
  dsimp only
  split
  · exact Sending.Paced.refl front sending
  · have once := basic.paced_sendOnceAtKeyUp front sending
    generalize basic.sendOnceAtKeyUp front sending = sent at once ⊢
    refine once.trans ?_
    split
    · exact paced_sendExtra basic.from_.simultaneousOptions.toAfterKeyUp front sent
    · exact Sending.Paced.refl front sent

end Basic

end Karabiner

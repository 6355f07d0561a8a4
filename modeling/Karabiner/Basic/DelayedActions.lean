import Karabiner.Basic.HoldTimes
import Karabiner.Basic.TimerCalls

/-! # The slot of a delayed action

A delayed action holds one record at a time, which lives on with it. A key_down posts
`to_if_canceled` for the record, and a key_down that is taken puts its own record in its place
(`TimedBasic.manipulate_delayed`). The timer posts `to_if_invoked`
(`TimedBasic.fireDelayedAction_delayed`). Nothing else touches the slot (`TimedBasic.SameDelayed`),
and without it a call posts the same otherwise (`TimedBasic.output_manipulate`).
-/

namespace Karabiner

namespace Sending

/-! ## What a delayed action sends -/

/-- The entries behind the earlier ones send just this. -/
def Adds (sent : List Sent) (before after : List Entry) : Prop :=
  ∃ entries, after = before ++ entries ∧ entries.map Entry.sent = sent

theorem Adds.trans {sent more : List Sent} {before middle after : List Entry}
    (first : Adds sent before middle) (second : Adds more middle after) :
    Adds (sent ++ more) before after := by
  obtain ⟨entries, rfl, rfl⟩ := first
  obtain ⟨later, rfl, rfl⟩ := second
  exact ⟨entries ++ later, List.append_assoc _ _ _, List.map_append⟩

theorem Emits.adds {front : Entry} {sent : List Sent} {holds : List Int} {before after : Sending}
    (emits : Emits front sent holds before after) :
    Adds sent before.queue.events after.queue.events := by
  obtain ⟨entries, events, isSent, -⟩ := emits.posted
  exact ⟨entries, events, isSent⟩

variable [ExpressionLibrary]

/-- What `post_extra_to_events` sends for a list. -/
def extraSent (sending : Sending) (front : Entry) (toEvents : List ToEventDefinition) :
    List Sent :=
  if sending.current.halted then []
  else (sending.filteredList front toEvents).flatMap fun definition =>
    definition.presses front.deviceId ++ definition.releases front.deviceId

/-- What `post_events` of a delayed action sends: the list, with the mandatory modifiers released
and pressed again around it, and the modifiers of the key_down around that. -/
def delayedSent (sending : Sending) (front : Entry) (toEvents : List ToEventDefinition) :
    List Sent :=
  let scope := ScopedModifierFlags.make sending.queue.modifierFlagManager
    sending.current.keyDownModifierFlags
  let modifiers := sending.current.fromMandatoryModifiers
  activeModifierFlagsSent scope.scopedActiveModifierFlags ++
    (modifierFlagsSent front.deviceId .keyUp modifiers ++ sending.extraSent front toEvents ++
      modifierFlagsSent front.deviceId .keyDown modifiers) ++
    activeModifierFlagsSent scope.getInverseActiveModifierFlags

omit [ExpressionLibrary] in
theorem SameChoice.extraSent {before after : Sending} (same : SameChoice before after)
    (front : Entry) (toEvents : List ToEventDefinition) :
    after.extraSent front toEvents = before.extraSent front toEvents := by
  unfold Sending.extraSent
  rw [same.halted, same.filteredList]

variable [MachTimebase]

/-- A list of extra events appends exactly what its elements send, in their order, and changes
nothing that is queued already. -/
theorem adds_postExtraToEvents (sending : Sending) (front : Entry)
    (toEvents : List ToEventDefinition) :
    Adds (sending.extraSent front toEvents) sending.queue.events
      (sending.postExtraToEvents front toEvents).queue.events := by
  unfold extraSent filteredList postExtraToEvents sendFiltered
  cases sending.current.halted with
  | true =>
      rw [if_pos rfl, if_pos rfl]
      exact ⟨[], (List.append_nil _).symm, rfl⟩
  | false =>
      rw [if_neg Bool.false_ne_true, if_neg Bool.false_ne_true]
      exact (emits_postExtraToEvents _ front _).adds

/-- `post_events` of a delayed action sends its list for the record. -/
theorem adds_postDelayedAction (sending : Sending) (front : Entry)
    (toEvents : List ToEventDefinition) :
    Adds (sending.delayedSent front toEvents) sending.queue.events
      (sending.postDelayedAction front toEvents).queue.events := by
  unfold postDelayedAction withKeyDownModifierFlags delayedSent
  dsimp only
  generalize ScopedModifierFlags.make sending.queue.modifierFlagManager
    sending.current.keyDownModifierFlags = scope
  let start : Sending :=
    { sending with queue := { sending.queue with modifierFlagManager := scope.destroy } }
  have unchanged : SameChoice sending start := ⟨rfl, rfl, rfl⟩
  have pushed := emits_postActiveModifierFlags start front scope.scopedActiveModifierFlags
  have same := unchanged.trans (SameChoice.of_continues
    (continues_postActiveModifierFlags front scope.scopedActiveModifierFlags start))
  have current := (sends_postActiveModifierFlags start front scope.scopedActiveModifierFlags).2
  generalize start.postActiveModifierFlags front scope.scopedActiveModifierFlags = inside
    at pushed same current ⊢
  have mandatory : inside.current.fromMandatoryModifiers =
      sending.current.fromMandatoryModifiers := by rw [current]
  rw [mandatory]
  have up := emits_postLazyModifierKeyEvents inside front
    sending.current.fromMandatoryModifiers .keyUp
  have sameUp := same.trans (sameChoice_postLazyModifierKeyEvents inside front
    sending.current.fromMandatoryModifiers .keyUp)
  have released := inside.current_postLazyModifierKeyEvents front
    sending.current.fromMandatoryModifiers .keyUp
  generalize inside.postLazyModifierKeyEvents front sending.current.fromMandatoryModifiers
    .keyUp = lifted at up sameUp released ⊢
  have extra := lifted.adds_postExtraToEvents front toEvents
  have kept := congrArg Prod.fst (lifted.mandatory_sendFiltered front toEvents fun filtered =>
    mandatory_foldl (mandatory_postExtraToEvent front) filtered)
  change (lifted.postExtraToEvents front toEvents).current.fromMandatoryModifiers =
    lifted.current.fromMandatoryModifiers at kept
  rw [sameUp.extraSent] at extra
  rw [kept, released, mandatory]
  have down := emits_postLazyModifierKeyEvents (lifted.postExtraToEvents front toEvents) front
    sending.current.fromMandatoryModifiers .keyDown
  have undone := emits_postActiveModifierFlags ((lifted.postExtraToEvents front
    toEvents).postLazyModifierKeyEvents front sending.current.fromMandatoryModifiers .keyDown)
    front scope.getInverseActiveModifierFlags
  exact (pushed.adds.trans ((up.adds.trans extra).trans down.adds)).trans undone.adds

end Sending

namespace TimedBasic

/-! ## The slot of the delayed action -/

/-- The record that the delayed action holds. -/
def pendingDelayed (manipulator : TimedBasic) : Option Nat :=
  manipulator.toDelayedAction.bind ToDelayedAction.current

/-- There is something to post. -/
def hasDelayedEvents (manipulator : TimedBasic) : Bool :=
  manipulator.toDelayedAction.any fun delayed =>
    !(delayed.toIfInvoked.isEmpty && delayed.toIfCanceled.isEmpty)

/-- The record for which `post_events` posts. -/
def delayedTarget (manipulator : TimedBasic) : Option SharedRecord :=
  manipulator.toDelayedAction.bind fun delayed =>
    delayed.frontInputEvent.bind fun _ => delayed.current.bind manipulator.lock

/-- The manipulator after a call has noted the entry, before it cancels the delayed action. -/
def noted (manipulator : TimedBasic) (front : Entry) : TimedBasic :=
  (manipulator.unsetAloneIfNeeded front.event front.eventType).cancelHeldDown front

/-- The task of the delayed action is due. -/
def delayedIsDue [MachTimebase] (manipulator : TimedBasic) (now : Int) : Bool :=
  manipulator.toDelayedAction.any fun delayed =>
    delayed.task.any fun due => decide (due ≤ MachTimebase.makeMilliseconds now)

/-- A record is held exactly while the task is pending, and it is alive. -/
structure DelayedSound (manipulator : TimedBasic) : Prop where
  task : ∀ delayed, manipulator.toDelayedAction = some delayed →
    (delayed.task.isSome = true ↔ delayed.current.isSome = true)
  front : ∀ delayed, manipulator.toDelayedAction = some delayed →
    delayed.current.isSome = true → delayed.frontInputEvent.isSome = true
  alive : ∀ identity, manipulator.pendingDelayed = some identity →
    ∃ record ∈ manipulator.records, record.identity = identity

/-- The delayed action is as before, and its record is alive. -/
structure SameDelayed (before after : TimedBasic) : Prop where
  toDelayedAction : after.toDelayedAction = before.toDelayedAction
  made : after.made = before.made
  alive : ∀ record ∈ before.records, before.pendingDelayed = some record.identity →
    ∃ later ∈ after.records, later.identity = record.identity

namespace SameDelayed

variable {before middle after : TimedBasic}

theorem pendingDelayed (same : SameDelayed before after) :
    after.pendingDelayed = before.pendingDelayed := by
  rw [TimedBasic.pendingDelayed, same.toDelayedAction]
  rfl

theorem hasDelayedEvents (same : SameDelayed before after) :
    after.hasDelayedEvents = before.hasDelayedEvents := by
  rw [TimedBasic.hasDelayedEvents, same.toDelayedAction]
  rfl

theorem refl (manipulator : TimedBasic) : SameDelayed manipulator manipulator :=
  ⟨rfl, rfl, fun record member _ => ⟨record, member, rfl⟩⟩

theorem trans (one : SameDelayed before middle) (two : SameDelayed middle after) :
    SameDelayed before after where
  toDelayedAction := two.toDelayedAction.trans one.toDelayedAction
  made := two.made.trans one.made
  alive record member isPending := by
    obtain ⟨between, isBetween, same⟩ := one.alive record member isPending
    obtain ⟨later, isLater, sameAgain⟩ := two.alive between isBetween
      (by rw [one.pendingDelayed, isPending, same])
    exact ⟨later, isLater, sameAgain.trans same⟩

/-- Each record is changed by itself. -/
theorem of_map {changed : SharedRecord → SharedRecord}
    (toDelayedAction : after.toDelayedAction = before.toDelayedAction)
    (made : after.made = before.made) (records : after.records = before.records.map changed)
    (identity : ∀ record, (changed record).identity = record.identity) :
    SameDelayed before after where
  toDelayedAction := toDelayedAction
  made := made
  alive record member _ :=
    ⟨changed record, records ▸ List.mem_map_of_mem member, identity record⟩

theorem sound (same : SameDelayed before after) (sound : before.DelayedSound) :
    after.DelayedSound where
  task delayed isDelayed := sound.task delayed (same.toDelayedAction ▸ isDelayed)
  front delayed isDelayed := sound.front delayed (same.toDelayedAction ▸ isDelayed)
  alive identity isPending := by
    rw [same.pendingDelayed] at isPending
    obtain ⟨record, member, rfl⟩ := sound.alive identity isPending
    exact same.alive record member isPending

end SameDelayed

theorem sameDelayed_collect (manipulator : TimedBasic) :
    SameDelayed manipulator manipulator.collect where
  toDelayedAction := rfl
  made := rfl
  alive record member isPending := by
    refine ⟨record, List.mem_filter.mpr ⟨member, ?_⟩, rfl⟩
    rw [pendingDelayed] at isPending
    simp [keepsAlive, isPending]

theorem sameDelayed_changeListed (manipulator : TimedBasic)
    {changed : SharedRecord → SharedRecord}
    (identity : ∀ record, (changed record).identity = record.identity) :
    SameDelayed manipulator (manipulator.changeListed changed) := by
  refine .of_map rfl rfl rfl fun record => ?_
  split
  · exact identity record
  · rfl

theorem sameDelayed_change (manipulator : TimedBasic) (own : Nat)
    {changed : SharedRecord → SharedRecord}
    (identity : ∀ record, (changed record).identity = record.identity) :
    SameDelayed manipulator (manipulator.change own changed) := by
  refine .of_map rfl rfl rfl fun record => ?_
  split
  · exact identity record
  · rfl

theorem sameDelayed_stopHeldDown (manipulator : TimedBasic) :
    SameDelayed manipulator manipulator.stopHeldDown :=
  .of_map rfl rfl (List.map_id _).symm fun _ => rfl

theorem sameDelayed_unsetAloneIfNeeded (manipulator : TimedBasic) (event : Event)
    (eventType : EventType) :
    SameDelayed manipulator (manipulator.unsetAloneIfNeeded event eventType) := by
  rw [unsetAloneIfNeeded]
  split
  · exact manipulator.sameDelayed_changeListed fun _ => rfl
  · exact .refl manipulator

theorem sameDelayed_note (manipulator : TimedBasic) (front : Entry) :
    SameDelayed manipulator (manipulator.noted front) := by
  refine (manipulator.sameDelayed_unsetAloneIfNeeded front.event front.eventType).trans ?_
  unfold noted cancelHeldDown
  split
  · exact sameDelayed_stopHeldDown _
  · exact .refl _

theorem sameDelayed_eraseDevice (manipulator : TimedBasic) (deviceId : DeviceId) :
    SameDelayed manipulator (manipulator.eraseDevice deviceId) := by
  refine SameDelayed.trans ?_ (sameDelayed_collect _)
  exact manipulator.sameDelayed_changeListed fun _ => rfl

/-- `post_events` posts for the record that is held. -/
theorem DelayedSound.delayedTarget {manipulator : TimedBasic} (sound : manipulator.DelayedSound) :
    manipulator.delayedTarget.map SharedRecord.identity = manipulator.pendingDelayed := by
  cases isDelayed : manipulator.toDelayedAction with
  | none => simp [TimedBasic.delayedTarget, pendingDelayed, isDelayed]
  | some delayed =>
      cases isCurrent : delayed.current with
      | none =>
          cases isFront : delayed.frontInputEvent <;>
            simp [TimedBasic.delayedTarget, pendingDelayed, isDelayed, isCurrent, isFront]
      | some identity =>
          obtain ⟨front, isFront⟩ := Option.isSome_iff_exists.mp
            (sound.front delayed isDelayed (by rw [isCurrent]; rfl))
          have isPending : manipulator.pendingDelayed = some identity := by
            rw [pendingDelayed, isDelayed]
            exact isCurrent
          obtain ⟨record, member, isRecord⟩ := sound.alive identity isPending
          cases found : manipulator.lock identity with
          | none =>
              have different := List.find?_eq_none.mp found record member
              exact absurd (beq_iff_eq.mpr isRecord) different
          | some locked =>
              rw [isPending]
              simp [TimedBasic.delayedTarget, isDelayed, isCurrent, isFront, found,
                (lock_eq_some found).2]

/-! ## Calls -/

variable [ExpressionLibrary] [MachTimebase]

/-- A list of the delayed action was posted for the record that it holds, with the key_down that
has set it up. -/
structure PostedDelayed (manipulator : TimedBasic) (record : SharedRecord)
    (chosen : ToDelayedAction → List ToEventDefinition) (before after : EventQueue) : Prop where
  alive : record ∈ manipulator.records
  posted : ∃ delayed front, manipulator.toDelayedAction = some delayed ∧
    delayed.current = some record.identity ∧ delayed.frontInputEvent = some front ∧
    Sending.Adds (Sending.delayedSent ⟨before, 0, record.current⟩ front (chosen delayed))
      before.events after.events

/-- `post_events` posts the list for its record, and for no other. -/
theorem postDelayedEvents_output (manipulator : TimedBasic) {delayed : ToDelayedAction}
    (isDelayed : manipulator.toDelayedAction = some delayed)
    (chosen : ToDelayedAction → List ToEventDefinition) (output : EventQueue) :
    (manipulator.delayedTarget = none →
        (manipulator.postDelayedEvents delayed (chosen delayed) output).2 = output) ∧
      ∀ record, manipulator.delayedTarget = some record →
        PostedDelayed manipulator record chosen output
          (manipulator.postDelayedEvents delayed (chosen delayed) output).2 := by
  rw [delayedTarget, isDelayed, Option.bind_some, postDelayedEvents]
  cases isFront : delayed.frontInputEvent with
  | none => exact ⟨fun _ => rfl, nofun⟩
  | some front =>
      rw [Option.bind_some]
      cases isLocked : delayed.current.bind manipulator.lock with
      | none => exact ⟨fun _ => rfl, nofun⟩
      | some record =>
          refine ⟨nofun, fun own same => ?_⟩
          obtain rfl := Option.some.inj same
          obtain ⟨identity, isCurrent, found⟩ := Option.bind_eq_some_iff.mp isLocked
          obtain ⟨isRecord, rfl⟩ := lock_eq_some found
          exact ⟨isRecord, delayed, front, isDelayed, isCurrent, isFront,
            Sending.adds_postDelayedAction ⟨output, 0, record.current⟩ front (chosen delayed)⟩

/-- Afterwards no record is held. -/
theorem postDelayedEvents_idle (manipulator : TimedBasic) {delayed : ToDelayedAction}
    (isDelayed : manipulator.toDelayedAction = some delayed) (toEvents : List ToEventDefinition)
    (output : EventQueue) :
    let after := (manipulator.postDelayedEvents delayed toEvents output).1
    after.DelayedSound ∧ after.pendingDelayed = none ∧ after.made = manipulator.made ∧
      after.hasDelayedEvents = manipulator.hasDelayedEvents := by
  let released : ToDelayedAction := { delayed with
    current := none
    task := none }
  have whole : (manipulator.postDelayedEvents delayed toEvents output).1.toDelayedAction =
        some released ∧
      (manipulator.postDelayedEvents delayed toEvents output).1.made = manipulator.made := by
    rw [postDelayedEvents]
    split <;> exact ⟨rfl, rfl⟩
  obtain ⟨isReleased, made⟩ := whole
  have idle : (manipulator.postDelayedEvents delayed toEvents output).1.pendingDelayed = none := by
    rw [pendingDelayed, isReleased]
    rfl
  refine ⟨⟨fun own isOwn => ?_, fun own isOwn => ?_, fun identity isPending => ?_⟩, idle, made, ?_⟩
  · rw [isReleased] at isOwn
    obtain rfl := Option.some.inj isOwn
    exact Iff.rfl
  · rw [isReleased] at isOwn
    obtain rfl := Option.some.inj isOwn
    exact nofun
  · rw [idle] at isPending
    cases isPending
  · rw [hasDelayedEvents, hasDelayedEvents, isReleased, isDelayed]
    rfl

/-- A key_down posts `to_if_canceled`. -/
theorem cancelTimers_posts (manipulator : TimedBasic) {front : Entry}
    (isDown : front.eventType = .keyDown) (output : EventQueue) :
    ((manipulator.noted front).delayedTarget = none →
        (manipulator.cancelTimers front output).2 = output) ∧
      ∀ record, (manipulator.noted front).delayedTarget = some record →
        PostedDelayed (manipulator.noted front) record ToDelayedAction.toIfCanceled output
          (manipulator.cancelTimers front output).2 := by
  unfold cancelTimers cancelDelayedAction noted
  rw [if_pos isDown]
  generalize (manipulator.unsetAloneIfNeeded front.event front.eventType).cancelHeldDown front =
    noted
  cases isDelayed : noted.toDelayedAction with
  | none =>
      have noTarget : noted.delayedTarget = none := by rw [delayedTarget, isDelayed]; rfl
      refine ⟨fun _ => rfl, fun record isTarget => ?_⟩
      rw [noTarget] at isTarget
      cases isTarget
  | some delayed => exact noted.postDelayedEvents_output isDelayed ToDelayedAction.toIfCanceled output

/-- Nothing else cancels the delayed action. -/
theorem cancelTimers_of_ne (manipulator : TimedBasic) {front : Entry}
    (notDown : front.eventType ≠ .keyDown) (output : EventQueue) :
    manipulator.cancelTimers front output = (manipulator.noted front, output) := by
  unfold cancelTimers cancelDelayedAction
  rw [if_neg notDown]
  rfl

/-- The task posts `to_if_invoked` when it is due. -/
theorem fireDelayedAction_posts (manipulator : TimedBasic) {now : Int}
    (isDue : manipulator.delayedIsDue now = true) (output : EventQueue) :
    (manipulator.delayedTarget = none →
        (manipulator.fireDelayedAction output now).2 = output) ∧
      ∀ record, manipulator.delayedTarget = some record →
        PostedDelayed manipulator record ToDelayedAction.toIfInvoked output
          (manipulator.fireDelayedAction output now).2 := by
  rw [fireDelayedAction]
  cases isDelayed : manipulator.toDelayedAction with
  | none =>
      rw [delayedIsDue, isDelayed] at isDue
      cases isDue
  | some delayed =>
      rw [delayedIsDue, isDelayed, Option.any_some] at isDue
      dsimp only
      rw [if_pos isDue]
      exact manipulator.postDelayedEvents_output isDelayed ToDelayedAction.toIfInvoked output

/-- A call of the delayed action that is not due, or that has been cancelled meanwhile, posts
nothing. -/
theorem fireDelayedAction_of_not_due (manipulator : TimedBasic) {now : Int}
    (notDue : manipulator.delayedIsDue now = false) (output : EventQueue) :
    (manipulator.fireDelayedAction output now).2 = output := by
  rw [fireDelayedAction]
  cases isDelayed : manipulator.toDelayedAction with
  | none => rfl
  | some delayed =>
      rw [delayedIsDue, isDelayed, Option.any_some] at notDue
      dsimp only
      rw [notDue, if_neg Bool.false_ne_true]

/-! ## A call without the delayed action -/

omit [ExpressionLibrary] [MachTimebase] in
/-- The manipulator without its delayed action. -/
def withoutDelayedAction (manipulator : TimedBasic) : TimedBasic :=
  { manipulator with toDelayedAction := none }

omit [ExpressionLibrary] [MachTimebase] in
theorem noted_withoutDelayedAction (manipulator : TimedBasic) (front : Entry) :
    manipulator.withoutDelayedAction.noted front =
      (manipulator.noted front).withoutDelayedAction := by
  unfold noted withoutDelayedAction unsetAloneIfNeeded cancelHeldDown
  split <;> split <;> rfl

/-- Without the delayed action nothing is canceled. -/
theorem cancelTimers_withoutDelayedAction (manipulator : TimedBasic) (front : Entry)
    (output : EventQueue) :
    manipulator.withoutDelayedAction.cancelTimers front output =
      ((manipulator.noted front).withoutDelayedAction, output) := by
  rw [← noted_withoutDelayedAction]
  unfold cancelTimers cancelDelayedAction
  split
  · have none : (manipulator.withoutDelayedAction.noted front).toDelayedAction = none := by
      rw [noted_withoutDelayedAction]
      rfl
    unfold noted at none
    rw [none]
    rfl
  · rfl

theorem output_manipulateKeyDown {one other : TimedBasic} (same : one.basic = other.basic)
    (front : Entry) (input output : EventQueue) (now : Int) :
    (one.manipulateKeyDown front input output now).2.2.2 =
      (other.manipulateKeyDown front input output now).2.2.2 := by
  unfold manipulateKeyDown
  rw [same]
  split <;> rfl

theorem output_manipulateKeyUp (manipulator : TimedBasic) (front : Entry) (output : EventQueue) :
    (manipulator.withoutDelayedAction.manipulateKeyUp front output).2.2.2 =
      (manipulator.manipulateKeyUp front output).2.2.2 := by
  unfold manipulateKeyUp withoutDelayedAction
  dsimp only
  split <;> rfl

/-- Behind what the delayed action posts, a call posts what it would post without it. -/
theorem output_manipulate (manipulator : TimedBasic) (front : Entry) (input output : EventQueue)
    (now : Int) :
    (manipulator.manipulate front input output now).2.2.2 =
      (manipulator.withoutDelayedAction.manipulate front input
        (manipulator.cancelTimers front output).2 now).2.2.2 := by
  have basic := manipulator.basic_cancelTimers front output
  have same := manipulator.withoutDelayedAction.basic_cancelTimers front
    (manipulator.cancelTimers front output).2
  unfold manipulate
  rw [cancelTimers_withoutDelayedAction] at same ⊢
  dsimp only at same ⊢
  rw [basic, same]
  change _ = (if _ then _ else if FromEventDefinition.testEvent _ manipulator.basic.from_ = true
    then _ else _ : ManipulateResult × TimedBasic × Entry × EventQueue).2.2.2
  split
  · rfl
  · split
    · cases type : front.eventType with
      | single => rfl
      | keyDown => exact output_manipulateKeyDown (basic.trans same.symm) front input _ now
      | keyUp =>
          have notDown : front.eventType ≠ .keyDown := by rw [type]; exact nofun
          rw [cancelTimers_of_ne manipulator notDown output]
          exact (output_manipulateKeyUp _ front output).symm
    · rfl

/-- A key_down cancels the delayed action, and no other entry does anything to it. -/
theorem cancelTimers_delayed {manipulator : TimedBasic} (sound : manipulator.DelayedSound)
    (front : Entry) (output : EventQueue) :
    let after := (manipulator.cancelTimers front output).1
    (front.eventType ≠ .keyDown → SameDelayed manipulator after) ∧
      (front.eventType = .keyDown → after.DelayedSound ∧ after.pendingDelayed = none ∧
        after.made = manipulator.made ∧
        after.hasDelayedEvents = manipulator.hasDelayedEvents) := by
  have noted := manipulator.sameDelayed_note front
  dsimp only
  rw [cancelTimers, cancelDelayedAction]
  unfold TimedBasic.noted at noted
  generalize (manipulator.unsetAloneIfNeeded front.event front.eventType).cancelHeldDown front =
    before at noted
  by_cases isDown : front.eventType = .keyDown
  · rw [if_pos isDown]
    refine ⟨fun notDown => absurd isDown notDown, fun _ => ?_⟩
    cases isDelayed : before.toDelayedAction with
    | none =>
        refine ⟨noted.sound sound, ?_, noted.made, noted.hasDelayedEvents⟩
        rw [pendingDelayed, isDelayed]
        rfl
    | some delayed =>
        obtain ⟨isSound, idle, made, has⟩ :=
          before.postDelayedEvents_idle isDelayed delayed.toIfCanceled output
        exact ⟨isSound, idle, made.trans noted.made, has.trans noted.hasDelayedEvents⟩
  · rw [if_neg isDown]
    exact ⟨fun _ => noted, fun down => absurd down isDown⟩

omit [ExpressionLibrary] in
/-- The delayed action is set up for a record that is alive. -/
theorem setUpDelayedAction_delayed {manipulator : TimedBasic} (sound : manipulator.DelayedSound)
    (idle : manipulator.pendingDelayed = none) {identity : Nat}
    (alive : ∃ record ∈ manipulator.records, record.identity = identity) (front : Entry)
    (now : Int) :
    (manipulator.setUpDelayedAction front identity now).DelayedSound ∧
      (manipulator.setUpDelayedAction front identity now).pendingDelayed =
        if manipulator.hasDelayedEvents then some identity else none := by
  cases isDelayed : manipulator.toDelayedAction with
  | none =>
      have same : manipulator.setUpDelayedAction front identity now = manipulator := by
        rw [setUpDelayedAction, isDelayed, Option.map_none, ← isDelayed]
      rw [same, hasDelayedEvents, isDelayed]
      exact ⟨sound, idle⟩
  | some delayed =>
      have isHas : manipulator.hasDelayedEvents =
          !(delayed.toIfInvoked.isEmpty && delayed.toIfCanceled.isEmpty) := by
        rw [hasDelayedEvents, isDelayed]
        rfl
      by_cases nothing : (delayed.toIfInvoked.isEmpty && delayed.toIfCanceled.isEmpty) = true
      · have same : manipulator.setUpDelayedAction front identity now = manipulator := by
          rw [setUpDelayedAction, isDelayed, Option.map_some, if_pos nothing, ← isDelayed]
        rw [same, isHas, nothing]
        exact ⟨sound, idle⟩
      · have isSetUp : (manipulator.setUpDelayedAction front identity now).toDelayedAction =
            some { delayed with
              frontInputEvent := some front
              current := some identity
              task := some (due now delayed.delayMilliseconds) } := by
          rw [setUpDelayedAction, isDelayed, Option.map_some, if_neg nothing]
        have isPending : (manipulator.setUpDelayedAction front identity now).pendingDelayed =
            some identity := by
          rw [pendingDelayed, isSetUp]
          rfl
        have has : manipulator.hasDelayedEvents = true := by
          rw [isHas, Bool.eq_false_iff.mpr nothing]
          rfl
        rw [isPending, has, if_pos rfl]
        refine ⟨⟨fun own isOwn => ?_, fun own isOwn _ => ?_, fun own isOwn => ?_⟩, rfl⟩
        · rw [isSetUp] at isOwn
          obtain rfl := Option.some.inj isOwn
          exact Iff.rfl
        · rw [isSetUp] at isOwn
          obtain rfl := Option.some.inj isOwn
          rfl
        · obtain rfl := Option.some.inj (isPending.symm.trans isOwn)
          exact alive

/-- A key_down that is taken sets up the delayed action for its new record. -/
theorem manipulateKeyDown_delayed {manipulator : TimedBasic} (sound : manipulator.DelayedSound)
    (idle : manipulator.pendingDelayed = none) (front : Entry) (input output : EventQueue)
    (now : Int) :
    let answer := manipulator.manipulateKeyDown front input output now
    answer.2.1.DelayedSound ∧
      (answer.1 ≠ .manipulated → answer.2.1.made = manipulator.made ∧
        answer.2.1.pendingDelayed = none) ∧
      (answer.1 = .manipulated → answer.2.1.made = manipulator.made + 1 ∧
        answer.2.1.pendingDelayed =
          if manipulator.hasDelayedEvents then some manipulator.made else none) := by
  unfold manipulateKeyDown
  generalize manipulator.basic.decideKeyDown front input.events output now = decided
  obtain ⟨decision, delayed, environment⟩ := decided
  cases decision with
  | notTarget => exact ⟨sound, fun _ => ⟨rfl, idle⟩, nofun⟩
  | waits => exact ⟨sound, fun _ => ⟨rfl, idle⟩, nofun⟩
  | claims fromEvents mandatory =>
      dsimp only
      generalize manipulator.basic.sendAtKeyDown delayed _ = sent
      let added := (manipulator.addRecord sent.current).setUpHeldDown
        { delayed with validity := .invalid } manipulator.made now
      have addedSound : added.DelayedSound :=
        ⟨sound.task, sound.front, fun identity isPending => by
          obtain ⟨record, member, same⟩ := sound.alive identity isPending
          exact ⟨record, List.mem_append_left _ member, same⟩⟩
      have addedAlive : ∃ record ∈ added.records, record.identity = manipulator.made :=
        ⟨_, List.mem_append_right _ List.mem_cons_self, rfl⟩
      obtain ⟨isSound, isPending⟩ := setUpDelayedAction_delayed addedSound idle addedAlive
        { delayed with validity := .invalid } now
      have collected := sameDelayed_collect
        (added.setUpDelayedAction { delayed with validity := .invalid } manipulator.made now)
      exact ⟨collected.sound isSound, fun notTaken => absurd rfl notTaken,
        fun _ => ⟨collected.made, collected.pendingDelayed.trans isPending⟩⟩

/-- A key_up leaves the delayed action as it is. -/
theorem manipulateKeyUp_delayed (manipulator : TimedBasic) (front : Entry) (output : EventQueue) :
    SameDelayed manipulator (manipulator.manipulateKeyUp front output).2.1 := by
  unfold manipulateKeyUp
  split
  · exact .refl manipulator
  · refine SameDelayed.trans ?_ (sameDelayed_collect _)
    refine SameDelayed.trans ?_ (sameDelayed_stopHeldDown _)
    exact manipulator.sameDelayed_change _ fun _ => rfl

/-- What a call does to the delayed action. -/
theorem manipulate_delayed {manipulator : TimedBasic} (sound : manipulator.DelayedSound)
    (front : Entry) (input output : EventQueue) (now : Int) :
    let answer := manipulator.manipulate front input output now
    (front.eventType ≠ .keyDown → SameDelayed manipulator answer.2.1) ∧
      (front.eventType = .keyDown → answer.2.1.DelayedSound ∧
        (answer.1 ≠ .manipulated → answer.2.1.made = manipulator.made ∧
          answer.2.1.pendingDelayed = none) ∧
        (answer.1 = .manipulated → answer.2.1.made = manipulator.made + 1 ∧
          answer.2.1.pendingDelayed =
            if manipulator.hasDelayedEvents then some manipulator.made else none)) := by
  obtain ⟨kept, canceled⟩ := cancelTimers_delayed sound front output
  unfold manipulate
  generalize manipulator.cancelTimers front output = after at kept canceled
  obtain ⟨noted, posted⟩ := after
  dsimp only at kept canceled ⊢
  by_cases isDown : front.eventType = .keyDown
  · obtain ⟨isSound, idle, made, has⟩ := canceled isDown
    refine ⟨fun notDown => absurd isDown notDown, fun _ => ?_⟩
    split
    · exact ⟨isSound, fun _ => ⟨made, idle⟩, nofun⟩
    · split
      · rw [isDown]
        have answer := manipulateKeyDown_delayed isSound idle front input posted now
        rw [made, has] at answer
        exact answer
      · exact ⟨isSound, fun _ => ⟨made, idle⟩, nofun⟩
  · refine ⟨fun _ => ?_, fun down => absurd down isDown⟩
    have same := kept isDown
    split
    · exact same
    · split
      · cases isType : front.eventType with
        | keyDown => exact absurd isType isDown
        | keyUp => exact same.trans (noted.manipulateKeyUp_delayed front posted)
        | single => exact same
      · exact same

/-- The task of the delayed action fires. -/
theorem fireDelayedAction_delayed {manipulator : TimedBasic} (sound : manipulator.DelayedSound)
    (output : EventQueue) (now : Int) :
    let after := (manipulator.fireDelayedAction output now).1
    after.DelayedSound ∧ after.made = manipulator.made ∧
      after.pendingDelayed =
        if manipulator.delayedIsDue now then none else manipulator.pendingDelayed := by
  unfold fireDelayedAction delayedIsDue
  cases isDelayed : manipulator.toDelayedAction with
  | none => exact ⟨sound, rfl, rfl⟩
  | some delayed =>
      dsimp only [Option.any_some]
      split
      · obtain ⟨isSound, idle, made, -⟩ :=
          manipulator.postDelayedEvents_idle isDelayed delayed.toIfInvoked output
        exact ⟨isSound, made, idle⟩
      · exact ⟨sound, rfl, rfl⟩

/-- The held down timer leaves the delayed action of the manipulator as it is: the two share the
record only. -/
theorem fireHeldDown_delayed (manipulator : TimedBasic) (output : EventQueue) (now : Int) :
    SameDelayed manipulator (manipulator.fireHeldDown output now).1 := by
  unfold fireHeldDown
  split
  · refine SameDelayed.trans ?_ (sameDelayed_stopHeldDown _)
    exact manipulator.sameDelayed_change _ fun _ => rfl
  · dsimp only
    split
    · exact manipulator.sameDelayed_stopHeldDown
    · exact .refl manipulator

end TimedBasic

end Karabiner

import Karabiner.EventQueue.Queue
import Karabiner.ModifierFlags.Scoped

/-! # Sticky modifier commands

A sticky modifier event pushes one flag: `on` adds one to the sum of the sticky
flags of its modifier, `off` takes one away, and `toggle` takes one away when there
is any sticky flag. The modifier is sticky when the sum is positive, so what a
command does depends on the sum it finds
(`Karabiner.EventQueue.stickyCommand_obeyed_iff`): the flags add up over repeated
commands and over devices, where the locks of keys replace each other.
-/

namespace Karabiner

namespace EventQueue

/-- What changes an event queue: its own member functions, the entries and the
environment its accessors give away, and the two callers that edit the modifier
flags. -/
inductive Operation where
  | pushBackEntry (entry : Entry)
  | clearEvents
  | eraseFrontEvent
  | editEvents (events : List Entry)
  | eraseAllActiveModifierFlagsExceptLockAndSticky (deviceId : DeviceId)
  | eraseAllActiveModifierFlags (deviceId : DeviceId)
  | eraseCapsLockStickyModifierFlags
  | scopeModifierFlags (modifierFlags : List ModifierFlag)
  | eraseAllActivePointingButtonsExceptLock (deviceId : DeviceId)
  | eraseAllActivePointingButtons (deviceId : DeviceId)
  | editEnvironment (environment : ManipulatorEnvironment)
  | increaseTimeStampDelay (value : Int)
  | sortEvents

/-- One operation. A scope of modifier flags is closed again before the next one. -/
def apply [ExpressionLibrary] (queue : EventQueue) : Operation → EventQueue
  | .pushBackEntry entry => queue.pushBackEntry entry
  | .clearEvents => queue.clearEvents
  | .eraseFrontEvent => queue.eraseFrontEvent
  | .editEvents events => { queue with events }
  | .eraseAllActiveModifierFlagsExceptLockAndSticky deviceId =>
      queue.eraseAllActiveModifierFlagsExceptLockAndSticky deviceId
  | .eraseAllActiveModifierFlags deviceId => queue.eraseAllActiveModifierFlags deviceId
  | .eraseCapsLockStickyModifierFlags =>
      { queue with
        modifierFlagManager := queue.modifierFlagManager.eraseCapsLockStickyModifierFlags }
  | .scopeModifierFlags modifierFlags =>
      { queue with
        modifierFlagManager :=
          (ScopedModifierFlags.make queue.modifierFlagManager modifierFlags).destroy }
  | .eraseAllActivePointingButtonsExceptLock deviceId =>
      queue.eraseAllActivePointingButtonsExceptLock deviceId
  | .eraseAllActivePointingButtons deviceId => queue.eraseAllActivePointingButtons deviceId
  | .editEnvironment environment => { queue with manipulatorEnvironment := environment }
  | .increaseTimeStampDelay value => queue.increaseTimeStampDelay value
  | .sortEvents => queue.sortEvents

/-- The queue after some operations. -/
def run [ExpressionLibrary] (operations : List Operation) : EventQueue :=
  operations.foldl apply initial

end EventQueue

namespace ModifierFlagManager

open Foundation.CancellingList

/-! ## Sticky sums -/

/-- The sticky flags of a modifier. -/
def stickyCounts (modifierFlag : ModifierFlag) (flag : ActiveModifierFlag) : Bool :=
  flag.modifierFlag == modifierFlag && flag.sticky

/-- The sum that `is_sticky_active` compares with zero. -/
def stickySum (manager : ModifierFlagManager) (modifierFlag : ModifierFlag) : Int :=
  manager.weigh (stickyCounts modifierFlag)

/-- The sum of the flags of a modifier that are neither sticky nor the LED's. -/
def plainSum (manager : ModifierFlagManager) (modifierFlag : ModifierFlag) : Int :=
  manager.weigh fun flag => ownCounts modifierFlag flag && !flag.sticky

theorem isStickyActive_iff (manager : ModifierFlagManager) (modifierFlag : ModifierFlag) :
    manager.isStickyActive modifierFlag = true ↔ 0 < manager.stickySum modifierFlag := by
  unfold isStickyActive stickySum weigh stickyCounts
  rw [decide_eq_true_iff, gt_iff_lt]

theorem stickySum_eq_zero {manager : ModifierFlagManager} {modifierFlag : ModifierFlag}
    (none : manager.stickySize modifierFlag = 0) : manager.stickySum modifierFlag = 0 := by
  have empty : manager.activeModifierFlags.filter (stickyCounts modifierFlag) = [] := by
    rw [← List.length_eq_zero_iff, ← List.countP_eq_length_filter]
    exact none
  unfold stickySum weigh
  rw [empty]
  rfl

theorem sticky_notLed {flag : ActiveModifierFlag} (led : flag.ledLock = true) :
    flag.sticky = false := by
  unfold ActiveModifierFlag.ledLock at led
  unfold ActiveModifierFlag.sticky
  revert led
  cases flag.type <;> simp [ActiveModifierFlagType.ledLock, ActiveModifierFlagType.sticky]

theorem sticky_inverse (flag : ActiveModifierFlag) : flag.inverse.sticky = flag.sticky := by
  unfold ActiveModifierFlag.sticky
  rw [ActiveModifierFlag.inverse_type]
  cases flag.type <;> rfl

/-- A flag of an event in the queue changes the sum of its sticky modifier by what it counts, and no
other. -/
theorem Queued.stickySum_pushBack {manager : ModifierFlagManager}
    {counters : ModifierFlagCounters} (reached : Queued manager counters)
    {flag : ActiveModifierFlag} (queued : flag.type ∈ queuedTypes) (modifierFlag : ModifierFlag) :
    (manager.pushBackActiveModifierFlag flag).stickySum modifierFlag =
      manager.stickySum modifierFlag + weight (stickyCounts modifierFlag) flag := by
  refine reached.weigh_pushBack queued (fun f => ?_) fun f led => ?_
  · unfold stickyCounts
    rw [sticky_inverse, ActiveModifierFlag.inverse_modifierFlag]
  · unfold stickyCounts
    rw [sticky_notLed led, Bool.and_false]

theorem Queued.plainSum_pushBack {manager : ModifierFlagManager}
    {counters : ModifierFlagCounters} (reached : Queued manager counters)
    {flag : ActiveModifierFlag} (queued : flag.type ∈ queuedTypes) (modifierFlag : ModifierFlag) :
    (manager.pushBackActiveModifierFlag flag).plainSum modifierFlag =
      manager.plainSum modifierFlag +
        weight (fun f => ownCounts modifierFlag f && !f.sticky) flag := by
  refine reached.weigh_pushBack queued (fun f => ?_) fun f led => ?_
  · rw [sticky_inverse, ownCounts_inverse]
  · rw [ownCounts_ledLock modifierFlag led, Bool.false_and]

/-- The sum of `is_pressed` is made of these two. -/
theorem weigh_ownCounts (manager : ModifierFlagManager) (modifierFlag : ModifierFlag) :
    manager.weigh (ownCounts modifierFlag) =
      manager.plainSum modifierFlag + manager.stickySum modifierFlag := by
  unfold plainSum stickySum
  simp only [weigh_eq]
  induction manager.activeModifierFlags with
  | nil => rfl
  | cons flag rest ih =>
      have here : weight (ownCounts modifierFlag) flag =
          weight (fun f => ownCounts modifierFlag f && !f.sticky) flag +
            weight (stickyCounts modifierFlag) flag := by
        unfold weight ownCounts stickyCounts
        cases sticky : flag.sticky with
        | false => simp [sticky]
        | true =>
            have notLed : flag.ledLock = false := by
              rw [Bool.eq_false_iff]
              intro led
              rw [sticky_notLed led] at sticky
              cases sticky
            simp [sticky, notLed]
      simp only [List.map_cons, List.sum_cons, here, ih]
      omega

theorem Queued.isPressed_iff_sums {manager : ModifierFlagManager}
    {counters : ModifierFlagCounters} (reached : Queued manager counters)
    {modifierFlag : ModifierFlag} (dark : counters.led modifierFlag = false) :
    manager.isPressed modifierFlag = true ↔
      0 < manager.plainSum modifierFlag + manager.stickySum modifierFlag := by
  rw [isPressed_iff_weigh reached.represents, dark, weigh_ownCounts]
  simp

/-- Without the sticky flags only the other flags count. -/
theorem Queued.isPressed_eraseAllSticky_iff {manager : ModifierFlagManager}
    {counters : ModifierFlagCounters} (reached : Queued manager counters)
    {modifierFlag : ModifierFlag} (dark : counters.led modifierFlag = false) :
    manager.eraseAllStickyModifierFlags.isPressed modifierFlag = true ↔
      0 < manager.plainSum modifierFlag := by
  have represents := reached.represents.apply .eraseAllSticky
  have stays : (ModifierFlagOperation.count counters .eraseAllSticky).led modifierFlag = false := by
    unfold ModifierFlagOperation.count ModifierFlagCounters.erase
    dsimp only
    rw [dark, Bool.false_and]
  have sum : manager.eraseAllStickyModifierFlags.weigh (ownCounts modifierFlag) =
      manager.plainSum modifierFlag := by
    unfold plainSum weigh eraseAllStickyModifierFlags
    dsimp only
    rw [List.filter_filter]
  have pressed := isPressed_iff_weigh represents modifierFlag
  rw [stays] at pressed
  simp only [Bool.false_eq_true, and_false, or_false] at pressed
  rw [← sum]
  exact pressed

/-! ## Commands -/

/-- What a sticky modifier command says it does, and that it does nothing else to
the sticky modifiers. -/
structure ObeysStickyCommand (before after : ModifierFlagManager) (modifierFlag : ModifierFlag)
    (type : StickyModifierType) : Prop where
  active : after.isStickyActive modifierFlag =
    match type with
    | .on => true
    | .off => false
    | .toggle => !before.isStickyActive modifierFlag
  others : ∀ other, other ≠ modifierFlag → after.isStickyActive other = before.isStickyActive other
  released : type = .off →
    after.isPressed modifierFlag = after.eraseAllStickyModifierFlags.isPressed modifierFlag

/-- The states in which one more or one less is what the command says. -/
def StickyCommandFits (manager : ModifierFlagManager) (modifierFlag : ModifierFlag) :
    StickyModifierType → Prop
  | .on => 0 ≤ manager.stickySum modifierFlag
  | .off =>
      manager.stickySum modifierFlag ≤ 1 ∧
        ¬ (0 < manager.plainSum modifierFlag ∧
          manager.plainSum modifierFlag ≤ 1 - manager.stickySum modifierFlag)
  | .toggle => manager.stickySize modifierFlag = 0 ∨ manager.stickySum modifierFlag = 1

theorem isStickyActive_congr {first second : ModifierFlagManager} {modifierFlag : ModifierFlag}
    (same : first.stickySum modifierFlag = second.stickySum modifierFlag) :
    first.isStickyActive modifierFlag = second.isStickyActive modifierFlag := by
  rw [Bool.eq_iff_iff, isStickyActive_iff, isStickyActive_iff, same]

/-- The sums after a sticky flag of the modifier was pushed. -/
theorem Queued.sums_pushBack_sticky {manager : ModifierFlagManager}
    {counters : ModifierFlagCounters} (reached : Queued manager counters)
    {type : ActiveModifierFlagType} (sticky : type = .increaseSticky ∨ type = .decreaseSticky)
    (modifierFlag : ModifierFlag) (deviceId : DeviceId) :
    let after := manager.pushBackActiveModifierFlag (.make type modifierFlag deviceId)
    after.stickySum modifierFlag = manager.stickySum modifierFlag + type.getCount ∧
      after.plainSum modifierFlag = manager.plainSum modifierFlag ∧
      ∀ other, other ≠ modifierFlag → after.stickySum other = manager.stickySum other := by
  have queued : (ActiveModifierFlag.make type modifierFlag deviceId).type ∈ queuedTypes := by
    rcases sticky with rfl | rfl <;>
      simp [queuedTypes, summedTypes, ActiveModifierFlag.make]
  have isSticky : (ActiveModifierFlag.make type modifierFlag deviceId).sticky = true := by
    rcases sticky with rfl | rfl <;> rfl
  refine ⟨?_, ?_, fun other different => ?_⟩
  · rw [reached.stickySum_pushBack queued, weight, stickyCounts, isSticky]
    simp [ActiveModifierFlag.make, ActiveModifierFlag.getCount]
  · rw [reached.plainSum_pushBack queued, weight, isSticky]
    simp
  · rw [reached.stickySum_pushBack queued, weight, stickyCounts]
    simp [ActiveModifierFlag.make, Ne.symm different]

/-- A command is obeyed exactly in the states it fits. -/
theorem Queued.obeysStickyCommand_iff {manager : ModifierFlagManager}
    {counters : ModifierFlagCounters} (reached : Queued manager counters)
    {modifierFlag : ModifierFlag} (dark : counters.led modifierFlag = false)
    (type : StickyModifierType) (deviceId : DeviceId) :
    ObeysStickyCommand manager
        (manager.pushBackActiveModifierFlag
          (.make (EventQueue.stickyFlagType manager modifierFlag type) modifierFlag deviceId))
        modifierFlag type ↔
      StickyCommandFits manager modifierFlag type := by
  -- The sums after the command, by the type of the flag it pushes.
  have sums : ∀ pushed, pushed = .increaseSticky ∨ pushed = .decreaseSticky →
      let after := manager.pushBackActiveModifierFlag (.make pushed modifierFlag deviceId)
      (after.isStickyActive modifierFlag = true ↔
        0 < manager.stickySum modifierFlag + pushed.getCount) ∧
      (∀ other, other ≠ modifierFlag →
        after.isStickyActive other = manager.isStickyActive other) ∧
      (after.isPressed modifierFlag = after.eraseAllStickyModifierFlags.isPressed modifierFlag ↔
        (0 < manager.plainSum modifierFlag +
            (manager.stickySum modifierFlag + pushed.getCount) ↔
          0 < manager.plainSum modifierFlag)) := by
    intro pushed sticky
    obtain ⟨own, plain, others⟩ := reached.sums_pushBack_sticky sticky modifierFlag deviceId
    have queued : (ActiveModifierFlag.make pushed modifierFlag deviceId).type ∈ queuedTypes := by
      rcases sticky with rfl | rfl <;> simp [queuedTypes, summedTypes, ActiveModifierFlag.make]
    have notLed : (ActiveModifierFlag.make pushed modifierFlag deviceId).ledLock = false := by
      rcases sticky with rfl | rfl <;> rfl
    have stays : (counters.push (.make pushed modifierFlag deviceId)).led modifierFlag = false := by
      rw [push_led, notLed, Bool.false_and, if_neg Bool.false_ne_true]
      exact dark
    have later := reached.pushBack queued
    refine ⟨?_, fun other different => isStickyActive_congr (others other different), ?_⟩
    · rw [isStickyActive_iff, own]
    · rw [Bool.eq_iff_iff, later.isPressed_iff_sums stays,
        later.isPressed_eraseAllSticky_iff stays, own, plain]
  have before := isStickyActive_iff manager modifierFlag
  cases type with
  | on =>
      obtain ⟨active, others, _⟩ := sums .increaseSticky (.inl rfl)
      have one : ActiveModifierFlagType.increaseSticky.getCount = 1 := rfl
      unfold StickyCommandFits
      constructor
      · intro obeys
        have positive := active.mp obeys.active
        omega
      · intro fits
        exact ⟨active.mpr (by omega), others, fun isOff => by cases isOff⟩
  | off =>
      obtain ⟨active, others, released⟩ := sums .decreaseSticky (.inr rfl)
      have one : ActiveModifierFlagType.decreaseSticky.getCount = -1 := rfl
      unfold StickyCommandFits
      constructor
      · intro obeys
        have inactive := mt active.mpr (Bool.eq_false_iff.mp obeys.active)
        have pressed := released.mp (obeys.released rfl)
        omega
      · intro fits
        refine ⟨Bool.eq_false_iff.mpr fun isActive => ?_, others, fun _ => released.mpr ?_⟩
        · have positive := active.mp isActive
          omega
        · omega
  | toggle =>
      unfold StickyCommandFits
      by_cases some : manager.stickySize modifierFlag > 0
      · have type : EventQueue.stickyFlagType manager modifierFlag .toggle = .decreaseSticky :=
          if_pos some
        obtain ⟨active, others, _⟩ := sums .decreaseSticky (.inr rfl)
        have one : ActiveModifierFlagType.decreaseSticky.getCount = -1 := rfl
        rw [type]
        constructor
        · intro obeys
          have negated := obeys.active
          rw [Bool.eq_iff_iff, active, Bool.not_eq_true', ← Bool.not_eq_true, before] at negated
          omega
        · intro fits
          refine ⟨?_, others, fun isOff => by cases isOff⟩
          rw [Bool.eq_iff_iff, active, Bool.not_eq_true', ← Bool.not_eq_true, before]
          omega
      · have type : EventQueue.stickyFlagType manager modifierFlag .toggle = .increaseSticky :=
          if_neg some
        obtain ⟨active, others, _⟩ := sums .increaseSticky (.inl rfl)
        have one : ActiveModifierFlagType.increaseSticky.getCount = 1 := rfl
        have zero : manager.stickySum modifierFlag = 0 := stickySum_eq_zero (by omega)
        rw [type]
        refine iff_of_true ⟨?_, others, fun isOff => by cases isOff⟩ (.inl (by omega))
        rw [Bool.eq_iff_iff, active, Bool.not_eq_true', ← Bool.not_eq_true, before]
        omega

end ModifierFlagManager

namespace EventQueue

open ModifierFlagManager

/-! ## Runs -/

/-- Only the caps lock LED is ever set in a queue, and no lock of a key. -/
def FlagsQueued (manager : ModifierFlagManager) : Prop :=
  ∃ counters, Queued manager counters ∧
    ∀ modifierFlag, modifierFlag ≠ .capsLock → counters.led modifierFlag = false

theorem FlagsQueued.pushBack {manager : ModifierFlagManager} (flags : FlagsQueued manager)
    {flag : ActiveModifierFlag} (queued : flag.type ∈ queuedTypes)
    (capsLock : flag.ledLock = true → flag.modifierFlag = .capsLock) :
    FlagsQueued (manager.pushBackActiveModifierFlag flag) := by
  obtain ⟨counters, reached, dark⟩ := flags
  refine ⟨counters.push flag, reached.pushBack queued, fun modifierFlag notCaps => ?_⟩
  rw [push_led, if_neg]
  · exact dark modifierFlag notCaps
  · rw [Bool.and_eq_true, beq_iff_eq]
    rintro ⟨led, rfl⟩
    exact notCaps (capsLock led)

/-- The operations that erase flags keep what is said about the rest. -/
theorem FlagsQueued.erase {manager : ModifierFlagManager} (flags : FlagsQueued manager)
    (operation : ModifierFlagOperation) (erases : ∀ flag, operation ≠ .pushBack flag) :
    FlagsQueued (operation.apply manager) := by
  obtain ⟨counters, reached, dark⟩ := flags
  refine ⟨operation.count counters,
    reached.apply operation fun flag isPush => absurd isPush (erases flag), ?_⟩
  intro modifierFlag notCaps
  cases operation with
  | pushBack flag => exact absurd rfl (erases flag)
  | eraseAll | eraseAllExceptLockAndSticky | eraseCapsLockSticky | eraseAllSticky | reset =>
      unfold ModifierFlagOperation.count ModifierFlagCounters.erase
      dsimp only
      rw [dark modifierFlag notCaps, Bool.false_and]

/-- A scope that is opened and closed leaves the same flags. -/
theorem FlagsQueued.scope {manager : ModifierFlagManager} (flags : FlagsQueued manager)
    (modifierFlags : List ModifierFlag) :
    FlagsQueued (ScopedModifierFlags.make manager modifierFlags).destroy := by
  obtain ⟨counters, reached, dark⟩ := flags
  have same := (ScopedModifierFlags.make_spec reached modifierFlags).2.2
  exact ⟨counters, ⟨reached.represents.of_perm same, reached.unlocked⟩, dark⟩

/-- What an entry does to the flags keeps them of the kinds that entries push. -/
theorem FlagsQueued.updateModifierFlags {manager : ModifierFlagManager}
    (flags : FlagsQueued manager) (deviceId : DeviceId) (event : Event) (eventType : EventType)
    (validity : Validity) :
    FlagsQueued (updateModifierFlags manager deviceId event eventType validity) := by
  cases event with
  | momentarySwitchEvent key =>
      have pushed (modifierFlag : ModifierFlag) : FlagsQueued
          (manager.pushBackActiveModifierFlag
            (.make (if eventType = .keyDown then .increase else .decrease) modifierFlag
              deviceId)) := by
        apply flags.pushBack
        · change (if eventType = .keyDown then ActiveModifierFlagType.increase
            else .decrease) ∈ queuedTypes
          split <;> simp [queuedTypes, summedTypes]
        · intro led
          change (if eventType = .keyDown then ActiveModifierFlagType.increase
            else .decrease).ledLock = true at led
          split at led <;> cases led
      unfold EventQueue.updateModifierFlags
      dsimp only
      cases key.makeModifierFlag with
      | none =>
          split
          · exact flags.erase .eraseAllSticky fun _ isPush => by cases isPush
          · exact flags
      | some modifierFlag =>
          split
          · exact (pushed modifierFlag).erase .eraseAllSticky fun _ isPush => by cases isPush
          · exact pushed modifierFlag
  | stickyModifier modifierFlag type =>
      unfold EventQueue.updateModifierFlags
      dsimp only
      split
      · have sticky : stickyFlagType manager modifierFlag type = .increaseSticky ∨
            stickyFlagType manager modifierFlag type = .decreaseSticky := by
          cases type with
          | on => exact .inl rfl
          | off => exact .inr rfl
          | toggle =>
              unfold stickyFlagType
              dsimp only
              split
              · exact .inr rfl
              · exact .inl rfl
        apply flags.pushBack
        · change stickyFlagType manager modifierFlag type ∈ queuedTypes
          rcases sticky with type | type <;> rw [type] <;> simp [queuedTypes, summedTypes]
        · intro led
          change (stickyFlagType manager modifierFlag type).ledLock = true at led
          rcases sticky with type | type <;> rw [type] at led <;> cases led
      · exact flags
  | capsLockStateChanged state =>
      apply flags.pushBack
      · change (if state ≠ 0 then ActiveModifierFlagType.increaseLedLock
          else .decreaseLedLock) ∈ queuedTypes
        split <;> simp [queuedTypes]
      · exact fun _ => rfl
  | _ => exact flags

theorem FlagsQueued.apply [ExpressionLibrary] {queue : EventQueue}
    (flags : FlagsQueued queue.modifierFlagManager) (operation : Operation) :
    FlagsQueued (queue.apply operation).modifierFlagManager := by
  cases operation with
  | pushBackEntry entry =>
      exact flags.updateModifierFlags entry.deviceId entry.event entry.eventType entry.validity
  | eraseAllActiveModifierFlagsExceptLockAndSticky deviceId =>
      exact flags.erase (.eraseAllExceptLockAndSticky deviceId) fun _ isPush => by cases isPush
  | eraseAllActiveModifierFlags deviceId =>
      exact flags.erase (.eraseAll deviceId) fun _ isPush => by cases isPush
  | eraseCapsLockStickyModifierFlags =>
      exact flags.erase .eraseCapsLockSticky fun _ isPush => by cases isPush
  | scopeModifierFlags modifierFlags => exact flags.scope modifierFlags
  | _ => exact flags

theorem flagsQueued_run [ExpressionLibrary] (operations : List Operation) :
    FlagsQueued (run operations).modifierFlagManager := by
  suffices reaches : ∀ queue : EventQueue, FlagsQueued queue.modifierFlagManager →
      FlagsQueued (operations.foldl EventQueue.apply queue).modifierFlagManager from
    reaches initial ⟨_, queued_empty, fun _ _ => rfl⟩
  induction operations with
  | nil => exact fun _ flags => flags
  | cons operation rest ih =>
      exact fun queue flags => ih (queue.apply operation) (flags.apply operation)

/-- In every state of an event queue, a sticky modifier event that is pressed does
what its type says exactly when one flag more or less makes the sum come out so. -/
theorem stickyCommand_obeyed_iff [ExpressionLibrary] (operations : List Operation) (entry : Entry)
    (modifierFlag : ModifierFlag) (type : StickyModifierType) (notCaps : modifierFlag ≠ .capsLock)
    (isCommand : entry.event = .stickyModifier modifierFlag type)
    (isKeyDown : entry.eventType = .keyDown) :
    let queue := run operations
    ObeysStickyCommand queue.modifierFlagManager (queue.pushBackEntry entry).modifierFlagManager
        modifierFlag type ↔
      StickyCommandFits queue.modifierFlagManager modifierFlag type := by
  obtain ⟨counters, reached, dark⟩ := flagsQueued_run operations
  have after : ((run operations).pushBackEntry entry).modifierFlagManager =
      (run operations).modifierFlagManager.pushBackActiveModifierFlag
        (.make (stickyFlagType (run operations).modifierFlagManager modifierFlag type)
          modifierFlag entry.deviceId) := by
    unfold pushBackEntry EventQueue.updateModifierFlags
    dsimp only
    rw [isCommand, isKeyDown]
    rfl
  dsimp only
  rw [after]
  exact reached.obeysStickyCommand_iff (dark modifierFlag notCaps) type entry.deviceId

/-- A sticky left shift command of a device. -/
def stickyLeftShift (deviceId : DeviceId) (type : StickyModifierType) : Entry :=
  .original deviceId 0 (.stickyModifier .leftShift type) .keyDown

/-- One command to switch on, and one to switch off. -/
theorem stickyCommand_obeyed_iff_onOff :
    let queue := @run zeroExpressions [.pushBackEntry (stickyLeftShift 1 .on)]
    let after := @pushBackEntry zeroExpressions queue (stickyLeftShift 1 .off)
    ObeysStickyCommand queue.modifierFlagManager after.modifierFlagManager .leftShift .off :=
  (@stickyCommand_obeyed_iff zeroExpressions [.pushBackEntry (stickyLeftShift 1 .on)]
    (stickyLeftShift 1 .off) .leftShift .off (by decide) rfl rfl).mpr
    ⟨by decide, by decide⟩

/-- Two commands to switch on need two to switch off. -/
theorem switchedOnTwice_notOff :
    let queue := @run zeroExpressions
      [.pushBackEntry (stickyLeftShift 1 .on), .pushBackEntry (stickyLeftShift 1 .on)]
    let after := @pushBackEntry zeroExpressions queue (stickyLeftShift 1 .off)
    ¬ ObeysStickyCommand queue.modifierFlagManager after.modifierFlagManager .leftShift .off := by
  intro queue after obeys
  have still : after.modifierFlagManager.isStickyActive .leftShift = true := by decide
  have off : after.modifierFlagManager.isStickyActive .leftShift = false := obeys.active
  rw [still] at off
  cases off

end EventQueue

end Karabiner

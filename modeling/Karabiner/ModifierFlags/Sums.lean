import Karabiner.ModifierFlags.Counters

/-! # The sums behind `is_pressed` and `is_sticky_active`

Both predicates compare a sum over the list of active modifier flags with zero.
An event queue pushes every kind of flag but the locks of keys; for these kinds a
push adds the count of the flag to the sums it belongs to, whether or not it
erased a pair, and leaves the other sums alone
(`Karabiner.ModifierFlagManager.Queued.weigh_pushBack`).
-/

namespace Karabiner

namespace ModifierFlagManager

open Foundation.CancellingList

/-- The types that `event_queue::queue` pushes. -/
def queuedTypes : List ActiveModifierFlagType :=
  summedTypes ++ [.increaseLedLock, .decreaseLedLock]

/-- A list reached by pushes of these types. -/
structure Queued (manager : ModifierFlagManager) (counters : ModifierFlagCounters) : Prop where
  represents : Represents manager counters
  unlocked : ∀ modifierFlag deviceId, counters.lock modifierFlag deviceId = 0

theorem queued_empty : Queued ⟨[]⟩ ModifierFlagCounters.zero :=
  ⟨represents_empty, fun _ _ => rfl⟩

theorem kind_of_queued {type : ActiveModifierFlagType} (queued : type ∈ queuedTypes) :
    type.kind ≠ .lock := by
  revert queued
  cases type <;> simp [queuedTypes, summedTypes, ActiveModifierFlagType.kind]

theorem push_lock_eq (counters : ModifierFlagCounters) {flag : ActiveModifierFlag}
    (queued : flag.type ∈ queuedTypes) : (counters.push flag).lock = counters.lock := by
  have notLock := kind_of_queued queued
  unfold ModifierFlagCounters.push
  cases kind : flag.kind with
  | plain => rfl
  | sticky => rfl
  | ledLock => rfl
  | lock => exact absurd kind notLock

theorem Queued.pushBack {manager : ModifierFlagManager} {counters : ModifierFlagCounters}
    (reached : Queued manager counters) {flag : ActiveModifierFlag}
    (queued : flag.type ∈ queuedTypes) :
    Queued (manager.pushBackActiveModifierFlag flag) (counters.push flag) where
  represents := reached.represents.pushBack flag
  unlocked := by
    rw [push_lock_eq counters queued]
    exact reached.unlocked

/-- An operation keeps the counters those of the manager, if a flag that it pushes is one of the
queue. -/
theorem Queued.apply {manager : ModifierFlagManager} {counters : ModifierFlagCounters}
    (reached : Queued manager counters) (operation : ModifierFlagOperation)
    (queued : ∀ flag, operation = .pushBack flag → flag.type ∈ queuedTypes) :
    Queued (operation.apply manager) (operation.count counters) := by
  refine ⟨reached.represents.apply operation, fun modifierFlag deviceId => ?_⟩
  cases operation with
  | pushBack flag => exact (reached.pushBack (queued flag rfl)).unlocked modifierFlag deviceId
  | eraseAll | eraseAllExceptLockAndSticky | eraseCapsLockSticky | eraseAllSticky | reset =>
      unfold ModifierFlagOperation.count ModifierFlagCounters.erase
      dsimp only
      rw [reached.unlocked]
      split <;> rfl

/-- The flags in such a list are never locks, and never clear the LED. -/
theorem Queued.type_mem {manager : ModifierFlagManager} {counters : ModifierFlagCounters}
    (reached : Queued manager counters) {flag : ActiveModifierFlag}
    (present : flag ∈ manager.activeModifierFlags) :
    flag.type ∈ summedTypes ∨ flag.type = .increaseLedLock := by
  have notDecrease := reached.represents.type_ne_decreaseLedLock flag present
  have positive := (reached.represents.mem_iff flag).mp present
  have notLock : flag.type.kind ≠ .lock := by
    intro lock
    rw [ModifierFlagCounters.value, ActiveModifierFlag.kind, lock] at positive
    simp only [ModifierFlagCounters.counter, reached.unlocked, mul_zero] at positive
    exact absurd positive (lt_irrefl 0)
  revert notDecrease notLock
  cases flag.type <;> simp [summedTypes, ActiveModifierFlagType.kind]

/-! ## Flags a push does not touch -/

/-- What is kept of the flags does not change by a flag that is not kept, nor is its inverse. -/
theorem filter_pushBack {manager : ModifierFlagManager} {counters : ModifierFlagCounters}
    (represents : Represents manager counters) (keep : ActiveModifierFlag → Bool)
    (flag : ActiveModifierFlag) (notKept : keep flag = false)
    (inverseNotKept : keep flag.inverse = false) :
    (manager.pushBackActiveModifierFlag flag).activeModifierFlags.filter keep =
      manager.activeModifierFlags.filter keep := by
  have kept : Reduced ActiveModifierFlag.inverse
      (manager.activeModifierFlags.filter fun f => !(f == flag)) :=
    represents.reduced.sublist List.filter_sublist
  have others : ∀ other : ActiveModifierFlag, keep other = false →
      (manager.activeModifierFlags.filter fun f => !(f == other)).filter keep =
        manager.activeModifierFlags.filter keep := by
    intro other left
    rw [List.filter_filter]
    apply List.filter_congr
    intro f _
    cases present : keep f with
    | false => rfl
    | true =>
        have different : f ≠ other := fun same => by rw [same, left] at present; cases present
        simpa using different
  unfold pushBackActiveModifierFlag
  cases type : flag.type with
  | increase | decrease | increaseSticky | decreaseSticky =>
      dsimp only
      rw [erasePairs_append _ _ represents.reduced]
      exact filter_push keep _ flag notKept inverseNotKept
  | increaseLock | decreaseLock | increaseLedLock =>
      dsimp only
      rw [erasePairs_append _ _ kept, filter_push keep _ flag notKept inverseNotKept]
      exact others flag notKept
  | decreaseLedLock =>
      dsimp only
      have inverses : (fun f : ActiveModifierFlag => !f.isPaired flag) =
          fun f => !(f == flag.inverse) := by
        funext f
        rw [Bool.eq_iff_iff, Bool.not_eq_true', Bool.not_eq_true', ← Bool.not_eq_true,
          ActiveModifierFlag.isPaired_iff, beq_eq_false_iff_ne]
      rw [inverses]
      exact others flag.inverse inverseNotKept

/-- The flags of one modifier say nothing about another. -/
theorem isPressed_pushBack_other {manager : ModifierFlagManager} {counters : ModifierFlagCounters}
    (represents : Represents manager counters) {flag : ActiveModifierFlag}
    {modifierFlag : ModifierFlag} (other : flag.modifierFlag ≠ modifierFlag) :
    (manager.pushBackActiveModifierFlag flag).isPressed modifierFlag =
      manager.isPressed modifierFlag := by
  have same := filter_pushBack represents (fun f => f.modifierFlag == modifierFlag) flag
    (beq_false_of_ne other) (beq_false_of_ne other)
  unfold isPressed
  rw [same]

/-! ## Sums over the list -/

/-- The sum of the counts of the flags that `counts` selects. -/
def weigh (manager : ModifierFlagManager) (counts : ActiveModifierFlag → Bool) : Int :=
  ((manager.activeModifierFlags.filter counts).map ActiveModifierFlag.getCount).sum

/-- What one flag adds to such a sum. -/
def weight (counts : ActiveModifierFlag → Bool) (flag : ActiveModifierFlag) : Int :=
  if counts flag then flag.getCount else 0

theorem weigh_eq (manager : ModifierFlagManager) (counts : ActiveModifierFlag → Bool) :
    manager.weigh counts = (manager.activeModifierFlags.map (weight counts)).sum := by
  unfold weigh
  induction manager.activeModifierFlags with
  | nil => rfl
  | cons flag rest ih =>
      rw [List.map_cons, List.sum_cons, ← ih, weight]
      cases selected : counts flag with
      | false => simp [selected]
      | true => simp [selected]

theorem weight_inverse {counts : ActiveModifierFlag → Bool} {flag : ActiveModifierFlag}
    (symmetric : counts flag.inverse = counts flag) :
    weight counts flag.inverse = -weight counts flag := by
  unfold weight
  rw [symmetric, ActiveModifierFlag.getCount_inverse]
  split <;> simp

/-- A push adds the weight of the flag, when the sum leaves the LED out. -/
theorem Queued.weigh_pushBack {manager : ModifierFlagManager} {counters : ModifierFlagCounters}
    (reached : Queued manager counters) {flag : ActiveModifierFlag}
    (queued : flag.type ∈ queuedTypes) {counts : ActiveModifierFlag → Bool}
    (symmetric : ∀ f : ActiveModifierFlag, counts f.inverse = counts f)
    (noLed : ∀ f : ActiveModifierFlag, f.ledLock = true → counts f = false) :
    (manager.pushBackActiveModifierFlag flag).weigh counts =
      manager.weigh counts + weight counts flag := by
  cases led : flag.ledLock with
  | true =>
      have left := noLed flag led
      have same := filter_pushBack reached.represents counts flag left (by rw [symmetric, left])
      unfold weigh weight
      rw [same, left]
      simp
  | false =>
      have summed : (manager.pushBackActiveModifierFlag flag).activeModifierFlags =
          push ActiveModifierFlag.inverse manager.activeModifierFlags flag := by
        rw [← erasePairs_append _ _ reached.represents.reduced]
        unfold ActiveModifierFlag.ledLock at led
        unfold pushBackActiveModifierFlag
        revert led queued
        cases flag.type <;>
          simp [queuedTypes, summedTypes, ActiveModifierFlagType.ledLock]
      rw [weigh_eq, weigh_eq, summed]
      exact sum_push (weight counts) (fun f => weight_inverse (symmetric f)) _ flag

/-! ## Pressed modifiers -/

/-- The flags of a modifier whose counts `is_pressed` adds up first. -/
def ownCounts (modifierFlag : ModifierFlag) (flag : ActiveModifierFlag) : Bool :=
  flag.modifierFlag == modifierFlag && !flag.ledLock

theorem ownCounts_inverse (modifierFlag : ModifierFlag) (flag : ActiveModifierFlag) :
    ownCounts modifierFlag flag.inverse = ownCounts modifierFlag flag := by
  unfold ownCounts ActiveModifierFlag.ledLock
  rw [ActiveModifierFlag.inverse_modifierFlag, ActiveModifierFlag.inverse_type,
    ActiveModifierFlagType.ledLock_inverse]

theorem ownCounts_ledLock (modifierFlag : ModifierFlag) {flag : ActiveModifierFlag}
    (led : flag.ledLock = true) : ownCounts modifierFlag flag = false := by
  unfold ownCounts
  rw [led, Bool.not_true, Bool.and_false]

/-- A modifier is pressed when its sum is positive, or by the LED when it has no
flag of its own. -/
theorem isPressed_iff_weigh {manager : ModifierFlagManager} {counters : ModifierFlagCounters}
    (represents : Represents manager counters) (modifierFlag : ModifierFlag) :
    manager.isPressed modifierFlag = true ↔
      0 < manager.weigh (ownCounts modifierFlag) ∨
        (manager.activeModifierFlags.filter (ownCounts modifierFlag) = [] ∧
          counters.led modifierFlag = true) := by
  have led := represents.ledCount_pos modifierFlag
  have own : (manager.activeModifierFlags.filter (fun f => f.modifierFlag == modifierFlag)).filter
      (fun f => !f.ledLock) = manager.activeModifierFlags.filter (ownCounts modifierFlag) := by
    rw [List.filter_filter]
    apply List.filter_congr
    intro f _
    exact Bool.and_comm _ _
  unfold isPressed weigh
  simp only [own]
  split
  · rename_i empty
    have none := List.length_eq_zero_iff.mp empty
    rw [decide_eq_true_iff, gt_iff_lt, led, none]
    simp
  · rename_i nonempty
    have some := mt List.length_eq_zero_iff.mpr nonempty
    rw [decide_eq_true_iff, gt_iff_lt]
    simp [some]

/-! ## Runs of pushes -/

theorem Queued.pushes {manager : ModifierFlagManager} {counters : ModifierFlagCounters}
    (reached : Queued manager counters) {flags : List ActiveModifierFlag}
    (queued : ∀ flag ∈ flags, flag.type ∈ queuedTypes) :
    Queued (flags.foldl pushBackActiveModifierFlag manager)
      (flags.foldl ModifierFlagCounters.push counters) := by
  induction flags generalizing manager counters with
  | nil => exact reached
  | cons flag rest ih =>
      exact ih (reached.pushBack (queued flag List.mem_cons_self)) fun other member =>
        queued other (List.mem_cons_of_mem _ member)

/-- Pushing flags of the queue adds their weights, where a flag and its inverse count alike. -/
theorem Queued.weigh_pushes {manager : ModifierFlagManager} {counters : ModifierFlagCounters}
    (reached : Queued manager counters) {flags : List ActiveModifierFlag}
    (queued : ∀ flag ∈ flags, flag.type ∈ queuedTypes) {counts : ActiveModifierFlag → Bool}
    (symmetric : ∀ f : ActiveModifierFlag, counts f.inverse = counts f)
    (noLed : ∀ f : ActiveModifierFlag, f.ledLock = true → counts f = false) :
    (flags.foldl pushBackActiveModifierFlag manager).weigh counts =
      manager.weigh counts + (flags.map (weight counts)).sum := by
  induction flags generalizing manager counters with
  | nil => simp
  | cons flag rest ih =>
      have first := queued flag List.mem_cons_self
      have later := ih (reached.pushBack first) fun other member =>
        queued other (List.mem_cons_of_mem _ member)
      rw [List.foldl_cons, later, reached.weigh_pushBack first symmetric noLed, List.map_cons,
        List.sum_cons, add_assoc]

theorem isPressed_pushes_other {manager : ModifierFlagManager} {counters : ModifierFlagCounters}
    (represents : Represents manager counters) {flags : List ActiveModifierFlag}
    {modifierFlag : ModifierFlag} (others : ∀ flag ∈ flags, flag.modifierFlag ≠ modifierFlag) :
    (flags.foldl pushBackActiveModifierFlag manager).isPressed modifierFlag =
      manager.isPressed modifierFlag := by
  induction flags generalizing manager counters with
  | nil => rfl
  | cons flag rest ih =>
      rw [List.foldl_cons, ih (represents.pushBack flag) fun other member =>
        others other (List.mem_cons_of_mem _ member)]
      exact isPressed_pushBack_other represents (others flag List.mem_cons_self)

/-- A LED flag of the modifier is among the flags. -/
def ledAmong (flags : List ActiveModifierFlag) (modifierFlag : ModifierFlag) : Bool :=
  flags.any fun flag => flag.ledLock && flag.modifierFlag == modifierFlag

/-- A flag sets the LED of its own modifier, and only if it is an LED lock. -/
theorem push_led (counters : ModifierFlagCounters) (flag : ActiveModifierFlag)
    (modifierFlag : ModifierFlag) :
    (counters.push flag).led modifierFlag =
      if flag.ledLock && flag.modifierFlag == modifierFlag then decide (0 < flag.getCount)
      else counters.led modifierFlag := by
  have led : flag.ledLock = decide (flag.kind = .ledLock) :=
    ActiveModifierFlagType.ledLock_eq flag.type
  rw [led]
  unfold ModifierFlagCounters.push
  cases kind : flag.kind with
  | plain => simp
  | sticky => simp
  | lock => simp
  | ledLock =>
      by_cases same : modifierFlag = flag.modifierFlag
      · simp [same]
      · simp [same, Ne.symm same]

/-- Flags that turn LEDs off leave those on that are not among them. -/
theorem led_pushes_clear (counters : ModifierFlagCounters) {flags : List ActiveModifierFlag}
    (clears : ∀ flag ∈ flags, flag.ledLock = true → flag.getCount = -1)
    (modifierFlag : ModifierFlag) :
    (flags.foldl ModifierFlagCounters.push counters).led modifierFlag =
      (counters.led modifierFlag && !ledAmong flags modifierFlag) := by
  induction flags generalizing counters with
  | nil => simp [ledAmong]
  | cons flag rest ih =>
      rw [List.foldl_cons, ih (counters.push flag) fun other member =>
        clears other (List.mem_cons_of_mem _ member), push_led]
      cases own : flag.ledLock && flag.modifierFlag == modifierFlag with
      | false => simp [ledAmong, own]
      | true =>
          have count := clears flag List.mem_cons_self ((Bool.and_eq_true _ _).mp own).1
          simp [ledAmong, own, count]

/-- Flags that turn LEDs on add theirs to those that are on. -/
theorem led_pushes_set (counters : ModifierFlagCounters) {flags : List ActiveModifierFlag}
    (sets : ∀ flag ∈ flags, flag.ledLock = true → flag.getCount = 1)
    (modifierFlag : ModifierFlag) :
    (flags.foldl ModifierFlagCounters.push counters).led modifierFlag =
      (counters.led modifierFlag || ledAmong flags modifierFlag) := by
  induction flags generalizing counters with
  | nil => simp [ledAmong]
  | cons flag rest ih =>
      rw [List.foldl_cons, ih (counters.push flag) fun other member =>
        sets other (List.mem_cons_of_mem _ member), push_led]
      cases own : flag.ledLock && flag.modifierFlag == modifierFlag with
      | false => simp [ledAmong, own]
      | true =>
          have count := sets flag List.mem_cons_self ((Bool.and_eq_true _ _).mp own).1
          simp [ledAmong, own, count]

/-- What one flag adds to a summed counter. -/
def counted (kind : CounterKind) (modifierFlag : ModifierFlag) (deviceId : DeviceId)
    (flag : ActiveModifierFlag) : Int :=
  if kind = flag.kind ∧ modifierFlag = flag.modifierFlag ∧ deviceId = flag.deviceId then
    flag.getCount
  else 0

/-- Pushing flags adds up what they count for a counter that is summed. -/
theorem counter_pushes (counters : ModifierFlagCounters) (flags : List ActiveModifierFlag)
    {kind : CounterKind} (sums : kind = .plain ∨ kind = .sticky) (modifierFlag : ModifierFlag)
    (deviceId : DeviceId) :
    (flags.foldl ModifierFlagCounters.push counters).counter kind modifierFlag deviceId =
      counters.counter kind modifierFlag deviceId +
        (flags.map (counted kind modifierFlag deviceId)).sum := by
  induction flags generalizing counters with
  | nil => simp
  | cons flag rest ih =>
      rw [List.foldl_cons, ih, ModifierFlagCounters.counter_push, List.map_cons, List.sum_cons,
        ← add_assoc, counted]
      congr 1
      split
      · rcases sums with rfl | rfl <;> rfl
      · rw [add_zero]

theorem counted_inverse (kind : CounterKind) (modifierFlag : ModifierFlag) (deviceId : DeviceId)
    (flag : ActiveModifierFlag) :
    counted kind modifierFlag deviceId flag.inverse =
      -counted kind modifierFlag deviceId flag := by
  unfold counted
  rw [ActiveModifierFlag.kind_inverse, ActiveModifierFlag.inverse_modifierFlag,
    ActiveModifierFlag.inverse_deviceId, ActiveModifierFlag.getCount_inverse]
  split <;> simp

theorem sum_map_inverse {weigh : ActiveModifierFlag → Int}
    (odd : ∀ flag, weigh flag.inverse = -weigh flag) (flags : List ActiveModifierFlag) :
    ((flags.map ActiveModifierFlag.inverse).map weigh).sum = -(flags.map weigh).sum := by
  induction flags with
  | nil => rfl
  | cons flag rest ih =>
      simp only [List.map_cons, List.sum_cons, odd, ih, neg_add]

/-- The order of the flags in the list does not matter. -/
theorem Represents.of_perm {first second : ModifierFlagManager} {counters : ModifierFlagCounters}
    (represents : Represents first counters)
    (same : second.activeModifierFlags.Perm first.activeModifierFlags) :
    Represents second counters where
  reduced := fun flag present inversePresent =>
    represents.reduced flag (same.mem_iff.mp present) (same.mem_iff.mp inversePresent)
  signed_eq := fun flag => by
    rw [← represents.signed_eq]
    unfold signed
    rw [same.count_eq, same.count_eq]

/-- Lists that represent the same counters hold the same flags. -/
theorem Represents.perm {first second : ModifierFlagManager}
    {counters others : ModifierFlagCounters} (representsFirst : Represents first counters)
    (representsSecond : Represents second others)
    (same : ∀ kind modifierFlag deviceId,
      counters.counter kind modifierFlag deviceId = others.counter kind modifierFlag deviceId) :
    first.activeModifierFlags.Perm second.activeModifierFlags := by
  apply representsFirst.reduced.perm_of_signed_eq representsSecond.reduced
  intro flag
  rw [representsFirst.signed_eq, representsSecond.signed_eq, ModifierFlagCounters.value,
    ModifierFlagCounters.value, same]

end ModifierFlagManager

end Karabiner

import Mathlib.Algebra.BigOperators.Finprod
import Mathlib.Algebra.BigOperators.Group.Finset.Basic
import Karabiner.ModifierFlags.Manager

/-! # The modifier flag manager as a family of counters

What the list of `ModifierFlagManager` stands for: a signed counter for each
modifier and device for pressed keys, another for sticky modifiers, a third
clamped to `[-1, 1]` for locks, and one bit for each modifier for the caps lock
LED. Every operation of the manager is an operation on the counters, and the
list holds a flag as often as its counter says.
-/

namespace Karabiner

/-- The four families of counters. -/
inductive CounterKind where
  | plain
  | lock
  | ledLock
  | sticky
deriving DecidableEq

namespace ActiveModifierFlagType

/-- The family a flag type counts in. -/
def kind : ActiveModifierFlagType → CounterKind
  | .increase | .decrease => .plain
  | .increaseLock | .decreaseLock => .lock
  | .increaseLedLock | .decreaseLedLock => .ledLock
  | .increaseSticky | .decreaseSticky => .sticky

@[simp] theorem kind_inverse (type : ActiveModifierFlagType) : type.inverse.kind = type.kind := by
  cases type <;> rfl

theorem eq_or_eq_inverse_of_kind {first second : ActiveModifierFlagType}
    (same : first.kind = second.kind) : first = second ∨ first = second.inverse := by
  revert same
  cases first <;> cases second <;> simp [kind, inverse]

theorem getCount_cases (type : ActiveModifierFlagType) :
    type.getCount = 1 ∨ type.getCount = -1 := by
  cases type <;> simp [getCount]

theorem ledLock_eq (type : ActiveModifierFlagType) :
    type.ledLock = decide (type.kind = .ledLock) := by
  cases type <;> rfl

theorem sticky_eq (type : ActiveModifierFlagType) :
    type.sticky = (type.kind == .sticky) := by
  cases type <;> rfl

theorem anyLock_eq (type : ActiveModifierFlagType) :
    type.anyLock = decide (type.kind = .lock ∨ type.kind = .ledLock) := by
  cases type <;> rfl

end ActiveModifierFlagType

namespace ActiveModifierFlag

def kind (flag : ActiveModifierFlag) : CounterKind := flag.type.kind

@[simp] theorem kind_inverse (flag : ActiveModifierFlag) : flag.inverse.kind = flag.kind :=
  flag.type.kind_inverse

@[simp] theorem getCount_inverse (flag : ActiveModifierFlag) :
    flag.inverse.getCount = -flag.getCount :=
  flag.type.getCount_inverse

/-- Two flags count in the same counter exactly when they are equal or inverse. -/
theorem same_counter_iff (first second : ActiveModifierFlag) :
    (first.kind = second.kind ∧ first.modifierFlag = second.modifierFlag ∧
      first.deviceId = second.deviceId) ↔ first = second ∨ first = second.inverse := by
  constructor
  · rintro ⟨kinds, modifiers, devices⟩
    rcases ActiveModifierFlagType.eq_or_eq_inverse_of_kind kinds with types | types
    · exact Or.inl ((ext_iff' _ _).mpr ⟨types, modifiers, devices⟩)
    · exact Or.inr ((ext_iff' _ _).mpr ⟨types, modifiers, by simpa using devices⟩)
  · rintro (rfl | rfl)
    · exact ⟨rfl, rfl, rfl⟩
    · exact ⟨kind_inverse second, rfl, inverse_deviceId second⟩

end ActiveModifierFlag

/-- The counters the list of active modifier flags stands for. -/
structure ModifierFlagCounters where
  plain : ModifierFlag → DeviceId → Int
  sticky : ModifierFlag → DeviceId → Int
  lock : ModifierFlag → DeviceId → Int
  led : ModifierFlag → Bool
  lock_clamped : ∀ modifierFlag deviceId,
    -1 ≤ lock modifierFlag deviceId ∧ lock modifierFlag deviceId ≤ 1

namespace ModifierFlagCounters

/-- A counter restricted to `[-1, 1]`. -/
def clamp (n : Int) : Int := max (-1) (min 1 n)

theorem clamp_bounds (n : Int) : -1 ≤ clamp n ∧ clamp n ≤ 1 := by
  unfold clamp
  omega

/-- All counters zero and every LED off. -/
def zero : ModifierFlagCounters :=
  ⟨fun _ _ => 0, fun _ _ => 0, fun _ _ => 0, fun _ => false, fun _ _ => by omega⟩

/-- The counter of a family at a modifier and device. The LED bit belongs to
device `0`. -/
def counter (counters : ModifierFlagCounters) (kind : CounterKind) (modifierFlag : ModifierFlag)
    (deviceId : DeviceId) : Int :=
  match kind with
  | .plain => counters.plain modifierFlag deviceId
  | .lock => counters.lock modifierFlag deviceId
  | .ledLock => if counters.led modifierFlag && deviceId == 0 then 1 else 0
  | .sticky => counters.sticky modifierFlag deviceId

/-- Replace one entry of a two-dimensional table. -/
def updateAt (table : ModifierFlag → DeviceId → Int) (flag : ActiveModifierFlag)
    (change : Int → Int) : ModifierFlag → DeviceId → Int := fun modifierFlag deviceId =>
  if modifierFlag = flag.modifierFlag ∧ deviceId = flag.deviceId then
    change (table modifierFlag deviceId)
  else table modifierFlag deviceId

/-- A pushed flag moves its own counter by one; a lock stays within `[-1, 1]` and
the LED bit is set or cleared. -/
def push (counters : ModifierFlagCounters) (flag : ActiveModifierFlag) : ModifierFlagCounters :=
  match flag.kind with
  | .plain => { counters with plain := updateAt counters.plain flag (· + flag.getCount) }
  | .sticky => { counters with sticky := updateAt counters.sticky flag (· + flag.getCount) }
  | .lock =>
      { counters with
        lock := updateAt counters.lock flag fun n => clamp (n + flag.getCount)
        lock_clamped := fun modifierFlag deviceId => by
          unfold updateAt
          split
          · exact clamp_bounds _
          · exact counters.lock_clamped modifierFlag deviceId }
  | .ledLock =>
      { counters with
        led := fun modifierFlag =>
          if modifierFlag = flag.modifierFlag then decide (0 < flag.getCount)
          else counters.led modifierFlag }

/-- Clear every counter that is not kept. -/
def erase (counters : ModifierFlagCounters)
    (keep : CounterKind → ModifierFlag → DeviceId → Bool) : ModifierFlagCounters where
  plain := fun modifierFlag deviceId =>
    if keep .plain modifierFlag deviceId then counters.plain modifierFlag deviceId else 0
  sticky := fun modifierFlag deviceId =>
    if keep .sticky modifierFlag deviceId then counters.sticky modifierFlag deviceId else 0
  lock := fun modifierFlag deviceId =>
    if keep .lock modifierFlag deviceId then counters.lock modifierFlag deviceId else 0
  led := fun modifierFlag => counters.led modifierFlag && keep .ledLock modifierFlag 0
  lock_clamped := fun modifierFlag deviceId => by
    have bounds := counters.lock_clamped modifierFlag deviceId
    split <;> omega

/-- The signed number the counters give a flag. -/
def value (counters : ModifierFlagCounters) (flag : ActiveModifierFlag) : Int :=
  flag.getCount * counters.counter flag.kind flag.modifierFlag flag.deviceId

/-- The sum of the counters of one modifier and device, the LED bit left out. -/
def total (counters : ModifierFlagCounters) (modifierFlag : ModifierFlag) (deviceId : DeviceId) :
    Int :=
  counters.plain modifierFlag deviceId + counters.lock modifierFlag deviceId +
    counters.sticky modifierFlag deviceId

/-- Some counter of the modifier other than the LED bit is not zero. -/
def Nonzero (counters : ModifierFlagCounters) (modifierFlag : ModifierFlag) : Prop :=
  ∃ deviceId, counters.plain modifierFlag deviceId ≠ 0 ∨
    counters.lock modifierFlag deviceId ≠ 0 ∨ counters.sticky modifierFlag deviceId ≠ 0

@[simp] theorem value_zero (flag : ActiveModifierFlag) : zero.value flag = 0 := by
  unfold value counter zero
  cases flag.kind <;> simp

theorem value_inverse (counters : ModifierFlagCounters) (flag : ActiveModifierFlag) :
    counters.value flag.inverse = -counters.value flag := by
  simp [value]

theorem counter_ledLock_bounds (counters : ModifierFlagCounters) (modifierFlag : ModifierFlag)
    (deviceId : DeviceId) :
    0 ≤ counters.counter .ledLock modifierFlag deviceId ∧
      counters.counter .ledLock modifierFlag deviceId ≤ 1 := by
  unfold counter
  dsimp only
  split <;> omega

/-- Erasing counters sets those that are not kept to zero and leaves the others. -/
theorem counter_erase (counters : ModifierFlagCounters)
    (keep : CounterKind → ModifierFlag → DeviceId → Bool) (kind : CounterKind)
    (modifierFlag : ModifierFlag) (deviceId : DeviceId) :
    (counters.erase keep).counter kind modifierFlag deviceId =
      if keep kind modifierFlag deviceId then counters.counter kind modifierFlag deviceId
      else 0 := by
  cases kind with
  | plain => rfl
  | lock => rfl
  | sticky => rfl
  | ledLock =>
      by_cases shared : deviceId = 0
      · subst shared
        cases kept : keep .ledLock modifierFlag 0 <;> simp [counter, erase, kept]
      · simp [counter, shared]

/-- The value a pushed flag's own counter takes. -/
def pushed (kind : CounterKind) (count n : Int) : Int :=
  match kind with
  | .plain | .sticky => n + count
  | .lock => clamp (n + count)
  | .ledLock => if 0 < count then 1 else 0

/-- A push changes the flag's own counter and no other. -/
theorem counter_push (counters : ModifierFlagCounters) (flag : ActiveModifierFlag)
    (kind : CounterKind) (modifierFlag : ModifierFlag) (deviceId : DeviceId) :
    (counters.push flag).counter kind modifierFlag deviceId =
      if kind = flag.kind ∧ modifierFlag = flag.modifierFlag ∧ deviceId = flag.deviceId then
        pushed kind flag.getCount (counters.counter kind modifierFlag deviceId)
      else counters.counter kind modifierFlag deviceId := by
  have shared : flag.kind = .ledLock → flag.deviceId = 0 := fun led =>
    flag.ledLock_shared (by rw [ActiveModifierFlagType.ledLock_eq]; exact decide_eq_true led)
  unfold push
  cases own : flag.kind with
  | plain => cases kind <;> simp [counter, updateAt, pushed]
  | sticky => cases kind <;> simp [counter, updateAt, pushed]
  | lock => cases kind <;> simp [counter, updateAt, pushed]
  | ledLock =>
      have device := shared own
      cases kind with
      | plain => simp [counter]
      | sticky => simp [counter]
      | lock => simp [counter]
      | ledLock =>
          by_cases sameModifier : modifierFlag = flag.modifierFlag
          · by_cases sameDevice : deviceId = 0
            · simp [counter, pushed, sameModifier, sameDevice, device]
            · simp [counter, sameModifier, sameDevice, device]
          · simp [counter, sameModifier]

end ModifierFlagCounters

/-! ## Operations -/

/-- The operations that change a modifier flag manager. -/
inductive ModifierFlagOperation where
  | pushBack (flag : ActiveModifierFlag)
  | eraseAll (deviceId : DeviceId)
  | eraseAllExceptLockAndSticky (deviceId : DeviceId)
  | eraseCapsLockSticky
  | eraseAllSticky
  | reset

namespace ModifierFlagOperation

/-- The operation on the list. -/
def apply (manager : ModifierFlagManager) : ModifierFlagOperation → ModifierFlagManager
  | .pushBack flag => manager.pushBackActiveModifierFlag flag
  | .eraseAll deviceId => manager.eraseAllActiveModifierFlags deviceId
  | .eraseAllExceptLockAndSticky deviceId =>
      manager.eraseAllActiveModifierFlagsExceptLockAndSticky deviceId
  | .eraseCapsLockSticky => manager.eraseCapsLockStickyModifierFlags
  | .eraseAllSticky => manager.eraseAllStickyModifierFlags
  | .reset => manager.reset

/-- The operation on the counters. -/
def count (counters : ModifierFlagCounters) : ModifierFlagOperation → ModifierFlagCounters
  | .pushBack flag => counters.push flag
  | .eraseAll deviceId => counters.erase fun _ _ device => !(device == deviceId)
  | .eraseAllExceptLockAndSticky deviceId =>
      counters.erase fun kind _ device => !(device == deviceId && kind == .plain)
  | .eraseCapsLockSticky =>
      counters.erase fun kind modifierFlag _ => !(modifierFlag == .capsLock && kind == .sticky)
  | .eraseAllSticky => counters.erase fun kind _ _ => !(kind == .sticky)
  | .reset => counters.erase fun _ _ _ => false

end ModifierFlagOperation

namespace ModifierFlagManager

open Foundation.CancellingList

/-- A list represents counters when it has no pairs and its signed numbers are
the values of the counters. -/
structure Represents (manager : ModifierFlagManager) (counters : ModifierFlagCounters) :
    Prop where
  reduced : Reduced ActiveModifierFlag.inverse manager.activeModifierFlags
  signed_eq : ∀ flag,
    signed ActiveModifierFlag.inverse manager.activeModifierFlags flag = counters.value flag

theorem represents_empty : Represents ⟨[]⟩ ModifierFlagCounters.zero :=
  ⟨reduced_nil _, fun flag => by simp⟩

/-- The list holds a flag as often as its counter says. -/
theorem Represents.count_eq {manager : ModifierFlagManager} {counters : ModifierFlagCounters}
    (represents : Represents manager counters) (flag : ActiveModifierFlag) :
    manager.activeModifierFlags.count flag = (counters.value flag).toNat := by
  rw [represents.reduced.count_eq, represents.signed_eq]

/-! ## Erasing -/

/-- Erasing by a condition that does not tell a flag from its inverse keeps or
clears whole counters. -/
theorem signed_filter (flags : List ActiveModifierFlag) (keep : ActiveModifierFlag → Bool)
    (even : ∀ flag, keep flag.inverse = keep flag) (flag : ActiveModifierFlag) :
    signed ActiveModifierFlag.inverse (flags.filter keep) flag =
      if keep flag then signed ActiveModifierFlag.inverse flags flag else 0 := by
  unfold signed
  by_cases kept : keep flag = true
  · rw [if_pos kept, List.count_filter kept, List.count_filter (by rw [even]; exact kept)]
  · have gone : ∀ other, keep other ≠ true → (flags.filter keep).count other = 0 := by
      intro other dropped
      refine List.count_eq_zero.mpr fun present => ?_
      exact dropped (List.mem_filter.mp present).2
    rw [if_neg kept, gone flag kept, gone flag.inverse (by rw [even]; exact kept)]
    rfl

/-- Erasing flags by their kind, modifier and device is erasing the counters of these. -/
theorem Represents.filter {manager : ModifierFlagManager} {counters : ModifierFlagCounters}
    (represents : Represents manager counters)
    (keep : CounterKind → ModifierFlag → DeviceId → Bool) :
    Represents ⟨manager.activeModifierFlags.filter
      fun flag => keep flag.kind flag.modifierFlag flag.deviceId⟩ (counters.erase keep) where
  reduced := represents.reduced.sublist List.filter_sublist
  signed_eq := by
    intro flag
    rw [signed_filter _ _ (fun other => by simp), represents.signed_eq,
      ModifierFlagCounters.value, ModifierFlagCounters.value, ModifierFlagCounters.counter_erase]
    split
    · rfl
    · rw [mul_zero]

/-! ## Pushing -/

/-- It is enough to compare the signed numbers of the pushed flag and of the
flags that count elsewhere. -/
theorem Represents.of_pushed {manager changed : ModifierFlagManager}
    {counters : ModifierFlagCounters} (represents : Represents manager counters)
    (flag : ActiveModifierFlag)
    (reduced : Reduced ActiveModifierFlag.inverse changed.activeModifierFlags)
    (own : signed ActiveModifierFlag.inverse changed.activeModifierFlags flag =
      flag.getCount * ModifierFlagCounters.pushed flag.kind flag.getCount
        (counters.counter flag.kind flag.modifierFlag flag.deviceId))
    (others : ∀ other, other ≠ flag → other ≠ flag.inverse →
      signed ActiveModifierFlag.inverse changed.activeModifierFlags other =
        signed ActiveModifierFlag.inverse manager.activeModifierFlags other) :
    Represents changed (counters.push flag) where
  reduced := reduced
  signed_eq := by
    have atFlag : signed ActiveModifierFlag.inverse changed.activeModifierFlags flag =
        (counters.push flag).value flag := by
      rw [own, ModifierFlagCounters.value, ModifierFlagCounters.counter_push,
        if_pos ⟨rfl, rfl, rfl⟩]
    intro other
    by_cases same : other.kind = flag.kind ∧ other.modifierFlag = flag.modifierFlag ∧
        other.deviceId = flag.deviceId
    · rcases (ActiveModifierFlag.same_counter_iff other flag).mp same with rfl | rfl
      · exact atFlag
      · rw [ModifierFlagCounters.value_inverse, ← atFlag]
        simp [signed]
    · have apart := mt (ActiveModifierFlag.same_counter_iff other flag).mpr same
      rw [not_or] at apart
      rw [others other apart.1 apart.2, represents.signed_eq, ModifierFlagCounters.value,
        ModifierFlagCounters.value, ModifierFlagCounters.counter_push, if_neg same]

/-- A flag that is summed adds its count to its counter, also when it cancels an inverse that is
there. -/
theorem Represents.push_sum {manager : ModifierFlagManager} {counters : ModifierFlagCounters}
    (represents : Represents manager counters) (flag : ActiveModifierFlag)
    (sums : flag.kind = .plain ∨ flag.kind = .sticky) :
    Represents ⟨erasePairs (manager.activeModifierFlags ++ [flag])⟩ (counters.push flag) := by
  have involutive := ActiveModifierFlag.inverse_inverse
  have noFixed := ActiveModifierFlag.inverse_ne
  apply represents.of_pushed flag
  · rw [erasePairs_append _ _ represents.reduced]
    exact represents.reduced.push involutive noFixed flag
  · rw [erasePairs_append _ _ represents.reduced, signed_push involutive, if_pos rfl,
      if_neg (noFixed flag).symm, represents.signed_eq, ModifierFlagCounters.value]
    have square : flag.getCount * flag.getCount = 1 := by
      rcases flag.type.getCount_cases with count | count <;>
        simp [ActiveModifierFlag.getCount, count]
    rcases sums with kind | kind <;>
      simp only [kind, ModifierFlagCounters.pushed, mul_add, square, sub_zero]
  · intro other different notInverse
    rw [erasePairs_append _ _ represents.reduced, signed_push involutive, if_neg different,
      if_neg notInverse, add_zero, sub_zero]

/-- Erasing the flags equal to the pushed one first leaves at most its inverse. -/
theorem signed_erase_own (flags : List ActiveModifierFlag) (flag : ActiveModifierFlag) :
    signed ActiveModifierFlag.inverse (flags.filter fun f => !(f == flag)) flag =
      -(flags.count flag.inverse : Int) := by
  have none : (flags.filter fun f => !(f == flag)).count flag = 0 :=
    List.count_eq_zero.mpr (by simp)
  have inverses : (flags.filter fun f => !(f == flag)).count flag.inverse =
      flags.count flag.inverse :=
    List.count_filter (by simpa using ActiveModifierFlag.inverse_ne flag)
  rw [signed, none, inverses]
  simp

theorem signed_erase_other (flags : List ActiveModifierFlag) (flag other : ActiveModifierFlag)
    (different : other ≠ flag) (notInverse : other ≠ flag.inverse) :
    signed ActiveModifierFlag.inverse (flags.filter fun f => !(f == flag)) other =
      signed ActiveModifierFlag.inverse flags other := by
  have inverseDifferent : other.inverse ≠ flag := fun same =>
    notInverse (by rw [← same, ActiveModifierFlag.inverse_inverse])
  rw [signed, signed, List.count_filter (by simpa using different),
    List.count_filter (by simpa using inverseDifferent)]

/-- A lock replaces the earlier flags of its kind, as its counter is set and not summed. -/
theorem Represents.push_lock {manager : ModifierFlagManager} {counters : ModifierFlagCounters}
    (represents : Represents manager counters) (flag : ActiveModifierFlag)
    (locks : flag.kind = .lock ∨ (flag.kind = .ledLock ∧ flag.getCount = 1)) :
    Represents ⟨erasePairs (manager.activeModifierFlags.filter (fun f => !(f == flag)) ++ [flag])⟩
      (counters.push flag) := by
  have involutive := ActiveModifierFlag.inverse_inverse
  have noFixed := ActiveModifierFlag.inverse_ne
  have kept : Reduced ActiveModifierFlag.inverse
      (manager.activeModifierFlags.filter fun f => !(f == flag)) :=
    represents.reduced.sublist List.filter_sublist
  apply represents.of_pushed flag
  · rw [erasePairs_append _ _ kept]
    exact kept.push involutive noFixed flag
  · rw [erasePairs_append _ _ kept, signed_push involutive, if_pos rfl,
      if_neg (noFixed flag).symm, signed_erase_own, represents.count_eq,
      ModifierFlagCounters.value_inverse, ModifierFlagCounters.value]
    rcases locks with kind | ⟨kind, count⟩
    · have bounds := counters.lock_clamped flag.modifierFlag flag.deviceId
      rw [kind]
      simp only [ModifierFlagCounters.counter, ModifierFlagCounters.pushed,
        ModifierFlagCounters.clamp]
      rcases flag.type.getCount_cases with count | count
      · rw [ActiveModifierFlag.getCount, count]
        omega
      · rw [ActiveModifierFlag.getCount, count]
        omega
    · have bounds := counters.counter_ledLock_bounds flag.modifierFlag flag.deviceId
      rw [kind, count]
      simp only [ModifierFlagCounters.pushed]
      rw [if_pos (by omega)]
      omega
  · intro other different notInverse
    rw [erasePairs_append _ _ kept, signed_push involutive, if_neg different,
      if_neg notInverse, add_zero, sub_zero]
    exact signed_erase_other _ _ _ different notInverse

/-- Clearing the LED erases every flag that sets it. -/
theorem Represents.push_decreaseLedLock {manager : ModifierFlagManager}
    {counters : ModifierFlagCounters} (represents : Represents manager counters)
    (flag : ActiveModifierFlag) (clears : flag.kind = .ledLock ∧ flag.getCount = -1) :
    Represents ⟨manager.activeModifierFlags.filter (fun f => !f.isPaired flag)⟩
      (counters.push flag) := by
  obtain ⟨kind, count⟩ := clears
  have inverses : (fun f : ActiveModifierFlag => !f.isPaired flag) =
      fun f => !(f == flag.inverse) := by
    funext f
    rw [Bool.eq_iff_iff, Bool.not_eq_true', Bool.not_eq_true', ← Bool.not_eq_true,
      ActiveModifierFlag.isPaired_iff, beq_eq_false_iff_ne]
  rw [inverses]
  apply represents.of_pushed flag
  · exact represents.reduced.sublist List.filter_sublist
  · have own := signed_erase_own manager.activeModifierFlags flag.inverse
    have swap : signed ActiveModifierFlag.inverse
        (manager.activeModifierFlags.filter fun f => !(f == flag.inverse)) flag =
        -signed ActiveModifierFlag.inverse
          (manager.activeModifierFlags.filter fun f => !(f == flag.inverse)) flag.inverse := by
      simp [signed]
    rw [swap, own, neg_neg, ActiveModifierFlag.inverse_inverse, represents.count_eq,
      ModifierFlagCounters.value]
    have bounds := counters.counter_ledLock_bounds flag.modifierFlag flag.deviceId
    rw [kind, count]
    simp only [ModifierFlagCounters.pushed]
    rw [if_neg (by omega)]
    omega
  · intro other different notInverse
    refine signed_erase_other _ _ _ notInverse ?_
    rwa [ActiveModifierFlag.inverse_inverse]

/-- Pushing a flag of any kind pushes it to the counters. -/
theorem Represents.pushBack {manager : ModifierFlagManager} {counters : ModifierFlagCounters}
    (represents : Represents manager counters) (flag : ActiveModifierFlag) :
    Represents (manager.pushBackActiveModifierFlag flag) (counters.push flag) := by
  have kind : flag.kind = flag.type.kind := rfl
  have count : flag.getCount = flag.type.getCount := rfl
  unfold pushBackActiveModifierFlag
  cases type : flag.type <;> rw [type] at kind count
  case increase => exact represents.push_sum flag (Or.inl kind)
  case decrease => exact represents.push_sum flag (Or.inl kind)
  case increaseSticky => exact represents.push_sum flag (Or.inr kind)
  case decreaseSticky => exact represents.push_sum flag (Or.inr kind)
  case increaseLock => exact represents.push_lock flag (Or.inl kind)
  case decreaseLock => exact represents.push_lock flag (Or.inl kind)
  case increaseLedLock => exact represents.push_lock flag (Or.inr ⟨kind, count⟩)
  case decreaseLedLock => exact represents.push_decreaseLedLock flag ⟨kind, count⟩

/-! ## Runs -/

/-- Every operation on the list is the same operation on the counters. -/
theorem Represents.apply {manager : ModifierFlagManager} {counters : ModifierFlagCounters}
    (represents : Represents manager counters) (operation : ModifierFlagOperation) :
    Represents (operation.apply manager) (operation.count counters) := by
  cases operation with
  | pushBack flag => exact represents.pushBack flag
  | eraseAll deviceId => exact represents.filter fun _ _ device => !(device == deviceId)
  | eraseAllExceptLockAndSticky deviceId =>
      have plainOnly : (fun flag : ActiveModifierFlag =>
          !(flag.deviceId == deviceId && !flag.anyLock && !flag.sticky)) =
          fun flag => !(flag.deviceId == deviceId && flag.kind == .plain) := by
        funext flag
        rw [ActiveModifierFlag.anyLock, ActiveModifierFlag.sticky,
          ActiveModifierFlagType.anyLock_eq, ActiveModifierFlagType.sticky_eq,
          ActiveModifierFlag.kind, Bool.and_assoc]
        cases flag.type <;> rfl
      have kept := represents.filter fun kind _ device => !(device == deviceId && kind == .plain)
      simp only [← plainOnly] at kept
      exact kept
  | eraseCapsLockSticky =>
      have kept := represents.filter fun kind modifierFlag _ =>
        !(modifierFlag == .capsLock && kind == .sticky)
      simpa only [ModifierFlagOperation.apply, ModifierFlagOperation.count,
        eraseCapsLockStickyModifierFlags, ActiveModifierFlag.sticky, ActiveModifierFlag.kind,
        ActiveModifierFlagType.sticky_eq] using kept
  | eraseAllSticky =>
      have kept := represents.filter fun kind _ _ => !(kind == .sticky)
      simpa only [ModifierFlagOperation.apply, ModifierFlagOperation.count,
        eraseAllStickyModifierFlags, ActiveModifierFlag.sticky, ActiveModifierFlag.kind,
        ActiveModifierFlagType.sticky_eq] using kept
  | reset =>
      have kept := represents.filter fun _ _ _ => false
      simp only [List.filter_false] at kept
      exact kept

theorem Represents.run {manager : ModifierFlagManager} {counters : ModifierFlagCounters}
    (represents : Represents manager counters) (operations : List ModifierFlagOperation) :
    Represents (operations.foldl ModifierFlagOperation.apply manager)
      (operations.foldl ModifierFlagOperation.count counters) := by
  induction operations generalizing manager counters with
  | nil => exact represents
  | cons operation rest ih => exact ih (represents.apply operation)

/-! ## Reading the counters off the list -/

theorem Represents.mem_iff {manager : ModifierFlagManager} {counters : ModifierFlagCounters}
    (represents : Represents manager counters) (flag : ActiveModifierFlag) :
    flag ∈ manager.activeModifierFlags ↔ 0 < counters.value flag := by
  rw [← List.count_pos_iff, represents.count_eq, Int.pos_iff_toNat_pos]

theorem Represents.unpaired {manager : ModifierFlagManager} {counters : ModifierFlagCounters}
    (represents : Represents manager counters) :
    ∀ first ∈ manager.activeModifierFlags, ∀ second ∈ manager.activeModifierFlags,
      first.isPaired second = false :=
  fun _ first _ second => unpaired_of_reduced represents.reduced first second

theorem Represents.type_ne_decreaseLedLock {manager : ModifierFlagManager}
    {counters : ModifierFlagCounters} (represents : Represents manager counters)
    (flag : ActiveModifierFlag) (present : flag ∈ manager.activeModifierFlags) :
    flag.type ≠ .decreaseLedLock := by
  intro type
  have positive := (represents.mem_iff flag).mp present
  have bounds := counters.counter_ledLock_bounds flag.modifierFlag flag.deviceId
  rw [ModifierFlagCounters.value, ActiveModifierFlag.kind, ActiveModifierFlag.getCount, type]
    at positive
  simp only [ActiveModifierFlagType.kind, ActiveModifierFlagType.getCount] at positive
  omega

/-- A flag of the LED that is in the list is the one LED flag of its modifier. -/
theorem Represents.ledLock_mem {manager : ModifierFlagManager} {counters : ModifierFlagCounters}
    (represents : Represents manager counters) {flag : ActiveModifierFlag}
    (present : flag ∈ manager.activeModifierFlags) (led : flag.ledLock = true) :
    flag = ActiveModifierFlag.make .increaseLedLock flag.modifierFlag 0 := by
  have notDecrease := represents.type_ne_decreaseLedLock flag present
  have device := flag.ledLock_shared led
  rw [ActiveModifierFlag.ext_iff']
  refine ⟨?_, rfl, device⟩
  have type : flag.type = .increaseLedLock := by
    unfold ActiveModifierFlag.ledLock at led
    revert led notDecrease
    cases flag.type <;> simp [ActiveModifierFlagType.ledLock]
  exact type

/-- The list has at most one LED lock of a modifier, and one exactly if its counter is set. -/
theorem Represents.ledLockSize_eq {manager : ModifierFlagManager}
    {counters : ModifierFlagCounters} (represents : Represents manager counters)
    (modifierFlag : ModifierFlag) :
    manager.ledLockSize modifierFlag = if counters.led modifierFlag then 1 else 0 := by
  have one : manager.ledLockSize modifierFlag = manager.activeModifierFlags.count
      (ActiveModifierFlag.make .increaseLedLock modifierFlag 0) := by
    unfold ledLockSize List.count
    apply List.countP_congr
    intro flag present
    rw [Bool.and_eq_true, beq_iff_eq, beq_iff_eq]
    constructor
    · rintro ⟨rfl, led⟩
      exact represents.ledLock_mem present led
    · rintro rfl
      exact ⟨rfl, rfl⟩
  have value : counters.value (.make .increaseLedLock modifierFlag 0) =
      if counters.led modifierFlag then 1 else 0 := by
    simp [ModifierFlagCounters.value, ActiveModifierFlag.kind, ActiveModifierFlag.make,
      ActiveModifierFlagType.kind, ActiveModifierFlag.getCount, ActiveModifierFlagType.getCount,
      ModifierFlagCounters.counter]
  rw [one, represents.count_eq, value]
  cases counters.led modifierFlag <;> rfl

/-! ## Which modifiers are pressed -/

/-- What one flag adds to the count of a modifier and device, the LED left out. -/
def contribution (flag : ActiveModifierFlag) (modifierFlag : ModifierFlag)
    (deviceId : DeviceId) : Int :=
  if flag.ledLock = false ∧ flag.modifierFlag = modifierFlag ∧ flag.deviceId = deviceId then
    flag.getCount
  else 0

/-- In a list with one more flag the signed number of a flag changes by the flag itself and its
inverse. -/
theorem signed_cons (flags : List ActiveModifierFlag) (flag other : ActiveModifierFlag) :
    signed ActiveModifierFlag.inverse (flag :: flags) other =
      signed ActiveModifierFlag.inverse flags other + (if flag = other then 1 else 0) -
        (if flag = other.inverse then 1 else 0) := by
  have counted : ∀ x, ((flag :: flags).count x : Int) =
      flags.count x + if flag = x then 1 else 0 := by
    intro x
    rw [List.count_cons]
    by_cases same : flag = x <;> simp [same]
  rw [signed, counted, counted, signed]
  omega

/-- The signed number of the three summed families at a modifier and device. -/
def signedTotal (flags : List ActiveModifierFlag) (modifierFlag : ModifierFlag)
    (deviceId : DeviceId) : Int :=
  signed ActiveModifierFlag.inverse flags (.make .increase modifierFlag deviceId) +
    signed ActiveModifierFlag.inverse flags (.make .increaseLock modifierFlag deviceId) +
    signed ActiveModifierFlag.inverse flags (.make .increaseSticky modifierFlag deviceId)

/-- A flag adds its own contribution to the signed total of its modifier and device. -/
theorem signedTotal_cons (flags : List ActiveModifierFlag) (flag : ActiveModifierFlag)
    (modifierFlag : ModifierFlag) (deviceId : DeviceId) :
    signedTotal (flag :: flags) modifierFlag deviceId =
      signedTotal flags modifierFlag deviceId + contribution flag modifierFlag deviceId := by
  have split : contribution flag modifierFlag deviceId =
      ((if flag = .make .increase modifierFlag deviceId then 1 else 0) -
        (if flag = (ActiveModifierFlag.make .increase modifierFlag deviceId).inverse
          then 1 else 0)) +
      ((if flag = .make .increaseLock modifierFlag deviceId then 1 else 0) -
        (if flag = (ActiveModifierFlag.make .increaseLock modifierFlag deviceId).inverse
          then 1 else 0)) +
      ((if flag = .make .increaseSticky modifierFlag deviceId then 1 else 0) -
        (if flag = (ActiveModifierFlag.make .increaseSticky modifierFlag deviceId).inverse
          then 1 else 0)) := by
    simp only [ActiveModifierFlag.ext_iff', ActiveModifierFlag.inverse_type,
      ActiveModifierFlag.inverse_modifierFlag, ActiveModifierFlag.inverse_deviceId]
    unfold contribution ActiveModifierFlag.ledLock ActiveModifierFlag.getCount
    cases flag.type <;>
      simp [ActiveModifierFlag.make, ActiveModifierFlagType.inverse,
        ActiveModifierFlagType.ledLock, ActiveModifierFlagType.getCount] <;>
      split <;> rfl
  unfold signedTotal
  rw [signed_cons, signed_cons, signed_cons, split]
  omega

/-- The flags of a modifier that `is_pressed` sums over, the LED left out. -/
def ownFlags (flags : List ActiveModifierFlag) (modifierFlag : ModifierFlag) :
    List ActiveModifierFlag :=
  (flags.filter (fun f => f.modifierFlag == modifierFlag)).filter (fun f => !f.ledLock)

theorem mem_ownFlags {flags : List ActiveModifierFlag} {modifierFlag : ModifierFlag}
    {flag : ActiveModifierFlag} :
    flag ∈ ownFlags flags modifierFlag ↔
      flag ∈ flags ∧ flag.modifierFlag = modifierFlag ∧ flag.ledLock = false := by
  simp only [ownFlags, List.mem_filter, beq_iff_eq, Bool.not_eq_true', and_assoc]

/-- What the flags of a modifier count is the sum of the totals of the devices. -/
theorem sum_ownFlags (flags : List ActiveModifierFlag) (modifierFlag : ModifierFlag)
    (devices : Finset DeviceId) (covers : ∀ flag ∈ flags, flag.deviceId ∈ devices) :
    ((ownFlags flags modifierFlag).map ActiveModifierFlag.getCount).sum =
      ∑ deviceId ∈ devices, signedTotal flags modifierFlag deviceId := by
  induction flags with
  | nil => simp [ownFlags, signedTotal]
  | cons flag flags ih =>
      have rest := ih fun other present => covers other (List.mem_cons_of_mem _ present)
      have here := covers flag List.mem_cons_self
      have own : ∑ deviceId ∈ devices, contribution flag modifierFlag deviceId =
          if flag.ledLock = false ∧ flag.modifierFlag = modifierFlag then flag.getCount
          else 0 := by
        unfold contribution
        by_cases counts : flag.ledLock = false ∧ flag.modifierFlag = modifierFlag
        · simp [counts, here]
        · rw [if_neg counts]
          exact Finset.sum_eq_zero fun deviceId _ =>
            if_neg fun all => counts ⟨all.1, all.2.1⟩
      simp only [signedTotal_cons, Finset.sum_add_distrib, own, ← rest]
      unfold ownFlags
      by_cases modifier : flag.modifierFlag = modifierFlag
      · cases led : flag.ledLock <;> simp [modifier, led, add_comm]
      · simp [modifier]

theorem Represents.signedTotal_eq {manager : ModifierFlagManager}
    {counters : ModifierFlagCounters} (represents : Represents manager counters)
    (modifierFlag : ModifierFlag) (deviceId : DeviceId) :
    signedTotal manager.activeModifierFlags modifierFlag deviceId =
      counters.total modifierFlag deviceId := by
  unfold signedTotal
  rw [represents.signed_eq, represents.signed_eq, represents.signed_eq]
  simp [ModifierFlagCounters.value, ActiveModifierFlag.getCount, ActiveModifierFlag.make,
    ActiveModifierFlagType.getCount, ActiveModifierFlag.kind, ActiveModifierFlagType.kind,
    ModifierFlagCounters.counter, ModifierFlagCounters.total, ActiveModifierFlagType.ledLock]

/-- A counter that is not zero puts a flag of its modifier and device in the list. -/
theorem Represents.exists_of_counter {manager : ModifierFlagManager}
    {counters : ModifierFlagCounters} (represents : Represents manager counters)
    (type : ActiveModifierFlagType) (notLed : type.ledLock = false) (modifierFlag : ModifierFlag)
    (deviceId : DeviceId) (nonzero : counters.counter type.kind modifierFlag deviceId ≠ 0) :
    ∃ flag ∈ manager.activeModifierFlags, flag.modifierFlag = modifierFlag ∧
      flag.ledLock = false ∧ flag.deviceId = deviceId := by
  have device : (ActiveModifierFlag.make type modifierFlag deviceId).deviceId = deviceId := by
    simp [ActiveModifierFlag.make, notLed]
  have value : counters.value (.make type modifierFlag deviceId) =
      type.getCount * counters.counter type.kind modifierFlag deviceId := by
    rw [ModifierFlagCounters.value, device]
    rfl
  have moved : counters.value (.make type modifierFlag deviceId) ≠ 0 := by
    rw [value]
    rcases type.getCount_cases with count | count <;> rw [count] <;> omega
  rcases lt_or_gt_of_ne moved with negative | positive
  · refine ⟨(ActiveModifierFlag.make type modifierFlag deviceId).inverse, ?_, rfl, ?_, ?_⟩
    · rw [represents.mem_iff, ModifierFlagCounters.value_inverse]
      omega
    · exact (ActiveModifierFlagType.ledLock_inverse type).trans notLed
    · rw [ActiveModifierFlag.inverse_deviceId, device]
  · exact ⟨_, (represents.mem_iff _).mpr positive, rfl, notLed, device⟩

/-- A modifier has a counter that is not zero exactly if it has flags in the list. -/
theorem Represents.nonzero_iff {manager : ModifierFlagManager} {counters : ModifierFlagCounters}
    (represents : Represents manager counters) (modifierFlag : ModifierFlag) :
    counters.Nonzero modifierFlag ↔ ownFlags manager.activeModifierFlags modifierFlag ≠ [] := by
  constructor
  · rintro ⟨deviceId, nonzero⟩
    have found : ∃ flag ∈ manager.activeModifierFlags, flag.modifierFlag = modifierFlag ∧
        flag.ledLock = false ∧ flag.deviceId = deviceId := by
      rcases nonzero with plain | lock | sticky
      · exact represents.exists_of_counter .increase rfl modifierFlag deviceId plain
      · exact represents.exists_of_counter .increaseLock rfl modifierFlag deviceId lock
      · exact represents.exists_of_counter .increaseSticky rfl modifierFlag deviceId sticky
    obtain ⟨flag, present, modifier, notLed, _⟩ := found
    exact List.ne_nil_of_mem (mem_ownFlags.mpr ⟨present, modifier, notLed⟩)
  · intro nonempty
    obtain ⟨flag, member⟩ := List.exists_mem_of_ne_nil _ nonempty
    obtain ⟨present, rfl, notLed⟩ := mem_ownFlags.mp member
    have positive := (represents.mem_iff flag).mp present
    refine ⟨flag.deviceId, ?_⟩
    have nonzero : counters.counter flag.kind flag.modifierFlag flag.deviceId ≠ 0 := by
      intro zero
      rw [ModifierFlagCounters.value, zero, mul_zero] at positive
      exact absurd positive (lt_irrefl 0)
    rw [ActiveModifierFlag.ledLock, ActiveModifierFlagType.ledLock_eq,
      decide_eq_false_iff_not] at notLed
    cases kind : flag.kind with
    | plain => exact Or.inl (by rw [kind] at nonzero; exact nonzero)
    | lock => exact Or.inr (Or.inl (by rw [kind] at nonzero; exact nonzero))
    | sticky => exact Or.inr (Or.inr (by rw [kind] at nonzero; exact nonzero))
    | ledLock => exact absurd kind notLed

/-- Only finitely many devices have a counter that is not zero. -/
theorem Represents.total_support {manager : ModifierFlagManager}
    {counters : ModifierFlagCounters} (represents : Represents manager counters)
    (modifierFlag : ModifierFlag) :
    Function.support (counters.total modifierFlag) ⊆
      ((manager.activeModifierFlags.map ActiveModifierFlag.deviceId).toFinset :
        Set DeviceId) := by
  intro deviceId nonzero
  have found : ∃ flag ∈ manager.activeModifierFlags, flag.modifierFlag = modifierFlag ∧
      flag.ledLock = false ∧ flag.deviceId = deviceId := by
    by_contra none
    have plain : counters.plain modifierFlag deviceId = 0 := by
      by_contra counter
      exact none (represents.exists_of_counter .increase rfl modifierFlag deviceId counter)
    have lock : counters.lock modifierFlag deviceId = 0 := by
      by_contra counter
      exact none (represents.exists_of_counter .increaseLock rfl modifierFlag deviceId counter)
    have sticky : counters.sticky modifierFlag deviceId = 0 := by
      by_contra counter
      exact none (represents.exists_of_counter .increaseSticky rfl modifierFlag deviceId counter)
    exact nonzero (by simp [ModifierFlagCounters.total, plain, lock, sticky])
  obtain ⟨flag, present, _, _, device⟩ := found
  rw [Finset.mem_coe, List.mem_toFinset, ← device]
  exact List.mem_map_of_mem present

theorem Represents.sum_eq_finsum {manager : ModifierFlagManager}
    {counters : ModifierFlagCounters} (represents : Represents manager counters)
    (modifierFlag : ModifierFlag) :
    ((ownFlags manager.activeModifierFlags modifierFlag).map ActiveModifierFlag.getCount).sum =
      ∑ᶠ deviceId, counters.total modifierFlag deviceId := by
  rw [finsum_eq_sum_of_support_subset _ (represents.total_support modifierFlag),
    sum_ownFlags _ _ (manager.activeModifierFlags.map ActiveModifierFlag.deviceId).toFinset
      (fun flag present => by
        rw [List.mem_toFinset]
        exact List.mem_map_of_mem present)]
  exact Finset.sum_congr rfl fun deviceId _ => represents.signedTotal_eq modifierFlag deviceId

/-- The LED flags of a modifier all count one, and there is one exactly when its
bit is set. -/
theorem Represents.ledCount_pos {manager : ModifierFlagManager}
    {counters : ModifierFlagCounters} (represents : Represents manager counters)
    (modifierFlag : ModifierFlag) :
    0 < ((((manager.activeModifierFlags.filter fun f => f.modifierFlag == modifierFlag).filter
        (·.ledLock)).map ActiveModifierFlag.getCount).sum) ↔
      counters.led modifierFlag = true := by
  have ones : ((manager.activeModifierFlags.filter fun f => f.modifierFlag == modifierFlag).filter
      (·.ledLock)).map ActiveModifierFlag.getCount =
      ((manager.activeModifierFlags.filter fun f => f.modifierFlag == modifierFlag).filter
        (·.ledLock)).map fun _ => 1 := by
    apply List.map_congr_left
    intro flag member
    rw [List.mem_filter, List.mem_filter] at member
    rw [represents.ledLock_mem member.1.1 member.2]
    rfl
  have size : manager.ledLockSize modifierFlag =
      ((manager.activeModifierFlags.filter fun f => f.modifierFlag == modifierFlag).filter
        (·.ledLock)).length := by
    rw [ledLockSize, List.countP_eq_length_filter, List.filter_filter]
    congr 2
    funext flag
    exact Bool.and_comm _ _
  rw [ones, List.map_const', List.sum_replicate, ← size, represents.ledLockSize_eq]
  cases counters.led modifierFlag <;> simp

/-- `is_pressed` compares the sum of the counters with zero, and asks the LED
when all of them are zero. -/
theorem Represents.isPressed_iff {manager : ModifierFlagManager}
    {counters : ModifierFlagCounters} (represents : Represents manager counters)
    (modifierFlag : ModifierFlag) :
    manager.isPressed modifierFlag = true ↔
      (counters.Nonzero modifierFlag ∧
        0 < ∑ᶠ deviceId, counters.total modifierFlag deviceId) ∨
      (¬ counters.Nonzero modifierFlag ∧ counters.led modifierFlag = true) := by
  have sum := represents.sum_eq_finsum modifierFlag
  have led := represents.ledCount_pos modifierFlag
  have nonzero := represents.nonzero_iff modifierFlag
  unfold ownFlags at sum nonzero
  unfold isPressed
  simp only [List.length_eq_zero_iff]
  split
  · rename_i empty
    rw [decide_eq_true_iff, gt_iff_lt, led]
    have none := mt nonzero.mp (not_not.mpr empty)
    simp [none]
  · rename_i nonempty
    rw [decide_eq_true_iff, gt_iff_lt, sum]
    have some := nonzero.mpr nonempty
    simp [some]

/-! ## Orders of pushes -/

/-- The types whose counters are plain sums. -/
def summedTypes : List ActiveModifierFlagType :=
  [.increase, .decrease, .increaseSticky, .decreaseSticky]

/-- A flag with a plain sum is no LED lock. -/
theorem ledLock_of_summed {flag : ActiveModifierFlag} (summed : flag.type ∈ summedTypes) :
    flag.ledLock = false := by
  unfold ActiveModifierFlag.ledLock
  revert summed
  cases flag.type <;> simp [summedTypes, ActiveModifierFlagType.ledLock]

theorem updateAt_comm (table : ModifierFlag → DeviceId → Int) (first second : ActiveModifierFlag) :
    ModifierFlagCounters.updateAt
        (ModifierFlagCounters.updateAt table first (· + first.getCount)) second
        (· + second.getCount) =
      ModifierFlagCounters.updateAt
        (ModifierFlagCounters.updateAt table second (· + second.getCount)) first
        (· + first.getCount) := by
  funext modifierFlag deviceId
  unfold ModifierFlagCounters.updateAt
  split
  · split
    · exact add_right_comm _ _ _
    · rfl
  · rfl

/-- Pushes onto summed counters commute. -/
theorem push_comm (counters : ModifierFlagCounters) (first second : ActiveModifierFlag)
    (firstSummed : first.type ∈ summedTypes) (secondSummed : second.type ∈ summedTypes) :
    (counters.push first).push second = (counters.push second).push first := by
  have summed : ∀ flag : ActiveModifierFlag, flag.type ∈ summedTypes →
      flag.kind = .plain ∨ flag.kind = .sticky := by
    intro flag member
    unfold ActiveModifierFlag.kind
    revert member
    cases flag.type <;> simp [summedTypes, ActiveModifierFlagType.kind]
  unfold ModifierFlagCounters.push
  rcases summed first firstSummed with firstKind | firstKind <;>
    rcases summed second secondSummed with secondKind | secondKind <;>
    simp only [firstKind, secondKind, updateAt_comm]

theorem count_pushes_perm (counters : ModifierFlagCounters)
    {pushes reordered : List ActiveModifierFlag} (summed : ∀ flag ∈ pushes, flag.type ∈ summedTypes)
    (same : pushes.Perm reordered) :
    (pushes.map ModifierFlagOperation.pushBack).foldl ModifierFlagOperation.count counters =
      (reordered.map ModifierFlagOperation.pushBack).foldl ModifierFlagOperation.count
        counters := by
  rw [List.foldl_map, List.foldl_map]
  exact same.foldl_eq' (fun first firstMember second secondMember reached =>
    push_comm reached first second (summed first firstMember) (summed second secondMember)) counters

/-- Two lists that represent the same counters answer `is_pressed` alike. -/
theorem Represents.isPressed_congr {first second : ModifierFlagManager}
    {counters : ModifierFlagCounters} (representsFirst : Represents first counters)
    (representsSecond : Represents second counters) (modifierFlag : ModifierFlag) :
    first.isPressed modifierFlag = second.isPressed modifierFlag := by
  rw [Bool.eq_iff_iff, representsFirst.isPressed_iff, representsSecond.isPressed_iff]

/-- After any operations from the empty list, the list is the family of counters
those operations count: no pair, no flag that clears the LED and at most one that
sets it, each flag as often as its counter says, and `is_pressed` by the sum of
the counters, or by the LED bit when they are all zero. The order of plain and
sticky pushes does not matter, whatever comes before and after them. -/
theorem manager_counts (operations : List ModifierFlagOperation) :
    let run := fun actions : List ModifierFlagOperation =>
      actions.foldl ModifierFlagOperation.apply ⟨[]⟩
    let counters := operations.foldl ModifierFlagOperation.count ModifierFlagCounters.zero
    (∀ first ∈ (run operations).activeModifierFlags,
      ∀ second ∈ (run operations).activeModifierFlags, first.isPaired second = false) ∧
    (∀ flag ∈ (run operations).activeModifierFlags, flag.type ≠ .decreaseLedLock) ∧
    (∀ modifierFlag, (run operations).ledLockSize modifierFlag ≤ 1) ∧
    (∀ flag, (run operations).activeModifierFlags.count flag = (counters.value flag).toNat) ∧
    (∀ flag kind modifierFlag deviceId,
      ¬ (kind = flag.kind ∧ modifierFlag = flag.modifierFlag ∧ deviceId = flag.deviceId) →
      (counters.push flag).counter kind modifierFlag deviceId =
        counters.counter kind modifierFlag deviceId) ∧
    (∀ modifierFlag, (Function.support (counters.total modifierFlag)).Finite) ∧
    (∀ modifierFlag, (run operations).isPressed modifierFlag = true ↔
      (counters.Nonzero modifierFlag ∧
        0 < ∑ᶠ deviceId, counters.total modifierFlag deviceId) ∨
      (¬ counters.Nonzero modifierFlag ∧ counters.led modifierFlag = true)) ∧
    (∀ (pushes reordered : List ActiveModifierFlag) rest, (∀ flag ∈ pushes, flag.type ∈ summedTypes) →
      pushes.Perm reordered → ∀ modifierFlag,
        (run (operations ++ pushes.map .pushBack ++ rest)).isPressed modifierFlag =
          (run (operations ++ reordered.map .pushBack ++ rest)).isPressed modifierFlag) := by
  have represents := represents_empty.run operations
  refine ⟨represents.unpaired, represents.type_ne_decreaseLedLock, ?_, represents.count_eq, ?_,
    ?_, represents.isPressed_iff, ?_⟩
  · intro modifierFlag
    rw [represents.ledLockSize_eq]
    split <;> omega
  · intro flag kind modifierFlag deviceId elsewhere
    rw [ModifierFlagCounters.counter_push, if_neg elsewhere]
  · exact fun modifierFlag =>
      (Finset.finite_toSet _).subset (represents.total_support modifierFlag)
  · intro pushes reordered rest summed same modifierFlag
    have first := represents_empty.run (operations ++ pushes.map .pushBack ++ rest)
    have second := represents_empty.run (operations ++ reordered.map .pushBack ++ rest)
    have counts : (operations ++ pushes.map ModifierFlagOperation.pushBack ++ rest).foldl
        ModifierFlagOperation.count ModifierFlagCounters.zero =
        (operations ++ reordered.map ModifierFlagOperation.pushBack ++ rest).foldl
          ModifierFlagOperation.count ModifierFlagCounters.zero := by
      simp only [List.foldl_append, count_pushes_perm _ summed same]
    rw [counts] at first
    exact first.isPressed_congr second modifierFlag

end ModifierFlagManager

end Karabiner

import Karabiner.Types.MomentarySwitchEvent
import Karabiner.Foundation.CancellingList

/-! # The modifier flag manager

`krbn::modifier_flag_manager` keeps one list of active modifier flags of four
kinds: the flags of pressed keys, locks, the caps lock LED and sticky
modifiers. Adding a flag erases the pair it forms with a flag of the inverse
type, modifier and device.

`erasePairs` edits the list it is scanning. Its index adjustment is right
because a push creates at most one pair
(`Karabiner.ModifierFlagManager.erasePairs_append`), so that a push of a
cancelling flag is the push of a cancelling list
(`Foundation.CancellingList.push`).
-/

namespace Karabiner

/-- `active_modifier_flag::type`. -/
inductive ActiveModifierFlagType where
  | increase
  | decrease
  | increaseLock
  | decreaseLock
  | increaseLedLock
  | decreaseLedLock
  | increaseSticky
  | decreaseSticky
deriving DecidableEq

namespace ActiveModifierFlagType

/-- `active_modifier_flag::get_inverse_type`. -/
def inverse : ActiveModifierFlagType → ActiveModifierFlagType
  | .increase => .decrease
  | .decrease => .increase
  | .increaseLock => .decreaseLock
  | .decreaseLock => .increaseLock
  | .increaseLedLock => .decreaseLedLock
  | .decreaseLedLock => .increaseLedLock
  | .increaseSticky => .decreaseSticky
  | .decreaseSticky => .increaseSticky

def getCount : ActiveModifierFlagType → Int
  | .increase | .increaseLock | .increaseLedLock | .increaseSticky => 1
  | .decrease | .decreaseLock | .decreaseLedLock | .decreaseSticky => -1

def anyLock : ActiveModifierFlagType → Bool
  | .increaseLock | .decreaseLock | .increaseLedLock | .decreaseLedLock => true
  | .increase | .decrease | .increaseSticky | .decreaseSticky => false

def ledLock : ActiveModifierFlagType → Bool
  | .increaseLedLock | .decreaseLedLock => true
  | .increase | .decrease | .increaseLock | .decreaseLock | .increaseSticky
  | .decreaseSticky => false

def sticky : ActiveModifierFlagType → Bool
  | .increaseSticky | .decreaseSticky => true
  | .increase | .decrease | .increaseLock | .decreaseLock | .increaseLedLock
  | .decreaseLedLock => false

@[simp] theorem inverse_inverse (type : ActiveModifierFlagType) : type.inverse.inverse = type := by
  cases type <;> rfl

theorem inverse_ne (type : ActiveModifierFlagType) : type.inverse ≠ type := by
  cases type <;> decide

@[simp] theorem ledLock_inverse (type : ActiveModifierFlagType) :
    type.inverse.ledLock = type.ledLock := by
  cases type <;> rfl

@[simp] theorem getCount_inverse (type : ActiveModifierFlagType) :
    type.inverse.getCount = -type.getCount := by
  cases type <;> rfl

end ActiveModifierFlagType

/-- `modifier_flag_manager::active_modifier_flag`. The LED lock is shared by all
devices, so a LED flag always carries device `0`. -/
structure ActiveModifierFlag where
  type : ActiveModifierFlagType
  modifierFlag : ModifierFlag
  deviceId : DeviceId
  ledLock_shared : type.ledLock = true → deviceId = 0
deriving DecidableEq

namespace ActiveModifierFlag

/-- The constructor of the source, which replaces the device of a LED flag. -/
def make (type : ActiveModifierFlagType) (modifierFlag : ModifierFlag) (deviceId : DeviceId) :
    ActiveModifierFlag :=
  ⟨type, modifierFlag, if type.ledLock then 0 else deviceId, fun led => by simp [led]⟩

/-- The flag of the inverse type with the same modifier and device. -/
def inverse (flag : ActiveModifierFlag) : ActiveModifierFlag :=
  make flag.type.inverse flag.modifierFlag flag.deviceId

def getCount (flag : ActiveModifierFlag) : Int := flag.type.getCount

def anyLock (flag : ActiveModifierFlag) : Bool := flag.type.anyLock

def ledLock (flag : ActiveModifierFlag) : Bool := flag.type.ledLock

def sticky (flag : ActiveModifierFlag) : Bool := flag.type.sticky

/-- `active_modifier_flag::is_paired`. -/
def isPaired (flag other : ActiveModifierFlag) : Bool :=
  flag.type == other.type.inverse && flag.modifierFlag == other.modifierFlag &&
    flag.deviceId == other.deviceId

theorem ext_iff' (first second : ActiveModifierFlag) :
    first = second ↔ first.type = second.type ∧ first.modifierFlag = second.modifierFlag ∧
      first.deviceId = second.deviceId := by
  cases first
  cases second
  simp

/-- Only the LED types ignore the device they are given. -/
theorem make_deviceId_self (flag : ActiveModifierFlag) (type : ActiveModifierFlagType)
    (same : type.ledLock = flag.type.ledLock) :
    (make type flag.modifierFlag flag.deviceId).deviceId = flag.deviceId := by
  unfold make
  split
  · rename_i led
    exact (flag.ledLock_shared (same ▸ led)).symm
  · rfl

@[simp] theorem inverse_type (flag : ActiveModifierFlag) :
    flag.inverse.type = flag.type.inverse := rfl

@[simp] theorem inverse_modifierFlag (flag : ActiveModifierFlag) :
    flag.inverse.modifierFlag = flag.modifierFlag := rfl

@[simp] theorem inverse_deviceId (flag : ActiveModifierFlag) :
    flag.inverse.deviceId = flag.deviceId :=
  make_deviceId_self flag _ (by simp)

@[simp] theorem inverse_inverse (flag : ActiveModifierFlag) : flag.inverse.inverse = flag := by
  simp [ext_iff']

theorem inverse_ne (flag : ActiveModifierFlag) : flag.inverse ≠ flag := fun same =>
  flag.type.inverse_ne (congrArg ActiveModifierFlag.type same)

/-- Two flags are paired exactly when the first is the inverse of the second. -/
theorem isPaired_iff (flag other : ActiveModifierFlag) :
    flag.isPaired other = true ↔ flag = other.inverse := by
  simp [isPaired, ext_iff', and_assoc]

end ActiveModifierFlag

/-- `krbn::modifier_flag_manager`. -/
structure ModifierFlagManager where
  activeModifierFlags : List ActiveModifierFlag
deriving DecidableEq

namespace ModifierFlagManager

/-- The inner loop of `erase_pairs`: the first index from `i2` on whose flag is
paired with the flag at `i1`. -/
def findPaired (flags : List ActiveModifierFlag) (i1 i2 : Nat) : Option Nat :=
  match flags[i1]? with
  | none => none
  | some flag => ((flags.drop i2).findIdx? (flag.isPaired ·)).map (i2 + ·)

/-- The outer loop of `erase_pairs` from index `i1` on. A found pair is erased,
`i1` steps back unless it is zero, and the loop increment follows. An iteration
either erases two flags or passes one, so `flags.length` iterations suffice and
`fuel` never ends the loop early (`erasePairsLoop_stable`). -/
def erasePairsLoop : Nat → List ActiveModifierFlag → Nat → List ActiveModifierFlag
  | 0, flags, _ => flags
  | fuel + 1, flags, i1 =>
      if i1 < flags.length then
        match findPaired flags i1 (i1 + 1) with
        | some i2 => erasePairsLoop fuel ((flags.eraseIdx i2).eraseIdx i1) (i1 - 1 + 1)
        | none => erasePairsLoop fuel flags (i1 + 1)
      else flags

/-- `modifier_flag_manager::erase_pairs`. -/
def erasePairs (flags : List ActiveModifierFlag) : List ActiveModifierFlag :=
  erasePairsLoop flags.length flags 0

/-- `modifier_flag_manager::push_back_active_modifier_flag`. -/
def pushBackActiveModifierFlag (manager : ModifierFlagManager) (flag : ActiveModifierFlag) :
    ModifierFlagManager :=
  match flag.type with
  | .increase | .decrease | .increaseSticky | .decreaseSticky =>
      ⟨erasePairs (manager.activeModifierFlags ++ [flag])⟩
  | .increaseLock | .decreaseLock | .increaseLedLock =>
      -- Remove same type entries.
      ⟨erasePairs (manager.activeModifierFlags.filter (fun f => !(f == flag)) ++ [flag])⟩
  | .decreaseLedLock =>
      -- Remove all type::increase_led_lock.
      ⟨manager.activeModifierFlags.filter (fun f => !f.isPaired flag)⟩

def eraseAllActiveModifierFlags (manager : ModifierFlagManager) (deviceId : DeviceId) :
    ModifierFlagManager :=
  ⟨manager.activeModifierFlags.filter (fun f => !(f.deviceId == deviceId))⟩

def eraseAllActiveModifierFlagsExceptLockAndSticky (manager : ModifierFlagManager)
    (deviceId : DeviceId) : ModifierFlagManager :=
  ⟨manager.activeModifierFlags.filter
    (fun f => !(f.deviceId == deviceId && !f.anyLock && !f.sticky))⟩

def eraseCapsLockStickyModifierFlags (manager : ModifierFlagManager) : ModifierFlagManager :=
  ⟨manager.activeModifierFlags.filter (fun f => !(f.modifierFlag == .capsLock && f.sticky))⟩

def eraseAllStickyModifierFlags (manager : ModifierFlagManager) : ModifierFlagManager :=
  ⟨manager.activeModifierFlags.filter (fun f => !f.sticky)⟩

def reset (_manager : ModifierFlagManager) : ModifierFlagManager := ⟨[]⟩

/-- `modifier_flag_manager::is_pressed`: the LED lock counts only when the
modifier has no other flag. -/
def isPressed (manager : ModifierFlagManager) (modifierFlag : ModifierFlag) : Bool :=
  let own := manager.activeModifierFlags.filter (fun f => f.modifierFlag == modifierFlag)
  let ledCount := ((own.filter (·.ledLock)).map ActiveModifierFlag.getCount).sum
  let count := ((own.filter (fun f => !f.ledLock)).map ActiveModifierFlag.getCount).sum
  let size := (own.filter (fun f => !f.ledLock)).length
  if size = 0 then decide (ledCount > 0) else decide (count > 0)

def ledLockSize (manager : ModifierFlagManager) (modifierFlag : ModifierFlag) : Nat :=
  manager.activeModifierFlags.countP (fun f => f.modifierFlag == modifierFlag && f.ledLock)

def stickySize (manager : ModifierFlagManager) (modifierFlag : ModifierFlag) : Nat :=
  manager.activeModifierFlags.countP (fun f => f.modifierFlag == modifierFlag && f.sticky)

def isStickyActive (manager : ModifierFlagManager) (modifierFlag : ModifierFlag) : Bool :=
  let own := manager.activeModifierFlags.filter
    (fun f => f.modifierFlag == modifierFlag && f.sticky)
  decide ((own.map ActiveModifierFlag.getCount).sum > 0)

/-- The flags over which `make_modifier_flags` and `scoped_modifier_flags` run,
in the order of the source. -/
def allModifierFlags : List ModifierFlag :=
  [.capsLock, .leftControl, .leftShift, .leftOption, .leftCommand, .rightControl, .rightShift,
    .rightOption, .rightCommand, .fn]

/-- `modifier_flag_manager::make_modifier_flags`. -/
def makeModifierFlags (manager : ModifierFlagManager) : List ModifierFlag :=
  allModifierFlags.filter manager.isPressed

/-! ## The pair scan -/

/-- Where no later flag is the inverse of a flag, the search for its partner finds none. -/
theorem findPaired_eq_none {flags : List ActiveModifierFlag} {i1 : Nat}
    (unpaired : ∀ (i2 : Nat) (a b : ActiveModifierFlag), i1 < i2 → flags[i1]? = some a →
      flags[i2]? = some b → a.isPaired b = false) :
    findPaired flags i1 (i1 + 1) = none := by
  unfold findPaired
  cases found : flags[i1]? with
  | none => rfl
  | some flag =>
      rw [Option.map_eq_none_iff, List.findIdx?_eq_none_iff]
      intro other present
      obtain ⟨offset, atOffset⟩ := List.mem_iff_getElem?.mp present
      rw [List.getElem?_drop] at atOffset
      exact unpaired _ flag other (by omega) found atOffset

/-- A found partner lies behind the flag it was looked up for. -/
theorem findPaired_bounds {flags : List ActiveModifierFlag} {i1 i2 found : Nat}
    (paired : findPaired flags i1 i2 = some found) : i2 ≤ found ∧ found < flags.length := by
  unfold findPaired at paired
  cases here : flags[i1]? with
  | none => simp [here] at paired
  | some flag =>
      rw [here, Option.map_eq_some_iff] at paired
      obtain ⟨offset, atOffset, rfl⟩ := paired
      have inside := (List.findIdx?_eq_some_iff_getElem.mp atOffset).1
      rw [List.length_drop] at inside
      omega

/-- Fuel beyond the remaining length changes nothing: the scan ends by itself. -/
theorem erasePairsLoop_stable (fuel extra : Nat) (flags : List ActiveModifierFlag) (i1 : Nat)
    (enough : flags.length - i1 ≤ fuel) :
    erasePairsLoop (fuel + extra) flags i1 = erasePairsLoop fuel flags i1 := by
  induction fuel generalizing flags i1 with
  | zero =>
      have outside : ¬ i1 < flags.length := by omega
      cases extra with
      | zero => rfl
      | succ extra =>
          rw [Nat.zero_add, erasePairsLoop, erasePairsLoop]
          exact if_neg outside
  | succ fuel ih =>
      rw [Nat.succ_add, erasePairsLoop, erasePairsLoop]
      by_cases inside : i1 < flags.length
      · rw [if_pos inside, if_pos inside]
        cases paired : findPaired flags i1 (i1 + 1) with
        | none => exact ih flags (i1 + 1) (by omega)
        | some i2 =>
            obtain ⟨behind, below⟩ := findPaired_bounds paired
            have shorter : ((flags.eraseIdx i2).eraseIdx i1).length = flags.length - 2 := by
              rw [List.length_eraseIdx_of_lt (by rw [List.length_eraseIdx_of_lt below]; omega),
                List.length_eraseIdx_of_lt below]
              omega
            exact ih _ _ (by omega)
      · rw [if_neg inside, if_neg inside]

/-- The scan leaves a list without pairs from `i1` on unchanged. -/
theorem erasePairsLoop_eq_self (fuel : Nat) (flags : List ActiveModifierFlag) (i1 : Nat)
    (unpaired : ∀ (j1 j2 : Nat) (a b : ActiveModifierFlag), i1 ≤ j1 → j1 < j2 →
      flags[j1]? = some a → flags[j2]? = some b → a.isPaired b = false) :
    erasePairsLoop fuel flags i1 = flags := by
  induction fuel generalizing i1 with
  | zero => rfl
  | succ fuel ih =>
      unfold erasePairsLoop
      rw [findPaired_eq_none (fun i2 a b later => unpaired i1 i2 a b (Nat.le_refl _) later)]
      split
      · exact ih _ fun j1 j2 a b above => unpaired j1 j2 a b (by omega)
      · rfl

/-- Indices without a later partner are stepped over. -/
theorem erasePairsLoop_skip (fuel : Nat) (flags : List ActiveModifierFlag) (i1 count : Nat)
    (within : i1 + count ≤ flags.length)
    (unpaired : ∀ j, i1 ≤ j → j < i1 + count → findPaired flags j (j + 1) = none) :
    erasePairsLoop (fuel + count) flags i1 = erasePairsLoop fuel flags (i1 + count) := by
  induction count generalizing i1 with
  | zero => rfl
  | succ count ih =>
      have inside : i1 < flags.length := by omega
      have none := unpaired i1 (Nat.le_refl _) (by omega)
      rw [← Nat.add_assoc, erasePairsLoop, if_pos inside, none]
      have rest := ih (i1 + 1) (by omega) fun j above below => unpaired j (by omega) (by omega)
      simpa only [Nat.add_assoc, Nat.add_comm 1 count] using rest

/-- In a list without pairs no two positions are paired. -/
theorem unpaired_of_reduced {flags : List ActiveModifierFlag}
    (reduced : Foundation.CancellingList.Reduced ActiveModifierFlag.inverse flags)
    {a b : ActiveModifierFlag} (first : a ∈ flags) (second : b ∈ flags) :
    a.isPaired b = false := by
  rw [Bool.eq_false_iff]
  intro paired
  have same := (ActiveModifierFlag.isPaired_iff a b).mp paired
  exact reduced b second (same ▸ first)

/-- Only one pair can exist after a push onto a list without pairs, and the scan
erases exactly that pair. -/
theorem erasePairs_append (flags : List ActiveModifierFlag) (flag : ActiveModifierFlag)
    (reduced : Foundation.CancellingList.Reduced ActiveModifierFlag.inverse flags) :
    erasePairs (flags ++ [flag]) =
      Foundation.CancellingList.push ActiveModifierFlag.inverse flags flag := by
  unfold Foundation.CancellingList.push
  by_cases partner : flag.inverse ∈ flags
  · rw [if_pos partner]
    obtain ⟨before, after, absent, split, erased⟩ := List.exists_erase_eq partner
    have notPaired : ∀ a ∈ before, a.isPaired flag = false := by
      intro a present
      rw [Bool.eq_false_iff]
      intro paired
      exact absent ((ActiveModifierFlag.isPaired_iff a flag).mp paired ▸ present)
    have inFlags : ∀ a ∈ before, a ∈ flags := fun a present => by
      rw [split]
      exact List.mem_append_left _ present
    -- The scan passes every index before the partner of the new flag.
    have skipped : ∀ j, 0 ≤ j → j < 0 + before.length →
        findPaired (flags ++ [flag]) j (j + 1) = none := by
      intro j _ below
      apply findPaired_eq_none
      intro i2 a b _ atFirst atSecond
      rw [split, List.append_assoc, List.getElem?_append_left (by omega)] at atFirst
      have inBefore := List.mem_of_getElem? atFirst
      rcases List.mem_append.mp (List.mem_of_getElem? atSecond) with present | present
      · exact unpaired_of_reduced reduced (inFlags a inBefore) present
      · rw [List.mem_singleton.mp present]
        exact notPaired a inBefore
    have length : (flags ++ [flag]).length = after.length + 1 + 1 + before.length := by
      rw [split]
      simp
      omega
    have found : findPaired (flags ++ [flag]) before.length (before.length + 1) =
        some flags.length := by
      have atPartner : (flags ++ [flag])[before.length]? = some flag.inverse := by
        simp [split]
      have rest : (flags ++ [flag]).drop (before.length + 1) = after ++ [flag] := by
        simp [split, List.drop_append]
      have noneAfter : after.findIdx? (flag.inverse.isPaired ·) = none := by
        rw [List.findIdx?_eq_none_iff]
        intro b present
        exact unpaired_of_reduced reduced partner (by simp [split, present])
      have last : flag.inverse.isPaired flag = true :=
        (ActiveModifierFlag.isPaired_iff _ _).mpr rfl
      have size : flags.length = before.length + 1 + after.length := by
        simp only [split, List.length_append, List.length_cons]
        omega
      unfold findPaired
      rw [atPartner, size]
      simp only [rest, List.findIdx?_append, noneAfter, Option.none_or, List.findIdx?_cons, last,
        ↓reduceIte, Option.map_some, Nat.zero_add]
    have removed : ((flags ++ [flag]).eraseIdx flags.length).eraseIdx before.length =
        before ++ after := by
      rw [List.eraseIdx_append_of_length_le (Nat.le_refl _), Nat.sub_self]
      simp [split, List.eraseIdx_append_of_length_le]
    have kept : Foundation.CancellingList.Reduced ActiveModifierFlag.inverse (before ++ after) :=
      reduced.sublist (by rw [← erased]; exact List.erase_sublist)
    unfold erasePairs
    rw [length, erasePairsLoop_skip _ _ 0 before.length (by simp [split]) skipped, Nat.zero_add,
      erasePairsLoop, if_pos (by rw [length]; omega), found]
    simp only [removed]
    rw [erased]
    apply erasePairsLoop_eq_self
    intro j1 j2 a b _ _ atFirst atSecond
    exact unpaired_of_reduced kept (List.mem_of_getElem? atFirst) (List.mem_of_getElem? atSecond)
  · rw [if_neg partner]
    apply erasePairsLoop_eq_self
    intro j1 j2 a b _ before atFirst atSecond
    have inside := (List.getElem?_eq_some_iff.mp atSecond).1
    rw [List.length_append, List.length_singleton] at inside
    rw [List.getElem?_append_left (by omega)] at atFirst
    have first := List.mem_of_getElem? atFirst
    rcases List.mem_append.mp (List.mem_of_getElem? atSecond) with present | present
    · exact unpaired_of_reduced reduced first present
    · rw [List.mem_singleton.mp present, Bool.eq_false_iff]
      intro paired
      exact partner ((ActiveModifierFlag.isPaired_iff a flag).mp paired ▸ first)

end ModifierFlagManager

end Karabiner

import Mathlib.Algebra.BigOperators.Group.List.Basic
import Mathlib.Algebra.Order.Group.Int
import Mathlib.Algebra.Ring.Int.Defs
import Karabiner.Types.MomentarySwitchEvent

/-! # The pointing button manager

`krbn::pointing_button_manager` lists the buttons that devices hold. A release
erases every press of the same button, whichever device sent it.
-/

namespace Karabiner

/-- `active_pointing_button::type`. -/
inductive ActivePointingButtonType where
  | increase
  | decrease
deriving DecidableEq

/-- `pointing_button_manager::active_pointing_button`. -/
structure ActivePointingButton where
  type : ActivePointingButtonType
  usagePair : UsagePair
  deviceId : DeviceId
deriving DecidableEq

namespace ActivePointingButton

def getInverseType (button : ActivePointingButton) : ActivePointingButtonType :=
  match button.type with
  | .increase => .decrease
  | .decrease => .increase

def getCount (button : ActivePointingButton) : Int :=
  match button.type with
  | .increase => 1
  | .decrease => -1

/-- `active_pointing_button::is_paired`, which ignores the device. -/
def isPaired (button other : ActivePointingButton) : Bool :=
  button.type == other.getInverseType && button.usagePair == other.usagePair

end ActivePointingButton

/-- `krbn::pointing_button_manager`. -/
structure PointingButtonManager where
  activePointingButtons : List ActivePointingButton
deriving DecidableEq

namespace PointingButtonManager

/-- `pointing_button_manager::push_back_active_pointing_button`. -/
def pushBackActivePointingButton (manager : PointingButtonManager)
    (button : ActivePointingButton) : PointingButtonManager :=
  if button.usagePair.usage = Usage.undefined then manager
  else
    match button.type with
    | .increase => ⟨manager.activePointingButtons ++ [button]⟩
    | .decrease => ⟨manager.activePointingButtons.filter fun b => !b.isPaired button⟩

def eraseAllActivePointingButtons (manager : PointingButtonManager) (deviceId : DeviceId) :
    PointingButtonManager :=
  ⟨manager.activePointingButtons.filter fun b => !(b.deviceId == deviceId)⟩

def eraseAllActivePointingButtonsExceptLock (manager : PointingButtonManager)
    (deviceId : DeviceId) : PointingButtonManager :=
  manager.eraseAllActivePointingButtons deviceId

/-- `pointing_button_manager::is_pressed`. -/
def isPressed (manager : PointingButtonManager) (usagePair : UsagePair) : Bool :=
  decide (((manager.activePointingButtons.filter fun b => b.usagePair == usagePair).map
    ActivePointingButton.getCount).sum > 0)

/-- The usage pairs `make_hid_report_buttons` asks for: buttons 1 to 32. -/
def reportUsages : List Usage := (List.range 32).map fun index => Int.ofNat (index + 1)

/-- The usages `make_hid_report_buttons` inserts into the report, in its order. -/
def pressedUsages (manager : PointingButtonManager) : List Usage :=
  reportUsages.filter fun usage => manager.isPressed ⟨UsagePage.button, usage⟩

/-- Every listed button is a press. -/
def OnlyPresses (manager : PointingButtonManager) : Prop :=
  ∀ button ∈ manager.activePointingButtons, button.type = .increase

theorem onlyPresses_empty : OnlyPresses ⟨[]⟩ := by
  intro button present
  cases present

/-- A press or release of a button leaves only presses behind, as a release cancels a press. -/
theorem OnlyPresses.push {manager : PointingButtonManager} (presses : OnlyPresses manager)
    (button : ActivePointingButton) :
    OnlyPresses (manager.pushBackActivePointingButton button) := by
  unfold pushBackActivePointingButton
  split
  · exact presses
  · cases type : button.type with
    | increase =>
        intro other present
        rcases List.mem_append.mp present with present | present
        · exact presses other present
        · rw [List.mem_singleton.mp present]
          exact type
    | decrease => exact fun other present => presses other (List.mem_filter.mp present).1

theorem OnlyPresses.erase {manager : PointingButtonManager} (presses : OnlyPresses manager)
    (deviceId : DeviceId) : OnlyPresses (manager.eraseAllActivePointingButtons deviceId) :=
  fun other present => presses other (List.mem_filter.mp present).1

/-- When only presses are listed, a button is pressed exactly when it is listed. -/
theorem OnlyPresses.isPressed_iff {manager : PointingButtonManager}
    (presses : OnlyPresses manager) (usagePair : UsagePair) :
    manager.isPressed usagePair = true ↔
      ∃ button ∈ manager.activePointingButtons, button.usagePair = usagePair := by
  have ones : (manager.activePointingButtons.filter fun b => b.usagePair == usagePair).map
      ActivePointingButton.getCount =
      (manager.activePointingButtons.filter fun b => b.usagePair == usagePair).map
        fun _ => (1 : Int) := by
    apply List.map_congr_left
    intro button member
    have type := presses button (List.mem_filter.mp member).1
    simp [ActivePointingButton.getCount, type]
  unfold isPressed
  rw [ones, List.map_const', List.sum_replicate, decide_eq_true_iff]
  constructor
  · intro positive
    have nonempty : 0 <
        (manager.activePointingButtons.filter fun b => b.usagePair == usagePair).length := by
      simpa using positive
    obtain ⟨button, member⟩ := List.exists_mem_of_length_pos nonempty
    obtain ⟨present, same⟩ := List.mem_filter.mp member
    exact ⟨button, present, beq_iff_eq.mp same⟩
  · rintro ⟨button, present, same⟩
    have member : button ∈ manager.activePointingButtons.filter
        fun b => b.usagePair == usagePair :=
      List.mem_filter.mpr ⟨present, beq_iff_eq.mpr same⟩
    have positive := List.length_pos_of_mem member
    simpa using positive

end PointingButtonManager

end Karabiner

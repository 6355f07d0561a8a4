import Karabiner.EventQueue.PointingButtonManager

/-! # HID reports

The report classes of the virtual HID device driver (`hid_report::keys`,
`hid_report::modifiers` and `hid_report::buttons`) are not part of the
repository, so they are a parameter (`HidReportLibrary`) here. What the program
relies on is stated as laws: a set of keys has room for a limited number of
usages, each of which is a nonzero 16-bit number, and the set of modifiers and
the set of buttons have room for all of them.
-/

namespace Karabiner

/-- The report classes of the virtual HID device driver. -/
class HidReportLibrary where
  Keys : Type
  noKeys : Keys
  insertKey : Keys → Usage → Keys
  eraseKey : Keys → Usage → Keys
  /-- The slots of `get_raw_value` that are not zero. -/
  keyUsages : Keys → List Usage
  /-- The number of slots. -/
  capacity : Nat
  Modifiers : Type
  noModifiers : Modifiers
  insertModifier : Modifiers → ModifierFlag → Modifiers
  eraseModifier : Modifiers → ModifierFlag → Modifiers
  modifierExists : Modifiers → ModifierFlag → Bool
  Buttons : Type
  noButtons : Buttons
  insertButton : Buttons → Usage → Buttons
  buttonExists : Buttons → Usage → Bool
  sameButtons : Buttons → Buttons → Bool
  emptyButtons : Buttons → Bool

/-- A usage a set of keys can hold: zero marks an empty slot. -/
def Reportable (usage : Int) : Prop := 0 < usage ∧ usage ≤ 0xffff

instance (usage : Int) : Decidable (Reportable usage) := inferInstanceAs (Decidable (_ ∧ _))

/-- The slot value of a usage: the functions of a set of keys take a `uint16_t`. -/
def slotUsage (usage : Int) : Int := usage % 0x10000

theorem slotUsage_of_reportable {usage : Int} (reportable : Reportable usage) :
    slotUsage usage = usage :=
  Int.emod_eq_of_lt reportable.1.le (Int.lt_add_one_iff.mpr reportable.2)

/-- The eight modifier flags `make_hid_report_modifier` maps to a modifier of the
report. -/
def hidReportModifiers : List ModifierFlag :=
  [.leftControl, .leftShift, .leftOption, .leftCommand, .rightControl, .rightShift,
    .rightOption, .rightCommand]

/-- A usage of a pointing button of the report. -/
def ReportButton (usage : Int) : Prop := 1 ≤ usage ∧ usage ≤ 32

theorem mem_reportUsages (usage : Int) :
    usage ∈ PointingButtonManager.reportUsages ↔ ReportButton usage := by
  unfold PointingButtonManager.reportUsages ReportButton
  rw [List.mem_map]
  constructor
  · rintro ⟨index, member, rfl⟩
    have below := List.mem_range.mp member
    simp only [Int.ofNat_eq_natCast]
    omega
  · rintro ⟨low, high⟩
    refine ⟨usage.toNat - 1, List.mem_range.mpr (by omega), ?_⟩
    simp only [Int.ofNat_eq_natCast]
    omega

open HidReportLibrary in
/-- How the report classes behave. A full set of keys ignores an insertion. -/
class LawfulHidReport [HidReportLibrary] : Prop where
  mem_noKeys : ∀ usage, usage ∉ keyUsages noKeys
  mem_insertKey_self : ∀ keys usage, Reportable usage → (keyUsages keys).length < capacity →
    usage ∈ keyUsages (insertKey keys usage)
  mem_insertKey_other : ∀ keys usage other, Reportable usage → other ≠ usage →
    (other ∈ keyUsages (insertKey keys usage) ↔ other ∈ keyUsages keys)
  mem_eraseKey : ∀ keys usage other,
    other ∈ keyUsages (eraseKey keys usage) ↔ other ∈ keyUsages keys ∧ other ≠ slotUsage usage
  noModifiers_exists : ∀ flag, modifierExists noModifiers flag = false
  insertModifier_exists : ∀ modifiers flag other, flag ∈ hidReportModifiers →
    other ∈ hidReportModifiers →
    modifierExists (insertModifier modifiers flag) other =
      (decide (other = flag) || modifierExists modifiers other)
  eraseModifier_exists : ∀ modifiers flag other, flag ∈ hidReportModifiers →
    other ∈ hidReportModifiers →
    modifierExists (eraseModifier modifiers flag) other =
      (!decide (other = flag) && modifierExists modifiers other)
  noButtons_exists : ∀ usage, buttonExists noButtons usage = false
  insertButton_exists : ∀ buttons usage other, ReportButton usage → ReportButton other →
    buttonExists (insertButton buttons usage) other =
      (decide (other = usage) || buttonExists buttons other)
  sameButtons_iff : ∀ first second, sameButtons first second = true ↔
    ∀ usage, ReportButton usage → buttonExists first usage = buttonExists second usage

theorem LawfulHidReport.mem_eraseKey_reportable [HidReportLibrary] [LawfulHidReport]
    (keys : HidReportLibrary.Keys) {usage : Usage} (other : Usage) (reportable : Reportable usage) :
    other ∈ HidReportLibrary.keyUsages (HidReportLibrary.eraseKey keys usage) ↔
      other ∈ HidReportLibrary.keyUsages keys ∧ other ≠ usage := by
  rw [LawfulHidReport.mem_eraseKey, slotUsage_of_reportable reportable]

/-! ## Report classes made of lists -/

namespace ListReports

/-- Insert a usage unless it is there or all slots are taken; zero is no usage. -/
def insertKey (keys : List Int) (usage : Int) : List Int :=
  if slotUsage usage = 0 ∨ slotUsage usage ∈ keys ∨ 32 ≤ keys.length then keys
  else keys ++ [slotUsage usage]

def eraseKey (keys : List Int) (usage : Int) : List Int :=
  keys.filter fun other => !decide (other = slotUsage usage)

def eraseModifier (modifiers : List ModifierFlag) (flag : ModifierFlag) : List ModifierFlag :=
  modifiers.filter fun other => !decide (other = flag)

def sameButtons (first second : List Int) : Bool :=
  PointingButtonManager.reportUsages.all fun usage => decide (usage ∈ first) == decide (usage ∈ second)

theorem mem_insertKey_self (keys : List Int) (usage : Int) (reportable : Reportable usage)
    (room : keys.length < 32) : usage ∈ insertKey keys usage := by
  unfold insertKey
  rw [slotUsage_of_reportable reportable]
  split
  · rename_i unchanged
    rcases unchanged with zero | present | full
    · exact absurd zero reportable.1.ne'
    · exact present
    · omega
  · exact List.mem_append_right _ (List.mem_singleton.mpr rfl)

theorem mem_insertKey_other (keys : List Int) (usage other : Int) (reportable : Reportable usage)
    (different : other ≠ usage) : other ∈ insertKey keys usage ↔ other ∈ keys := by
  unfold insertKey
  rw [slotUsage_of_reportable reportable]
  split
  · rfl
  · rw [List.mem_append, List.mem_singleton]
    exact ⟨fun either => either.resolve_right different, Or.inl⟩

theorem mem_eraseKey (keys : List Int) (usage other : Int) :
    other ∈ eraseKey keys usage ↔ other ∈ keys ∧ other ≠ slotUsage usage := by
  simp [eraseKey]

theorem insertModifier_exists (modifiers : List ModifierFlag) (flag other : ModifierFlag) :
    decide (other ∈ flag :: modifiers) = (decide (other = flag) || decide (other ∈ modifiers)) := by
  simp

theorem eraseModifier_exists (modifiers : List ModifierFlag) (flag other : ModifierFlag) :
    decide (other ∈ eraseModifier modifiers flag) =
      (!decide (other = flag) && decide (other ∈ modifiers)) := by
  simp [eraseModifier, Bool.and_comm]

theorem insertButton_exists (buttons : List Int) (usage other : Int) :
    decide (other ∈ usage :: buttons) = (decide (other = usage) || decide (other ∈ buttons)) := by
  simp

theorem sameButtons_iff (first second : List Int) :
    sameButtons first second = true ↔
      ∀ usage, ReportButton usage → decide (usage ∈ first) = decide (usage ∈ second) := by
  unfold sameButtons
  rw [List.all_eq_true]
  constructor
  · intro same usage button
    exact beq_iff_eq.mp (same usage ((mem_reportUsages usage).mpr button))
  · intro same usage member
    exact beq_iff_eq.mpr (same usage ((mem_reportUsages usage).mp member))

end ListReports

/-- Report classes made of lists, with the 32 key slots of the driver. -/
@[reducible] def listReports : HidReportLibrary where
  Keys := List Int
  noKeys := []
  insertKey := ListReports.insertKey
  eraseKey := ListReports.eraseKey
  keyUsages := fun keys => keys
  capacity := 32
  Modifiers := List ModifierFlag
  noModifiers := []
  insertModifier := fun modifiers flag => flag :: modifiers
  eraseModifier := ListReports.eraseModifier
  modifierExists := fun modifiers flag => decide (flag ∈ modifiers)
  Buttons := List Int
  noButtons := []
  insertButton := fun buttons usage => usage :: buttons
  buttonExists := fun buttons usage => decide (usage ∈ buttons)
  sameButtons := ListReports.sameButtons
  emptyButtons := fun buttons => buttons.isEmpty

theorem lawful_listReports : @LawfulHidReport listReports := by
  let _ := listReports
  constructor
  · exact fun _ => List.not_mem_nil
  · exact ListReports.mem_insertKey_self
  · exact ListReports.mem_insertKey_other
  · exact ListReports.mem_eraseKey
  · exact fun _ => rfl
  · exact fun modifiers flag other _ _ => ListReports.insertModifier_exists modifiers flag other
  · exact fun modifiers flag other _ _ => ListReports.eraseModifier_exists modifiers flag other
  · exact fun _ => rfl
  · exact fun buttons usage other _ _ => ListReports.insertButton_exists buttons usage other
  · exact ListReports.sameButtons_iff

end Karabiner

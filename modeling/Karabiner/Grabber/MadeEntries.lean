import Karabiner.Grabber.DeliveredReleases

/-! # What `make_entries` makes of a value

A value of an axis is collected with those of the other axes until the same axis comes
again. Every other value is turned into its entries at once (`MakeEntries.step_eq`).
-/

namespace Karabiner

/-- The parts of a pointing motion. -/
inductive Axis where
  | x
  | y
  | verticalWheel
  | horizontalWheel
deriving DecidableEq

namespace MotionParts

def part (parts : MotionParts) : Axis → Option Int
  | .x => parts.x
  | .y => parts.y
  | .verticalWheel => parts.verticalWheel
  | .horizontalWheel => parts.horizontalWheel

def setPart (parts : MotionParts) (timeStamp value : Int) : Axis → MotionParts
  | .x => { parts with timeStamp := some timeStamp, x := some value }
  | .y => { parts with timeStamp := some timeStamp, y := some value }
  | .verticalWheel => { parts with timeStamp := some timeStamp, verticalWheel := some value }
  | .horizontalWheel => { parts with timeStamp := some timeStamp, horizontalWheel := some value }

theorem part_setPart (parts : MotionParts) (timeStamp value : Int) (axis other : Axis) :
    (parts.setPart timeStamp value axis).part other =
      if other = axis then some value else parts.part other := by
  cases axis <;> cases other <;> rfl

theorem timeStamp_setPart (parts : MotionParts) (timeStamp value : Int) (axis : Axis) :
    (parts.setPart timeStamp value axis).timeStamp = some timeStamp := by
  cases axis <;> rfl

@[simp] theorem part_empty (axis : Axis) : MotionParts.empty.part axis = none := by
  cases axis <;> rfl

end MotionParts

namespace HidValue

/-- The axis of a value that is collected. -/
def axis? (value : HidValue) (isGamePad : Bool) : Option Axis :=
  match value.usagePage, value.usage with
  | some usagePage, some usage =>
      if MomentarySwitchEvent.target usagePage usage then none
      else if value.conformsTo UsagePage.genericDesktop Usage.genericDesktopX && !isGamePad then
        some .x
      else if value.conformsTo UsagePage.genericDesktop Usage.genericDesktopY && !isGamePad then
        some .y
      else if value.conformsTo UsagePage.genericDesktop Usage.genericDesktopWheel then
        some .verticalWheel
      else if value.conformsTo UsagePage.consumer Usage.acPan then some .horizontalWheel
      else none
  | _, _ => none

/-- A value that is collected is one of no key, of no LED and of no hat switch. -/
theorem conformsTo_of_axis {value : HidValue} {isGamePad : Bool} {axis : Axis}
    (isAxis : value.axis? isGamePad = some axis) :
    ∃ usagePage usage, value.usagePage = some usagePage ∧ value.usage = some usage ∧
      ¬MomentarySwitchEvent.target usagePage usage = true ∧
      value.conformsTo UsagePage.leds Usage.ledCapsLock = false ∧
      value.hatSwitch isGamePad = false := by
  have other : ∀ {page : UsagePage} {number : Usage},
      value.conformsTo page number = true → page ≠ UsagePage.leds →
      page ≠ UsagePage.genericDesktop ∨ number ≠ Usage.genericDesktopHatSwitch →
      value.conformsTo UsagePage.leds Usage.ledCapsLock = false ∧
        value.hatSwitch isGamePad = false := by
    intro page number conforms noLed noHat
    refine ⟨Bool.eq_false_iff.mpr fun led => noLed ?_, hatSwitch_eq_false conforms noHat isGamePad⟩
    exact Option.some.inj (((conformsTo_iff _ _ _).mp conforms).1.symm.trans
      ((conformsTo_iff _ _ _).mp led).1)
  unfold axis? at isAxis
  cases usagePage : value.usagePage with
  | none => simp [usagePage] at isAxis
  | some page =>
      cases usage : value.usage with
      | none => simp [usagePage, usage] at isAxis
      | some number =>
          rw [usagePage, usage] at isAxis
          dsimp only at isAxis
          split at isAxis
          · cases isAxis
          rename_i notTarget
          refine ⟨page, number, rfl, rfl, notTarget, ?_⟩
          split at isAxis
          · rename_i conforms
            exact other (Bool.and_eq_true_iff.mp conforms).1 (by decide) (.inr (by decide))
          split at isAxis
          · rename_i conforms
            exact other (Bool.and_eq_true_iff.mp conforms).1 (by decide) (.inr (by decide))
          split at isAxis
          · rename_i conforms
            exact other conforms (by decide) (.inr (by decide))
          split at isAxis
          · rename_i conforms
            exact other conforms (by decide) (.inl (by decide))
          · cases isAxis

/-- What a value of the axis adds to the motion. -/
def adjusted (value : HidValue) (parameters : MakeEntriesParameters) : Axis → Int
  | .x | .y => adjustPointingMotionValue parameters.pointingMotionXyMultiplier value
  | .verticalWheel | .horizontalWheel =>
      adjustPointingMotionValue parameters.pointingMotionWheelsMultiplier value

/-- The entries of a value that is not collected. -/
def entries (value : HidValue) (deviceId : DeviceId) (isGamePad : Bool) (hat : HatDirection) :
    List Entry :=
  match value.usagePage, value.usage with
  | some usagePage, some usage =>
      if MomentarySwitchEvent.target usagePage usage then
        let event := Event.momentarySwitchEvent (.make usagePage usage)
        [.make deviceId ⟨value.timeStamp, 0⟩ event
          (if value.integerValue ≠ 0 then .keyDown else .keyUp) (some value.integerValue)
          event .original]
      else if value.conformsTo UsagePage.leds Usage.ledCapsLock then
        let event := Event.capsLockStateChanged value.integerValue
        [.make deviceId ⟨value.timeStamp, 0⟩ event .single none event .virtualEvent]
      else if value.hatSwitch isGamePad then
        (HatDirection.toDpadEvents hat (HatDirection.ofValue value.integerValue)).map fun pair =>
          .original deviceId value.timeStamp (.momentarySwitchEvent pair.1) pair.2
      else []
  | _, _ => []

theorem entries_of_axis {value : HidValue} {isGamePad : Bool} {axis : Axis}
    (isAxis : value.axis? isGamePad = some axis) (deviceId : DeviceId) (hat : HatDirection) :
    value.entries deviceId isGamePad hat = [] := by
  obtain ⟨page, number, isPage, isNumber, notTarget, noLed, noHat⟩ := conformsTo_of_axis isAxis
  simp [entries, isPage, isNumber, notTarget, noLed, noHat]

theorem nextHat_of_axis {value : HidValue} {isGamePad : Bool} {axis : Axis}
    (isAxis : value.axis? isGamePad = some axis) (hat : HatDirection) :
    value.nextHat isGamePad hat = hat := by
  obtain ⟨_, _, _, _, _, _, noHat⟩ := conformsTo_of_axis isAxis
  simp [nextHat, noHat]

end HidValue

namespace MakeEntries

/-- A value is collected after the motion that has its axis already, or its entries are
added at once. -/
theorem step_eq (deviceId : DeviceId) (isGamePad : Bool) (parameters : MakeEntriesParameters)
    (state : MakeEntries) (value : HidValue) :
    step deviceId isGamePad parameters state value =
      match value.axis? isGamePad with
      | some axis =>
          let flushed := state.flushIf deviceId (state.parts.part axis)
          { flushed with
            parts := flushed.parts.setPart value.timeStamp (value.adjusted parameters axis) axis }
      | none =>
          { result := state.result ++ value.entries deviceId isGamePad state.hat
            parts := state.parts
            hat := value.nextHat isGamePad state.hat } := by
  unfold step HidValue.axis? HidValue.entries
  cases usagePage : value.usagePage with
  | none => simp [HidValue.nextHat, HidValue.hatSwitch, HidValue.conformsTo, usagePage]
  | some page =>
      cases usage : value.usage with
      | none => simp [HidValue.nextHat, HidValue.hatSwitch, HidValue.conformsTo, usagePage, usage]
      | some number =>
          dsimp only
          split
          · rename_i target
            have noHat := HidValue.hatSwitch_eq_false_of_target usagePage usage target isGamePad
            simp [HidValue.nextHat, noHat]
          split
          · rfl
          split
          · rfl
          split
          · rfl
          split
          · rfl
          split
          · rename_i led
            have noHat := HidValue.hatSwitch_eq_false led (.inl (by decide)) isGamePad
            simp [HidValue.nextHat, noHat]
          split
          · rename_i isHat
            have isHatSwitch : value.hatSwitch isGamePad = true := isHat
            simp [HidValue.nextHat, isHatSwitch]
          · rename_i noHat
            have isOther : value.hatSwitch isGamePad = false := Bool.eq_false_iff.mpr noHat
            simp [HidValue.nextHat, isOther]

/-- An entry made of a value that is not collected has the time of the value, and it is about
a key or the LED. -/
theorem mem_entries {value : HidValue} {deviceId : DeviceId} {isGamePad : Bool}
    {hat : HatDirection} {entry : Entry} (made : entry ∈ value.entries deviceId isGamePad hat) :
    entry.deviceId = deviceId ∧ entry.eventTimeStamp = ⟨value.timeStamp, 0⟩ ∧
      ((∃ key, entry.event = .momentarySwitchEvent key) ∨
        ∃ state, entry.event = .capsLockStateChanged state) := by
  unfold HidValue.entries at made
  split at made
  · split at made
    · rw [List.mem_singleton.mp made]
      exact ⟨rfl, rfl, .inl ⟨_, rfl⟩⟩
    split at made
    · rw [List.mem_singleton.mp made]
      exact ⟨rfl, rfl, .inr ⟨_, rfl⟩⟩
    split at made
    · obtain ⟨pair, _, rfl⟩ := List.mem_map.mp made
      exact ⟨rfl, rfl, .inl ⟨_, rfl⟩⟩
    · cases made
  · cases made

/-- A property of the motions and of the entries of all values is one of all made entries. -/
theorem forall_makeEntries {deviceId : DeviceId} {isGamePad : Bool} {property : Entry → Prop}
    (motions : ∀ parts : MotionParts, ∀ entry ∈ parts.entries deviceId, property entry)
    (others : ∀ value hat, ∀ entry ∈ HidValue.entries value deviceId isGamePad hat,
      property entry)
    (parameters : MakeEntriesParameters) (hat : HatDirection) (values : List HidValue) :
    ∀ entry ∈ (makeEntries deviceId isGamePad parameters hat values).1, property entry := by
  have fold : ∀ state : MakeEntries, (∀ entry ∈ state.result, property entry) →
      ∀ entry ∈ (values.foldl (step deviceId isGamePad parameters) state).result,
        property entry := by
    induction values with
    | nil => exact fun _ before => before
    | cons value rest ih =>
        intro state before
        refine ih _ fun entry member => ?_
        rw [step_eq] at member
        cases axis : value.axis? isGamePad with
        | none =>
            rw [axis] at member
            rcases List.mem_append.mp member with isBefore | made
            · exact before entry isBefore
            · exact others value state.hat entry made
        | some axis' =>
            rw [axis] at member
            change entry ∈ (state.flushIf deviceId (state.parts.part axis')).result at member
            unfold flushIf at member
            split at member
            · rcases List.mem_append.mp member with isBefore | flushed
              · exact before entry isBefore
              · exact motions state.parts entry flushed
            · exact before entry member
  intro entry member
  rcases List.mem_append.mp member with isResult | flushed
  · exact fold ⟨[], .empty, hat⟩ (fun _ none => absurd none List.not_mem_nil) entry isResult
  · exact motions _ entry flushed

end MakeEntries

end Karabiner

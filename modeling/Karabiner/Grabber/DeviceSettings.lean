import Karabiner.Configuration.DeviceCondition

/-! # Manipulators from the settings of a device entry

Three managers of the device grabber turn the settings of the device entries of a
profile into manipulators, each restricted to its entry by `make_device_if_condition`.
The condition asks for vendor, product, keyboard and pointing device only, and
`profile::get_device` selects an entry by all eight values of the identifiers, so the
settings stay with their device exactly where the other four values follow from these
(`Karabiner.DeviceEntry.settings_stay_iff`).
-/

namespace Karabiner

/-- `core_configuration::details::device`, the members the managers read. Pairs are
the texts of a `from` and a `to`. -/
structure DeviceEntry where
  identifiers : DeviceIdentifiers
  simpleModifications : List (String × String)
  fnFunctionKeys : List (String × String)
  mouseFlipX : Bool
  mouseFlipY : Bool
  mouseFlipVerticalWheel : Bool
  mouseFlipHorizontalWheel : Bool
  mouseSwapXy : Bool
  mouseSwapWheels : Bool
  mouseDiscardX : Bool
  mouseDiscardY : Bool
  mouseDiscardVerticalWheel : Bool
  mouseDiscardHorizontalWheel : Bool
  swapGraveAccentAndNonUsBackslash : Bool

/-- `core_configuration::details::profile`, the members the managers read. -/
structure ProfileSettings where
  devices : List DeviceEntry
  simpleModifications : List (String × String)
  fnFunctionKeys : List (String × String)

namespace ProfileSettings

/-- The search of `profile::get_device`. -/
def findDevice (profile : ProfileSettings) (identifiers : DeviceIdentifiers) :
    Option DeviceEntry :=
  profile.devices.find? fun device => device.identifiers.same identifiers

end ProfileSettings

/-- The conditions the managers push. -/
inductive SettingCondition where
  | device (condition : DeviceCondition)
  | eventChanged (value : Bool)

/-- A manipulator and the conditions pushed back to it. -/
structure ConditionedManipulator (M : Type) where
  manipulator : M
  conditions : List SettingCondition

/-- The constructors of the manipulators; `none` stands for a null pointer or an
exception the manager catches. -/
structure ManipulatorFactory (M : Type) where
  makeSimpleModification : String × String → Option M
  makeMouseBasic : List String → List String → List String → Option M
  makeFunctionKey : String × String → Bool → Option M
  makeKeyCode : String → String → M

/-- The JSON of `make_device_if_condition`. The location and the touch bar are left out
on purpose. -/
def deviceIfJson (identifiers : DeviceIdentifiers) : Json :=
  .object
    [("identifiers", .array
      [.object
        [("is_keyboard", .boolean identifiers.isKeyboard),
          ("is_pointing_device", .boolean identifiers.isPointingDevice),
          ("product_id", .unsigned identifiers.productId),
          ("vendor_id", .unsigned identifiers.vendorId)]]),
      ("type", .string "device_if")]

/-- `condition_factory::make_device_if_condition`. -/
def makeDeviceIfCondition (device : DeviceEntry) : Except UnmarshalError DeviceCondition :=
  DeviceCondition.ofJson (deviceIfJson device.identifiers)

/-- `condition_factory::make_device_unless_touch_bar_condition`. -/
def makeDeviceUnlessTouchBarCondition : Except UnmarshalError DeviceCondition :=
  DeviceCondition.ofJson (.object
    [("identifiers", .array [.object [("is_touch_bar", .boolean true)]]),
      ("type", .string "device_unless")])

section Managers

variable {M : Type} (factory : ManipulatorFactory M)

/-- The names of the settings that are on. -/
def switchedOn (settings : List (String × Bool)) : List String :=
  (settings.filter (·.2)).map (·.1)

namespace SimpleModificationsManager

/-- The body of the device loop of `simple_modifications_manipulator_manager::update`. -/
def ofDevice (device : DeviceEntry) : List (ConditionedManipulator M) :=
  (device.simpleModifications.filterMap fun pair => do
    let manipulator ← factory.makeSimpleModification pair
    let condition ← (makeDeviceIfCondition device).toOption
    return ⟨manipulator, [.device condition]⟩) ++
  let flip := switchedOn
    [("x", device.mouseFlipX), ("y", device.mouseFlipY),
      ("vertical_wheel", device.mouseFlipVerticalWheel),
      ("horizontal_wheel", device.mouseFlipHorizontalWheel)]
  let swap := switchedOn [("xy", device.mouseSwapXy), ("wheels", device.mouseSwapWheels)]
  let discard := switchedOn
    [("x", device.mouseDiscardX), ("y", device.mouseDiscardY),
      ("vertical_wheel", device.mouseDiscardVerticalWheel),
      ("horizontal_wheel", device.mouseDiscardHorizontalWheel)]
  if flip ≠ [] ∨ swap ≠ [] ∨ discard ≠ [] then
    (do
      let manipulator ← factory.makeMouseBasic flip swap discard
      let condition ← (makeDeviceIfCondition device).toOption
      return ⟨manipulator, [.device condition]⟩ : Option (ConditionedManipulator M)).toList
  else []

def update (profile : ProfileSettings) : List (ConditionedManipulator M) :=
  profile.devices.flatMap (ofDevice factory) ++
    (profile.simpleModifications.filterMap factory.makeSimpleModification).map (⟨·, []⟩)

end SimpleModificationsManager

namespace FnFunctionKeysManager

/-- The body of the device loop of `fn_function_keys_manipulator_manager::update`. -/
def ofDevice (fromMandatoryModifiersFn : Bool) (device : DeviceEntry) :
    List (ConditionedManipulator M) :=
  device.fnFunctionKeys.filterMap fun pair => do
    let manipulator ← factory.makeFunctionKey pair fromMandatoryModifiersFn
    let touchBar ← makeDeviceUnlessTouchBarCondition.toOption
    let condition ← (makeDeviceIfCondition device).toOption
    return ⟨manipulator, [.eventChanged false, .device touchBar, .device condition]⟩

/-- The manipulators of the entries and of the profile, between the fixed ones. -/
def update (fromMandatoryModifiersFn : Bool) (before after : List (ConditionedManipulator M))
    (profile : ProfileSettings) : List (ConditionedManipulator M) :=
  before ++ profile.devices.flatMap (ofDevice factory fromMandatoryModifiersFn) ++
    (profile.fnFunctionKeys.filterMap fun pair => do
      let manipulator ← factory.makeFunctionKey pair fromMandatoryModifiersFn
      let touchBar ← makeDeviceUnlessTouchBarCondition.toOption
      return ⟨manipulator, [.eventChanged false, .device touchBar]⟩) ++ after

end FnFunctionKeysManager

namespace DeviceKeyCodeManager

/-- `push_back_manipulator`. -/
def pushBackManipulator (device : DeviceEntry) (fromKeyCode toKeyCode : String) :
    List (ConditionedManipulator M) :=
  match makeDeviceIfCondition device with
  | .ok condition => [⟨factory.makeKeyCode fromKeyCode toKeyCode, [.device condition]⟩]
  | .error _ => []

/-- The body of the loop of `device_key_code_manipulator_manager::update`. -/
def ofDevice (device : DeviceEntry) : List (ConditionedManipulator M) :=
  if device.swapGraveAccentAndNonUsBackslash then
    pushBackManipulator factory device "grave_accent_and_tilde" "non_us_backslash" ++
      pushBackManipulator factory device "non_us_backslash" "grave_accent_and_tilde"
  else []

def update (profile : ProfileSettings) : List (ConditionedManipulator M) :=
  profile.devices.flatMap (ofDevice factory)

end DeviceKeyCodeManager

/-- What any of the three managers builds from the settings of an entry. -/
def DeviceEntry.manipulators (device : DeviceEntry) (fromMandatoryModifiersFn : Bool) :
    List (ConditionedManipulator M) :=
  SimpleModificationsManager.ofDevice factory device ++
    FnFunctionKeysManager.ofDevice factory fromMandatoryModifiersFn device ++
    DeviceKeyCodeManager.ofDevice factory device

end Managers

/-! ## What the condition asks for -/

/-- The definition the JSON is read as. -/
def DeviceIdentifiers.deviceIfDefinition (identifiers : DeviceIdentifiers) : DeviceDefinition :=
  { DeviceDefinition.unspecified with
    vendorId := some identifiers.vendorId
    productId := some identifiers.productId
    isKeyboard := some identifiers.isKeyboard
    isPointingDevice := some identifiers.isPointingDevice }

theorem makeDeviceIfCondition_eq (device : DeviceEntry) :
    makeDeviceIfCondition device =
      .ok ⟨.deviceIf, [device.identifiers.deviceIfDefinition]⟩ := by
  simp [makeDeviceIfCondition, deviceIfJson, DeviceCondition.ofJson, Json.requiresObject,
    Json.requiresArray, Json.requiresString, Json.requiresBoolean, Json.requiresUnsigned,
    DeviceCondition.readMember, DeviceCondition.readIdentifiers, DeviceDefinition.readMember,
    DeviceDefinition.valid, DeviceDefinition.unspecified, DeviceIdentifiers.deviceIfDefinition,
    List.foldlM, bind, Except.bind, pure, Except.pure]

/-- The condition is true of a registered device that has the same vendor and product
and is of the same kind, as far as keyboards and pointing devices go. -/
theorem deviceIf_fulfilled_iff {context : DeviceConditionContext} {deviceId : DeviceId}
    {properties : DeviceProperties}
    (registered : context.environment.deviceProperties deviceId = some properties)
    (identifiers : DeviceIdentifiers) :
    (DeviceCondition.mk .deviceIf [identifiers.deviceIfDefinition]).isFulfilled context deviceId =
        true ↔
      identifiers.vendorId = properties.vendorId ∧ identifiers.productId = properties.productId ∧
        identifiers.isKeyboard = properties.isKeyboard ∧
        identifiers.isPointingDevice = properties.isPointingDevice := by
  unfold DeviceCondition.isFulfilled DeviceCondition.describes
  rw [registered]
  simp [DeviceDefinition.fulfilled, DeviceDefinition.agrees, DeviceIdentifiers.deviceIfDefinition,
    DeviceDefinition.unspecified, DeviceProperties.deviceIdentifiers,
    DeviceIdentifiers.ofParameters, and_assoc]

/-- Every manipulator from the settings of an entry carries the condition of the entry. -/
theorem DeviceEntry.condition_mem {M : Type} {factory : ManipulatorFactory M}
    {device : DeviceEntry} {fromMandatoryModifiersFn : Bool} {built : ConditionedManipulator M}
    (member : built ∈ device.manipulators factory fromMandatoryModifiersFn) :
    .device ⟨.deviceIf, [device.identifiers.deviceIfDefinition]⟩ ∈ built.conditions := by
  unfold DeviceEntry.manipulators SimpleModificationsManager.ofDevice
    FnFunctionKeysManager.ofDevice DeviceKeyCodeManager.ofDevice
    DeviceKeyCodeManager.pushBackManipulator at member
  rw [makeDeviceIfCondition_eq] at member
  rcases List.mem_append.mp member with member | keyCode
  · rcases List.mem_append.mp member with member | functionKey
    · rcases List.mem_append.mp member with simple | mouse
      · obtain ⟨pair, _, some⟩ := List.mem_filterMap.mp simple
        obtain ⟨manipulator, _, rest⟩ := Option.bind_eq_some_iff.mp some
        cases rest
        exact List.mem_singleton_self _
      · dsimp only at mouse
        split at mouse
        · rw [Option.mem_toList] at mouse
          obtain ⟨manipulator, _, rest⟩ := Option.bind_eq_some_iff.mp mouse
          cases rest
          exact List.mem_singleton_self _
        · exact absurd mouse List.not_mem_nil
    · obtain ⟨pair, _, some⟩ := List.mem_filterMap.mp functionKey
      obtain ⟨manipulator, _, rest⟩ := Option.bind_eq_some_iff.mp some
      obtain ⟨touchBar, _, rest⟩ := Option.bind_eq_some_iff.mp rest
      cases rest
      exact List.mem_cons_of_mem _ (List.mem_cons_of_mem _ (List.mem_singleton_self _))
  · split at keyCode
    · rcases List.mem_append.mp keyCode with one | one <;>
        rw [List.mem_singleton.mp one] <;> exact List.mem_singleton_self _
    · exact absurd keyCode List.not_mem_nil

/-! ## Settings stay with their device -/

/-- Devices of one vendor and product that are told apart as keyboards and pointing
devices are the same in everything else. -/
def DeviceIdentifiers.ToldApart (first second : DeviceIdentifiers) : Prop :=
  first.vendorId = second.vendorId → first.productId = second.productId →
    first.isKeyboard = second.isKeyboard → first.isPointingDevice = second.isPointingDevice →
      first.isGamePad = second.isGamePad ∧ first.isConsumer = second.isConsumer ∧
        first.isVirtualDevice = second.isVirtualDevice ∧
        first.deviceAddress = second.deviceAddress

/-- A manipulator from the settings of an entry has a condition that is true of the
events of a registered device exactly for the devices `get_device` selects the entry
for, if and only if the four values it asks for decide the other four. -/
theorem DeviceEntry.settings_stay_iff {M : Type} (factory : ManipulatorFactory M)
    (device : DeviceEntry) (fromMandatoryModifiersFn : Bool) (context : DeviceConditionContext)
    (deviceId : DeviceId) (properties : DeviceProperties)
    (registered : context.environment.deviceProperties deviceId = some properties) :
    ∃ condition, makeDeviceIfCondition device = .ok condition ∧
      (∀ built ∈ device.manipulators factory fromMandatoryModifiersFn,
        .device condition ∈ built.conditions) ∧
      ((condition.isFulfilled context deviceId = true ↔
          device.identifiers.same properties.deviceIdentifiers = true) ↔
        device.identifiers.ToldApart properties.deviceIdentifiers) := by
  refine ⟨_, makeDeviceIfCondition_eq device, fun built => condition_mem, ?_⟩
  rw [deviceIf_fulfilled_iff registered, DeviceIdentifiers.same_iff]
  change _ ↔ (device.identifiers.vendorId = properties.vendorId →
    device.identifiers.productId = properties.productId →
    device.identifiers.isKeyboard = properties.isKeyboard →
    device.identifiers.isPointingDevice = properties.isPointingDevice → _)
  constructor
  · intro agree vendor product keyboard pointing
    exact (agree.mp ⟨vendor, product, keyboard, pointing⟩).2
  · intro toldApart
    constructor
    · rintro ⟨vendor, product, keyboard, pointing⟩
      exact ⟨⟨vendor, product, keyboard, pointing⟩, toldApart vendor product keyboard pointing⟩
    · exact fun same => same.1

/-- A Bluetooth keyboard, which has neither vendor nor product. -/
def bluetoothKeyboard (deviceAddress : String) : DeviceProperties where
  vendorId := 0
  productId := 0
  deviceAddress := deviceAddress
  transport := "Bluetooth"
  isApple := false
  isKeyboard := true
  isPointingDevice := false
  isGamePad := false
  isConsumer := false
  isVirtualDevice := false
  isBuiltInKeyboard := false
  isBuiltInTouchBar := false

/-- An entry that swaps two keys of one Bluetooth keyboard. -/
def swappingEntry : DeviceEntry where
  identifiers := (bluetoothKeyboard "a").deviceIdentifiers
  simpleModifications := []
  fnFunctionKeys := []
  mouseFlipX := false
  mouseFlipY := false
  mouseFlipVerticalWheel := false
  mouseFlipHorizontalWheel := false
  mouseSwapXy := false
  mouseSwapWheels := false
  mouseDiscardX := false
  mouseDiscardY := false
  mouseDiscardVerticalWheel := false
  mouseDiscardHorizontalWheel := false
  swapGraveAccentAndNonUsBackslash := true

/-- A context with this keyboard and another one registered. -/
def twoKeyboards : DeviceConditionContext where
  environment :=
    (ManipulatorEnvironment.initial.insertDeviceProperties 1
      (bluetoothKeyboard "a")).insertDeviceProperties 2 (bluetoothKeyboard "b")
  registered := [1, 2]
  locationId := fun _ => 0
  determineIsBuiltInKeyboard := fun _ => false

/-- Manipulators that are named by the keys they exchange. -/
def namedManipulators : ManipulatorFactory (String × String) where
  makeSimpleModification := some
  makeMouseBasic := fun _ _ _ => none
  makeFunctionKey := fun pair _ => some pair
  makeKeyCode := fun fromKeyCode toKeyCode => (fromKeyCode, toKeyCode)

/-- The settings of the first keyboard apply to it. -/
theorem DeviceEntry.settings_stay_iff_own :
    ∃ condition, makeDeviceIfCondition swappingEntry = .ok condition ∧
      (∀ built ∈ swappingEntry.manipulators namedManipulators false,
        .device condition ∈ built.conditions) ∧
      condition.isFulfilled twoKeyboards 1 = true := by
  obtain ⟨condition, made, carried, stays⟩ := settings_stay_iff namedManipulators
    swappingEntry false twoKeyboards 1 (bluetoothKeyboard "a") rfl
  refine ⟨condition, made, carried, (stays.mpr fun _ _ _ _ => ⟨rfl, rfl, rfl, rfl⟩).mpr ?_⟩
  decide

/-- They apply to the other keyboard as well, for which `get_device` finds no entry. -/
theorem DeviceEntry.settings_reach_otherKeyboard :
    (⟨[swappingEntry], [], []⟩ : ProfileSettings).findDevice
        (bluetoothKeyboard "b").deviceIdentifiers = none ∧
      ∃ condition, makeDeviceIfCondition swappingEntry = .ok condition ∧
        condition.isFulfilled twoKeyboards 2 = true ∧
        swappingEntry.identifiers.same (bluetoothKeyboard "b").deviceIdentifiers = false := by
  refine ⟨rfl, _, makeDeviceIfCondition_eq swappingEntry, by decide, by decide⟩

end Karabiner

import Karabiner.EventQueue.Environment
import Karabiner.Types.Json

/-! # Device identifiers

`device_identifiers` is what the configuration knows a device by. Devices are
compared by the eight known values; the JSON the identifiers were read from is kept
for its unknown keys and takes no part in the comparison.
-/

namespace Karabiner

/-- `device_identifiers`. -/
structure DeviceIdentifiers where
  json : Json
  vendorId : Nat
  productId : Nat
  isKeyboard : Bool
  isPointingDevice : Bool
  isGamePad : Bool
  isConsumer : Bool
  isVirtualDevice : Bool
  deviceAddress : String

namespace DeviceIdentifiers

/-- `device_identifiers::initialization_parameters`. -/
structure InitializationParameters where
  vendorId : Nat
  productId : Nat
  isKeyboard : Bool
  isPointingDevice : Bool
  isGamePad : Bool
  isConsumer : Bool
  isVirtualDevice : Bool
  deviceAddress : String

/-- The constructor from parameters: the address counts only for a device without
vendor and product. -/
def ofParameters (parameters : InitializationParameters) : DeviceIdentifiers where
  json := .empty
  vendorId := parameters.vendorId
  productId := parameters.productId
  isKeyboard := parameters.isKeyboard
  isPointingDevice := parameters.isPointingDevice
  isGamePad := parameters.isGamePad
  isConsumer := parameters.isConsumer
  isVirtualDevice := parameters.isVirtualDevice
  deviceAddress :=
    if parameters.vendorId = 0 ∧ parameters.productId = 0 then parameters.deviceAddress else ""

/-- One member of the JSON; unknown keys are allowed. -/
def readMember (identifiers : DeviceIdentifiers) (member : String × Json) :
    Except UnmarshalError DeviceIdentifiers := do
  let (key, value) := member
  let name := "`" ++ key ++ "`"
  match key with
  | "vendor_id" => return { identifiers with vendorId := ← value.requiresUnsigned name }
  | "product_id" => return { identifiers with productId := ← value.requiresUnsigned name }
  | "device_address" => return { identifiers with deviceAddress := ← value.requiresString name }
  | "is_keyboard" => return { identifiers with isKeyboard := ← value.requiresBoolean name }
  | "is_pointing_device" =>
      return { identifiers with isPointingDevice := ← value.requiresBoolean name }
  | "is_game_pad" => return { identifiers with isGamePad := ← value.requiresBoolean name }
  | "is_consumer" => return { identifiers with isConsumer := ← value.requiresBoolean name }
  | "is_virtual_device" =>
      return { identifiers with isVirtualDevice := ← value.requiresBoolean name }
  | _ => return identifiers

/-- The default constructor. -/
def default : DeviceIdentifiers := ofParameters ⟨0, 0, false, false, false, false, false, ""⟩

/-- The constructor from JSON. -/
def ofJson (json : Json) : Except UnmarshalError DeviceIdentifiers := do
  let members ← json.requiresObject "json"
  members.foldlM readMember { default with json }

/-- `operator==`. -/
def same (first second : DeviceIdentifiers) : Bool :=
  first.vendorId == second.vendorId && first.productId == second.productId &&
    first.isKeyboard == second.isKeyboard && first.isPointingDevice == second.isPointingDevice &&
    first.isGamePad == second.isGamePad && first.isConsumer == second.isConsumer &&
    first.isVirtualDevice == second.isVirtualDevice &&
    first.deviceAddress == second.deviceAddress

theorem same_iff (first second : DeviceIdentifiers) :
    first.same second = true ↔
      (first.vendorId = second.vendorId ∧ first.productId = second.productId ∧
        first.isKeyboard = second.isKeyboard ∧
        first.isPointingDevice = second.isPointingDevice) ∧
      first.isGamePad = second.isGamePad ∧ first.isConsumer = second.isConsumer ∧
        first.isVirtualDevice = second.isVirtualDevice ∧
        first.deviceAddress = second.deviceAddress := by
  simp [same, and_assoc]

end DeviceIdentifiers

namespace DeviceProperties

/-- `get_device_identifiers`. -/
def deviceIdentifiers (properties : DeviceProperties) : DeviceIdentifiers :=
  .ofParameters
    { vendorId := properties.vendorId
      productId := properties.productId
      isKeyboard := properties.isKeyboard
      isPointingDevice := properties.isPointingDevice
      isGamePad := properties.isGamePad
      isConsumer := properties.isConsumer
      isVirtualDevice := properties.isVirtualDevice
      deviceAddress := properties.deviceAddress }

end DeviceProperties

end Karabiner

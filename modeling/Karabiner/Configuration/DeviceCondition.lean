import Karabiner.Configuration.DeviceIdentifiers

/-! # The device condition

`conditions::device` restricts a manipulator to devices described by the
identifiers in its JSON. The managers that turn the settings of a device entry into
manipulators build this JSON from four of the eight values that
`device_identifiers::operator==` compares.
-/

namespace Karabiner

/-- What `is_fulfilled` reads: the environment, the registered devices, and the two
properties of a device that are kept elsewhere (its location, and whether the
selected profile lets it count as a built-in keyboard). -/
structure DeviceConditionContext where
  environment : ManipulatorEnvironment
  registered : List DeviceId
  locationId : DeviceId → Int
  determineIsBuiltInKeyboard : DeviceProperties → Bool

/-- `conditions::device::type`. -/
inductive DeviceConditionType where
  | deviceIf
  | deviceUnless
  | deviceExistsIf
  | deviceExistsUnless
deriving DecidableEq

/-- `conditions::device::definition`. -/
structure DeviceDefinition where
  vendorId : Option Nat
  productId : Option Nat
  locationId : Option Int
  deviceAddress : Option String
  isKeyboard : Option Bool
  isPointingDevice : Option Bool
  isGamePad : Option Bool
  isConsumer : Option Bool
  isTouchBar : Option Bool
  isBuiltInKeyboard : Option Bool

namespace DeviceDefinition

def unspecified : DeviceDefinition := ⟨none, none, none, none, none, none, none, none, none, none⟩

/-- `definition::valid`: some value is given. -/
def valid (definition : DeviceDefinition) : Bool :=
  definition.vendorId.isSome || definition.productId.isSome || definition.locationId.isSome ||
    definition.deviceAddress.isSome || definition.isKeyboard.isSome ||
    definition.isPointingDevice.isSome || definition.isGamePad.isSome ||
    definition.isConsumer.isSome || definition.isTouchBar.isSome ||
    definition.isBuiltInKeyboard.isSome

/-- A value that is not given agrees with every device. -/
def agrees {α : Type} [BEq α] (expected : Option α) (actual : α) : Bool :=
  match expected with
  | some value => value == actual
  | none => true

/-- `definition::fulfilled`. -/
def fulfilled (definition : DeviceDefinition) (context : DeviceConditionContext)
    (deviceId : DeviceId) (properties : DeviceProperties) : Bool :=
  let identifiers := properties.deviceIdentifiers
  agrees definition.vendorId identifiers.vendorId &&
    agrees definition.productId identifiers.productId &&
    agrees definition.locationId (context.locationId deviceId) &&
    agrees definition.deviceAddress identifiers.deviceAddress &&
    agrees definition.isKeyboard identifiers.isKeyboard &&
    agrees definition.isPointingDevice identifiers.isPointingDevice &&
    agrees definition.isGamePad identifiers.isGamePad &&
    agrees definition.isConsumer identifiers.isConsumer &&
    agrees definition.isTouchBar properties.isBuiltInTouchBar &&
    agrees definition.isBuiltInKeyboard (context.determineIsBuiltInKeyboard properties)

/-- One member of an identifiers entry. -/
def readMember (entry : Json) (definition : DeviceDefinition) (member : String × Json) :
    Except UnmarshalError DeviceDefinition := do
  let (key, value) := member
  let name := "identifiers entry `" ++ key ++ "`"
  match key with
  | "vendor_id" => return { definition with vendorId := some (← value.requiresUnsigned name) }
  | "product_id" => return { definition with productId := some (← value.requiresUnsigned name) }
  | "location_id" => return { definition with locationId := some (← value.requiresInt name) }
  | "device_address" =>
      return { definition with deviceAddress := some (← value.requiresString name) }
  | "is_keyboard" => return { definition with isKeyboard := some (← value.requiresBoolean name) }
  | "is_pointing_device" =>
      return { definition with isPointingDevice := some (← value.requiresBoolean name) }
  | "is_game_pad" => return { definition with isGamePad := some (← value.requiresBoolean name) }
  | "is_consumer" => return { definition with isConsumer := some (← value.requiresBoolean name) }
  | "is_touch_bar" => return { definition with isTouchBar := some (← value.requiresBoolean name) }
  | "is_built_in_keyboard" =>
      return { definition with isBuiltInKeyboard := some (← value.requiresBoolean name) }
  | "description" => return definition
  | _ => .error (.unknownKey key entry)

end DeviceDefinition

/-- `conditions::device`. -/
structure DeviceCondition where
  type : DeviceConditionType
  definitions : List DeviceDefinition

namespace DeviceCondition

/-- One entry of `handle_identifiers_json`; an entry without values is dropped. -/
def readIdentifiers (definitions : List DeviceDefinition) (entry : Json) :
    Except UnmarshalError (List DeviceDefinition) := do
  let members ← entry.requiresObject "identifiers entry"
  let definition ← members.foldlM (DeviceDefinition.readMember entry) .unspecified
  return if definition.valid then definitions ++ [definition] else definitions

/-- One member of the JSON of a condition. -/
def readMember (json : Json) (condition : DeviceCondition) (member : String × Json) :
    Except UnmarshalError DeviceCondition := do
  let (key, value) := member
  match key with
  | "type" =>
      match ← value.requiresString key with
      | "device_if" => return { condition with type := .deviceIf }
      | "device_unless" => return { condition with type := .deviceUnless }
      | "device_exists_if" => return { condition with type := .deviceExistsIf }
      | "device_exists_unless" => return { condition with type := .deviceExistsUnless }
      | type => .error (.unknownType type)
  | "identifiers" =>
      let entries ← value.requiresArray "`identifiers`"
      return { condition with
        definitions := ← entries.foldlM readIdentifiers condition.definitions }
  | "description" => return condition
  | _ => .error (.unknownKey key json)

/-- The constructor. -/
def ofJson (json : Json) : Except UnmarshalError DeviceCondition := do
  let members ← json.requiresObject "json"
  members.foldlM (readMember json) ⟨.deviceIf, []⟩

/-- Some definition describes the device. -/
def describes (condition : DeviceCondition) (context : DeviceConditionContext)
    (deviceId : DeviceId) : Bool :=
  match context.environment.deviceProperties deviceId with
  | some properties => condition.definitions.any (·.fulfilled context deviceId properties)
  | none => false

/-- `is_fulfilled`. -/
def isFulfilled (condition : DeviceCondition) (context : DeviceConditionContext)
    (deviceId : DeviceId) : Bool :=
  match condition.type with
  | .deviceIf => condition.describes context deviceId
  | .deviceUnless => !condition.describes context deviceId
  | .deviceExistsIf => context.registered.any (condition.describes context)
  | .deviceExistsUnless => !context.registered.any (condition.describes context)

end DeviceCondition

end Karabiner

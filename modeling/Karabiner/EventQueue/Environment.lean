import Karabiner.Types.MomentarySwitchEvent

/-! # The manipulator environment

`manipulator_environment` is what conditions read and what `set_variable`
commands and device or application changes write. Expressions belong to the
expression library, of which the program uses the integer value only, so that
value is a parameter (`ExpressionLibrary`).
-/

namespace Karabiner

/-- `manipulator_environment_variable_value`. -/
inductive VariableValue where
  | integer (value : Int)
  | boolean (value : Bool)
  | string (value : String)
deriving DecidableEq

/-- The value of an expression under the current variables
(`expression_wrapper::value<int64_t>`). -/
class ExpressionLibrary where
  value : String → (String → Option VariableValue) → Int

/-- Every expression has the value zero. -/
@[reducible] def zeroExpressions : ExpressionLibrary := ⟨fun _ _ => 0⟩

/-- `manipulator_environment_variable_set_variable::type`. -/
inductive SetVariableType where
  | set
  | unset
deriving DecidableEq

/-- `manipulator_environment_variable_set_variable`; expressions by their text. -/
structure SetVariable where
  name : Option String
  value : Option VariableValue
  expression : Option String
  keyUpValue : Option VariableValue
  keyUpExpression : Option String
  type : SetVariableType
deriving DecidableEq

/-- `device_properties`, the members that conditions and the grabber read. -/
structure DeviceProperties where
  vendorId : Nat
  productId : Nat
  deviceAddress : String
  transport : String
  isApple : Bool
  isKeyboard : Bool
  isPointingDevice : Bool
  isGamePad : Bool
  isConsumer : Bool
  isVirtualDevice : Bool
  isBuiltInKeyboard : Bool
  isBuiltInTouchBar : Bool
deriving DecidableEq

/-- `krbn::application`. -/
structure Application where
  bundleIdentifier : Option String
  bundlePath : Option String
  filePath : Option String
deriving DecidableEq

/-- `pqrs::osx::input_source::properties`. -/
structure InputSourceProperties where
  firstLanguage : Option String
  inputSourceId : Option String
  inputModeId : Option String
deriving DecidableEq

/-- `pqrs::osx::system_preferences::properties`, the two members the queue reads. -/
structure SystemPreferencesProperties where
  scrollDirectionIsNatural : Bool
  useFkeysAsStandardFunctionKeys : Bool
deriving DecidableEq

/-- `krbn::virtual_hid_devices_state`. -/
structure VirtualHidDevicesState where
  virtualHidKeyboardReady : Bool
  virtualHidPointingReady : Bool
deriving DecidableEq

/-- `krbn::manipulator::manipulator_environment`. The reading of the system clock
is part of it: the clock stands still within one step. -/
structure ManipulatorEnvironment where
  deviceProperties : DeviceId → Option DeviceProperties
  frontmostApplication : Application
  inputSourceProperties : InputSourceProperties
  variables_ : String → Option VariableValue
  virtualHidDevicesState : VirtualHidDevicesState
  systemClockMilliseconds : Int

namespace ManipulatorEnvironment

/-- A fresh environment. -/
def initial : ManipulatorEnvironment where
  deviceProperties := fun _ => none
  frontmostApplication := ⟨none, none, none⟩
  inputSourceProperties := ⟨none, none, none⟩
  variables_ := fun _ => none
  virtualHidDevicesState := ⟨false, false⟩
  systemClockMilliseconds := 0

def insertDeviceProperties (environment : ManipulatorEnvironment) (deviceId : DeviceId)
    (properties : DeviceProperties) : ManipulatorEnvironment :=
  { environment with
    deviceProperties := fun device =>
      if device = deviceId then some properties else environment.deviceProperties device }

def eraseDeviceProperties (environment : ManipulatorEnvironment) (deviceId : DeviceId) :
    ManipulatorEnvironment :=
  { environment with
    deviceProperties := fun device =>
      if device = deviceId then none else environment.deviceProperties device }

/-- `get_variable`: an unknown variable reads as the integer `0`. -/
def getVariable (environment : ManipulatorEnvironment) (name : String) : VariableValue :=
  (environment.variables_ name).getD (.integer 0)

def setVariable (environment : ManipulatorEnvironment) (name : String) (value : VariableValue) :
    ManipulatorEnvironment :=
  { environment with
    variables_ := fun other =>
      if other = name then some value else environment.variables_ other }

def unsetVariable (environment : ManipulatorEnvironment) (name : String) :
    ManipulatorEnvironment :=
  { environment with
    variables_ := fun other =>
      if other = name then none else environment.variables_ other }

/-- `set_variable_system_now_milliseconds`. -/
def setVariableSystemNowMilliseconds (environment : ManipulatorEnvironment) :
    ManipulatorEnvironment :=
  environment.setVariable "system.now.milliseconds"
    (.integer environment.systemClockMilliseconds)

/-- Evaluate an expression and store it in a variable, with the clock variable
refreshed first. -/
def setVariableByExpression [library : ExpressionLibrary] (environment : ManipulatorEnvironment)
    (name expression : String) : ManipulatorEnvironment :=
  let refreshed := environment.setVariableSystemNowMilliseconds
  refreshed.setVariable name (.integer (library.value expression refreshed.variables_))

/-- Store an optional value and then an optional expression in a variable, the
shared shape of the key_down and the key_up side of a `set_variable` command. -/
def applySetVariable [ExpressionLibrary] (environment : ManipulatorEnvironment) (name : String)
    (value : Option VariableValue) (expression : Option String) : ManipulatorEnvironment :=
  let stored := match value with
    | some v => environment.setVariable name v
    | none => environment
  match expression with
  | some text => stored.setVariableByExpression name text
  | none => stored

/-- What a `set_variable` command does to the environment. -/
def executeSetVariable [ExpressionLibrary] (environment : ManipulatorEnvironment)
    (command : SetVariable) (eventType : EventType) : ManipulatorEnvironment :=
  match eventType with
  | .keyDown =>
      match command.name with
      | some name =>
          match command.type with
          | .set => environment.applySetVariable name command.value command.expression
          | .unset => environment.unsetVariable name
      | none => environment
  | .keyUp =>
      match command.name with
      | some name =>
          match command.type with
          | .set => environment.applySetVariable name command.keyUpValue command.keyUpExpression
          | .unset => environment
      | none => environment
  | .single => environment

end ManipulatorEnvironment

end Karabiner

import Karabiner.Basic.Definitions
import Karabiner.Configuration.JsonHelper

/-! # The values of event definitions in JSON

The `from_json` functions of what a `to` event may send. The tables of key names, the software
functions, the input source specifiers, the conditions and the compiler of expressions are
parameters (`DefinitionLibrary`). No result needs a fact about them.
-/

namespace Karabiner

/-- What the constructors of definitions throw. -/
inductive DefinitionError where
  | unmarshal (error : UnmarshalError)
  /-- "`key` error: …" -/
  | within (key : String) (error : DefinitionError)
  /-- "unknown key: `key`" -/
  | unknownMember (key : String)
  /-- "unknown kind: `name`", of a name that an enumeration does not have. -/
  | unknownName (kind name : String)
  /-- "unknown `key`: `value`" -/
  | unknownValue (key : String) (value : Json)
  /-- "`key` must be greater than or equal to 0, but is `value`" -/
  | negative (key : String) (value : Int)
  /-- "json must be …, but is `json`", and the same of a key. -/
  | mustBeOneOf (name kinds : String) (json : Json)
  /-- "`key` error: invalid expression `value`" -/
  | invalidExpression (key : String) (value : Json)
  /-- "`key.member` is not found in `value`" -/
  | memberNotFound (key name : String) (value : Json)
  /-- "none of … are not found in `value`" -/
  | nothingToSet (key : String) (value : Json)
  /-- "multiple types are specified: `json`" -/
  | multipleTypes (json : Json)
  /-- "unknown key `key` in `json`" -/
  | unknownKey (key : String) (json : Json)
  /-- "event type is invalid: `json`" -/
  | invalidEventType (json : Json)
  /-- An exception that is no `unmarshal_error`. -/
  | other (what : String)

namespace DefinitionError

/-- `catch (const pqrs::json::unmarshal_error&)` around the value of a key. -/
def rethrow (key : String) : DefinitionError → DefinitionError
  | .other what => .other what
  | error => .within key error

end DefinitionError

/-- A condition, as what it says about a context and an environment. -/
abbrev Condition := ConditionContext → ManipulatorEnvironment → Bool

/-- What the constructors of definitions call. -/
class DefinitionLibrary where
  /-- `make_usage_pair` of the key. -/
  makeUsagePair : String → Json → Except DefinitionError UsagePair
  /-- `from_json` of `input_source_selector::specifier`. -/
  specifier : Json → Except DefinitionError InputSourceProperties
  /-- `from_json` of `software_function`, with the text it is carried as. -/
  softwareFunction : Json → Except DefinitionError String
  /-- The compiled expression has a value, which is not NaN. -/
  isExpression : String → Bool
  /-- `condition_factory::make_condition`. -/
  makeCondition : Json → Except DefinitionError Condition

/-- The check of a type of `pqrs::json`. -/
def required {α : Type} (read : Except UnmarshalError α) : Except DefinitionError α :=
  read.mapError .unmarshal

/-- `from_json` of `modifier_flag`. -/
def ModifierFlag.ofJson (json : Json) : Except DefinitionError ModifierFlag := do
  match ← required (json.requiresString "json") with
  | "zero" => return .zero
  | "caps_lock" => return .capsLock
  | "left_control" => return .leftControl
  | "left_shift" => return .leftShift
  | "left_option" => return .leftOption
  | "left_command" => return .leftCommand
  | "right_control" => return .rightControl
  | "right_shift" => return .rightShift
  | "right_option" => return .rightOption
  | "right_command" => return .rightCommand
  | "fn" => return .fn
  | name => throw (.unknownName "modifier_flag" name)

/-- `from_json` of `sticky_modifier_type`. -/
def StickyModifierType.ofJson (json : Json) : Except DefinitionError StickyModifierType := do
  match ← required (json.requiresString "json") with
  | "on" => return .on
  | "off" => return .off
  | "toggle" => return .toggle
  | name => throw (.unknownName "value" name)

/-- `from_json` of `modifier`, without a result for the sentinel `end_`. -/
def Modifier.ofJson (json : Json) : Except DefinitionError (Option Modifier) := do
  match ← required (json.requiresString "`modifier`") with
  | "any" => return some .any
  | "caps_lock" => return some .capsLock
  | "command" => return some .command
  | "control" => return some .control
  | "fn" => return some .fn
  | "left_command" | "left_gui" => return some .leftCommand
  | "left_control" => return some .leftControl
  | "left_option" | "left_alt" => return some .leftOption
  | "left_shift" => return some .leftShift
  | "option" => return some .option
  | "right_command" | "right_gui" => return some .rightCommand
  | "right_control" => return some .rightControl
  | "right_option" | "right_alt" => return some .rightOption
  | "right_shift" => return some .rightShift
  | "shift" => return some .shift
  | "end_" => return none
  | name => throw (.unknownName "modifier" name)

/-- `modifier_definition::make_modifiers`, in the order of the set. -/
def makeModifiers : Json → Except DefinitionError (List Modifier)
  | .string name => return (← Modifier.ofJson (.string name)).toList
  | .array values => do
      let modifiers ← values.mapM Modifier.ofJson
      return Modifier.all.filter fun modifier => decide (some modifier ∈ modifiers)
  | json => throw (.mustBeOneOf "json" "array or string" json)

namespace NotificationMessage

/-- A member of a notification message. The duration is checked; no event carries it. -/
def readMember (message : NotificationMessage) (member : String × Json) :
    Except DefinitionError NotificationMessage :=
  match member.1 with
  | "id" => return { message with id := ← required (member.2.requiresString "id") }
  | "text" => return { message with text := ← required (member.2.requiresString "text") }
  | "duration_milliseconds" => do
      let duration ← required (member.2.requiresInt (quoted "duration_milliseconds"))
      if duration < 0 then throw (.negative "duration_milliseconds" duration)
      return message
  | key => throw (.unknownMember key)

/-- `from_json`. -/
def ofJson (json : Json) : Except DefinitionError NotificationMessage := do
  (← required (json.requiresObject "json")).foldlM readMember ⟨"", ""⟩

end NotificationMessage

namespace MouseKey

/-- A member of a mouse key. -/
def readMember (key : MouseKey) (member : String × Json) : Except DefinitionError MouseKey :=
  match member.1 with
  | "x" => return { key with x := ← required (member.2.requiresInt (quoted "x")) }
  | "y" => return { key with y := ← required (member.2.requiresInt (quoted "y")) }
  | "vertical_wheel" =>
      return { key with
        verticalWheel := ← required (member.2.requiresInt (quoted "vertical_wheel")) }
  | "horizontal_wheel" =>
      return { key with
        horizontalWheel := ← required (member.2.requiresInt (quoted "horizontal_wheel")) }
  | "speed_multiplier" =>
      return { key with
        speedMultiplier := ← required (member.2.requiresDouble (quoted "speed_multiplier")) }
  | name => throw (.unknownMember name)

/-- `from_json`. -/
def ofJson (json : Json) : Except DefinitionError MouseKey := do
  (← required (json.requiresObject "json")).foldlM readMember ⟨0, 0, 0, 0, 1⟩

end MouseKey

/-- `from_json` of `manipulator_environment_variable_value`. -/
def VariableValue.ofJson : Json → Except DefinitionError VariableValue
  | .unsigned value => return .integer (Int.bmod value (2 ^ 64))
  | .integer value => return .integer value
  | .float value => return .integer (Json.truncate (-2 ^ 63) (2 ^ 63 - 1) value)
  | .boolean value => return .boolean value
  | .string value => return .string value
  | json => throw (.mustBeOneOf "json" "number, boolean or string" json)

namespace SetVariable

variable [DefinitionLibrary]

/-- `json_utility::unmarshal_expression_string`. -/
def unmarshalExpressionString (key : String) (value : Json) : Except DefinitionError String := do
  let text ← required (JsonUtility.unmarshalString key value)
  if DefinitionLibrary.isExpression text then return text
  throw (.invalidExpression key value)

/-- The type of a `set_variable`. -/
def readType (json : Json) : Except DefinitionError SetVariableType := do
  match ← required (json.requiresString (quoted "type")) with
  | "set" => return .set
  | "unset" => return .unset
  | name => throw (.unknownName "type" name)

/-- A member of a `set_variable`. -/
def readMember (command : SetVariable) (member : String × Json) :
    Except DefinitionError SetVariable :=
  match member.1 with
  | "name" =>
      return { command with name := some (← required (member.2.requiresString (quoted "name"))) }
  | "value" => return { command with value := some (← VariableValue.ofJson member.2) }
  | "expression" =>
      return { command with
        expression := some (← unmarshalExpressionString "expression" member.2) }
  | "key_up_value" => return { command with keyUpValue := some (← VariableValue.ofJson member.2) }
  | "key_up_expression" =>
      return { command with
        keyUpExpression := some (← unmarshalExpressionString "key_up_expression" member.2) }
  | "type" => return { command with type := ← readType member.2 }
  | key => throw (.unknownMember key)

/-- `from_json` of `manipulator_environment_variable_set_variable`. -/
def ofJson (json : Json) : Except DefinitionError SetVariable := do
  (← required (json.requiresObject "json")).foldlM readMember ⟨none, none, none, none, none, .set⟩

end SetVariable

end Karabiner

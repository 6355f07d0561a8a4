import Karabiner.Basic.DefinitionValues
import Karabiner.Configuration.DeviceCondition
import Karabiner.Foundation.LastResult

/-! # Conditions

The conditions that `condition_factory::make_condition` makes of a JSON object. Two of them keep the
result for the application and for the input source that they were asked about last. Here are the
constructors with their errors and `is_fulfilled`.
-/

namespace Karabiner

/-- `std::regex`: whether a text is an expression, and `regex_search`. -/
class RegexLibrary where
  compiles : String → Bool
  search : String → String → Bool

/-- `application::detection_source`. -/
inductive DetectionSource where
  | none
  | workspace
  | axObserver
deriving DecidableEq

/-- `krbn::application`, all of its members: `operator==` compares them all. -/
structure FrontmostApplication where
  bundleIdentifier : Option String
  bundlePath : Option String
  filePath : Option String
  pid : Option Int
  detectionSource : DetectionSource
deriving DecidableEq

/-- `pqrs::osx::input_source::properties`, all of its members. -/
structure CurrentInputSource where
  inputSourceId : Option String
  localizedName : Option String
  inputModeId : Option String
  languages : List String
  firstLanguage : Option String
deriving DecidableEq

/-- What the conditions read of the context and of the environment. -/
structure ConditionInputs where
  context : ConditionContext
  devices : DeviceConditionContext
  frontmostApplication : FrontmostApplication
  inputSource : CurrentInputSource
  getVariable : String → VariableValue
  /-- `keyboard_type_v2` of the selected profile. -/
  keyboardTypeV2 : String
  /-- `expression_wrapper::value` of the condition at a position of the list, without a result when
  it is NaN. Every condition has a wrapper of its own. -/
  expressionValue : Nat → String → Option Rat

/-- What the constructors throw. -/
inductive ConditionError where
  | unmarshal (error : UnmarshalError)
  | value (error : DefinitionError)
  /-- "condition type is not specified in `json`" -/
  | typeNotSpecified (json : Json)
  /-- "unknown condition type `type` in `json`" -/
  | unknownConditionType (type : String) (json : Json)
  /-- "`name` is not found in `json`" -/
  | notFound (name : String) (json : Json)
  /-- "…: `text`", of a text that is no expression. -/
  | badRegex (text : String)
  /-- "…: `"key":value`", of a member of an input source that is no expression. -/
  | badSpecifierRegex (key : String) (value : Json)
  /-- "unknown key: `key`" -/
  | unknownMember (key : String)
  /-- "`key` error: …" -/
  | within (key : String) (error : ConditionError)
  /-- "`key` entry error: …" -/
  | entryOf (key : String) (error : ConditionError)

/-- The two types of each condition. -/
inductive ConditionSense where
  | if_
  | unless
deriving DecidableEq

/-- The answer of a condition that has found what it looks for, or has not. -/
def ConditionSense.answer : ConditionSense → Bool → Bool
  | .if_, found => found
  | .unless, found => !found

/-- `conditions::frontmost_application`. -/
structure FrontmostApplicationCondition where
  sense : ConditionSense
  bundleIdentifiers : List String
  filePaths : List String
  cachedResult : Option (FrontmostApplication × Bool)

/-- `conditions::input_source`. The specifiers are the texts of their expressions. -/
structure InputSourceCondition where
  sense : ConditionSense
  inputSourceSpecifiers : List InputSourceProperties
  cachedResult : Option (CurrentInputSource × Bool)

/-- `conditions::variable`. -/
structure VariableCondition where
  sense : ConditionSense
  name : String
  value : VariableValue

/-- `conditions::keyboard_type`. -/
structure KeyboardTypeCondition where
  sense : ConditionSense
  keyboardTypes : List String

/-- `conditions::event_changed`. -/
structure EventChangedCondition where
  sense : ConditionSense
  value : Bool

/-- `conditions::expression`. -/
structure ExpressionCondition where
  sense : ConditionSense
  expression : Option String

/-! ## The constructors -/

/-- A check of `pqrs::json` in a constructor. -/
def checked {α : Type} (read : Except UnmarshalError α) : Except ConditionError α :=
  read.mapError .unmarshal

/-- The member `type` of the conditions with two types. -/
def readSense (ifName unlessName : String) (value : Json) :
    Except ConditionError ConditionSense := do
  let type ← checked (value.requiresString "type")
  if type = ifName then return .if_
  if type = unlessName then return .unless
  throw (.unmarshal (.unknownType type))

section Constructors

variable [RegexLibrary]

/-- `from_json` of `pqrs::regex`. -/
def readRegex (json : Json) : Except ConditionError String := do
  let text ← checked (json.requiresString "json")
  if RegexLibrary.compiles text then return text
  throw (.badRegex text)

/-- An array of expressions. -/
def readRegexes (key : String) (value : Json) : Except ConditionError (List String) := do
  let entries ← checked (value.requiresArray (quoted key))
  (entries.mapM readRegex).mapError (.within key)

/-- A member of `conditions::frontmost_application`. -/
def FrontmostApplicationCondition.readMember (json : Json)
    (condition : FrontmostApplicationCondition) (member : String × Json) :
    Except ConditionError FrontmostApplicationCondition := do
  let (key, value) := member
  match key with
  | "type" =>
      return { condition with
        sense := ← readSense "frontmost_application_if" "frontmost_application_unless" value }
  | "bundle_identifiers" => return { condition with bundleIdentifiers := ← readRegexes key value }
  | "file_paths" => return { condition with filePaths := ← readRegexes key value }
  | "description" => return condition
  | _ => throw (.unmarshal (.unknownKey key json))

/-- The constructor. -/
def FrontmostApplicationCondition.ofJson (json : Json) :
    Except ConditionError FrontmostApplicationCondition := do
  (← checked (json.requiresObject "json")).foldlM (readMember json) ⟨.if_, [], [], none⟩

namespace InputSourceCondition

/-- The text of a member of an input source specifier. -/
def readSpecifierText (key : String) (value : Json) : Except ConditionError String := do
  let text ← checked (value.requiresString (quoted key))
  if RegexLibrary.compiles text then return text
  throw (.badSpecifierRegex key value)

/-- A member of an input source specifier. -/
def readSpecifierMember (specifier : InputSourceProperties) (member : String × Json) :
    Except ConditionError InputSourceProperties := do
  let (key, value) := member
  match key with
  | "language" => return { specifier with firstLanguage := some (← readSpecifierText key value) }
  | "input_source_id" =>
      return { specifier with inputSourceId := some (← readSpecifierText key value) }
  | "input_mode_id" =>
      return { specifier with inputModeId := some (← readSpecifierText key value) }
  | _ => throw (.unknownMember key)

/-- `from_json` of `input_source_selector::specifier`. -/
def readSpecifier (json : Json) : Except ConditionError InputSourceProperties := do
  (← checked (json.requiresObject "json")).foldlM readSpecifierMember ⟨none, none, none⟩

/-- A member of `conditions::input_source`. The entries are appended one by one. -/
def readMember (json : Json) (condition : InputSourceCondition) (member : String × Json) :
    Except ConditionError InputSourceCondition := do
  let (key, value) := member
  match key with
  | "type" =>
      return { condition with sense := ← readSense "input_source_if" "input_source_unless" value }
  | "input_sources" =>
      let entries ← checked (value.requiresArray (quoted key))
      let specifiers ← entries.mapM fun entry => (readSpecifier entry).mapError (.entryOf key)
      return { condition with
        inputSourceSpecifiers := condition.inputSourceSpecifiers ++ specifiers }
  | "description" => return condition
  | _ => throw (.unmarshal (.unknownKey key json))

/-- The constructor. -/
def ofJson (json : Json) : Except ConditionError InputSourceCondition := do
  (← checked (json.requiresObject "json")).foldlM (readMember json) ⟨.if_, [], none⟩

end InputSourceCondition

end Constructors

/-- `conditions::variable` while its members are read. -/
structure VariableMembers where
  sense : ConditionSense
  name : Option String
  value : Option VariableValue

/-- A member of `conditions::variable`. -/
def VariableMembers.readMember (json : Json) (condition : VariableMembers)
    (member : String × Json) : Except ConditionError VariableMembers := do
  let (key, value) := member
  match key with
  | "type" => return { condition with sense := ← readSense "variable_if" "variable_unless" value }
  | "name" => return { condition with name := some (← checked (value.requiresString "`name`")) }
  | "value" =>
      return { condition with value := some (← (VariableValue.ofJson value).mapError .value) }
  | "description" => return condition
  | _ => throw (.unmarshal (.unknownKey key json))

/-- The constructor. -/
def VariableCondition.ofJson (json : Json) : Except ConditionError VariableCondition := do
  let members ← (← checked (json.requiresObject "json")).foldlM
    (VariableMembers.readMember json) ⟨.if_, none, none⟩
  match members.name, members.value with
  | none, _ => throw (.notFound "name" json)
  | some _, none => throw (.notFound "value" json)
  | some name, some value => return ⟨members.sense, name, value⟩

/-- A member of `conditions::keyboard_type`. The entries are appended one by one. -/
def KeyboardTypeCondition.readMember (json : Json) (condition : KeyboardTypeCondition)
    (member : String × Json) : Except ConditionError KeyboardTypeCondition := do
  let (key, value) := member
  match key with
  | "type" =>
      return { condition with sense := ← readSense "keyboard_type_if" "keyboard_type_unless" value }
  | "keyboard_types" =>
      let entries ← checked (value.requiresArray "`keyboard_types`")
      let types ← entries.mapM fun entry => checked (entry.requiresString "keyboard_types entry")
      return { condition with keyboardTypes := condition.keyboardTypes ++ types }
  | "description" => return condition
  | _ => throw (.unmarshal (.unknownKey key json))

/-- The constructor. -/
def KeyboardTypeCondition.ofJson (json : Json) : Except ConditionError KeyboardTypeCondition := do
  (← checked (json.requiresObject "json")).foldlM (readMember json) ⟨.if_, []⟩

/-- A member of `conditions::event_changed`. -/
def EventChangedCondition.readMember (json : Json) (condition : ConditionSense × Option Bool)
    (member : String × Json) : Except ConditionError (ConditionSense × Option Bool) := do
  let (key, value) := member
  match key with
  | "type" => return (← readSense "event_changed_if" "event_changed_unless" value, condition.2)
  | "value" => return (condition.1, some (← checked (value.requiresBoolean "`value`")))
  | "description" => return condition
  | _ => throw (.unmarshal (.unknownKey key json))

/-- The constructor. -/
def EventChangedCondition.ofJson (json : Json) : Except ConditionError EventChangedCondition := do
  match ← (← checked (json.requiresObject "json")).foldlM (readMember json) (.if_, none) with
  | (sense, some value) => return ⟨sense, value⟩
  | (_, none) => throw (.notFound "value" json)

/-- A member of `conditions::expression`. -/
def ExpressionCondition.readMember [DefinitionLibrary] (json : Json)
    (condition : ExpressionCondition) (member : String × Json) :
    Except ConditionError ExpressionCondition := do
  let (key, value) := member
  match key with
  | "type" =>
      return { condition with sense := ← readSense "expression_if" "expression_unless" value }
  | "expression" =>
      let expression ← (SetVariable.unmarshalExpressionString key value).mapError .value
      return { condition with expression := some expression }
  | "description" => return condition
  | _ => throw (.unmarshal (.unknownKey key json))

/-- The constructor. -/
def ExpressionCondition.ofJson [DefinitionLibrary] (json : Json) :
    Except ConditionError ExpressionCondition := do
  (← checked (json.requiresObject "json")).foldlM (readMember json) ⟨.if_, none⟩

/-- What the factory makes. -/
inductive LoadedCondition where
  | device (condition : DeviceCondition)
  | eventChanged (condition : EventChangedCondition)
  | expression (condition : ExpressionCondition)
  | frontmostApplication (condition : FrontmostApplicationCondition)
  | inputSource (condition : InputSourceCondition)
  | variable (condition : VariableCondition)
  | keyboardType (condition : KeyboardTypeCondition)

/-- `condition_factory::make_condition`. -/
def makeCondition [RegexLibrary] [DefinitionLibrary] (json : Json) :
    Except ConditionError LoadedCondition := do
  match json.find? "type" with
  | none => throw (.typeNotSpecified json)
  | some value =>
      match ← checked (value.requiresString "condition type") with
      | "device_if" | "device_unless" | "device_exists_if" | "device_exists_unless" =>
          return .device (← checked (DeviceCondition.ofJson json))
      | "event_changed_if" | "event_changed_unless" =>
          return .eventChanged (← EventChangedCondition.ofJson json)
      | "expression_if" | "expression_unless" =>
          return .expression (← ExpressionCondition.ofJson json)
      | "frontmost_application_if" | "frontmost_application_unless" =>
          return .frontmostApplication (← FrontmostApplicationCondition.ofJson json)
      | "input_source_if" | "input_source_unless" =>
          return .inputSource (← InputSourceCondition.ofJson json)
      | "variable_if" | "variable_unless" => return .variable (← VariableCondition.ofJson json)
      | "keyboard_type_if" | "keyboard_type_unless" =>
          return .keyboardType (← KeyboardTypeCondition.ofJson json)
      | type => throw (.unknownConditionType type json)

/-! ## The answers -/

section Fulfilled

variable [RegexLibrary]

namespace FrontmostApplicationCondition

/-- An expression is found in a text that the application has. -/
def finds (patterns : List String) (text : Option String) : Bool :=
  text.any fun text => patterns.any fun pattern => RegexLibrary.search pattern text

/-- `is_fulfilled` without the result that is kept. -/
def compute (condition : FrontmostApplicationCondition) (application : FrontmostApplication) :
    Bool :=
  condition.sense.answer
    (finds condition.bundleIdentifiers application.bundleIdentifier ||
      finds condition.filePaths application.filePath)

/-- `is_fulfilled`. -/
def isFulfilled (condition : FrontmostApplicationCondition) (application : FrontmostApplication) :
    Bool × FrontmostApplicationCondition :=
  let (result, kept) :=
    Foundation.LastResult.read condition.compute condition.cachedResult application
  (result, { condition with cachedResult := kept })

end FrontmostApplicationCondition

namespace InputSourceCondition

/-- An expression that is specified is found in a text that the input source has. -/
def agrees (pattern text : Option String) : Bool :=
  pattern.all fun pattern => text.any (RegexLibrary.search pattern)

/-- `specifier::test`. -/
def test (specifier : InputSourceProperties) (properties : CurrentInputSource) : Bool :=
  agrees specifier.firstLanguage properties.firstLanguage &&
    agrees specifier.inputSourceId properties.inputSourceId &&
    agrees specifier.inputModeId properties.inputModeId

/-- `is_fulfilled` without the result that is kept. -/
def compute (condition : InputSourceCondition) (properties : CurrentInputSource) : Bool :=
  condition.sense.answer
    (condition.inputSourceSpecifiers.any fun specifier => test specifier properties)

/-- `is_fulfilled`. -/
def isFulfilled (condition : InputSourceCondition) (properties : CurrentInputSource) :
    Bool × InputSourceCondition :=
  let (result, kept) :=
    Foundation.LastResult.read condition.compute condition.cachedResult properties
  (result, { condition with cachedResult := kept })

end InputSourceCondition

/-- `variable::is_fulfilled`. -/
def VariableCondition.isFulfilled (condition : VariableCondition) (inputs : ConditionInputs) :
    Bool :=
  condition.sense.answer (decide (inputs.getVariable condition.name = condition.value))

/-- `keyboard_type::is_fulfilled`. -/
def KeyboardTypeCondition.isFulfilled (condition : KeyboardTypeCondition)
    (inputs : ConditionInputs) : Bool :=
  condition.sense.answer (condition.keyboardTypes.any (· == inputs.keyboardTypeV2))

/-- `event_changed::is_fulfilled`. The two types compare with different states. -/
def EventChangedCondition.isFulfilled (condition : EventChangedCondition) (state : EntryState) :
    Bool :=
  match condition.sense, condition.value with
  | .if_, true => decide (state = .manipulated)
  | .if_, false => decide (state ≠ .manipulated)
  | .unless, true => decide (state = .original)
  | .unless, false => decide (state ≠ .original)

/-- `expression::is_fulfilled`: never without an expression and never for NaN. -/
def ExpressionCondition.isFulfilled (condition : ExpressionCondition)
    (value : String → Option Rat) : Bool :=
  match condition.expression.bind value with
  | some value => condition.sense.answer (decide (value ≠ 0))
  | none => false

/-- `base::is_fulfilled`, with the condition after the call. -/
def LoadedCondition.isFulfilled (inputs : ConditionInputs) (position : Nat) :
    LoadedCondition → Bool × LoadedCondition
  | .device condition =>
      (condition.isFulfilled inputs.devices inputs.context.deviceId, .device condition)
  | .eventChanged condition =>
      (condition.isFulfilled inputs.context.state, .eventChanged condition)
  | .expression condition =>
      (condition.isFulfilled (inputs.expressionValue position), .expression condition)
  | .frontmostApplication condition =>
      let (result, changed) := condition.isFulfilled inputs.frontmostApplication
      (result, .frontmostApplication changed)
  | .inputSource condition =>
      let (result, changed) := condition.isFulfilled inputs.inputSource
      (result, .inputSource changed)
  | .variable condition => (condition.isFulfilled inputs, .variable condition)
  | .keyboardType condition => (condition.isFulfilled inputs, .keyboardType condition)

/-- The loop of `condition_manager::is_fulfilled` from a position on. Every condition is asked, also
when one before it is not fulfilled. -/
def LoadedCondition.allFulfilled (inputs : ConditionInputs) :
    Nat → List LoadedCondition → Bool × List LoadedCondition
  | _, [] => (true, [])
  | position, condition :: rest =>
      let (result, changed) := condition.isFulfilled inputs position
      let (others, changedRest) := allFulfilled inputs (position + 1) rest
      (result && others, changed :: changedRest)

/-- The results of calls of `condition_manager::is_fulfilled`, one after the other. -/
def LoadedCondition.results : List LoadedCondition → List ConditionInputs → List Bool
  | _, [] => []
  | conditions, inputs :: calls =>
      let (result, changed) := allFulfilled inputs 0 conditions
      result :: results changed calls

end Fulfilled

end Karabiner

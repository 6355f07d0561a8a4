import Karabiner.Manipulator.Conditions

/-! # What conditions ask

What a condition object asks about the context and the environment, read off the object and without
the factory, the members that have been read before or the results that are kept (`Asks`). Whatever
list of objects the factory accepts and however often the conditions have been asked, they are
fulfilled exactly when what each object asks is so (`LoadedCondition.results_iff`).
-/

namespace Karabiner

namespace Json

def text? : Json → Option String
  | .string text => some text
  | _ => none

/-- The entries of the array at a key. -/
def entriesAt (json : Json) (key : String) : List Json := (json.find? key).elim [] elements

/-- The texts of the array at a key. -/
def textsAt (json : Json) (key : String) : List String := (json.entriesAt key).filterMap text?

/-- Each key stands once. -/
def DistinctKeys (json : Json) : Prop := (json.items.map Prod.fst).Nodup

/-- Each key stands once, also in the entries of the arrays of the object. -/
def DistinctKeysWithin (json : Json) : Prop :=
  json.DistinctKeys ∧ ∀ member ∈ json.items, ∀ entry ∈ member.2.elements, entry.DistinctKeys

instance (json : Json) : Decidable json.DistinctKeys := inferInstanceAs (Decidable (List.Nodup _))

instance (json : Json) : Decidable json.DistinctKeysWithin :=
  inferInstanceAs (Decidable (_ ∧ ∀ _ ∈ _, ∀ _ ∈ _, DistinctKeys _))

theorem DistinctKeysWithin.entry {json : Json} (distinct : json.DistinctKeysWithin) {key : String}
    {entry : Json} (isEntry : entry ∈ json.entriesAt key) : entry.DistinctKeys := by
  unfold entriesAt at isEntry
  cases json with
  | object members =>
      cases found : members.lookup key with
      | none => simp [find?, found] at isEntry
      | some value =>
          simp only [find?, found, Option.elim_some] at isEntry
          obtain ⟨before, after, split, -⟩ := List.lookup_eq_some_iff.mp found
          exact distinct.2 (key, value) (by simp [items, split]) entry isEntry
  | _ => simp [find?] at isEntry

end Json

namespace AskedCondition

/-! ## Devices -/

/-- A member of an identifiers entry agrees with a device. -/
def IdentifierAgrees (context : DeviceConditionContext) (deviceId : DeviceId)
    (properties : DeviceProperties) (member : String × Json) : Prop :=
  let identifiers := properties.deviceIdentifiers
  let (key, value) := member
  match key with
  | "vendor_id" => value.requiresUnsigned key = .ok identifiers.vendorId
  | "product_id" => value.requiresUnsigned key = .ok identifiers.productId
  | "location_id" => value.requiresInt key = .ok (context.locationId deviceId)
  | "device_address" => value = .string identifiers.deviceAddress
  | "is_keyboard" => value = .boolean identifiers.isKeyboard
  | "is_pointing_device" => value = .boolean identifiers.isPointingDevice
  | "is_game_pad" => value = .boolean identifiers.isGamePad
  | "is_consumer" => value = .boolean identifiers.isConsumer
  | "is_touch_bar" => value = .boolean properties.isBuiltInTouchBar
  | "is_built_in_keyboard" => value = .boolean (context.determineIsBuiltInKeyboard properties)
  | _ => True

/-- Some entry describes the device: it says something, and all that it says agrees. -/
def IsDescribed (json : Json) (context : DeviceConditionContext) (deviceId : DeviceId) : Prop :=
  ∃ properties, context.environment.deviceProperties deviceId = some properties ∧
    ∃ entry ∈ json.entriesAt "identifiers",
      (∃ member ∈ entry.items, member.1 ≠ "description") ∧
        ∀ member ∈ entry.items, IdentifierAgrees context deviceId properties member

/-! ## Applications and input sources -/

variable [RegexLibrary]

/-- Some text at the key is found in a text that there is. -/
def IsFound (json : Json) (key : String) (text : Option String) : Prop :=
  ∃ actual, text = some actual ∧ ∃ pattern ∈ json.textsAt key, RegexLibrary.search pattern actual

/-- A bundle identifier or a file path of the object is that of the application. -/
def IsFrontmost (json : Json) (application : FrontmostApplication) : Prop :=
  IsFound json "bundle_identifiers" application.bundleIdentifier ∨
    IsFound json "file_paths" application.filePath

/-- What a member of a specifier is compared with. -/
def sourceText (source : CurrentInputSource) : String → Option String
  | "language" => source.firstLanguage
  | "input_source_id" => source.inputSourceId
  | "input_mode_id" => source.inputModeId
  | _ => none

/-- Every text of some entry is found in the input source. -/
def IsSelected (json : Json) (source : CurrentInputSource) : Prop :=
  ∃ entry ∈ json.entriesAt "input_sources", ∀ member ∈ entry.items,
    ∃ pattern actual, member.2 = .string pattern ∧ sourceText source member.1 = some actual ∧
      RegexLibrary.search pattern actual

/-! ## Variables, keyboard types, states and expressions -/

/-- The variable has the value. -/
def HasValue (json : Json) (getVariable : String → VariableValue) : Prop :=
  ∃ name value, json.find? "name" = some (.string name) ∧ json.find? "value" = some value ∧
    VariableValue.ofJson value = .ok (getVariable name)

/-- The value of the object says whether the event is in the state. -/
def IsState (json : Json) (state actual : EntryState) : Prop :=
  ∃ value, json.find? "value" = some (.boolean value) ∧ (value = true ↔ actual = state)

/-- The expression of the object has a value. -/
def Evaluates (json : Json) (expressionValue : String → Option Rat) (value : Rat) : Prop :=
  ∃ source text, json.find? "expression" = some source ∧
    JsonUtility.unmarshalString "expression" source = .ok text ∧ expressionValue text = some value

/-- What the object of the condition at a position asks. -/
def Asks (inputs : ConditionInputs) (position : Nat) (json : Json) : Prop :=
  match json.find? "type" with
  | some (.string "device_if") => IsDescribed json inputs.devices inputs.context.deviceId
  | some (.string "device_unless") => ¬IsDescribed json inputs.devices inputs.context.deviceId
  | some (.string "device_exists_if") =>
      ∃ device ∈ inputs.devices.registered, IsDescribed json inputs.devices device
  | some (.string "device_exists_unless") =>
      ¬∃ device ∈ inputs.devices.registered, IsDescribed json inputs.devices device
  | some (.string "event_changed_if") => IsState json .manipulated inputs.context.state
  | some (.string "event_changed_unless") => IsState json .original inputs.context.state
  | some (.string "expression_if") =>
      ∃ value, Evaluates json (inputs.expressionValue position) value ∧ value ≠ 0
  | some (.string "expression_unless") => Evaluates json (inputs.expressionValue position) 0
  | some (.string "frontmost_application_if") => IsFrontmost json inputs.frontmostApplication
  | some (.string "frontmost_application_unless") => ¬IsFrontmost json inputs.frontmostApplication
  | some (.string "input_source_if") => IsSelected json inputs.inputSource
  | some (.string "input_source_unless") => ¬IsSelected json inputs.inputSource
  | some (.string "variable_if") => HasValue json inputs.getVariable
  | some (.string "variable_unless") => ¬HasValue json inputs.getVariable
  | some (.string "keyboard_type_if") => inputs.keyboardTypeV2 ∈ json.textsAt "keyboard_types"
  | some (.string "keyboard_type_unless") => inputs.keyboardTypeV2 ∉ json.textsAt "keyboard_types"
  | _ => False

end AskedCondition

end Karabiner

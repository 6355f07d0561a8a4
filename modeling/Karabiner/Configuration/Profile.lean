import Karabiner.Configuration.Device

/-! # Profiles

A profile has the settings of its devices. `ignore` of a device that has no chosen value follows
`ignore_pointing_device_events_by_default`, and a device that is asked for and not known is added
with the default.
-/

namespace Karabiner

/-- An object of the configuration with a constructor and a JSON of its own. -/
class SettingsObject (C : Type) where
  initial : C
  ofJson : Json → ErrorHandling → Except ConfigurationError C
  toJson : C → Json

/-- An object without settings. -/
@[reducible]
def SettingsObject.none : SettingsObject Unit := ⟨(), fun _ _ => .ok (), fun _ => .object []⟩

/-- The values of `parameters`. -/
def parametersValues : List HelperValue :=
  [.int (.new "delay_milliseconds_before_open_device" 1000)]

/-- The values of `virtual_hid_keyboard`. -/
def virtualHidKeyboardValues : List HelperValue :=
  [.string (.new "keyboard_type_v2" ""), .int (.new "mouse_key_xy_scale" 100),
    .boolean (.new "indicate_sticky_modifier_keys_state" true)]

/-- `profile`, with its `complex_modifications` of any type. -/
structure Profile (C : Type) where
  json : Members
  errorHandling : ErrorHandling
  name : ValueT String
  selected : ValueT Bool
  ignorePointingDeviceEventsByDefault : ValueT Bool
  parameters : HelperObject
  virtualHidKeyboard : HelperObject
  devices : List Device
  simpleModifications : SimpleModifications
  fnFunctionKeys : SimpleModifications
  complexModifications : C

namespace Profile

/-! ## Defaults -/

/-- A function key and the value that it stands for. -/
def functionKeyJson (key kind value : String) : Json :=
  .object [("from", .object [("key_code", .string key)]),
    ("to", .array [.object [(kind, .string value)]])]

/-- `make_default_fn_function_keys_json`. -/
def makeDefaultFnFunctionKeysJson : Json :=
  .array
    [functionKeyJson "f1" "consumer_key_code" "display_brightness_decrement",
      functionKeyJson "f2" "consumer_key_code" "display_brightness_increment",
      functionKeyJson "f3" "apple_vendor_keyboard_key_code" "mission_control",
      functionKeyJson "f4" "apple_vendor_keyboard_key_code" "spotlight",
      functionKeyJson "f5" "consumer_key_code" "dictation",
      functionKeyJson "f6" "generic_desktop" "do_not_disturb",
      functionKeyJson "f7" "consumer_key_code" "rewind",
      functionKeyJson "f8" "consumer_key_code" "play_or_pause",
      functionKeyJson "f9" "consumer_key_code" "fast_forward",
      functionKeyJson "f10" "consumer_key_code" "mute",
      functionKeyJson "f11" "consumer_key_code" "volume_decrement",
      functionKeyJson "f12" "consumer_key_code" "volume_increment"]

/-- `make_device_ignore_default_value`. -/
def makeDeviceIgnoreDefaultValue (ignorePointingDeviceEventsByDefault : Bool)
    (identifiers : DeviceIdentifiers) : Bool :=
  -- YubiKey token
  if identifiers.isGamePad || identifiers.isConsumer || identifiers.vendorId == 0x1050 then true
  else if identifiers.isPointingDevice then ignorePointingDeviceEventsByDefault
  else false

/-- `make_device_default_values`. -/
def makeDeviceDefaultValues (ignorePointingDeviceEventsByDefault : Bool)
    (identifiers : DeviceIdentifiers) : Device.DefaultValues where
  ignore := makeDeviceIgnoreDefaultValue ignorePointingDeviceEventsByDefault identifiers
  manipulateCapsLockLed := identifiers.isKeyboard

/-- The default depends on what identifiers are compared by only. -/
theorem makeDeviceIgnoreDefaultValue_congr {first second : DeviceIdentifiers}
    (same : first.same second = true) (setting : Bool) :
    makeDeviceIgnoreDefaultValue setting first = makeDeviceIgnoreDefaultValue setting second := by
  simp only [DeviceIdentifiers.same, Bool.and_eq_true, beq_iff_eq] at same
  obtain ⟨⟨⟨⟨⟨⟨⟨vendor, _⟩, _⟩, pointing⟩, gamePad⟩, consumer⟩, _⟩, _⟩ := same
  rw [makeDeviceIgnoreDefaultValue, makeDeviceIgnoreDefaultValue, vendor, pointing, gamePad,
    consumer]

/-! ## The constructor -/

/-- `object_t::update_value`: an object without a member stays as it is. -/
def updateObject {T : Type} (ofJson : Json → Except ConfigurationError T) (key : String)
    (members : Members) (initial : T) : Except ConfigurationError T :=
  match members.lookup key with
  | none => .ok initial
  | some json => (ofJson json).mapError (ConfigurationError.rethrow (.within key))

/-- `array_t::update_value`. -/
def updateArray {T : Type} (ofJson : Json → Except ConfigurationError T) (key : String)
    (members : Members) : Except ConfigurationError (List T) :=
  match members.lookup key with
  | none => .ok []
  | some json => do
      let values ← (json.requiresArray (quoted key)).mapError .unmarshal
      values.mapM fun value => (ofJson value).mapError (ConfigurationError.rethrow (.entryOf key))

section JsonText

variable {C : Type} [SettingsObject C] [JsonText]

/-- A member of the loop over `json.items()`. -/
def readMember (read : SimpleModifications × SimpleModifications × C)
    (errorHandling : ErrorHandling) (member : String × Json) :
    Except ConfigurationError (SimpleModifications × SimpleModifications × C) :=
  match member.1 with
  | "simple_modifications" => do
      return (← Device.updateModifications member.1 read.1 member.2, read.2)
  | "fn_function_keys" => do
      return (read.1, ← Device.updateModifications member.1 read.2.1 member.2, read.2.2)
  | "complex_modifications" => do
      return (read.1, read.2.1, ← (SettingsObject.ofJson member.2 errorHandling).mapError
        (ConfigurationError.rethrow (.within member.1)))
  | _ => .ok read

/-- The constructor. -/
def ofJson (json : Json) (errorHandling : ErrorHandling) :
    Except ConfigurationError (Profile C) := do
  let fnFunctionKeys ← (SimpleModifications.initial.update makeDefaultFnFunctionKeysJson).mapError
    .simpleModifications
  let members ← (json.requiresObject "json").mapError .unmarshal
  let name ← ((ValueT.new "name" "").updateValue members errorHandling).mapError .unmarshal
  let selected ← ((ValueT.new "selected" false).updateValue members errorHandling).mapError
    .unmarshal
  let ignorePointing ← ((ValueT.new "ignore_pointing_device_events_by_default" true).updateValue
    members errorHandling).mapError .unmarshal
  let parameters ← updateObject (fun json =>
    (HelperObject.ofJson parametersValues json errorHandling).mapError .unmarshal)
    "parameters" members ⟨[], parametersValues⟩
  let virtualHidKeyboard ← updateObject (fun json =>
    (HelperObject.ofJson virtualHidKeyboardValues json errorHandling).mapError .unmarshal)
    "virtual_hid_keyboard" members ⟨[], virtualHidKeyboardValues⟩
  let devices ← updateArray (fun json =>
    Device.ofJson json errorHandling (makeDeviceDefaultValues ignorePointing.value))
    "devices" members
  let (simpleModifications, fnFunctionKeys, complexModifications) ←
    members.foldlM (fun read member => readMember read errorHandling member)
      (SimpleModifications.initial, fnFunctionKeys, (SettingsObject.initial : C))
  return ⟨members, errorHandling, name, selected, ignorePointing, parameters, virtualHidKeyboard,
    devices, simpleModifications, fnFunctionKeys, complexModifications⟩

/-! ## Writing -/

/-- What `array_t::update_json` writes: the values that are not empty. -/
def writtenDevices (devices : List Device) : List Json :=
  (devices.map Device.toJson).filter fun json => (Device.unlessEmpty json).isSome

/-- `to_json`. -/
def toJson (profile : Profile C) : Json :=
  .object <| profile.ignorePointingDeviceEventsByDefault.updateJson
      (profile.selected.updateJson (profile.name.updateJson profile.json))
    |>.put "parameters" (Device.unlessEmpty profile.parameters.toJson)
    |>.put "virtual_hid_keyboard" (Device.unlessEmpty profile.virtualHidKeyboard.toJson)
    |>.put "devices" (Device.unlessEmpty (.array (writtenDevices profile.devices)))
    |>.put "simple_modifications"
      (Device.unlessEmpty (profile.simpleModifications.toJson (.array [])))
    |>.put "fn_function_keys"
      (Device.unlessEmpty (profile.fnFunctionKeys.toJson makeDefaultFnFunctionKeysJson))
    |>.put "complex_modifications"
      (Device.unlessEmpty (SettingsObject.toJson profile.complexModifications))

/-! ## Changes -/

omit [SettingsObject C] [JsonText] in
/-- `set_ignore_pointing_device_events_by_default`. -/
def setIgnorePointingDeviceEventsByDefault (profile : Profile C) (value : Bool) : Profile C :=
  { profile with
    ignorePointingDeviceEventsByDefault :=
      { profile.ignorePointingDeviceEventsByDefault with value }
    devices := profile.devices.map fun device =>
      device.updateDefaultValues (makeDeviceDefaultValues value device.identifiers) }

/-- `get_device`, for what it adds to the devices. -/
def getDevice (profile : Profile C) (identifiers : DeviceIdentifiers) :
    Except ConfigurationError (Profile C) :=
  if profile.devices.any fun device => device.identifiers.same identifiers then .ok profile
  else do
    let device ← Device.ofJson (.object [("identifiers", identifiers.toJson)])
      profile.errorHandling
      (makeDeviceDefaultValues profile.ignorePointingDeviceEventsByDefault.value)
    return { profile with devices := profile.devices ++ [device] }

/-! ## What is read -/

omit [SettingsObject C] [JsonText] in
theorem forall₂_of_mapM_eq_ok {T U : Type} {read : T → Except ConfigurationError U}
    {values : List T} {results : List U} (areRead : values.mapM read = .ok results) :
    List.Forall₂ (fun value result => read value = .ok result) values results := by
  induction values generalizing results with
  | nil =>
      obtain rfl := Except.ok.inj areRead
      exact .nil
  | cons value rest ih =>
      rw [List.mapM_cons] at areRead
      obtain ⟨result, isRead, areRead⟩ := exists_of_bind_eq_ok areRead
      obtain ⟨others, othersRead, areRead⟩ := exists_of_bind_eq_ok areRead
      obtain rfl := Except.ok.inj areRead
      exact .cons isRead (ih othersRead)

omit [SettingsObject C] [JsonText] in
/-- The elements of an array are read one by one. -/
theorem updateArray_eq_ok {T : Type} {read : Json → Except ConfigurationError T} {key : String}
    {members : Members} {values : List T} (areRead : updateArray read key members = .ok values) :
    List.Forall₂ (fun json value => read json = .ok value)
      (((members.lookup key).getD (.array [])).elements) values := by
  unfold updateArray at areRead
  cases found : members.lookup key with
  | none =>
      rw [found] at areRead
      obtain rfl := Except.ok.inj areRead
      exact .nil
  | some json =>
      rw [found] at areRead
      obtain ⟨jsons, isArray, areRead⟩ := exists_of_bind_eq_ok areRead
      have same : jsons = json.elements := by
        cases json with
        | array own => exact (Except.ok.inj isArray).symm
        | _ => cases isArray
      rw [Option.getD_some, ← same]
      exact (forall₂_of_mapM_eq_ok areRead).imp fun _ _ isRead => eq_ok_of_mapError_eq_ok isRead

/-- What the constructor reads of the setting and of the devices. -/
theorem ofJson_eq_ok {json : Json} {errorHandling : ErrorHandling} {profile : Profile C}
    (isRead : ofJson json errorHandling = .ok profile) :
    ∃ members, json = .object members ∧
      (ValueT.new "ignore_pointing_device_events_by_default" true).updateValue members
        errorHandling = .ok profile.ignorePointingDeviceEventsByDefault ∧
      List.Forall₂ (fun json device => Device.ofJson json errorHandling
          (makeDeviceDefaultValues profile.ignorePointingDeviceEventsByDefault.value) =
          .ok device)
        (((members.lookup "devices").getD (.array [])).elements) profile.devices := by
  obtain ⟨defaultKeys, _, isRead⟩ := exists_of_bind_eq_ok isRead
  obtain ⟨members, isObject, isRead⟩ := exists_of_bind_eq_ok isRead
  obtain ⟨name, _, isRead⟩ := exists_of_bind_eq_ok isRead
  obtain ⟨selected, _, isRead⟩ := exists_of_bind_eq_ok isRead
  obtain ⟨ignorePointing, isSetting, isRead⟩ := exists_of_bind_eq_ok isRead
  obtain ⟨parameters, _, isRead⟩ := exists_of_bind_eq_ok isRead
  obtain ⟨virtualHidKeyboard, _, isRead⟩ := exists_of_bind_eq_ok isRead
  obtain ⟨devices, areDevices, isRead⟩ := exists_of_bind_eq_ok isRead
  obtain ⟨⟨simple, fnKeys, complex⟩, _, isRead⟩ := exists_of_bind_eq_ok isRead
  obtain rfl := Except.ok.inj isRead
  refine ⟨members, ?_, eq_ok_of_mapError_eq_ok isSetting, updateArray_eq_ok areDevices⟩
  cases json with
  | object own => rw [← Except.ok.inj isObject]
  | _ => cases isObject

/-- A profile whose JSON says nothing of it is not selected. -/
theorem selected_eq_false {members : Members} {errorHandling : ErrorHandling} {profile : Profile C}
    (isRead : ofJson (.object members) errorHandling = .ok profile)
    (absent : members.lookup "selected" = none) : profile.selected.value = false := by
  obtain ⟨defaultKeys, _, isRead⟩ := exists_of_bind_eq_ok isRead
  obtain ⟨own, isObject, isRead⟩ := exists_of_bind_eq_ok isRead
  obtain ⟨name, _, isRead⟩ := exists_of_bind_eq_ok isRead
  obtain ⟨selected, isSelected, isRead⟩ := exists_of_bind_eq_ok isRead
  obtain ⟨ignorePointing, _, isRead⟩ := exists_of_bind_eq_ok isRead
  obtain ⟨parameters, _, isRead⟩ := exists_of_bind_eq_ok isRead
  obtain ⟨virtualHidKeyboard, _, isRead⟩ := exists_of_bind_eq_ok isRead
  obtain ⟨devices, _, isRead⟩ := exists_of_bind_eq_ok isRead
  obtain ⟨⟨simple, fnKeys, complex⟩, _, isRead⟩ := exists_of_bind_eq_ok isRead
  obtain rfl := Except.ok.inj isRead
  obtain rfl := Except.ok.inj isObject
  have read := eq_ok_of_mapError_eq_ok isSelected
  rw [ValueT.updateValue, show members.lookup (ValueT.new "selected" false).key = none from absent]
    at read
  obtain rfl := Except.ok.inj read
  rfl

end JsonText

end Profile

end Karabiner

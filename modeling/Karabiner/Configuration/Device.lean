import Karabiner.Configuration.WrittenIdentifiers

/-! # Devices of a profile

A device has a value of `ignore` that was chosen, or the default of the profile that it is in.
`ignore_configured_` tells them apart, also when the chosen value equals the default: only a
chosen value is written.
-/

namespace Karabiner

/-! ## Booleans of a table -/

/-- The boolean of a key. -/
def booleanOf (key : String) (values : List HelperValue) : Bool :=
  values.any fun
    | .boolean value => value.key == key && value.value
    | _ => false

def HelperValue.mapBoolean (key : String) (change : ValueT Bool → ValueT Bool) :
    HelperValue → HelperValue
  | .boolean value => if value.key = key then .boolean (change value) else .boolean value
  | other => other

/-- The boolean of a key gets a value. -/
def setBoolean (key : String) (value : Bool) (values : List HelperValue) : List HelperValue :=
  values.map (HelperValue.mapBoolean key fun old => { old with value })

/-- `helper_values_.set_default_value` of a boolean. -/
def setBooleanDefault (key : String) (defaultValue : Bool) (values : List HelperValue) :
    List HelperValue :=
  values.map (HelperValue.mapBoolean key fun old => old.setDefaultValue defaultValue)

theorem HelperValue.shape_mapBoolean {change : ValueT Bool → ValueT Bool}
    (sameKey : ∀ value, (change value).key = value.key) (key : String) (value : HelperValue) :
    (value.mapBoolean key change).shape = value.shape := by
  cases value with
  | boolean own =>
      rw [mapBoolean]
      split
      · rw [shape, shape, sameKey]
      · rfl
  | _ => rfl

theorem shape_setBoolean (key : String) (value : Bool) (values : List HelperValue) :
    (setBoolean key value values).map HelperValue.shape = values.map HelperValue.shape := by
  have sameKey : ∀ old : ValueT Bool, ({ old with value } : ValueT Bool).key = old.key :=
    fun _ => rfl
  rw [setBoolean, List.map_map]
  refine List.map_congr_left fun own _ => ?_
  rw [Function.comp_apply, HelperValue.shape_mapBoolean sameKey]

theorem shape_setBooleanDefault (key : String) (value : Bool) (values : List HelperValue) :
    (setBooleanDefault key value values).map HelperValue.shape =
      values.map HelperValue.shape := by
  have sameKey : ∀ old : ValueT Bool, (old.setDefaultValue value).key = old.key := by
    intro old
    rw [ValueT.setDefaultValue]
    split <;> rfl
  rw [setBooleanDefault, List.map_map]
  refine List.map_congr_left fun own _ => ?_
  rw [Function.comp_apply, HelperValue.shape_mapBoolean sameKey]

/-- `device`. -/
structure Device where
  json : Members
  identifiers : DeviceIdentifiers
  ignore : Bool
  ignoreConfigured : Bool
  helperValues : List HelperValue
  simpleModifications : SimpleModifications
  fnFunctionKeys : SimpleModifications

namespace Device

/-- `device::default_values`. -/
structure DefaultValues where
  ignore : Bool
  manipulateCapsLockLed : Bool

/-! ## The values of a device -/

/-- The formula of a movement in one direction. -/
def stickFormula (direction : String) : String :=
  "\n".intercalate
    ["var m:= 0;", "", "if (continued_movement == false) \x7b", "  m := delta_magnitude * 16;",
      "\x7d else if (absolute_magnitude < 1.5) \x7b", "  m := absolute_magnitude * 8;",
      "\x7d else if (absolute_magnitude < 2) \x7b", "  m := absolute_magnitude * 12;",
      "\x7d else \x7b", "  m := absolute_magnitude * 24;", "\x7d;", "",
      direction ++ "(radian) * m;"]

/-- The formula of a wheel, which moves in the direction that the stick leans to. -/
def wheelFormula (comparison direction : String) : String :=
  "\n".intercalate
    ["var m := 0;", "", "if (abs(cos(radian)) " ++ comparison ++ " abs(sin(radian))) \x7b",
      "  if (continued_movement == false) \x7b", "    m := delta_magnitude;", "  \x7d else \x7b",
      "    m := absolute_magnitude * 0.1;", "  \x7d;", "\x7d;", "",
      direction ++ "(radian) * m;"]

/-- The table of the constructor. -/
def defaultHelperValues (defaultValues : DefaultValues) : List HelperValue :=
  [.boolean (.new "manipulate_caps_lock_led" defaultValues.manipulateCapsLockLed),
    .boolean (.new "swap_grave_accent_and_non_us_backslash" false),
    .boolean (.new "ignore_vendor_events" false),
    .boolean (.new "treat_as_built_in_keyboard" false),
    .boolean (.new "disable_built_in_keyboard_if_exists" false),
    .double (.new "pointing_motion_xy_multiplier" 1),
    .double (.new "pointing_motion_wheels_multiplier" 1),
    .boolean (.new "mouse_flip_x" false),
    .boolean (.new "mouse_flip_y" false),
    .boolean (.new "mouse_flip_vertical_wheel" false),
    .boolean (.new "mouse_flip_horizontal_wheel" false),
    .boolean (.new "mouse_swap_xy" false),
    .boolean (.new "mouse_swap_wheels" false),
    .boolean (.new "mouse_discard_x" false),
    .boolean (.new "mouse_discard_y" false),
    .boolean (.new "mouse_discard_vertical_wheel" false),
    .boolean (.new "mouse_discard_horizontal_wheel" false),
    .boolean (.new "game_pad_swap_sticks" false),
    .double (.new "game_pad_xy_stick_deadzone" (1 / 10)),
    .double (.new "game_pad_xy_stick_delta_magnitude_detection_threshold" (2 / 100)),
    .double (.new "game_pad_xy_stick_continued_movement_absolute_magnitude_threshold" 1),
    .int (.new "game_pad_xy_stick_continued_movement_interval_milliseconds" 20),
    .double (.new "game_pad_wheels_stick_deadzone" (1 / 10)),
    .double (.new "game_pad_wheels_stick_delta_magnitude_detection_threshold" (2 / 100)),
    .double (.new "game_pad_wheels_stick_continued_movement_absolute_magnitude_threshold" 1),
    .int (.new "game_pad_wheels_stick_continued_movement_interval_milliseconds" 10),
    .string (.new "game_pad_stick_x_formula" (stickFormula "cos")),
    .string (.new "game_pad_stick_y_formula" (stickFormula "sin")),
    .string (.new "game_pad_stick_vertical_wheel_formula" (wheelFormula "<" "sin")),
    .string (.new "game_pad_stick_horizontal_wheel_formula" (wheelFormula ">" "cos"))]

/-- `make_default_fn_function_keys_json`. -/
def makeDefaultFnFunctionKeysJson : Json :=
  .array <| (List.range 12).map fun i =>
    .object [("from", .object [("key_code", .string ("f" ++ toString (i + 1)))]),
      ("to", .object [])]

/-! ## The constructor -/

/-- `make_device_identifiers`. -/
def makeDeviceIdentifiers (json : Json) : Except ConfigurationError DeviceIdentifiers :=
  match json.find? "identifiers" with
  | some value => (DeviceIdentifiers.ofJson value).mapError fun error =>
      .within "identifiers" (.unmarshal error)
  | none => .ok .default

/-- The value of `ignore`, and whether the JSON has one. -/
def readIgnore (members : Members) (errorHandling : ErrorHandling) (defaultIgnore : Bool) :
    Except ConfigurationError (Bool × Bool) :=
  match members.lookup "ignore" with
  | none => .ok (defaultIgnore, false)
  | some json =>
      match json.requiresBoolean "`ignore`" with
      | .ok ignore => .ok (ignore, true)
      | .error error =>
          if errorHandling = .strict then .error (.unmarshal error)
          else .ok (defaultIgnore, false)

/-- `coordinate_between_properties`: a device that counts as the built-in keyboard is not
disabled by another one. -/
def coordinateBetweenProperties (device : Device) : Device :=
  if booleanOf "treat_as_built_in_keyboard" device.helperValues &&
      booleanOf "disable_built_in_keyboard_if_exists" device.helperValues then
    { device with
      helperValues := setBoolean "disable_built_in_keyboard_if_exists" false device.helperValues }
  else device

section JsonText

variable [JsonText]

/-- `update` of one of the modifications, under its key. -/
def updateModifications (key : String) (modifications : SimpleModifications) (value : Json) :
    Except ConfigurationError SimpleModifications :=
  match modifications.update value with
  | .ok updated => .ok updated
  | .error (.mustBeArrayOrObject json) =>
      .error (.within key (.simpleModifications (.mustBeArrayOrObject json)))
  | .error error => .error (.simpleModifications error)

/-- A member of the loop over `json.items()`. -/
def readModifications (modifications : SimpleModifications × SimpleModifications)
    (member : String × Json) :
    Except ConfigurationError (SimpleModifications × SimpleModifications) :=
  match member.1 with
  | "simple_modifications" => do
      return (← updateModifications member.1 modifications.1 member.2, modifications.2)
  | "fn_function_keys" => do
      return (modifications.1, ← updateModifications member.1 modifications.2 member.2)
  | _ => .ok modifications

/-- The constructor. -/
def ofJson (json : Json) (errorHandling : ErrorHandling)
    (resolveDefaultValues : DeviceIdentifiers → DefaultValues) :
    Except ConfigurationError Device := do
  let identifiers ← makeDeviceIdentifiers json
  let defaultValues := resolveDefaultValues identifiers
  let fnFunctionKeys ← (SimpleModifications.initial.update makeDefaultFnFunctionKeysJson).mapError
    .simpleModifications
  let members ← (json.requiresObject "json").mapError .unmarshal
  let helperValues ← (updateValues (defaultHelperValues defaultValues) members
    errorHandling).mapError .unmarshal
  let (ignore, ignoreConfigured) ← readIgnore members errorHandling defaultValues.ignore
  let (simpleModifications, fnFunctionKeys) ←
    members.foldlM readModifications (SimpleModifications.initial, fnFunctionKeys)
  return coordinateBetweenProperties
    { json := members, identifiers, ignore, ignoreConfigured, helperValues, simpleModifications,
      fnFunctionKeys }

/-! ## Writing -/

/-- A JSON value that is not `empty()`. -/
def unlessEmpty : Json → Option Json
  | .null | .array [] | .object [] => none
  | json => some json

omit [JsonText] in
theorem eq_of_unlessEmpty {json written : Json} (isWritten : unlessEmpty json = some written) :
    written = json := by
  unfold unlessEmpty at isWritten
  split at isWritten
  · cases isWritten
  · cases isWritten
  · cases isWritten
  · exact (Option.some.inj isWritten).symm

/-- What `to_json` writes before it looks at the number of members. -/
def writtenMembers (device : Device) : Members :=
  updateJson device.helperValues device.json
    |>.put "ignore" (if device.ignoreConfigured then some (.boolean device.ignore) else none)
    |>.put "identifiers" (some device.identifiers.toJson)
    |>.put "simple_modifications" (unlessEmpty (device.simpleModifications.toJson (.array [])))
    |>.put "fn_function_keys"
      (unlessEmpty (device.fnFunctionKeys.toJson makeDefaultFnFunctionKeysJson))

/-- `to_json`: without settings the identifiers are not written either. -/
def toJson (device : Device) : Json :=
  let members := device.writtenMembers
  .object (if members.length = 1 then members.put "identifiers" none else members)

end JsonText

/-! ## Changes -/

/-- `set_ignore`. -/
def setIgnore (device : Device) (value : Bool) : Device :=
  coordinateBetweenProperties { device with ignore := value, ignoreConfigured := true }

/-- `update_default_values`. -/
def updateDefaultValues (device : Device) (values : DefaultValues) : Device :=
  coordinateBetweenProperties
    { device with
      ignore := if device.ignoreConfigured then device.ignore else values.ignore
      helperValues := setBooleanDefault "manipulate_caps_lock_led" values.manipulateCapsLockLed
        device.helperValues }

section Coordinated

variable (device : Device)

@[simp]
theorem identifiers_coordinateBetweenProperties :
    device.coordinateBetweenProperties.identifiers = device.identifiers := by
  rw [coordinateBetweenProperties]
  split <;> rfl

@[simp]
theorem ignore_coordinateBetweenProperties :
    device.coordinateBetweenProperties.ignore = device.ignore := by
  rw [coordinateBetweenProperties]
  split <;> rfl

@[simp]
theorem ignoreConfigured_coordinateBetweenProperties :
    device.coordinateBetweenProperties.ignoreConfigured = device.ignoreConfigured := by
  rw [coordinateBetweenProperties]
  split <;> rfl

theorem shape_coordinateBetweenProperties :
    device.coordinateBetweenProperties.helperValues.map HelperValue.shape =
      device.helperValues.map HelperValue.shape := by
  rw [coordinateBetweenProperties]
  split
  · exact shape_setBoolean ..
  · rfl

end Coordinated

/-! ## The chosen value -/

/-- The device has the chosen value, if one was chosen, and the default otherwise. -/
structure Has (chosen : Option Bool) (defaultIgnore : Bool) (device : Device) : Prop where
  ignore : device.ignore = chosen.getD defaultIgnore
  configured : device.ignoreConfigured = chosen.isSome

theorem has_setIgnore (device : Device) (value defaultIgnore : Bool) :
    (device.setIgnore value).Has (some value) defaultIgnore where
  ignore := by simp [setIgnore]
  configured := by simp [setIgnore]

theorem has_updateDefaultValues {device : Device} {chosen : Option Bool} {defaultIgnore : Bool}
    (has : device.Has chosen defaultIgnore) (values : DefaultValues) :
    (device.updateDefaultValues values).Has chosen values.ignore where
  ignore := by
    simp only [updateDefaultValues, ignore_coordinateBetweenProperties, has.configured, has.ignore]
    cases chosen <;> rfl
  configured := by simp [updateDefaultValues, has.configured]

/-- The value that the JSON of a device chooses. -/
def chosenIn (json : Option Json) : Option Bool :=
  match json with
  | some (.boolean value) => some value
  | _ => none

/-- What is read of `ignore` is what the member says, and it counts as configured only if there is
one. -/
theorem readIgnore_eq_ok {members : Members} {errorHandling : ErrorHandling}
    {defaultIgnore ignore configured : Bool}
    (isRead : readIgnore members errorHandling defaultIgnore = .ok (ignore, configured)) :
    ignore = (chosenIn (members.lookup "ignore")).getD defaultIgnore ∧
      configured = (chosenIn (members.lookup "ignore")).isSome := by
  unfold readIgnore at isRead
  cases found : members.lookup "ignore" with
  | none =>
      rw [found] at isRead
      obtain ⟨rfl, rfl⟩ := Prod.mk.inj (Except.ok.inj isRead)
      exact ⟨rfl, rfl⟩
  | some json =>
      rw [found] at isRead
      cases json with
      | boolean value =>
          obtain ⟨rfl, rfl⟩ := Prod.mk.inj (Except.ok.inj isRead)
          exact ⟨rfl, rfl⟩
      | _ =>
          dsimp only [Json.requiresBoolean] at isRead
          split at isRead
          · cases isRead
          · obtain ⟨rfl, rfl⟩ := Prod.mk.inj (Except.ok.inj isRead)
            exact ⟨rfl, rfl⟩

section JsonText

variable [JsonText]

/-- What the constructor reads of a device. -/
theorem ofJson_eq_ok {json : Json} {errorHandling : ErrorHandling}
    {resolveDefaultValues : DeviceIdentifiers → DefaultValues} {device : Device}
    (isRead : ofJson json errorHandling resolveDefaultValues = .ok device) :
    makeDeviceIdentifiers json = .ok device.identifiers ∧
      device.Has (chosenIn (json.find? "ignore"))
        (resolveDefaultValues device.identifiers).ignore ∧
      device.helperValues.map HelperValue.shape =
        (defaultHelperValues (resolveDefaultValues device.identifiers)).map HelperValue.shape := by
  obtain ⟨identifiers, isIdentifiers, isRead⟩ := exists_of_bind_eq_ok isRead
  obtain ⟨defaultKeys, _, isRead⟩ := exists_of_bind_eq_ok isRead
  obtain ⟨members, isObject, isRead⟩ := exists_of_bind_eq_ok isRead
  obtain ⟨helperValues, areRead, isRead⟩ := exists_of_bind_eq_ok isRead
  obtain ⟨⟨ignore, configured⟩, isIgnore, isRead⟩ := exists_of_bind_eq_ok isRead
  obtain ⟨⟨simple, fnKeys⟩, _, isRead⟩ := exists_of_bind_eq_ok isRead
  obtain rfl := Except.ok.inj isRead
  have isMembers : json.find? "ignore" = members.lookup "ignore" := by
    cases json with
    | object own => rw [← Except.ok.inj isObject]; rfl
    | _ => cases isObject
  obtain ⟨ignored, isConfigured⟩ := readIgnore_eq_ok isIgnore
  refine ⟨?_, ⟨?_, ?_⟩, ?_⟩
  · rw [identifiers_coordinateBetweenProperties]
    exact isIdentifiers
  · rw [ignore_coordinateBetweenProperties, identifiers_coordinateBetweenProperties, isMembers]
    exact ignored
  · rw [ignoreConfigured_coordinateBetweenProperties, isMembers]
    exact isConfigured
  · rw [shape_coordinateBetweenProperties, identifiers_coordinateBetweenProperties]
    exact shape_updateValues (eq_ok_of_mapError_eq_ok areRead)

/-- Only a chosen value is written. -/
theorem find?_ignore_toJson {device : Device} {chosen : Option Bool} {defaultIgnore : Bool}
    (has : device.Has chosen defaultIgnore) :
    device.toJson.find? "ignore" = chosen.map .boolean := by
  have written : device.writtenMembers.lookup "ignore" = chosen.map .boolean := by
    simp only [writtenMembers, Members.lookup_put, has.configured, has.ignore]
    cases chosen <;> simp
  rw [toJson, Json.find?]
  split
  · simp [written]
  · exact written

theorem lookup_identifiers (device : Device) :
    device.writtenMembers.lookup "identifiers" = some device.identifiers.toJson := by
  simp [writtenMembers, Members.lookup_put]

/-- A device writes its members, or nothing. -/
theorem toJson_cases (device : Device) :
    device.toJson = .object [] ∨ device.toJson = .object device.writtenMembers := by
  have written := device.lookup_identifiers
  rw [toJson]
  split
  · rename_i single
    obtain ⟨member, isSingle⟩ := List.length_eq_one_iff.mp single
    refine .inl ?_
    rw [isSingle] at written ⊢
    have isIdentifiers : member.1 = "identifiers" := by
      by_contra different
      rw [List.lookup_cons, beq_eq_false_iff_ne.mpr (Ne.symm different)] at written
      cases written
    simp [Members.put, isIdentifiers]
  · exact .inr rfl

theorem toJson_of_written {device : Device}
    (isWritten : (unlessEmpty device.toJson).isSome = true) :
    device.toJson = .object device.writtenMembers := by
  rcases device.toJson_cases with isEmpty | isMembers
  · rw [isEmpty] at isWritten
    cases isWritten
  · exact isMembers

/-- The identifiers of a device that is written are read again. -/
theorem makeDeviceIdentifiers_writtenMembers (device : Device) :
    makeDeviceIdentifiers (.object device.writtenMembers) =
      .ok { device.identifiers with json := device.identifiers.toJson } := by
  rw [makeDeviceIdentifiers, Json.find?, lookup_identifiers]
  dsimp only
  rw [DeviceIdentifiers.ofJson_toJson]
  rfl

/-! ## What is accepted -/

theorem exists_updateModifications (key : String) (modifications saved : SimpleModifications)
    (defaultJson : Json) :
    ∃ updated, updateModifications key modifications (saved.toJson defaultJson) = .ok updated := by
  obtain ⟨updated, isUpdated⟩ := modifications.exists_update_toJson saved defaultJson
  exact ⟨updated, by rw [updateModifications, isUpdated]⟩

/-- The default function keys are accepted. -/
theorem exists_update_makeDefault (modifications : SimpleModifications) :
    ∃ updated, modifications.update makeDefaultFnFunctionKeysJson = .ok updated := by
  rw [SimpleModifications.update, makeDefaultFnFunctionKeysJson,
    SimpleModifications.readEntries_array (g := fun j => (SimpleModifications.memberOf j "from",
      SimpleModifications.migrateToJson (SimpleModifications.memberOf j "to")))]
  · exact ⟨_, rfl⟩
  · intro j isDefault
    obtain ⟨i, _, rfl⟩ := List.mem_map.mp isDefault
    rfl

/-- Members whose modifications were written are accepted. -/
theorem exists_foldlM_readModifications {members : Members}
    (written : ∀ member ∈ members,
      member.1 = "simple_modifications" ∨ member.1 = "fn_function_keys" →
        ∃ (saved : SimpleModifications) (defaultJson : Json), member.2 = saved.toJson defaultJson)
    (start : SimpleModifications × SimpleModifications) :
    ∃ read, members.foldlM readModifications start = .ok read := by
  induction members generalizing start with
  | nil => exact ⟨start, rfl⟩
  | cons member rest ih =>
      obtain ⟨first, later⟩ := List.forall_mem_cons.mp written
      obtain ⟨key, json⟩ := member
      have accepted : ∃ next, readModifications start (key, json) = .ok next := by
        by_cases isSimple : key = "simple_modifications"
        · obtain ⟨saved, defaultJson, rfl⟩ := first (.inl isSimple)
          subst isSimple
          obtain ⟨updated, isUpdated⟩ := exists_updateModifications "simple_modifications" start.1
            saved defaultJson
          exact ⟨(updated, start.2), by simp only [readModifications, isUpdated]; rfl⟩
        · by_cases isFn : key = "fn_function_keys"
          · obtain ⟨saved, defaultJson, rfl⟩ := first (.inr isFn)
            subst isFn
            obtain ⟨updated, isUpdated⟩ := exists_updateModifications "fn_function_keys" start.2
              saved defaultJson
            exact ⟨(start.1, updated), by simp only [readModifications, isUpdated]; rfl⟩
          · exact ⟨start, by simp only [readModifications]⟩
      obtain ⟨next, isNext⟩ := accepted
      obtain ⟨read, isRead⟩ := ih later next
      exact ⟨read, by rw [List.foldlM_cons, isNext]; exact isRead⟩

omit [JsonText] in
theorem exists_readIgnore {members : Members}
    (isBoolean : members.lookup "ignore" = (chosenIn (members.lookup "ignore")).map .boolean)
    (errorHandling : ErrorHandling) (defaultIgnore : Bool) :
    ∃ read, readIgnore members errorHandling defaultIgnore = .ok read := by
  rw [readIgnore, isBoolean]
  cases chosenIn (members.lookup "ignore") with
  | none => exact ⟨_, rfl⟩
  | some value => exact ⟨_, rfl⟩

/-- A device is accepted when each of its parts is. -/
theorem exists_ofJson {members : Members} {identifiers : DeviceIdentifiers}
    (isIdentifiers : makeDeviceIdentifiers (.object members) = .ok identifiers)
    {errorHandling : ErrorHandling} {resolveDefaultValues : DeviceIdentifiers → DefaultValues}
    (values : ∃ read, updateValues (defaultHelperValues (resolveDefaultValues identifiers))
      members errorHandling = .ok read)
    (isBoolean : members.lookup "ignore" = (chosenIn (members.lookup "ignore")).map .boolean)
    (written : ∀ member ∈ members,
      member.1 = "simple_modifications" ∨ member.1 = "fn_function_keys" →
        ∃ (saved : SimpleModifications) (defaultJson : Json), member.2 = saved.toJson defaultJson) :
    ∃ device, ofJson (.object members) errorHandling resolveDefaultValues = .ok device := by
  obtain ⟨defaultKeys, isDefault⟩ := exists_update_makeDefault .initial
  obtain ⟨helperValues, areRead⟩ := values
  obtain ⟨⟨ignore, configured⟩, isIgnore⟩ := exists_readIgnore isBoolean errorHandling
    (resolveDefaultValues identifiers).ignore
  obtain ⟨⟨simple, fnKeys⟩, areModifications⟩ :=
    exists_foldlM_readModifications written (.initial, defaultKeys)
  rw [ofJson, isIdentifiers]
  simp only [bind, Except.bind, isDefault, areRead, isIgnore, areModifications, Except.mapError,
    Json.requiresObject]
  exact ⟨_, rfl⟩

omit [JsonText] in
theorem nodup_defaultHelperValues (defaultValues : DefaultValues) :
    ((defaultHelperValues defaultValues).map HelperValue.key).Nodup := by
  have keys : (defaultHelperValues defaultValues).map HelperValue.key =
      (defaultHelperValues ⟨false, false⟩).map HelperValue.key := rfl
  rw [keys]
  decide

omit [JsonText] in
/-- No value has a key that the device writes itself. -/
theorem key_not_mem {values : List HelperValue} {defaultValues : DefaultValues}
    (sameShape : values.map HelperValue.shape =
      (defaultHelperValues defaultValues).map HelperValue.shape) {value : HelperValue}
    (member : value ∈ values) :
    value.key ∉ ["ignore", "identifiers", "simple_modifications", "fn_function_keys"] := by
  have isKey : value.key ∈ (defaultHelperValues defaultValues).map HelperValue.key :=
    keys_eq_of_shapes sameShape ▸ List.mem_map_of_mem member
  have apart : ∀ key ∈ (defaultHelperValues ⟨false, false⟩).map HelperValue.key,
      key ∉ ["ignore", "identifiers", "simple_modifications", "fn_function_keys"] := by decide
  exact apart value.key isKey

/-- A device is made of its identifiers only. -/
theorem exists_ofJson_identifiers (identifiers : DeviceIdentifiers) (errorHandling : ErrorHandling)
    (resolveDefaultValues : DeviceIdentifiers → DefaultValues) :
    ∃ device, ofJson (.object [("identifiers", identifiers.toJson)]) errorHandling
      resolveDefaultValues = .ok device := by
  have isIdentifiers : makeDeviceIdentifiers (.object [("identifiers", identifiers.toJson)]) =
      .ok { identifiers with json := identifiers.toJson } := by
    simp only [makeDeviceIdentifiers, Json.find?, List.lookup_cons_self]
    rw [DeviceIdentifiers.ofJson_toJson]
    rfl
  refine exists_ofJson isIdentifiers ⟨_, updateValues_of_absent errorHandling
    fun value member => ?_⟩ rfl fun member isMember key => ?_
  · have apart := key_not_mem rfl member
    simp only [List.mem_cons, List.not_mem_nil, or_false, not_or] at apart
    simp [apart.2.1]
  · obtain rfl := List.mem_singleton.mp isMember
    simp at key

/-- What a device writes is accepted, whatever the defaults are by then. -/
theorem exists_ofJson_toJson {device : Device} {defaultValues : DefaultValues}
    (sameShape : device.helperValues.map HelperValue.shape =
      (defaultHelperValues defaultValues).map HelperValue.shape)
    (isWritten : (unlessEmpty device.toJson).isSome = true) (errorHandling : ErrorHandling)
    (resolveDefaultValues : DeviceIdentifiers → DefaultValues) :
    ∃ read, ofJson device.toJson errorHandling resolveDefaultValues = .ok read := by
  have shapes : ∀ others : DefaultValues, (defaultHelperValues others).map HelperValue.shape =
      device.helperValues.map HelperValue.shape := fun _ => sameShape.symm
  rw [toJson_of_written isWritten]
  refine exists_ofJson device.makeDeviceIdentifiers_writtenMembers
    (exists_updateValues errorHandling (shapes _) fun value member => ?_) ?_
    fun member isMember key => ?_
  · have apart := key_not_mem sameShape member
    simp only [List.mem_cons, List.not_mem_nil, or_false, not_or] at apart
    simp only [writtenMembers, Members.lookup_put, apart, if_false]
    exact lookup_updateJson_of_mem (keys_eq_of_shapes sameShape ▸ nodup_defaultHelperValues _)
      member _
  · cases configured : device.ignoreConfigured <;>
      simp [writtenMembers, Members.lookup_put, configured, chosenIn]
  · rcases Members.mem_put.mp isMember with ⟨isMember, notFn⟩ | ⟨_, isFn⟩
    · rcases Members.mem_put.mp isMember with ⟨_, notSimple⟩ | ⟨_, isSimple⟩
      · exact absurd key (not_or.mpr ⟨notSimple, notFn⟩)
      · exact ⟨_, _, eq_of_unlessEmpty isSimple⟩
    · exact ⟨_, _, eq_of_unlessEmpty isFn⟩

end JsonText

end Device

end Karabiner

import Karabiner.Configuration.Profile
import Karabiner.Configuration.SavedModifications

/-! # Chosen values of ignore

A device has the last value that was chosen for it, in the JSON or by `set_ignore`, however the
setting of the profile changes and however often the profile is saved and read again. The other
devices follow the setting. What is written says which is which.
-/

namespace Karabiner

namespace Profile

variable {C : Type} [SettingsObject C] [JsonText]

/-! ## Calls -/

inductive DeviceCall where
  | setIgnorePointingDeviceEventsByDefault (value : Bool)
  | setIgnore (index : Nat) (value : Bool)
  | getDevice (identifiers : DeviceIdentifiers)
  /-- The profile is saved, and another one is made of what was saved. -/
  | reload (errorHandling : ErrorHandling)

/-- The profile after a call. What is not accepted leaves no other profile. -/
def call (profile : Profile C) : DeviceCall → Profile C
  | .setIgnorePointingDeviceEventsByDefault value =>
      profile.setIgnorePointingDeviceEventsByDefault value
  | .setIgnore index value =>
      { profile with devices := profile.devices.modify index (·.setIgnore value) }
  | .getDevice identifiers =>
      match profile.getDevice identifiers with
      | .ok added => added
      | .error _ => profile
  | .reload errorHandling =>
      match ofJson profile.toJson errorHandling with
      | .ok read => read
      | .error _ => profile

/-! ## Choices -/

/-- A device and the value that was chosen for it last. -/
structure Choice where
  identifiers : DeviceIdentifiers
  chosen : Option Bool

/-- What the JSON of a device chooses. -/
def choiceIn (json : Json) : Choice where
  identifiers :=
    match Device.makeDeviceIdentifiers json with
    | .ok identifiers => identifiers
    | .error _ => .default
  chosen := Device.chosenIn (json.find? "ignore")

/-- The JSON of the devices of a profile. -/
def devicesIn (json : Json) : List Json := ((json.find? "devices").getD (.array [])).elements

/-- The choices of the devices that are written. -/
def writtenChoices (devices : List Device) (choices : List Choice) : List Choice :=
  ((devices.zip choices).filter fun pair => (Device.unlessEmpty pair.1.toJson).isSome).map Prod.snd

/-- The choices after a call: only `set_ignore` makes one. -/
def recordChoices (profile : Profile C) (choices : List Choice) : DeviceCall → List Choice
  | .setIgnorePointingDeviceEventsByDefault _ => choices
  | .setIgnore index value => choices.modify index ({ · with chosen := some value })
  | .getDevice identifiers =>
      if choices.any fun choice => choice.identifiers.same identifiers then choices
      else choices ++ [⟨identifiers, none⟩]
  | .reload errorHandling =>
      match (ofJson profile.toJson errorHandling : Except ConfigurationError (Profile C)) with
      | .ok _ => writtenChoices profile.devices choices
      | .error _ => choices

/-- A profile, and the choices for its devices. -/
structure Recorded (C : Type) where
  profile : Profile C
  choices : List Choice

def Recorded.call (recorded : Recorded C) (deviceCall : DeviceCall) : Recorded C where
  profile := recorded.profile.call deviceCall
  choices := recordChoices recorded.profile recorded.choices deviceCall

/-! ## Devices follow their choices -/

/-- The device has its choice, and the default of the setting without one. -/
structure Follows (setting : Bool) (choice : Choice) (device : Device) : Prop where
  same : device.identifiers.same choice.identifiers = true
  has : device.Has choice.chosen (makeDeviceIgnoreDefaultValue setting device.identifiers)
  shape : device.helperValues.map HelperValue.shape =
    (Device.defaultHelperValues ⟨false, false⟩).map HelperValue.shape

omit [JsonText] in
theorem same_refl (identifiers : DeviceIdentifiers) : identifiers.same identifiers = true := by
  simp [DeviceIdentifiers.same]

omit [JsonText] in
theorem same_congr {first second : DeviceIdentifiers} (same : first.same second = true)
    (other : DeviceIdentifiers) : first.same other = second.same other := by
  simp only [DeviceIdentifiers.same, Bool.and_eq_true, beq_iff_eq] at same
  obtain ⟨⟨⟨⟨⟨⟨⟨vendor, product⟩, keyboard⟩, pointing⟩, gamePad⟩, consumer⟩, virtualDevice⟩,
    address⟩ := same
  simp only [DeviceIdentifiers.same, vendor, product, keyboard, pointing, gamePad, consumer,
    virtualDevice, address]

theorem follows_ofJson {json : Json} {errorHandling : ErrorHandling} {setting : Bool}
    {device : Device}
    (isRead : Device.ofJson json errorHandling (makeDeviceDefaultValues setting) = .ok device) :
    Follows setting (choiceIn json) device := by
  obtain ⟨isIdentifiers, has, shape⟩ := Device.ofJson_eq_ok isRead
  refine ⟨?_, has, shape⟩
  simp only [choiceIn, isIdentifiers]
  exact same_refl _

/-- A device that is written is read with its choice. -/
theorem Follows.reloaded {choice : Choice} {device read : Device} {before setting : Bool}
    {errorHandling : ErrorHandling} (follows : Follows before choice device)
    (isWritten : (Device.unlessEmpty device.toJson).isSome = true)
    (isRead : Device.ofJson device.toJson errorHandling (makeDeviceDefaultValues setting) =
      .ok read) : Follows setting choice read := by
  obtain ⟨isIdentifiers, has, shape⟩ := Device.ofJson_eq_ok isRead
  rw [Device.find?_ignore_toJson follows.has] at has
  refine ⟨?_, ?_, shape⟩
  · rw [Device.toJson_of_written isWritten, Device.makeDeviceIdentifiers_writtenMembers]
      at isIdentifiers
    rw [← Except.ok.inj isIdentifiers]
    exact follows.same
  · have chosenAgain : Device.chosenIn (choice.chosen.map .boolean) = choice.chosen := by
      cases choice.chosen <;> rfl
    rw [chosenAgain] at has
    exact has

/-- The devices that are written are read with their choices, in their order. -/
theorem follows_reloaded {before setting : Bool} {errorHandling : ErrorHandling}
    {choices : List Choice} {devices read : List Device}
    (follow : List.Forall₂ (Follows before) choices devices)
    (areRead : List.Forall₂ (fun json device => Device.ofJson json errorHandling
      (makeDeviceDefaultValues setting) = .ok device) (writtenDevices devices) read) :
    List.Forall₂ (Follows setting) (writtenChoices devices choices) read := by
  induction follow generalizing read with
  | nil =>
      cases areRead
      exact .nil
  | @cons choice device choices devices follows _ ih =>
      cases isWritten : (Device.unlessEmpty device.toJson).isSome with
      | false =>
          simp only [writtenDevices, List.map_cons, List.filter_cons, isWritten] at areRead
          simp only [writtenChoices, List.zip_cons_cons, List.filter_cons, isWritten]
          exact ih areRead
      | true =>
          simp only [writtenDevices, List.map_cons, List.filter_cons, isWritten, if_true] at areRead
          simp only [writtenChoices, List.zip_cons_cons, List.filter_cons, isWritten, if_true,
            List.map_cons]
          cases areRead with
          | cons isRead areRead => exact .cons (follows.reloaded isWritten isRead) (ih areRead)

/-! ## The setting -/

/-- The setting is read and written under its key, with its default. -/
def SettingKept (profile : Profile C) : Prop :=
  profile.ignorePointingDeviceEventsByDefault.key = "ignore_pointing_device_events_by_default" ∧
    profile.ignorePointingDeviceEventsByDefault.defaultValue = true

theorem settingKept_ofJson {json : Json} {errorHandling : ErrorHandling} {profile : Profile C}
    (isRead : ofJson json errorHandling = .ok profile) : profile.SettingKept := by
  obtain ⟨members, _, isSetting, _⟩ := ofJson_eq_ok isRead
  exact ValueT.updateValue_eq_ok isSetting

/-! ## Calls keep the choices -/

/-- The devices of the profile follow their choices. -/
structure Sound (recorded : Recorded C) : Prop where
  setting : recorded.profile.SettingKept
  follow : List.Forall₂
    (Follows recorded.profile.ignorePointingDeviceEventsByDefault.value) recorded.choices
    recorded.profile.devices

theorem sound_ofJson {json : Json} {errorHandling : ErrorHandling} {profile : Profile C}
    (isRead : ofJson json errorHandling = .ok profile) :
    Sound ⟨profile, (devicesIn json).map choiceIn⟩ := by
  refine ⟨settingKept_ofJson isRead, ?_⟩
  obtain ⟨members, rfl, _, areRead⟩ := ofJson_eq_ok isRead
  rw [List.forall₂_map_left_iff]
  exact areRead.imp fun _ _ isDevice => follows_ofJson isDevice

omit [JsonText] in
/-- A new default changes only what has not been chosen, so that the device still follows its
choices. -/
theorem Follows.updateDefaultValues {before : Bool} {choice : Choice} {device : Device}
    (follows : Follows before choice device) (value : Bool) :
    Follows value choice
      (device.updateDefaultValues (makeDeviceDefaultValues value device.identifiers)) := by
  have same : (device.updateDefaultValues
      (makeDeviceDefaultValues value device.identifiers)).identifiers = device.identifiers := by
    simp [Device.updateDefaultValues]
  refine ⟨?_, ?_, ?_⟩
  · rw [same]
    exact follows.same
  · rw [same]
    exact Device.has_updateDefaultValues follows.has
      (makeDeviceDefaultValues value device.identifiers)
  · rw [Device.updateDefaultValues, Device.shape_coordinateBetweenProperties,
      shape_setBooleanDefault, follows.shape]

omit [JsonText] in
theorem Follows.setIgnore {setting : Bool} {choice : Choice} {device : Device}
    (follows : Follows setting choice device) (value : Bool) :
    Follows setting { choice with chosen := some value } (device.setIgnore value) := by
  refine ⟨?_, Device.has_setIgnore device value _, ?_⟩
  · simpa [Device.setIgnore] using follows.same
  · rw [Device.setIgnore, Device.shape_coordinateBetweenProperties, follows.shape]

omit [JsonText] in
theorem forall₂_modify {T U : Type} {R : T → U → Prop} {f : T → T} {g : U → U}
    {values : List T} {others : List U} (related : List.Forall₂ R values others)
    (keeps : ∀ value other, R value other → R (f value) (g other)) (index : Nat) :
    List.Forall₂ R (values.modify index f) (others.modify index g) := by
  induction related generalizing index with
  | nil => cases index <;> exact .nil
  | cons first rest ih =>
      cases index with
      | zero => exact .cons (keeps _ _ first) rest
      | succ index => exact .cons first (ih index)

omit [JsonText] in
/-- A device is known when its choice is. -/
theorem any_same {setting : Bool} {choices : List Choice} {devices : List Device}
    (follow : List.Forall₂ (Follows setting) choices devices) (identifiers : DeviceIdentifiers) :
    devices.any (fun device => device.identifiers.same identifiers) =
      choices.any fun choice => choice.identifiers.same identifiers := by
  induction follow with
  | nil => rfl
  | cons follows _ ih =>
      rw [List.any_cons, List.any_cons, ih, same_congr follows.same]

omit [JsonText] in
/-- A new device has no choice. -/
theorem choiceIn_identifiers (identifiers : DeviceIdentifiers) :
    choiceIn (.object [("identifiers", identifiers.toJson)]) =
      ⟨{ identifiers with json := identifiers.toJson }, none⟩ := by
  simp only [choiceIn, Device.makeDeviceIdentifiers, Json.find?, List.lookup_cons_self]
  rw [DeviceIdentifiers.ofJson_toJson]
  rfl

omit [JsonText] in
/-- The array of devices that is written, if any, has the devices that are written. -/
theorem elements_unlessEmpty (devices : List Json) :
    ((Device.unlessEmpty (.array devices)).getD (.array [])).elements = devices := by
  cases devices <;> rfl

/-- A device that is asked for is known then, without a choice of its own. -/
theorem Sound.getDevice {recorded : Recorded C} (sound : Sound recorded)
    (identifiers : DeviceIdentifiers) : Sound (recorded.call (.getDevice identifiers)) := by
  have known := any_same sound.follow identifiers
  cases isKnown : recorded.choices.any fun choice => choice.identifiers.same identifiers with
  | true =>
      rw [isKnown] at known
      simp only [Recorded.call, call, recordChoices, Profile.getDevice, known, isKnown, if_true]
      exact sound
  | false =>
      rw [isKnown] at known
      obtain ⟨device, isDevice⟩ := Device.exists_ofJson_identifiers identifiers
        recorded.profile.errorHandling
        (makeDeviceDefaultValues recorded.profile.ignorePointingDeviceEventsByDefault.value)
      have follows := follows_ofJson isDevice
      rw [choiceIn_identifiers] at follows
      simp only [Recorded.call, call, recordChoices, Profile.getDevice, known, isKnown,
        Bool.false_eq_true, if_false, isDevice]
      exact ⟨sound.setting, List.rel_append sound.follow
        (.cons ⟨follows.same, follows.has, follows.shape⟩ .nil)⟩

/-- A call on a device is recorded as a choice, which the device follows from then on. -/
theorem Sound.call {recorded : Recorded C} (sound : Sound recorded) (deviceCall : DeviceCall) :
    Sound (recorded.call deviceCall) := by
  cases deviceCall with
  | setIgnorePointingDeviceEventsByDefault value =>
      refine ⟨sound.setting, ?_⟩
      exact List.forall₂_map_right_iff.mpr
        (sound.follow.imp fun _ _ follows => follows.updateDefaultValues value)
  | setIgnore index value =>
      exact ⟨sound.setting, forall₂_modify sound.follow
        (fun _ _ follows => follows.setIgnore value) index⟩
  | getDevice identifiers => exact sound.getDevice identifiers
  | reload errorHandling =>
      simp only [Recorded.call, Profile.call, recordChoices]
      cases isRead : (ofJson recorded.profile.toJson errorHandling :
          Except ConfigurationError (Profile C)) with
      | error thrown => exact sound
      | ok read =>
          refine ⟨settingKept_ofJson isRead, ?_⟩
          obtain ⟨members, isMembers, _, areRead⟩ := ofJson_eq_ok isRead
          obtain rfl := Json.object.inj isMembers
          simp only [Members.lookup_put, String.reduceEq, if_true, if_false,
            elements_unlessEmpty] at areRead
          exact follows_reloaded sound.follow areRead

theorem sound_run {recorded : Recorded C} (sound : Sound recorded) (calls : List DeviceCall) :
    Sound (calls.foldl Recorded.call recorded) := by
  induction calls generalizing recorded with
  | nil => exact sound
  | cons deviceCall rest ih => exact ih (sound.call deviceCall)

/-- What a device that follows its choice has and writes. -/
theorem Follows.written {setting : Bool} {choice : Choice} {device : Device}
    (follows : Follows setting choice device) :
    device.identifiers.same choice.identifiers = true ∧
      device.ignore =
        choice.chosen.getD (makeDeviceIgnoreDefaultValue setting choice.identifiers) ∧
      device.toJson.find? "ignore" = choice.chosen.map .boolean ∧
      (choice.chosen.isSome = true → (Device.unlessEmpty device.toJson).isSome = true) := by
  have found := Device.find?_ignore_toJson follows.has
  refine ⟨follows.same, ?_, found, fun isChosen => ?_⟩
  · rw [← makeDeviceIgnoreDefaultValue_congr follows.same]
    exact follows.has.ignore
  · obtain ⟨value, isValue⟩ := Option.isSome_iff_exists.mp isChosen
    rw [isValue] at found
    rcases device.toJson_cases with isEmpty | isMembers
    · rw [isEmpty] at found
      cases found
    · rw [isMembers] at found ⊢
      cases written : device.writtenMembers with
      | nil => rw [written] at found; cases found
      | cons first rest => rfl

omit [JsonText] in
theorem exists_follows {setting : Bool} {choices : List Choice} {devices : List Device}
    (follow : List.Forall₂ (Follows setting) choices devices) {device : Device}
    (isDevice : device ∈ devices) : ∃ choice, Follows setting choice device := by
  induction follow with
  | nil => cases isDevice
  | @cons choice _ _ _ follows _ ih =>
      rcases List.mem_cons.mp isDevice with rfl | later
      · exact ⟨choice, follows⟩
      · exact ih later

/-- Whatever a profile is read from and whichever calls are made, each device has the last value
that was chosen for it, or without one the default of the setting, and it writes the chosen value
only. A device with a choice is always written, and what is written of the devices is accepted. -/
theorem chosen_ignore_survives {json : Json} {errorHandling : ErrorHandling} {profile : Profile C}
    (accepted : ofJson json errorHandling = .ok profile) (calls : List DeviceCall) :
    let final := calls.foldl Recorded.call ⟨profile, (devicesIn json).map choiceIn⟩
    List.Forall₂
        (fun choice device => device.identifiers.same choice.identifiers = true ∧
          device.ignore = choice.chosen.getD (makeDeviceIgnoreDefaultValue
            final.profile.ignorePointingDeviceEventsByDefault.value choice.identifiers) ∧
          device.toJson.find? "ignore" = choice.chosen.map .boolean ∧
          (choice.chosen.isSome = true → (Device.unlessEmpty device.toJson).isSome = true))
        final.choices final.profile.devices ∧
      ∀ (newHandling : ErrorHandling) (setting : Bool),
        ∀ written ∈ writtenDevices final.profile.devices, ∃ device,
          Device.ofJson written newHandling (makeDeviceDefaultValues setting) = .ok device := by
  intro final
  have sound := sound_run (sound_ofJson accepted) calls
  refine ⟨sound.follow.imp fun _ _ follows => follows.written,
    fun newHandling setting written isWritten => ?_⟩
  obtain ⟨isJson, some⟩ := List.mem_filter.mp isWritten
  obtain ⟨device, isDevice, rfl⟩ := List.mem_map.mp isJson
  obtain ⟨choice, follows⟩ := exists_follows sound.follow isDevice
  exact Device.exists_ofJson_toJson follows.shape some newHandling _

/-- A pointing device that is not ignored by choice, and one that follows the setting. -/
def sampleProfileJson : Json :=
  .object [("devices", .array
    [.object [("identifiers", .object [("vendor_id", .unsigned 1),
        ("is_pointing_device", .boolean true)]), ("ignore", .boolean false)],
      .object [("identifiers", .object [("vendor_id", .unsigned 2),
        ("is_pointing_device", .boolean true)]), ("mouse_flip_x", .boolean true)]])]

omit [JsonText] in
/-- The setting is switched off, the profile is saved and read, and the setting is switched on:
the choice of the first device stays. -/
theorem chosen_ignore_survives_switched :
    let _ := SimpleModifications.sampleText
    let _ := SettingsObject.none
    ∃ profile : Profile Unit, ofJson sampleProfileJson .strict = .ok profile ∧
      let final := [DeviceCall.setIgnorePointingDeviceEventsByDefault false, .reload .strict,
        .setIgnorePointingDeviceEventsByDefault true].foldl Recorded.call
          ⟨profile, (devicesIn sampleProfileJson).map choiceIn⟩
      List.Forall₂ (fun choice device => device.identifiers.same choice.identifiers = true ∧
          device.ignore = choice.chosen.getD (makeDeviceIgnoreDefaultValue
            final.profile.ignorePointingDeviceEventsByDefault.value choice.identifiers) ∧
          device.toJson.find? "ignore" = choice.chosen.map .boolean ∧
          (choice.chosen.isSome = true → (Device.unlessEmpty device.toJson).isSome = true))
        final.choices final.profile.devices := by
  let _ := SimpleModifications.sampleText
  let _ := SettingsObject.none
  obtain ⟨profile, accepted⟩ :
      ∃ profile : Profile Unit, ofJson sampleProfileJson .strict = .ok profile := ⟨_, rfl⟩
  exact ⟨profile, accepted, (chosen_ignore_survives accepted _).1⟩

end Profile

end Karabiner

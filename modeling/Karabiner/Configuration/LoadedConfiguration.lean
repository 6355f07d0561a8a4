import Karabiner.Configuration.Profile
import Karabiner.Configuration.VectorUtility

/-! # The configuration and its profiles

The configuration has at least one profile. The selected one is the first that has the flag, or
the first one when none has it. A profile is an object that keeps its identity when it is moved
or changed.
-/

namespace Karabiner

/-- A profile and its identity. -/
structure ProfileObject (C : Type) where
  id : Nat
  profile : Profile C

/-- `core_configuration` with what it has loaded, its `global` and `machine_specific` of
any types. -/
structure LoadedConfiguration (G M C : Type) where
  json : Members
  errorHandling : ErrorHandling
  globalConfiguration : G
  machineSpecific : M
  profiles : List (ProfileObject C)
  /-- The number of profiles that were made. -/
  made : Nat

namespace LoadedConfiguration

variable {G M C : Type} [SettingsObject G] [SettingsObject M] [SettingsObject C] [JsonText]

omit [SettingsObject G] [SettingsObject M] in
/-- The profiles of the JSON, or the default one. -/
def readProfiles (members : Members) (errorHandling : ErrorHandling) :
    Except ConfigurationError (List (Profile C)) := do
  let profiles ← Profile.updateArray (fun json => Profile.ofJson json errorHandling) "profiles"
    members
  if profiles.isEmpty then
    let profile ← Profile.ofJson
      (.object [("name", .string "Default profile"), ("selected", .boolean true)]) errorHandling
    return [profile]
  else return profiles

/-- The constructor, when the JSON of the file is accepted. -/
def ofJson (json : Json) (errorHandling : ErrorHandling) :
    Except ConfigurationError (LoadedConfiguration G M C) := do
  let members ← (json.requiresObject "json").mapError .unmarshal
  let globalConfiguration ← Profile.updateObject
    (fun json => SettingsObject.ofJson json errorHandling) "global" members SettingsObject.initial
  let machineSpecific ← Profile.updateObject
    (fun json => SettingsObject.ofJson json errorHandling) "machine_specific" members
    SettingsObject.initial
  let profiles ← readProfiles members errorHandling
  return ⟨members, errorHandling, globalConfiguration, machineSpecific,
    profiles.mapIdx fun index profile => ⟨index, profile⟩, profiles.length⟩

/-! ## Editing -/

omit [SettingsObject G] [SettingsObject M] [SettingsObject C] [JsonText] in
/-- `set_profile_name`. -/
def setProfileName (configuration : LoadedConfiguration G M C) (index : Nat) (name : String) :
    LoadedConfiguration G M C :=
  { configuration with
    profiles := configuration.profiles.modify index fun object =>
      { object with profile := { object.profile with name.value := name } } }

omit [SettingsObject G] [SettingsObject M] [SettingsObject C] [JsonText] in
/-- `select_profile`. -/
def selectProfile (configuration : LoadedConfiguration G M C) (index : Nat) :
    LoadedConfiguration G M C :=
  if index < configuration.profiles.length then
    { configuration with
      profiles := configuration.profiles.mapIdx fun i object =>
        { object with profile := { object.profile with selected.value := i == index } } }
  else configuration

omit [SettingsObject G] [SettingsObject M] [SettingsObject C] [JsonText] in
/-- `profiles_.push_back`. -/
def pushBack (configuration : LoadedConfiguration G M C) (profile : Profile C) :
    LoadedConfiguration G M C :=
  { configuration with
    profiles := configuration.profiles ++ [⟨configuration.made, profile⟩]
    made := configuration.made + 1 }

omit [SettingsObject G] [SettingsObject M] in
/-- `push_back_profile`. -/
def pushBackProfile (configuration : LoadedConfiguration G M C) :
    Except ConfigurationError (LoadedConfiguration G M C) := do
  return configuration.pushBack (← Profile.ofJson (.object [("name", .string "New profile")])
    configuration.errorHandling)

omit [SettingsObject G] [SettingsObject M] in
/-- `duplicate_profile`. -/
def duplicateProfile (configuration : LoadedConfiguration G M C) (profile : Profile C) :
    Except ConfigurationError (LoadedConfiguration G M C) := do
  let copy ← Profile.ofJson profile.toJson configuration.errorHandling
  return configuration.pushBack
    { copy with name.value := copy.name.value ++ " (copy)", selected.value := false }

omit [SettingsObject G] [SettingsObject M] [SettingsObject C] [JsonText] in
/-- `erase_profile`. -/
def eraseProfile (configuration : LoadedConfiguration G M C) (index : Nat) :
    LoadedConfiguration G M C :=
  if index < configuration.profiles.length ∧ configuration.profiles.length > 1 then
    { configuration with profiles := configuration.profiles.eraseIdx index }
  else configuration

omit [SettingsObject G] [SettingsObject M] [SettingsObject C] [JsonText] in
/-- `move_profile`. -/
def moveProfile (configuration : LoadedConfiguration G M C) (sourceIndex destinationIndex : Nat) :
    LoadedConfiguration G M C :=
  { configuration with
    profiles := VectorUtility.moveElement configuration.profiles sourceIndex destinationIndex }

omit [SettingsObject G] [SettingsObject M] [SettingsObject C] [JsonText] in
/-- `get_selected_profile`. Without a profile the source reads `profiles_[0]` all the same. -/
def getSelectedProfile (configuration : LoadedConfiguration G M C) : Option (ProfileObject C) :=
  (configuration.profiles.find? fun object => object.profile.selected.value).or
    configuration.profiles.head?

/-- A call of an operation that edits the profiles. -/
inductive ProfileEdit (C : Type) where
  | select (index : Nat)
  | pushBack
  | duplicate (profile : Profile C)
  | move (sourceIndex destinationIndex : Nat)
  | setName (index : Nat) (name : String)
  | erase (index : Nat)

omit [SettingsObject G] [SettingsObject M] in
/-- The configuration after a call. One that throws changes nothing. -/
def edit (configuration : LoadedConfiguration G M C) : ProfileEdit C → LoadedConfiguration G M C
  | .select index => configuration.selectProfile index
  | .pushBack =>
      match configuration.pushBackProfile with
      | .ok pushed => pushed
      | .error _ => configuration
  | .duplicate profile =>
      match configuration.duplicateProfile profile with
      | .ok pushed => pushed
      | .error _ => configuration
  | .move sourceIndex destinationIndex => configuration.moveProfile sourceIndex destinationIndex
  | .setName index name => configuration.setProfileName index name
  | .erase index => configuration.eraseProfile index

end LoadedConfiguration

end Karabiner

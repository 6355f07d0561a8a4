import Mathlib.Logic.Function.Basic

/-! # The monitor of the configuration files

`configuration_monitor` follows the configuration file of the user and, while there is
none, that of the system. A file that disappears is given a moment to come back: the
removal is handled by a task, of which there is one for both files. The contents of a file
and what is made of them are parameters: `parse` is what becomes of contents `C`, an error
message or the `to_json` `J` of the configuration.
-/

namespace Karabiner

/-- What a path is. `present` is a file that can be stat'ed, with its contents if it can be
opened. -/
inductive FileStatus (C : Type) where
  | missing
  | inaccessible (permissionError : Bool)
  | present (validOwner : Bool) (contents : Option C) (permissionError : Bool)
deriving DecidableEq

namespace FileStatus

variable {C : Type}

/-- `path_may_exist`. -/
def pathMayExist : FileStatus C → Bool
  | .missing => false
  | _ => true

/-- `file_monitor` reads a body. -/
def hasBody : FileStatus C → Bool
  | .present _ (some _) _ => true
  | _ => false

end FileStatus

/-- `core_configuration::load_state`. -/
inductive LoadState where
  | loaded
  | permissionError
  | jsonError
  | otherError
deriving DecidableEq

/-- `core_configuration`, as far as the monitor looks at it. -/
structure CoreConfiguration (J : Type) where
  loadState : LoadState
  parseErrorMessage : String
  json : J
deriving DecidableEq

namespace CoreConfiguration

variable {C J : Type} (parse : C → Except String J) (default : J)

/-- The constructor of `core_configuration`; `default` is the `to_json` of the default
configuration. -/
def load : FileStatus C → CoreConfiguration J
  | .missing => ⟨.loaded, "", default⟩
  | .inaccessible permissionError =>
      ⟨if permissionError then .permissionError else .otherError, "", default⟩
  | .present false _ _ => ⟨.otherError, "", default⟩
  | .present true none permissionError =>
      ⟨if permissionError then .permissionError else .otherError, "", default⟩
  | .present true (some contents) _ =>
      match parse contents with
      | .ok json => ⟨.loaded, "", json⟩
      | .error message => ⟨.jsonError, message, default⟩

end CoreConfiguration

/-- The two configuration files. -/
inductive ConfigurationPath where
  | user
  | system
deriving DecidableEq

/-- The signals of `configuration_monitor`. -/
inductive ConfigurationSignal (J : Type) where
  | loadStateChanged (loadState : LoadState)
  | parseErrorMessageChanged (message : String)
  | coreConfigurationUpdated (configuration : CoreConfiguration J)

/-- `configuration_monitor`. `hasUserPath` says whether there is a
`user_core_configuration_file_path_`; `fileRemovalTask` is the path the pending task was
made for. -/
structure ConfigurationMonitor (J : Type) where
  hasUserPath : Bool
  coreConfiguration : Option (CoreConfiguration J)
  loadState : Option LoadState
  parseErrorMessage : String
  fileRemovalTask : Option ConfigurationPath
  signals : List (ConfigurationSignal J)

namespace ConfigurationMonitor

variable {C J : Type}

def initial (hasUserPath : Bool) : ConfigurationMonitor J := ⟨hasUserPath, none, none, "", none, []⟩

/-- The user path is given and may exist. -/
def userMayExist (monitor : ConfigurationMonitor J) (files : ConfigurationPath → FileStatus C) :
    Bool :=
  monitor.hasUserPath && (files .user).pathMayExist

def noteLoadState (monitor : ConfigurationMonitor J) (loadState : LoadState) :
    ConfigurationMonitor J :=
  if monitor.loadState ≠ some loadState then
    { monitor with
      loadState := some loadState
      signals := monitor.signals ++ [.loadStateChanged loadState] }
  else monitor

def noteParseErrorMessage (monitor : ConfigurationMonitor J) (message : String) :
    ConfigurationMonitor J :=
  if monitor.parseErrorMessage ≠ message then
    { monitor with
      parseErrorMessage := message
      signals := monitor.signals ++ [.parseErrorMessageChanged message] }
  else monitor

variable [DecidableEq J]

/-- The part of `handle_file_changed` after the configuration is loaded. -/
def noteConfiguration (monitor : ConfigurationMonitor J) (configuration : CoreConfiguration J) :
    ConfigurationMonitor J :=
  let previousLoadState := monitor.loadState
  let noted := (monitor.noteLoadState configuration.loadState).noteParseErrorMessage
    configuration.parseErrorMessage
  if configuration.loadState ≠ .loaded then noted
  else
    let recoveredFromError := previousLoadState ≠ none ∧ previousLoadState ≠ some .loaded
    if ¬ recoveredFromError ∧
        noted.coreConfiguration.map CoreConfiguration.json = some configuration.json then
      noted
    else
      { noted with
        coreConfiguration := some configuration
        signals := noted.signals ++ [.coreConfigurationUpdated configuration] }

variable (parse : C → Except String J) (default : J)

/-- `handle_file_changed`. -/
def handleFileChanged (files : ConfigurationPath → FileStatus C) (monitor : ConfigurationMonitor J)
    (changedFilePath : ConfigurationPath) : ConfigurationMonitor J :=
  if monitor.userMayExist files then
    if changedFilePath = .system then monitor
    else monitor.noteConfiguration (.load parse default (files .user))
  else if (files .system).pathMayExist then
    monitor.noteConfiguration (.load parse default (files .system))
  else
    monitor.noteConfiguration
      (.load parse default (files (if monitor.hasUserPath then .user else .system)))

/-- The handler of `file_changed`. -/
def fileChanged (files : ConfigurationPath → FileStatus C) (monitor : ConfigurationMonitor J)
    (changedFilePath : ConfigurationPath) (hasBody : Bool) : ConfigurationMonitor J :=
  if hasBody ∨ monitor.loadState = none then
    { monitor with fileRemovalTask := none }.handleFileChanged parse default files changedFilePath
  else if changedFilePath = .system ∧ monitor.userMayExist files then monitor
  else { monitor with fileRemovalTask := some changedFilePath }

/-- The pending task runs. -/
def fireFileRemovalTask (files : ConfigurationPath → FileStatus C)
    (monitor : ConfigurationMonitor J) : ConfigurationMonitor J :=
  match monitor.fileRemovalTask with
  | none => monitor
  | some changedFilePath =>
      { monitor with fileRemovalTask := none }.handleFileChanged parse default files
        changedFilePath

end ConfigurationMonitor

end Karabiner

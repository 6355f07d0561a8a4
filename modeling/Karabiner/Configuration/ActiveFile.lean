import Karabiner.Configuration.ConfigurationMonitor
import Karabiner.Foundation.Execution

/-! # The active configuration file

The files change, `file_monitor` reports a change some time later with what it then read,
and the removal task runs later still. A readable event cancels the task of either path,
also when it is then ignored because the other path is active; in all other runs the
monitor has noted what loading the active path gives once everything is delivered
(`Karabiner.MonitoredFiles.follows_activeFile`).
-/

namespace Karabiner

namespace ConfigurationMonitor

variable {C J : Type} [DecidableEq J]

/-- The monitor has noted what loading gave. -/
structure Noted (monitor : ConfigurationMonitor J) (configuration : CoreConfiguration J) :
    Prop where
  loadState : monitor.loadState = some configuration.loadState
  parseErrorMessage : monitor.parseErrorMessage = configuration.parseErrorMessage
  json : configuration.loadState = .loaded →
    monitor.coreConfiguration.map CoreConfiguration.json = some configuration.json

/-- What is signalled and kept is loaded. -/
structure OnlyLoaded (monitor : ConfigurationMonitor J) : Prop where
  signalled : ∀ configuration, .coreConfigurationUpdated configuration ∈ monitor.signals →
    configuration.loadState = .loaded
  kept : ∀ configuration, monitor.coreConfiguration = some configuration →
    configuration.loadState = .loaded

/-- A configuration is replaced by a loaded one only. -/
def Replaces (before after : ConfigurationMonitor J) : Prop :=
  after.coreConfiguration = before.coreConfiguration ∨
    ∃ configuration : CoreConfiguration J, configuration.loadState = .loaded ∧
      after.coreConfiguration = some configuration

omit [DecidableEq J] in
/-- Noting the load state or the message tells no one of a configuration. -/
theorem noteLoadState_spec (monitor : ConfigurationMonitor J) (loadState : LoadState)
    (message : String) :
    let noted := (monitor.noteLoadState loadState).noteParseErrorMessage message
    noted.loadState = some loadState ∧ noted.parseErrorMessage = message ∧
      noted.coreConfiguration = monitor.coreConfiguration ∧
      noted.fileRemovalTask = monitor.fileRemovalTask ∧
      noted.hasUserPath = monitor.hasUserPath ∧
      ∀ configuration, .coreConfigurationUpdated configuration ∈ noted.signals →
        .coreConfigurationUpdated configuration ∈ monitor.signals := by
  have pushed : ∀ {signals : List (ConfigurationSignal J)} {signal configuration},
      .coreConfigurationUpdated configuration ∈ signals ++ [signal] →
      .coreConfigurationUpdated configuration ≠ signal →
        .coreConfigurationUpdated configuration ∈ signals := by
    intro signals signal configuration member other
    rcases List.mem_append.mp member with earlier | new
    · exact earlier
    · exact absurd (List.mem_singleton.mp new) other
  unfold noteLoadState noteParseErrorMessage
  dsimp only
  by_cases sameState : monitor.loadState = some loadState
  · rw [if_neg (not_not.mpr sameState)]
    by_cases sameMessage : monitor.parseErrorMessage = message
    · rw [if_neg (not_not.mpr sameMessage)]
      exact ⟨sameState, sameMessage, rfl, rfl, rfl, fun _ => id⟩
    · rw [if_pos sameMessage]
      exact ⟨sameState, rfl, rfl, rfl, rfl, fun _ member => pushed member nofun⟩
  · rw [if_pos sameState]
    dsimp only
    by_cases sameMessage : monitor.parseErrorMessage = message
    · rw [if_neg (not_not.mpr sameMessage)]
      exact ⟨rfl, sameMessage, rfl, rfl, rfl, fun _ member => pushed member nofun⟩
    · rw [if_pos sameMessage]
      exact ⟨rfl, rfl, rfl, rfl, rfl, fun _ member => pushed (pushed member nofun) nofun⟩

/-- A configuration is noted with its load state and message, and replaces the one before only if it
was loaded. -/
theorem noteConfiguration_spec (monitor : ConfigurationMonitor J)
    (configuration : CoreConfiguration J) :
    let noted := monitor.noteConfiguration configuration
    noted.Noted configuration ∧ monitor.Replaces noted ∧
      (monitor.OnlyLoaded → noted.OnlyLoaded) ∧
      noted.fileRemovalTask = monitor.fileRemovalTask ∧
      noted.hasUserPath = monitor.hasUserPath := by
  obtain ⟨loadState, message, core, task, userPath, signals⟩ :=
    monitor.noteLoadState_spec configuration.loadState configuration.parseErrorMessage
  unfold noteConfiguration
  dsimp only
  split
  case isTrue failed =>
    exact ⟨⟨loadState, message, fun loaded => absurd loaded failed⟩, .inl core,
      fun only => ⟨fun other member => only.signalled other (signals other member),
        fun other kept => only.kept other (core ▸ kept)⟩, task, userPath⟩
  case isFalse notFailed =>
    have loaded := not_not.mp notFailed
    split
    case isTrue same =>
      exact ⟨⟨loadState, message, fun _ => same.2⟩, .inl core,
        fun only => ⟨fun other member => only.signalled other (signals other member),
          fun other kept => only.kept other (core ▸ kept)⟩, task, userPath⟩
    case isFalse =>
      refine ⟨⟨loadState, message, fun _ => rfl⟩, .inr ⟨configuration, loaded, rfl⟩,
        fun only => ⟨fun other member => ?_, fun other kept => ?_⟩, task, userPath⟩
      · rcases List.mem_append.mp member with earlier | new
        · exact only.signalled other (signals other earlier)
        · injection List.mem_singleton.mp new with same
          rw [same]
          exact loaded
      · cases kept
        exact loaded

variable (parse : C → Except String J) (default : J) (files : ConfigurationPath → FileStatus C)

/-- What loading the active path gives. -/
def activeConfiguration (monitor : ConfigurationMonitor J) : CoreConfiguration J :=
  if monitor.userMayExist files then .load parse default (files .user)
  else if (files .system).pathMayExist then .load parse default (files .system)
  else ⟨.loaded, "", default⟩

omit [DecidableEq J] in
/-- A file that does not exist gives the default configuration. -/
theorem load_missing {status : FileStatus C} (missing : status.pathMayExist = false) :
    CoreConfiguration.load parse default status = ⟨.loaded, "", default⟩ := by
  cases status with
  | missing => rfl
  | inaccessible => cases missing
  | present => cases missing

omit [DecidableEq J] in
theorem activeConfiguration_of_noUser {files other : ConfigurationPath → FileStatus C}
    {monitor : ConfigurationMonitor J} (noUser : monitor.hasUserPath = false)
    (same : files .system = other .system) :
    monitor.activeConfiguration parse default files =
      monitor.activeConfiguration parse default other := by
  unfold activeConfiguration userMayExist
  rw [noUser, Bool.false_and, Bool.false_and, same, if_neg Bool.false_ne_true,
    if_neg Bool.false_ne_true]

omit [DecidableEq J] in
theorem activeConfiguration_of_user {files other : ConfigurationPath → FileStatus C}
    {monitor : ConfigurationMonitor J} (exists_ : monitor.userMayExist files = true)
    (same : files .user = other .user) :
    monitor.activeConfiguration parse default files =
      monitor.activeConfiguration parse default other := by
  unfold activeConfiguration userMayExist
  unfold userMayExist at exists_
  rw [← same, exists_, if_pos rfl, if_pos rfl]

/-- A handled change notes the active path, or is ignored. -/
theorem handleFileChanged_spec (monitor : ConfigurationMonitor J) (changed : ConfigurationPath) :
    let handled := monitor.handleFileChanged parse default files changed
    (changed = .user ∨ monitor.userMayExist files = false →
      handled.Noted (monitor.activeConfiguration parse default files)) ∧
      (changed = .system → monitor.userMayExist files = true → handled = monitor) ∧
      monitor.Replaces handled ∧ (monitor.OnlyLoaded → handled.OnlyLoaded) ∧
      handled.fileRemovalTask = monitor.fileRemovalTask ∧
      handled.hasUserPath = monitor.hasUserPath := by
  unfold handleFileChanged activeConfiguration
  by_cases exists_ : monitor.userMayExist files = true
  · rw [if_pos exists_, if_pos exists_]
    cases changed with
    | system =>
        rw [if_pos rfl]
        refine ⟨fun other => ?_, fun _ _ => rfl, .inl rfl, id, rfl, rfl⟩
        rcases other with other | missing
        · cases other
        · rw [exists_] at missing
          cases missing
    | user =>
        rw [if_neg nofun]
        obtain ⟨noted, replaces, only, task, userPath⟩ :=
          monitor.noteConfiguration_spec (.load parse default (files .user))
        exact ⟨fun _ => noted, nofun, replaces, only, task, userPath⟩
  · rw [if_neg exists_, if_neg exists_]
    split
    · obtain ⟨noted, replaces, only, task, userPath⟩ :=
        monitor.noteConfiguration_spec (.load parse default (files .system))
      exact ⟨fun _ => noted, fun _ found => absurd found exists_, replaces, only, task, userPath⟩
    case isFalse noSystem =>
      have missing : (files (if monitor.hasUserPath then .user else .system)).pathMayExist =
          false := by
        cases userPath : monitor.hasUserPath with
        | false => exact Bool.not_eq_true _ ▸ noSystem
        | true =>
            unfold userMayExist at exists_
            rw [userPath, Bool.true_and] at exists_
            exact Bool.not_eq_true _ ▸ exists_
      rw [load_missing parse default missing]
      obtain ⟨noted, replaces, only, task, userPath⟩ :=
        monitor.noteConfiguration_spec ⟨.loaded, "", default⟩
      exact ⟨fun _ => noted, fun _ found => absurd found exists_, replaces, only, task, userPath⟩

end ConfigurationMonitor

/-- The files, what `file_monitor` has yet to report and has reported, and the monitor.
`changed` are the paths that changed since they were last read. -/
structure MonitoredFiles (C J : Type) where
  files : ConfigurationPath → FileStatus C
  changed : ConfigurationPath → Bool
  events : List (ConfigurationPath × Bool)
  monitor : ConfigurationMonitor J

/-- What happens to the files, in `file_monitor` and in the monitor. -/
inductive MonitoredFilesAction (C : Type) where
  | change (path : ConfigurationPath) (status : FileStatus C)
  | readFile (path : ConfigurationPath)
  | fileChanged
  | fireFileRemovalTask

namespace MonitoredFiles

variable {C J : Type} [DecidableEq J] (parse : C → Except String J) (default : J)

/-- `file_monitor` reports every file once when it starts. -/
def initial (hasUserPath : Bool) (files : ConfigurationPath → FileStatus C) : MonitoredFiles C J :=
  ⟨files, fun _ => true, [], .initial hasUserPath⟩

/-- The paths `file_monitor` watches. -/
def watches (state : MonitoredFiles C J) : ConfigurationPath → Bool
  | .user => state.monitor.hasUserPath
  | .system => true

def step (state : MonitoredFiles C J) : MonitoredFilesAction C → MonitoredFiles C J
  | .change path status =>
      { state with
        files := Function.update state.files path status
        changed := Function.update state.changed path true }
  | .readFile path =>
      if state.watches path then
        { state with
          changed := Function.update state.changed path false
          events := state.events ++ [(path, (state.files path).hasBody)] }
      else state
  | .fileChanged =>
      match state.events with
      | [] => state
      | (path, hasBody) :: rest =>
          { state with
            events := rest
            monitor := state.monitor.fileChanged parse default state.files path hasBody }
  | .fireFileRemovalTask =>
      { state with monitor := state.monitor.fireFileRemovalTask parse default state.files }

/-- What loading the active path gives. -/
def activeConfiguration (state : MonitoredFiles C J) : CoreConfiguration J :=
  state.monitor.activeConfiguration parse default state.files

/-- A change of the path has yet to be reported or handled. -/
def Outstanding (state : MonitoredFiles C J) (path : ConfigurationPath) : Prop :=
  state.watches path = true ∧
    (state.changed path = true ∨ ∃ hasBody, (path, hasBody) ∈ state.events)

/-- Every change has been handled. -/
def Quiescent (state : MonitoredFiles C J) : Prop :=
  (∀ path, ¬ state.Outstanding path) ∧ state.events = [] ∧ state.monitor.fileRemovalTask = none

/-- What an action does is right: only loaded configurations are signalled and kept, and
the active path is noted when everything is handled. -/
structure Follows (state : MonitoredFiles C J) (action : MonitoredFilesAction C) : Prop where
  replaces : state.monitor.Replaces (state.step parse default action).monitor
  only : (state.step parse default action).monitor.OnlyLoaded
  noted : (state.step parse default action).Quiescent →
    (state.step parse default action).monitor.Noted
      ((state.step parse default action).activeConfiguration parse default)

/-- A readable event that is ignored does not cancel a task that is needed: the task of the
user path, when the path is not noted and no change of it is outstanding. -/
def TaskKept (state : MonitoredFiles C J) : MonitoredFilesAction C → Prop
  | .fileChanged => ∀ rest, state.events = (.system, true) :: rest →
      state.monitor.userMayExist state.files = true →
      state.monitor.fileRemovalTask = some .user →
        state.Outstanding .user ∨
          state.monitor.Noted (state.activeConfiguration parse default)
  | _ => True

/-- The active path is noted or something that notes it is outstanding. -/
structure Followed (state : MonitoredFiles C J) : Prop where
  only : state.monitor.OnlyLoaded
  unknown : state.monitor.loadState = none → state.monitor.fileRemovalTask = none
  pending : state.monitor.Noted (state.activeConfiguration parse default) ∨
    state.Outstanding .user ∨ state.monitor.fileRemovalTask = some .user ∨
    (state.monitor.userMayExist state.files = false ∧
      (state.Outstanding .system ∨ state.monitor.fileRemovalTask = some .system))

omit [DecidableEq J] in
theorem followed_initial (hasUserPath : Bool) (files : ConfigurationPath → FileStatus C) :
    (initial (J := J) hasUserPath files).Followed parse default := by
  refine ⟨⟨nofun, nofun⟩, fun _ => rfl, .inr ?_⟩
  by_cases exists_ : (initial (J := J) hasUserPath files).monitor.userMayExist files = true
  · exact .inl ⟨(Bool.and_eq_true_iff.mp exists_).1, .inl rfl⟩
  · exact .inr (.inr ⟨Bool.not_eq_true _ ▸ exists_, .inl ⟨rfl, .inl rfl⟩⟩)

variable {parse default} {state : MonitoredFiles C J}

/-- What is noted depends on the files only by the active path. -/
theorem Followed.change (followed : state.Followed parse default) (path : ConfigurationPath)
    (status : FileStatus C) :
    (state.step parse default (.change path status)).Followed parse default := by
  refine ⟨followed.only, followed.unknown, ?_⟩
  have changedSelf : Function.update state.changed path true path = true :=
    Function.update_self _ _ _
  have stillChanged : ∀ other, state.Outstanding other →
      (state.step parse default (.change path status)).Outstanding other := by
    rintro other ⟨watched, changed | reported⟩
    · refine ⟨watched, .inl ?_⟩
      change Function.update state.changed path true other = true
      by_cases same : other = path
      · rw [same]
        exact changedSelf
      · rw [Function.update_of_ne same]
        exact changed
    · exact ⟨watched, .inr reported⟩
  cases path with
  | user =>
      cases userPath : state.monitor.hasUserPath with
      | true => exact .inr (.inl ⟨userPath, .inl changedSelf⟩)
      | false =>
          have noUser : ∀ files : ConfigurationPath → FileStatus C,
              state.monitor.userMayExist files = false := by
            intro files
            unfold ConfigurationMonitor.userMayExist
            rw [userPath]
            rfl
          have sameActive : (state.step parse default (.change .user status)).activeConfiguration
              parse default = state.activeConfiguration parse default := by
            have different : ConfigurationPath.system ≠ .user := nofun
            have same : Function.update state.files .user status .system =
                state.files .system := Function.update_of_ne different _ _
            exact ConfigurationMonitor.activeConfiguration_of_noUser parse default userPath same
          rw [sameActive]
          rcases followed.pending with noted | user | task | ⟨_, system⟩
          · exact .inl noted
          · exact .inr (.inl (stillChanged _ user))
          · exact .inr (.inr (.inl task))
          · exact .inr (.inr (.inr ⟨noUser _, system.imp_left (stillChanged _)⟩))
  | system =>
      have different : ConfigurationPath.user ≠ .system := nofun
      have sameUser : Function.update state.files .system status .user = state.files .user :=
        Function.update_of_ne different _ _
      have sameExist : state.monitor.userMayExist
          (Function.update state.files .system status) = state.monitor.userMayExist state.files := by
        unfold ConfigurationMonitor.userMayExist
        rw [sameUser]
      by_cases exists_ : state.monitor.userMayExist state.files = true
      · have sameActive : (state.step parse default (.change .system status)).activeConfiguration
            parse default = state.activeConfiguration parse default :=
          ConfigurationMonitor.activeConfiguration_of_user parse default
            (sameExist.trans exists_) sameUser
        rw [sameActive]
        rcases followed.pending with noted | user | task | ⟨missing, _⟩
        · exact .inl noted
        · exact .inr (.inl (stillChanged _ user))
        · exact .inr (.inr (.inl task))
        · rw [exists_] at missing
          cases missing
      · refine .inr (.inr (.inr ⟨?_, .inl ⟨rfl, .inl changedSelf⟩⟩))
        exact sameExist.trans (Bool.not_eq_true _ ▸ exists_)

/-- The event of a file that was read is to come, so that the monitor still follows the active file.
-/
theorem Followed.readFile (followed : state.Followed parse default) (path : ConfigurationPath) :
    (state.step parse default (.readFile path)).Followed parse default := by
  unfold step
  dsimp only
  split
  case isFalse => exact followed
  case isTrue watched =>
    have still : ∀ other, state.Outstanding other → Outstanding { state with
        changed := Function.update state.changed path false
        events := state.events ++ [(path, (state.files path).hasBody)] } other := by
      rintro other ⟨watchedOther, changed | ⟨hasBody, reported⟩⟩
      · by_cases same : other = path
        · subst same
          exact ⟨watchedOther, .inr ⟨_, List.mem_append_right _ (List.mem_singleton_self _)⟩⟩
        · refine ⟨watchedOther, .inl ?_⟩
          change Function.update state.changed path false other = true
          rw [Function.update_of_ne same]
          exact changed
      · exact ⟨watchedOther, .inr ⟨hasBody, List.mem_append_left _ reported⟩⟩
    refine ⟨followed.only, followed.unknown, ?_⟩
    rcases followed.pending with noted | user | task | ⟨missing, system⟩
    · exact .inl noted
    · exact .inr (.inl (still _ user))
    · exact .inr (.inr (.inl task))
    · exact .inr (.inr (.inr ⟨missing, system.imp_left (still _)⟩))

/-- After a handled change the active path is noted, if it is not ignored. -/
theorem Followed.handled (followed : state.Followed parse default) {path : ConfigurationPath}
    {events : List (ConfigurationPath × Bool)}
    (ignored : path = .system → state.monitor.userMayExist state.files = true →
      state.monitor.Noted (state.activeConfiguration parse default) ∨
        Outstanding { state with events } .user) :
    Followed parse default { state with
      events
      monitor := ConfigurationMonitor.handleFileChanged parse default state.files
        { state.monitor with fileRemovalTask := none } path } := by
  obtain ⟨noted, same, _, only, task, userPath⟩ := ConfigurationMonitor.handleFileChanged_spec
    parse default state.files { state.monitor with fileRemovalTask := none } path
  have sameExist : (ConfigurationMonitor.handleFileChanged parse default state.files
      { state.monitor with fileRemovalTask := none } path).userMayExist state.files =
      state.monitor.userMayExist state.files := by
    unfold ConfigurationMonitor.userMayExist
    rw [userPath]
  have sameActive : (ConfigurationMonitor.handleFileChanged parse default state.files
      { state.monitor with fileRemovalTask := none } path).activeConfiguration parse default
        state.files = state.monitor.activeConfiguration parse default state.files := by
    unfold ConfigurationMonitor.activeConfiguration
    rw [sameExist]
  refine ⟨only ⟨followed.only.signalled, followed.only.kept⟩, fun _ => task, ?_⟩
  by_cases isIgnored : path = .system ∧ state.monitor.userMayExist state.files = true
  · have unchanged := same isIgnored.1 isIgnored.2
    rcases ignored isIgnored.1 isIgnored.2 with isNoted | user
    · left
      change ConfigurationMonitor.Noted _ (ConfigurationMonitor.activeConfiguration _ _ _ _)
      rw [sameActive, unchanged]
      exact ⟨isNoted.loadState, isNoted.parseErrorMessage, isNoted.json⟩
    · refine .inr (.inl ⟨?_, user.2⟩)
      exact userPath.trans user.1
  · left
    change ConfigurationMonitor.Noted _ (ConfigurationMonitor.activeConfiguration _ _ _ _)
    rw [sameActive]
    apply noted
    cases path with
    | user => exact .inl rfl
    | system =>
        rw [not_and] at isIgnored
        exact .inr (Bool.not_eq_true _ ▸ isIgnored rfl)

/-- The handler of `file_changed` leaves what is pending, if it keeps the task. -/
theorem Followed.fileChanged (followed : state.Followed parse default)
    (kept : state.TaskKept parse default .fileChanged) :
    (state.step parse default .fileChanged).Followed parse default := by
  unfold step
  dsimp only
  split
  · exact followed
  case h_2 path hasBody rest events =>
    have user_of_system : path = .system → state.Outstanding .user →
        Outstanding { state with events := rest } .user := by
      rintro rfl ⟨watched, changed | ⟨body, reported⟩⟩
      · exact ⟨watched, .inl changed⟩
      · rw [events] at reported
        rcases List.mem_cons.mp reported with head | reported
        · cases head
        · exact ⟨watched, .inr ⟨body, reported⟩⟩
    unfold ConfigurationMonitor.fileChanged
    by_cases atOnce : hasBody = true ∨ state.monitor.loadState = none
    · rw [if_pos atOnce]
      refine followed.handled fun isSystem exists_ => ?_
      rcases followed.pending with noted | user | task | ⟨missing, _⟩
      · exact .inl noted
      · exact .inr (user_of_system isSystem user)
      · rcases atOnce with body | unknown
        · subst isSystem body
          exact (kept rest events exists_ task).symm.imp_right (user_of_system rfl)
        · rw [followed.unknown unknown] at task
          cases task
      · rw [exists_] at missing
        cases missing
    · rw [if_neg atOnce]
      have known : state.monitor.loadState ≠ none := (not_or.mp atOnce).2
      split
      case isTrue ignored =>
        obtain ⟨isSystem, exists_⟩ := ignored
        refine ⟨followed.only, followed.unknown, ?_⟩
        rcases followed.pending with noted | user | task | ⟨missing, _⟩
        · exact .inl noted
        · exact .inr (.inl (user_of_system isSystem user))
        · exact .inr (.inr (.inl task))
        · rw [exists_] at missing
          cases missing
      case isFalse notIgnored =>
        refine ⟨⟨followed.only.signalled, followed.only.kept⟩,
          fun unknown => absurd unknown known, .inr (.inr ?_)⟩
        cases path with
        | user => exact .inl rfl
        | system =>
            rw [not_and] at notIgnored
            exact .inr ⟨Bool.not_eq_true _ ▸ notIgnored rfl, .inr rfl⟩

/-- The task is about the active path, or another change of it is outstanding. -/
theorem Followed.fire (followed : state.Followed parse default) :
    (state.step parse default .fireFileRemovalTask).Followed parse default := by
  unfold step ConfigurationMonitor.fireFileRemovalTask
  dsimp only
  split
  · exact followed
  case h_2 path task =>
    refine followed.handled fun isSystem exists_ => ?_
    rcases followed.pending with noted | user | userTask | ⟨missing, _⟩
    · exact .inl noted
    · exact .inr user
    · rw [task, isSystem] at userTask
      cases userTask
    · rw [exists_] at missing
      cases missing

theorem Followed.step (followed : state.Followed parse default) (action : MonitoredFilesAction C)
    (kept : state.TaskKept parse default action) :
    (state.step parse default action).Followed parse default := by
  cases action with
  | change path status => exact followed.change path status
  | readFile path => exact followed.readFile path
  | fileChanged => exact followed.fileChanged kept
  | fireFileRemovalTask => exact followed.fire

/-- A step leaves the configuration as it is or replaces it by one that was loaded. -/
theorem step_replaces (state : MonitoredFiles C J) (action : MonitoredFilesAction C) :
    state.monitor.Replaces (state.step parse default action).monitor := by
  cases action with
  | change path status => exact .inl rfl
  | readFile path =>
      unfold step
      dsimp only
      split <;> exact .inl rfl
  | fileChanged =>
      unfold step
      dsimp only
      split
      · exact .inl rfl
      · unfold ConfigurationMonitor.fileChanged
        dsimp only
        split
        · exact (ConfigurationMonitor.handleFileChanged_spec parse default state.files
            { state.monitor with fileRemovalTask := none } _).2.2.1
        · split <;> exact .inl rfl
  | fireFileRemovalTask =>
      unfold step ConfigurationMonitor.fireFileRemovalTask
      dsimp only
      split
      · exact .inl rfl
      · exact (ConfigurationMonitor.handleFileChanged_spec parse default state.files
          { state.monitor with fileRemovalTask := none } _).2.2.1

omit [DecidableEq J] in
/-- At quiescence nothing is pending, so the active path is noted. -/
theorem Followed.noted (followed : state.Followed parse default) (quiescent : state.Quiescent) :
    state.monitor.Noted (state.activeConfiguration parse default) := by
  obtain ⟨nothing, _, noTask⟩ := quiescent
  rcases followed.pending with noted | user | task | ⟨_, system | task⟩
  · exact noted
  · exact absurd user (nothing .user)
  · rw [noTask] at task
    cases task
  · exact absurd system (nothing .system)
  · rw [noTask] at task
    cases task

/-- In every run in which no ignored event cancels a task that is needed, only loaded
configurations are signalled and kept, and the active path is noted when every change has
been handled. -/
theorem follows_activeFile (hasUserPath : Bool) (files : ConfigurationPath → FileStatus C)
    (actions : List (MonitoredFilesAction C))
    (kept : Foundation.Execution.StepsMeet (step parse default) (TaskKept parse default)
      (initial hasUserPath files) actions) :
    Foundation.Execution.StepsMeet (step parse default) (Follows parse default)
      (initial hasUserPath files) actions := by
  have start := followed_initial parse default hasUserPath files
  generalize initial hasUserPath files = state at start kept
  induction actions generalizing state with
  | nil => trivial
  | cons action rest ih =>
      have after := start.step action kept.1
      exact ⟨⟨step_replaces state action, after.only, after.noted⟩, ih _ after kept.2⟩

/-- The contents of a file are what they parse to. -/
def parseNumber (contents : Nat) : Except String Nat := .ok contents

/-- There is a file of the user only. -/
def userFile : ConfigurationPath → FileStatus Nat
  | .user => .present true (some 1) false
  | .system => .missing

/-- The file of the user is loaded and becomes unreadable, and the file of the system is
written before the task runs. -/
def unreadableThenSystem : List (MonitoredFilesAction Nat) :=
  [.readFile .user, .readFile .system, .fileChanged, .fileChanged,
    .change .user (.present true none true), .readFile .user, .fileChanged,
    .change .system (.present true (some 2) false), .readFile .system, .fileChanged]

/-- The permission error is never noted. -/
theorem unreadableThenSystem_unnoted :
    ¬ Foundation.Execution.StepsMeet (step parseNumber 0) (Follows parseNumber 0)
      (initial true userFile) unreadableThenSystem := by
  rintro ⟨_, _, _, _, _, _, _, _, _, last, _⟩
  have noted := last.noted ⟨fun path => ?_, rfl, rfl⟩
  · have loadState : some LoadState.loaded = some LoadState.permissionError := noted.loadState
    cases loadState
  · rintro ⟨_, changed | ⟨hasBody, reported⟩⟩
    · cases path <;> cases changed
    · cases reported

/-- The file of the user becomes unreadable and the task runs. -/
theorem unreadable_follows :
    Foundation.Execution.StepsMeet (step parseNumber 0) (Follows parseNumber 0)
      (initial true userFile) [.readFile .user, .readFile .system, .fileChanged, .fileChanged,
        .change .user (.present true none true), .readFile .user, .fileChanged,
        .fireFileRemovalTask] := by
  have noSystem : ∀ {rest : List (ConfigurationPath × Bool)} {hasBody later},
      (ConfigurationPath.user, hasBody) :: later ≠ (.system, true) :: rest := nofun
  apply follows_activeFile true userFile
  refine ⟨trivial, trivial, fun _ events => absurd events noSystem, fun _ events => ?_, trivial,
    trivial, fun _ events => absurd events noSystem, trivial, trivial⟩
  injection events with first _
  cases first

end MonitoredFiles

end Karabiner

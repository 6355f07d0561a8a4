import Karabiner.Console.Registration

/-! # The user on the console

At most one user is on the console, and the console user server of every user is told when
he comes and goes. The messages of different users reach the daemon in any order, so a
`false` of the user whose `true` came last can take the console from the user who is on it;
in all other runs the daemon knows at quiescence who is on the console
(`Karabiner.ConsoleHistory.current_known`).
-/

namespace Karabiner

/-- The session of the machine: who is on the console, and what the session monitors of the
console user servers have yet to signal. -/
structure ConsoleHistory where
  console : Option Uid
  started : Uid → Bool
  sessions : Uid → List Bool
  system : ConsoleSystem

/-- What happens to the console and in the system; a session monitor reports its user when
it starts and may report him again. -/
inductive ConsoleHistoryAction where
  | switchTo (value : Option Uid)
  | report (user : Uid)
  | onConsoleChanged (user : Uid)
  | act (action : ConsoleAction)

namespace ConsoleHistory

def initial : ConsoleHistory := ⟨none, fun _ => false, fun _ => [], .initial⟩

/-- A value for the session monitors of the users it is about. -/
def tell (history : ConsoleHistory) (user : Option Uid) (onConsole : Bool) : ConsoleHistory :=
  match user with
  | none => history
  | some user =>
      if history.started user then
        { history with
          sessions := Function.update history.sessions user (history.sessions user ++ [onConsole]) }
      else history

def step (history : ConsoleHistory) : ConsoleHistoryAction → ConsoleHistory
  | .switchTo value =>
      { (history.tell history.console false).tell value true with console := value }
  | .report user =>
      { history with
        started := Function.update history.started user true
        sessions := Function.update history.sessions user
          (history.sessions user ++ [decide (history.console = some user)]) }
  | .onConsoleChanged user =>
      match history.sessions user with
      | [] => history
      | onConsole :: rest =>
          { history with
            sessions := Function.update history.sessions user rest
            system := history.system.step (.onConsoleChanged user onConsole) }
  | .act (.onConsoleChanged _ _) => history
  | .act action => { history with system := history.system.step action }

/-- The value a server knows after what its session monitor has yet to signal. -/
def lastSeen (history : ConsoleHistory) (user : Uid) : Option Bool :=
  (history.sessions user).foldl (fun _ onConsole => some onConsole)
    (history.system.servers user).onConsole

/-- No message and no job is left, and the clients are connected. -/
def Quiescent (history : ConsoleHistory) : Prop :=
  (∀ user, history.sessions user = [] ∧ history.system.QuietFor user) ∧
    history.system.daemon.consoleUserIdChangedReceiver.jobs = [] ∧
    ∀ user, history.started user = true →
      ∃ peerId, (history.system.servers user).connection = .up peerId

/-- The current user of the daemon is the one whose `on_console_` is true. -/
def CurrentKnown (history : ConsoleHistory) : Prop :=
  ∀ user, history.system.daemon.consoleUserIdChangedReceiver.currentConsoleUserId = some user ↔
    (history.system.servers user).onConsole = some true

/-- The user an action of the system is about. -/
def actor : ConsoleAction → Option Uid
  | .onConsoleChanged user _ | .runClientJob user | .receive user | .connect user _
  | .lose user _ | .failRequest user | .closed user | .notReady user => some user
  | .serve _ | .serverBound | .runDaemonJob => none

end ConsoleHistory

namespace ConsoleUserIdChangedReceiver

/-- When the peer leaves the console its user, if he is the current one, has another peer
on the console, or no other peer is on the console. -/
def LeavesAlone (receiver : ConsoleUserIdChangedReceiver) (peerId : PeerId) (user : Uid) : Prop :=
  receiver.currentConsoleUserId = some user →
    (∃ other, other ≠ peerId ∧ receiver.peerStates.lookup other = some ⟨user, true⟩) ∨
      ∀ other uid, other ≠ peerId → receiver.peerStates.lookup other ≠ some ⟨uid, true⟩

/-- A peer is on the console only if there is a current user. -/
def SomeoneCurrent (receiver : ConsoleUserIdChangedReceiver) : Prop :=
  ∀ peerId user, receiver.peerStates.lookup peerId = some ⟨user, true⟩ →
    receiver.currentConsoleUserId ≠ none

theorem someoneCurrent_update {receiver : ConsoleUserIdChangedReceiver} {value : Option Uid}
    (right : ∀ peerId user, receiver.peerStates.lookup peerId = some ⟨user, true⟩ →
      value ≠ none) :
    (receiver.updateCurrentConsoleUserId value).SomeoneCurrent := by
  obtain ⟨states, _, current⟩ := receiver.update_peers value
  intro peerId user lookup
  rw [states] at lookup
  rw [current]
  exact right peerId user lookup

/-- A request keeps it when a user who leaves leaves alone. -/
theorem SomeoneCurrent.applyRequest {receiver : ConsoleUserIdChangedReceiver}
    (someone : receiver.SomeoneCurrent) {peerId : PeerId} {user : Uid} {onConsole : Bool}
    (leaves : onConsole = false → receiver.LeavesAlone peerId user) :
    (receiver.applyRequest peerId user onConsole).SomeoneCurrent := by
  unfold ConsoleUserIdChangedReceiver.applyRequest
  dsimp only
  split
  · exact someoneCurrent_update nofun
  case isFalse notOn =>
    have notOn : onConsole = false := Bool.not_eq_true _ ▸ notOn
    subst notOn
    -- The states of the other peers are the old ones, and the peer is not on the console.
    have others : ∀ {other uid},
        (receiver.peerStates.insert peerId ⟨user, false⟩).lookup other = some ⟨uid, true⟩ →
        other ≠ peerId ∧ receiver.peerStates.lookup other = some ⟨uid, true⟩ := by
      intro other uid lookup
      by_cases same : other = peerId
      · rw [same, AList.lookup_insert] at lookup
        cases lookup
      · rw [AList.lookup_insert_ne same] at lookup
        exact ⟨same, lookup⟩
    split
    case isTrue clears =>
      refine someoneCurrent_update fun other uid lookup => ?_
      obtain ⟨different, known⟩ := others lookup
      rcases leaves rfl clears.1 with ⟨another, notSame, same⟩ | noOther
      · have onConsole : hasOnConsolePeer { receiver with
            peerStates := receiver.peerStates.insert peerId ⟨user, false⟩ } user = true := by
          refine (hasOnConsolePeer_iff _ user).mpr ⟨another, ?_⟩
          change (receiver.peerStates.insert peerId ⟨user, false⟩).lookup another = _
          rw [AList.lookup_insert_ne notSame]
          exact same
        rw [onConsole] at clears
        cases clears.2
      · exact absurd known (noOther other uid different)
    case isFalse =>
      intro other uid lookup
      exact someone other uid (others lookup).2

/-- A peer that is closed leaves someone current, if it has not claimed the console or leaves its
user to another peer. -/
theorem SomeoneCurrent.peerClosed {receiver : ConsoleUserIdChangedReceiver}
    (someone : receiver.SomeoneCurrent) {peerId : PeerId}
    (leaves : ∀ user, receiver.peerStates.lookup peerId = some ⟨user, true⟩ →
      receiver.LeavesAlone peerId user) :
    (receiver.peerClosed peerId).SomeoneCurrent := by
  unfold ConsoleUserIdChangedReceiver.peerClosed
  dsimp only
  split
  · exact someone
  case h_2 state known =>
    have others : ∀ {other uid},
        (receiver.peerStates.erase peerId).lookup other = some ⟨uid, true⟩ →
        other ≠ peerId ∧ receiver.peerStates.lookup other = some ⟨uid, true⟩ := by
      intro other uid lookup
      by_cases same : other = peerId
      · rw [same, AList.lookup_erase] at lookup
        cases lookup
      · rw [AList.lookup_erase_ne same] at lookup
        exact ⟨same, lookup⟩
    split
    case isTrue clears =>
      obtain ⟨onConsole, current, none⟩ := clears
      refine someoneCurrent_update fun other uid lookup => ?_
      obtain ⟨different, lookup⟩ := others lookup
      obtain ⟨user, isOn⟩ := state
      change isOn = true at onConsole
      subst onConsole
      rcases leaves user known current with ⟨another, notSame, same⟩ | noOther
      · have onConsole : hasOnConsolePeer { receiver with
            peerCredentials := receiver.peerCredentials.erase peerId
            peerStates := receiver.peerStates.erase peerId } user = true := by
          refine (hasOnConsolePeer_iff _ user).mpr ⟨another, ?_⟩
          change (receiver.peerStates.erase peerId).lookup another = _
          rw [AList.lookup_erase_ne notSame]
          exact same
        rw [onConsole] at none
        cases none
      · exact absurd lookup (noOther other uid different)
    case isFalse =>
      intro other uid lookup
      exact someone other uid (others lookup).2

end ConsoleUserIdChangedReceiver

/-! ## What the servers know -/

namespace ConsoleUserServer

/-- A job of the client does not change whether its user is on the console. -/
theorem runJob_onConsole (server : ConsoleUserServer) (user : Uid) :
    (server.runJob user).1.onConsole = server.onConsole := by
  have deliver : ∀ server : ConsoleUserServer,
      server.deliverPendingConsoleUserIdChanged.1.onConsole = server.onConsole := by
    intro server
    rcases deliver_cases server with ⟨same, _⟩ | ⟨_, _, _, _, same⟩ <;> rw [same]
  have notify : ∀ server : ConsoleUserServer,
      (server.notifyCoreServiceDaemonServerBoundIfReady user).onConsole = server.onConsole := by
    intro server
    rcases notify_cases server user with ⟨same, _⟩ | ⟨uid, _, _, same⟩ <;> rw [same]
    unfold serverBound
    split <;> rfl
  unfold runJob
  split
  · rfl
  case h_2 job rest _ =>
    cases job with
    | connected =>
        refine (deliver _).trans ?_
        unfold connected
        split <;> rfl
    | connectionNotReady => rfl
    | received uid => exact notify _
    | requestDone request ok =>
        cases ok with
        | true => exact (deliver _).trans (notify _)
        | false => rfl
    | consoleUserIdChanged onConsole => exact deliver _

theorem receive_onConsole (server : ConsoleUserServer) (message : Outgoing Bool) :
    (server.receive message).onConsole = server.onConsole := by
  unfold receive
  split
  · split <;> rfl
  · rfl
  · rfl

theorem failRequest_onConsole (server : ConsoleUserServer) :
    server.failRequest.onConsole = server.onConsole := by
  unfold failRequest
  split <;> rfl

end ConsoleUserServer

namespace ConsoleSystem

theorem sendRequest_frame (system : ConsoleSystem) (connection : Connection)
    (request : Option Bool) :
    (system.sendRequest connection request).daemon = system.daemon ∧
      (system.sendRequest connection request).servers = system.servers := by
  unfold sendRequest
  split <;> exact ⟨rfl, rfl⟩

/-- An action about a user changes his server and nothing of the daemon, and only his session
monitor changes what the server knows; the other actions change no server. -/
theorem step_cases (system : ConsoleSystem) (action : ConsoleAction) :
    system.step action = system ∨
      (ConsoleHistory.actor action = none ∧ (system.step action).servers = system.servers) ∨
      ∃ user server, ConsoleHistory.actor action = some user ∧
        (system.step action).daemon = system.daemon ∧
        (system.step action).servers = Function.update system.servers user server ∧
        ((∀ onConsole, action ≠ .onConsoleChanged user onConsole) →
          server.onConsole = (system.servers user).onConsole) := by
  cases action with
  | onConsoleChanged user onConsole =>
      exact .inr (.inr ⟨user, _, rfl, rfl, rfl, fun other => absurd rfl (other onConsole)⟩)
  | runClientJob user =>
      obtain ⟨daemon, servers⟩ := (system.setServer user ((system.servers user).runJob user).1
        ).sendRequest_frame (system.servers user).connection ((system.servers user).runJob user).2
      exact .inr (.inr ⟨user, _, rfl, daemon, servers, fun _ =>
        (system.servers user).runJob_onConsole user⟩)
  | receive user =>
      simp only [step]
      split
      · split
        · exact .inl rfl
        case h_2 message rest _ =>
          exact .inr (.inr ⟨user, _, rfl, rfl, rfl, fun _ =>
            (system.servers user).receive_onConsole message⟩)
      · exact .inl rfl
  | failRequest user =>
      simp only [step]
      split
      · exact .inr (.inr ⟨user, _, rfl, rfl, rfl, fun _ =>
          (system.servers user).failRequest_onConsole⟩)
      · exact .inl rfl
  | connect user | lose user | closed user | notReady user =>
      simp only [step]
      split
      · exact .inr (.inr ⟨user, _, rfl, rfl, rfl, fun _ => rfl⟩)
      · exact .inl rfl
  | serve peerId =>
      simp only [step]
      split
      · exact .inl rfl
      · exact .inr (.inl ⟨rfl, rfl⟩)
  | serverBound | runDaemonJob => exact .inr (.inl ⟨rfl, rfl⟩)

/-- Only the session monitor of a user changes what his server knows. -/
theorem step_onConsole (system : ConsoleSystem) {action : ConsoleAction}
    (other : ∀ user onConsole, action ≠ .onConsoleChanged user onConsole) (user : Uid) :
    ((system.step action).servers user).onConsole = (system.servers user).onConsole := by
  rcases system.step_cases action with same | ⟨_, same⟩ | ⟨owner, server, _, _, same, kept⟩
  · rw [same]
  · rw [same]
  · rw [same]
    by_cases own : user = owner
    · rw [own, Function.update_self, kept (other owner)]
    · rw [Function.update_of_ne own]

/-! ## Who is current -/

/-- The delivery does not take the console from another user. -/
def LeavesRightly (system : ConsoleSystem) (peerId : PeerId) : Incoming → Prop
  | .request false => ∀ user,
      system.daemon.consoleUserIdChangedReceiver.getPeerUid peerId = some user →
        system.daemon.consoleUserIdChangedReceiver.LeavesAlone peerId user
  | .closed => ∀ user,
      system.daemon.consoleUserIdChangedReceiver.peerStates.lookup peerId = some ⟨user, true⟩ →
        system.daemon.consoleUserIdChangedReceiver.LeavesAlone peerId user
  | _ => True

/-- A peer of the daemon is on the console only if there is a current user. -/
def SomeoneCurrent (system : ConsoleSystem) : Prop :=
  system.daemon.consoleUserIdChangedReceiver.SomeoneCurrent

/-- What the daemon serves of a link leaves someone current, if the messages of its user leave
rightly. -/
theorem SomeoneCurrent.serve {system : ConsoleSystem} (someone : system.SomeoneCurrent)
    {peerId : PeerId} (leaves : ∀ incoming rest, system.toDaemon peerId = incoming :: rest →
      system.LeavesRightly peerId incoming) :
    (system.step (.serve peerId)).SomeoneCurrent := by
  unfold ConsoleSystem.step
  dsimp only
  split
  · exact someone
  case h_2 incoming rest underway =>
    have leaves := leaves incoming rest underway
    cases incoming with
    | connected uid => exact someone
    | request onConsole =>
        change (system.daemon.consoleUserIdChangedReceiver.requestReceived peerId onConsole
          onConsole).1.SomeoneCurrent
        rcases system.daemon.consoleUserIdChangedReceiver.requestReceived_cases peerId onConsole
          onConsole with same | ⟨user, known, same⟩
        · rw [same]
          exact someone
        · rw [same]
          apply ConsoleUserIdChangedReceiver.SomeoneCurrent.applyRequest someone
          intro off
          subst off
          exact leaves user known
    | closed => exact ConsoleUserIdChangedReceiver.SomeoneCurrent.peerClosed someone leaves

theorem someoneCurrent_runJob {system : ConsoleSystem} (someone : system.SomeoneCurrent) :
    (system.step .runDaemonJob).SomeoneCurrent := by
  change (system.daemon.runJob (R := Bool)).1.consoleUserIdChangedReceiver.SomeoneCurrent
  obtain ⟨_, states, current⟩ := system.daemon.runJob_peers (R := Bool)
  intro peerId user lookup
  rw [states] at lookup
  rw [current]
  exact someone peerId user lookup

/-- Every action of the system keeps it, if no delivery takes the console from another. -/
theorem SomeoneCurrent.step {system : ConsoleSystem} (someone : system.SomeoneCurrent)
    {action : ConsoleAction}
    (leaves : ∀ peerId, action = .serve peerId → ∀ incoming rest,
      system.toDaemon peerId = incoming :: rest → system.LeavesRightly peerId incoming) :
    (system.step action).SomeoneCurrent := by
  rcases system.step_cases action with same | ⟨noActor, _⟩ | ⟨_, _, _, daemon, _, _⟩
  · rw [same]
    exact someone
  · cases action with
    | serve peerId => exact someone.serve (leaves peerId rfl)
    | serverBound => exact someone
    | runDaemonJob => exact someoneCurrent_runJob someone
    | _ => cases noActor
  · unfold SomeoneCurrent
    rw [daemon]
    exact someone

end ConsoleSystem

namespace ConsoleHistory

/-- What every action of a history keeps. -/
structure Right (history : ConsoleHistory) : Prop where
  consistent : history.system.Consistent
  someone : history.system.SomeoneCurrent
  seen : ∀ user, history.started user = true →
    history.lastSeen user = some (decide (history.console = some user))
  notStarted : ∀ user, history.started user = false →
    history.sessions user = [] ∧ (history.system.servers user).onConsole = none

/-- No user who leaves the console takes it from another. -/
def LeavesRightly (history : ConsoleHistory) : ConsoleHistoryAction → Prop
  | .act (.serve peerId) => ∀ incoming rest,
      history.system.toDaemon peerId = incoming :: rest →
        history.system.LeavesRightly peerId incoming
  | _ => True

theorem right_initial : Right initial :=
  ⟨ConsoleSystem.consistent_initial, nofun, nofun, fun _ _ => ⟨rfl, rfl⟩⟩

theorem tell_kept (history : ConsoleHistory) (target : Option Uid) (onConsole : Bool) :
    (history.tell target onConsole).system = history.system ∧
      (history.tell target onConsole).started = history.started := by
  unfold tell
  split
  · exact ⟨rfl, rfl⟩
  · split <;> exact ⟨rfl, rfl⟩

/-- Telling a started client whether its user is on the console makes this the last that the user
has seen. -/
theorem tell_lastSeen {history : ConsoleHistory} {user : Uid}
    (started : history.started user = true) (target : Option Uid) (onConsole : Bool) :
    (history.tell target onConsole).lastSeen user =
      if target = some user then some onConsole else history.lastSeen user := by
  unfold tell
  split
  · rfl
  case h_2 told =>
    by_cases same : told = user
    · subst same
      rw [if_pos started, if_pos rfl]
      unfold lastSeen
      dsimp only
      rw [Function.update_self, List.foldl_append]
      rfl
    · rw [if_neg (fun other => same (Option.some.inj other))]
      split
      · unfold lastSeen
        dsimp only
        rw [Function.update_of_ne (Ne.symm same)]
      · rfl

theorem tell_notStarted {history : ConsoleHistory} {user : Uid}
    (notStarted : history.started user = false) (target : Option Uid) (onConsole : Bool) :
    (history.tell target onConsole).sessions user = history.sessions user := by
  unfold tell
  split
  · rfl
  case h_2 told =>
    split
    case isTrue started =>
      have different : user ≠ told := fun same => by
        rw [← same, notStarted] at started
        cases started
      exact Function.update_of_ne different _ _
    case isFalse => rfl

/-- A switch of the console keeps the history right: the clients that are running learn of it. -/
theorem Right.switchTo {history : ConsoleHistory} (right : Right history) (value : Option Uid) :
    Right (history.step (.switchTo value)) := by
  have first := history.tell_kept history.console false
  have second := (history.tell history.console false).tell_kept value true
  have system : (history.step (.switchTo value)).system = history.system :=
    second.1.trans first.1
  have started : (history.step (.switchTo value)).started = history.started :=
    second.2.trans first.2
  refine ⟨system ▸ right.consistent, system ▸ right.someone, fun user isStarted => ?_,
    fun user notStarted => ?_⟩
  · rw [started] at isStarted
    change ((history.tell history.console false).tell value true).lastSeen user =
      some (decide (value = some user))
    rw [tell_lastSeen (first.2 ▸ isStarted), tell_lastSeen isStarted, right.seen user isStarted]
    by_cases arrives : value = some user
    · rw [if_pos arrives, decide_eq_true arrives]
    · rw [if_neg arrives, decide_eq_false arrives]
      by_cases leaves : history.console = some user
      · rw [if_pos leaves]
      · rw [if_neg leaves, decide_eq_false leaves]
  · rw [started] at notStarted
    rw [system]
    refine ⟨?_, (right.notStarted user notStarted).2⟩
    change ((history.tell history.console false).tell value true).sessions user = []
    rw [tell_notStarted (first.2 ▸ notStarted), tell_notStarted notStarted]
    exact (right.notStarted user notStarted).1

/-- A report of a client keeps the history right: what its user has last seen is where the console
is. -/
theorem Right.report {history : ConsoleHistory} (right : Right history) (user : Uid) :
    Right (history.step (.report user)) := by
  refine ⟨right.consistent, right.someone, fun other isStarted => ?_, fun other notStarted => ?_⟩
  · change List.foldl _ _ (Function.update history.sessions user _ other) =
      some (decide (history.console = some other))
    change Function.update history.started user true other = true at isStarted
    by_cases same : other = user
    · rw [same, Function.update_self, List.foldl_append]
      rfl
    · rw [Function.update_of_ne same] at isStarted ⊢
      exact right.seen other isStarted
  · change Function.update history.started user true other = false at notStarted
    change Function.update history.sessions user _ other = [] ∧ _
    by_cases same : other = user
    · rw [same, Function.update_self] at notStarted
      cases notStarted
    · rw [Function.update_of_ne same] at notStarted ⊢
      exact right.notStarted other notStarted

/-- A change that is noticed keeps the history right: its user has seen where the console is. -/
theorem Right.onConsoleChanged {history : ConsoleHistory} (right : Right history) (user : Uid) :
    Right (history.step (.onConsoleChanged user)) := by
  unfold ConsoleHistory.step
  dsimp only
  split
  · exact right
  case h_2 onConsole rest sessions =>
    have known : ∀ other, ((history.system.step (.onConsoleChanged user onConsole)).servers other
        ).onConsole = if other = user then some onConsole
          else (history.system.servers other).onConsole := by
      intro other
      change (Function.update history.system.servers user _ other).onConsole = _
      by_cases same : other = user
      · rw [same, Function.update_self, if_pos rfl]
        rfl
      · rw [Function.update_of_ne same, if_neg same]
    have consistent := right.consistent.step (.onConsoleChanged user onConsole)
    have someone : (history.system.step (.onConsoleChanged user onConsole)).SomeoneCurrent :=
      right.someone.step nofun
    refine ⟨consistent, someone, fun other isStarted => ?_, fun other notStarted => ?_⟩
    · have seen := right.seen other isStarted
      unfold lastSeen at seen ⊢
      dsimp only
      rw [known]
      by_cases same : other = user
      · subst same
        rw [Function.update_self, if_pos rfl]
        rw [sessions] at seen
        exact seen
      · rw [Function.update_of_ne same, if_neg same]
        exact seen
    · obtain ⟨nothing, unknown⟩ := right.notStarted other notStarted
      have different : other ≠ user := fun same => by
        rw [same, sessions] at nothing
        cases nothing
      rw [known, if_neg different]
      refine ⟨?_, unknown⟩
      change Function.update history.sessions user rest other = []
      rw [Function.update_of_ne different]
      exact nothing

/-- An action of the system keeps the history right, if what the daemon serves leaves rightly. -/
theorem Right.act {history : ConsoleHistory} (right : Right history) {action : ConsoleAction}
    (leaves : history.LeavesRightly (.act action)) : Right (history.step (.act action)) := by
  have acts : ∀ {action : ConsoleAction},
      (∀ user onConsole, action ≠ .onConsoleChanged user onConsole) →
      (∀ peerId, action = .serve peerId → ∀ incoming rest,
        history.system.toDaemon peerId = incoming :: rest →
          history.system.LeavesRightly peerId incoming) →
      Right { history with system := history.system.step action } := by
    intro action other leaves
    have known := fun user => history.system.step_onConsole other user
    refine ⟨right.consistent.step action, right.someone.step leaves, fun user isStarted => ?_,
      fun user notStarted => ?_⟩
    · have seen := right.seen user isStarted
      unfold lastSeen at seen ⊢
      dsimp only
      rw [known]
      exact seen
    · rw [known]
      exact right.notStarted user notStarted
  cases action with
  | onConsoleChanged => exact right
  | serve peerId =>
      refine acts nofun fun other same => ?_
      cases same
      exact leaves
  | _ => exact acts nofun nofun

theorem Right.step {history : ConsoleHistory} {action : ConsoleHistoryAction}
    (right : Right history) (leaves : history.LeavesRightly action) :
    Right (history.step action) := by
  cases action with
  | switchTo value => exact right.switchTo value
  | report user => exact right.report user
  | onConsoleChanged user => exact right.onConsoleChanged user
  | act action => exact right.act leaves

/-- At quiescence the daemon knows who is on the console. -/
theorem Right.currentKnown {history : ConsoleHistory} (right : Right history)
    (quiescent : history.Quiescent) : history.CurrentKnown := by
  obtain ⟨quiet, _, connected⟩ := quiescent
  have consistent := right.consistent
  have onConsole_of_state : ∀ {peerId user},
      history.system.daemon.consoleUserIdChangedReceiver.peerStates.lookup peerId =
        some ⟨user, true⟩ → (history.system.servers user).onConsole = some true := by
    intro peerId user state
    have isUp := consistent.connectionOf (quiet user).2.2.2.2 state
    have known := consistent.peerState (quiet user).2 isUp
    rw [state] at known
    cases onConsole : (history.system.servers user).onConsole with
    | none =>
        rw [onConsole] at known
        cases known
    | some value =>
        rw [onConsole] at known
        cases known
        rfl
  have onConsole_of_current : ∀ {user},
      history.system.daemon.consoleUserIdChangedReceiver.currentConsoleUserId = some user →
        (history.system.servers user).onConsole = some true := by
    intro user current
    obtain ⟨peerId, state⟩ := (ConsoleUserIdChangedReceiver.hasOnConsolePeer_iff _ user).mp
      (consistent.peers.current user current)
    exact onConsole_of_state state
  -- A server that knows its user on the console knows who is there.
  have console_of_onConsole : ∀ {user}, (history.system.servers user).onConsole = some true →
      history.started user = true ∧ history.console = some user := by
    intro user onConsole
    cases started : history.started user with
    | false =>
        have unknown := (right.notStarted user started).2
        rw [onConsole] at unknown
        cases unknown
    | true =>
        have seen := right.seen user started
        unfold lastSeen at seen
        rw [(quiet user).1, List.foldl_nil, onConsole] at seen
        exact ⟨rfl, of_decide_eq_true (Option.some.inj seen).symm⟩
  intro user
  refine ⟨onConsole_of_current, fun onConsole => ?_⟩
  obtain ⟨started, console⟩ := console_of_onConsole onConsole
  obtain ⟨peerId, isUp⟩ := connected user started
  have state := consistent.peerState (quiet user).2 isUp
  rw [onConsole] at state
  obtain ⟨other, current⟩ := Option.ne_none_iff_exists'.mp (right.someone peerId user state)
  obtain ⟨_, same⟩ := console_of_onConsole (onConsole_of_current current)
  rw [current, ← same, console]

/-- In every run in which no user who leaves the console takes it from another, the daemon
knows at quiescence who is on the console. -/
theorem current_known (actions : List ConsoleHistoryAction)
    (leaves : Foundation.Execution.StepsMeet step LeavesRightly initial actions)
    (quiescent : Quiescent (actions.foldl step initial)) :
    CurrentKnown (actions.foldl step initial) :=
  (Foundation.Execution.invariant_of_stepsMeet
    (fun _ _ right leaves => Right.step right leaves) right_initial leaves).currentKnown quiescent

/-! ## Users who take no part -/

theorem setServer_of_ne (system : ConsoleSystem) {user other : Uid} (server : ConsoleUserServer)
    (different : other ≠ user) :
    (system.setServer user server).servers other = system.servers other :=
  Function.update_of_ne different _ _

/-- An action leaves the servers of the users it is not about. -/
theorem step_servers (system : ConsoleSystem) {action : ConsoleAction} {user : Uid}
    (other : actor action ≠ some user) :
    (system.step action).servers user = system.servers user := by
  rcases system.step_cases action with same | ⟨_, same⟩ | ⟨owner, server, about, _, same, _⟩
  · rw [same]
  · rw [same]
  · rw [same]
    exact Function.update_of_ne (fun own : user = owner => other (own ▸ about)) _ _

/-- The user takes no part in the action. -/
def NotAbout (user : Uid) : ConsoleHistoryAction → Prop
  | .switchTo value => value ≠ some user
  | .report other => other ≠ user
  | .onConsoleChanged other => other ≠ user
  | .act action => actor action ≠ some user

/-- The user has taken no part. -/
structure Absent (user : Uid) (history : ConsoleHistory) : Prop where
  elsewhere : history.console ≠ some user
  notStarted : history.started user = false
  sessions : history.sessions user = []
  server : history.system.servers user = .initial

/-- A user who takes no part in an action stays absent. -/
theorem Absent.step {user : Uid} {history : ConsoleHistory} (absent : Absent user history)
    {action : ConsoleHistoryAction} (notAbout : NotAbout user action) :
    Absent user (history.step action) := by
  cases action with
  | switchTo value =>
      have first := history.tell_kept history.console false
      have second := (history.tell history.console false).tell_kept value true
      refine ⟨notAbout, ?_, ?_, ?_⟩
      · exact (congrFun (second.2.trans first.2) user).trans absent.notStarted
      · refine (tell_notStarted ?_ value true).trans
          ((tell_notStarted absent.notStarted _ false).trans absent.sessions)
        exact (congrFun first.2 user).trans absent.notStarted
      · exact (congrArg (fun system => system.servers user) (second.1.trans first.1)).trans
          absent.server
  | report other =>
      have different : user ≠ other := Ne.symm notAbout
      refine ⟨absent.elsewhere, ?_, ?_, absent.server⟩
      · exact (Function.update_of_ne different _ _).trans absent.notStarted
      · exact (Function.update_of_ne different _ _).trans absent.sessions
  | onConsoleChanged other =>
      have different : user ≠ other := Ne.symm notAbout
      unfold ConsoleHistory.step
      dsimp only
      split
      · exact absent
      · refine ⟨absent.elsewhere, absent.notStarted, ?_, ?_⟩
        · exact (Function.update_of_ne different _ _).trans absent.sessions
        · exact (setServer_of_ne history.system _ different).trans absent.server
  | act action =>
      have same := (step_servers history.system notAbout).trans absent.server
      cases action with
      | onConsoleChanged => exact absent
      | _ => exact ⟨absent.elsewhere, absent.notStarted, absent.sessions, same⟩

theorem absent_run {user : Uid} {actions : List ConsoleHistoryAction}
    (notAbout : Foundation.Execution.StepsMeet step (fun _ => NotAbout user) initial actions) :
    Absent user (actions.foldl step initial) := by
  have start : Absent user initial := ⟨nofun, rfl, rfl, rfl⟩
  have keeps : ∀ history action, Absent user history → NotAbout user action →
      Absent user (history.step action) := fun _ _ absent notAbout => absent.step notAbout
  exact Foundation.Execution.invariant_of_stepsMeet keeps start notAbout

/-- Each action of a history keeps its system consistent. -/
theorem consistent_step {history : ConsoleHistory} (consistent : history.system.Consistent)
    (action : ConsoleHistoryAction) : (history.step action).system.Consistent := by
  cases action with
  | switchTo value =>
      have same : (history.step (.switchTo value)).system = history.system :=
        ((history.tell history.console false).tell_kept value true).1.trans
          (history.tell_kept history.console false).1
      rw [same]
      exact consistent
  | report user => exact consistent
  | onConsoleChanged user =>
      unfold ConsoleHistory.step
      dsimp only
      split
      · exact consistent
      case h_2 onConsole rest _ => exact consistent.step (.onConsoleChanged user onConsole)
  | act action =>
      have same : (history.step (.act action)).system = history.system ∨
          (history.step (.act action)).system = history.system.step action := by
        cases action with
        | onConsoleChanged => exact .inl rfl
        | _ => exact .inr rfl
      rcases same with same | same
      · rw [same]
        exact consistent
      · rw [same]
        exact consistent.step action

theorem consistent_run (actions : List ConsoleHistoryAction) :
    (actions.foldl step initial).system.Consistent :=
  @Foundation.Execution.invariant_of_steps _ _ step (fun history => history.system.Consistent)
    (fun _ action consistent => consistent_step consistent action) initial
    ConsoleSystem.consistent_initial actions

/-- User 501 comes to the console. -/
def arrival : List ConsoleHistoryAction :=
  [.switchTo (some 501), .report 501, .onConsoleChanged 501, .act (.connect 501 true),
    .act (.runClientJob 501), .act (.runClientJob 501), .act (.runClientJob 501),
    .act (.serve 0), .act (.serve 0), .act (.receive 501), .act (.runClientJob 501),
    .act .runDaemonJob]

/-- Then the daemon knows him. -/
theorem arrival_known : (arrival.foldl step initial).CurrentKnown := by
  have absent : ∀ user, user ≠ 501 → Absent user (arrival.foldl step initial) := by
    intro user other
    refine absent_run ?_
    simp only [arrival, Foundation.Execution.stepsMeet_cons, Foundation.Execution.stepsMeet_nil,
      NotAbout, actor, ne_eq, Option.some.injEq, reduceCtorEq, not_false_eq_true,
      Ne.symm other, and_self]
  have delivered : ∀ peerId, (arrival.foldl step initial).system.toDaemon peerId = [] := by
    intro peerId
    cases peerId with
    | zero => rfl
    | succ peerId =>
        exact ((consistent_run arrival).fresh (peerId + 1) (Nat.le_add_left 1 peerId)).1
  have isUp : ((arrival.foldl step initial).system.servers 501).connection = .up 0 := rfl
  refine current_known arrival ?_ ⟨fun user => ?_, rfl, fun user started => ?_⟩
  · refine ⟨trivial, trivial, trivial, trivial, trivial, trivial, trivial, ?_, ?_, trivial,
      trivial, trivial, trivial⟩
    · rintro incoming rest ⟨⟩
      trivial
    · rintro incoming rest ⟨⟩
      trivial
  · by_cases same : user = 501
    · subst same
      refine ⟨rfl, rfl, rfl, fun peerId otherUp => ?_, delivered⟩
      rw [isUp] at otherUp
      cases otherUp
      rfl
    · obtain ⟨_, _, sessions, server⟩ := absent user same
      refine ⟨sessions, ?_, ?_, fun peerId otherUp => ?_, delivered⟩
      · rw [server]
        rfl
      · rw [server]
        rfl
      · rw [server] at otherUp
        cases otherUp
  · by_cases same : user = 501
    · exact ⟨0, same ▸ isUp⟩
    · rw [(absent user same).notStarted] at started
      cases started

/-- User 502 leaves the console to user 501, and the daemon hears of 501 first. -/
def overtaken : List ConsoleHistoryAction :=
  [.switchTo (some 502), .report 502, .onConsoleChanged 502, .act (.connect 502 true),
    .act (.runClientJob 502), .act (.runClientJob 502), .act (.runClientJob 502),
    .switchTo (some 501), .report 501, .onConsoleChanged 501, .onConsoleChanged 502,
    .act (.connect 501 true), .act (.runClientJob 501), .act (.runClientJob 501),
    .act (.runClientJob 501), .act (.runClientJob 502),
    .act (.serve 1), .act (.serve 1), .act (.receive 501), .act (.runClientJob 501),
    .act (.serve 0), .act (.serve 0), .act (.receive 502), .act (.runClientJob 502),
    .act (.serve 0), .act (.receive 502), .act (.runClientJob 502),
    .act .runDaemonJob, .act .runDaemonJob, .act .runDaemonJob]

/-- Then the daemon takes no one for the user on the console. -/
theorem overtaken_forgotten : (overtaken.foldl step initial).Quiescent ∧
    ¬ (overtaken.foldl step initial).CurrentKnown := by
  have consistent := consistent_run overtaken
  have absent : ∀ user, user ≠ 501 → user ≠ 502 →
      Absent user (overtaken.foldl step initial) := by
    intro user notFirst notSecond
    refine absent_run ?_
    simp only [overtaken, Foundation.Execution.stepsMeet_cons, Foundation.Execution.stepsMeet_nil,
      NotAbout, actor, ne_eq, Option.some.injEq, reduceCtorEq, not_false_eq_true,
      Ne.symm notFirst, Ne.symm notSecond, and_self]
  have delivered : ∀ peerId, (overtaken.foldl step initial).system.toDaemon peerId = [] := by
    intro peerId
    cases peerId with
    | zero => rfl
    | succ peerId =>
        cases peerId with
        | zero => rfl
        | succ peerId => exact (consistent.fresh (peerId + 2) (Nat.le_add_left 2 peerId)).1
  have first : ((overtaken.foldl step initial).system.servers 501).connection = .up 1 := rfl
  have second : ((overtaken.foldl step initial).system.servers 502).connection = .up 0 := rfl
  refine ⟨⟨fun user => ?_, rfl, fun user started => ?_⟩, fun known => ?_⟩
  · by_cases isFirst : user = 501
    · subst isFirst
      refine ⟨rfl, rfl, rfl, fun peerId isUp => ?_, delivered⟩
      rw [first] at isUp
      cases isUp
      rfl
    by_cases isSecond : user = 502
    · subst isSecond
      refine ⟨rfl, rfl, rfl, fun peerId isUp => ?_, delivered⟩
      rw [second] at isUp
      cases isUp
      rfl
    · obtain ⟨_, _, sessions, server⟩ := absent user isFirst isSecond
      refine ⟨sessions, ?_, ?_, fun peerId isUp => ?_, delivered⟩
      · rw [server]
        rfl
      · rw [server]
        rfl
      · rw [server] at isUp
        cases isUp
  · by_cases isFirst : user = 501
    · exact ⟨1, isFirst ▸ first⟩
    by_cases isSecond : user = 502
    · exact ⟨0, isSecond ▸ second⟩
    · rw [(absent user isFirst isSecond).notStarted] at started
      cases started
  · have current := (known 501).mpr rfl
    cases current

end ConsoleHistory

end Karabiner

import Mathlib.Data.List.AList

/-! # The receiver of console user changes

In the daemon, `console_user_id_changed_receiver` hears from the console user server
of every user whether its user is on the console, and `components_manager` keeps one
`receiver` for the current user. The receiver is created anew by a job of the
dispatcher, some time after the change that asks for it, and reports that its server
is bound; the report becomes another job, which a generation and the user id are to
protect against changes in between.
-/

namespace Karabiner

/-- `uid_t`. -/
abbrev Uid := Nat

/-- `pqrs::unix_domain_stream::peer_id`. -/
abbrev PeerId := Nat

/-- `console_user_id_changed_receiver::peer_state`. -/
structure PeerState where
  uid : Uid
  onConsole : Bool
deriving DecidableEq

/-- The jobs `console_user_id_changed_receiver` puts on the dispatcher. No function
reads `duringChange`, which says whether a change of the user was waiting when the
server was reported as bound. -/
inductive ReceiverJob where
  | currentConsoleUserIdChanged (value : Option Uid)
  | coreServiceDaemonServerBound (uid : Option Uid) (generation : Nat) (duringChange : Bool)
deriving DecidableEq

/-- What the server of the receiver is told to send; a request is known by its id. -/
inductive Outgoing (R : Type) where
  | respond (requestId : R)
  | coreServiceDaemonServerBound (uid : Option Uid)
  | closePeer
deriving DecidableEq

/-- `console_user_id_changed_receiver`. A peer has credentials while it is connected
and a state from its first request on. -/
structure ConsoleUserIdChangedReceiver where
  currentConsoleUserId : Option Uid
  coreServiceDaemonServerStateGeneration : Nat
  coreServiceDaemonServerIsBound : Bool
  coreServiceDaemonServerBoundUid : Option Uid
  peerCredentials : AList fun _ : PeerId => Option Uid
  peerStates : AList fun _ : PeerId => PeerState
  jobs : List ReceiverJob

namespace ConsoleUserIdChangedReceiver

def initial : ConsoleUserIdChangedReceiver := ⟨none, 0, false, none, ∅, ∅, []⟩

/-- `get_peer_uid`. -/
def getPeerUid (receiver : ConsoleUserIdChangedReceiver) (peerId : PeerId) : Option Uid :=
  (receiver.peerCredentials.lookup peerId).join

/-- `has_on_console_peer`. -/
def hasOnConsolePeer (receiver : ConsoleUserIdChangedReceiver) (uid : Uid) : Bool :=
  receiver.peerStates.entries.any fun entry => entry.2.uid == uid && entry.2.onConsole

/-- `update_current_console_user_id`. -/
def updateCurrentConsoleUserId (receiver : ConsoleUserIdChangedReceiver) (value : Option Uid) :
    ConsoleUserIdChangedReceiver :=
  if receiver.currentConsoleUserId ≠ value then
    { receiver with
      currentConsoleUserId := value
      coreServiceDaemonServerStateGeneration := receiver.coreServiceDaemonServerStateGeneration + 1
      coreServiceDaemonServerIsBound := false
      jobs := receiver.jobs ++ [.currentConsoleUserIdChanged value] }
  else receiver

/-- `send_core_service_daemon_server_bound_if_available`. -/
def sendCoreServiceDaemonServerBoundIfAvailable {R : Type}
    (receiver : ConsoleUserIdChangedReceiver) (peerId : PeerId) : List (PeerId × Outgoing R) :=
  if receiver.coreServiceDaemonServerIsBound then
    [(peerId, .coreServiceDaemonServerBound receiver.coreServiceDaemonServerBoundUid)]
  else []

/-- `broadcast_core_service_daemon_server_bound`. -/
def broadcastCoreServiceDaemonServerBound {R : Type} (receiver : ConsoleUserIdChangedReceiver) :
    List (PeerId × Outgoing R) :=
  receiver.peerCredentials.keys.flatMap receiver.sendCoreServiceDaemonServerBoundIfAvailable

/-- The `peer_connected` handler. -/
def peerConnected (receiver : ConsoleUserIdChangedReceiver) (peerId : PeerId)
    (uid : Option Uid) : ConsoleUserIdChangedReceiver :=
  { receiver with peerCredentials := receiver.peerCredentials.insert peerId uid }

/-- The `peer_closed` handler. -/
def peerClosed (receiver : ConsoleUserIdChangedReceiver) (peerId : PeerId) :
    ConsoleUserIdChangedReceiver :=
  let forgotten := { receiver with peerCredentials := receiver.peerCredentials.erase peerId }
  match receiver.peerStates.lookup peerId with
  | none => forgotten
  | some state =>
      let erased := { forgotten with peerStates := receiver.peerStates.erase peerId }
      if state.onConsole ∧ erased.currentConsoleUserId = some state.uid ∧
          erased.hasOnConsolePeer state.uid = false then
        erased.updateCurrentConsoleUserId none
      else erased

/-- What a request does to the peer states and the current user. -/
def applyRequest (receiver : ConsoleUserIdChangedReceiver) (peerId : PeerId) (uid : Uid)
    (onConsole : Bool) : ConsoleUserIdChangedReceiver :=
  let noted :=
    { receiver with peerStates := receiver.peerStates.insert peerId ⟨uid, onConsole⟩ }
  if onConsole then noted.updateCurrentConsoleUserId (some uid)
  else if noted.currentConsoleUserId = some uid ∧ noted.hasOnConsolePeer uid = false then
    noted.updateCurrentConsoleUserId none
  else noted

/-- The `request_received` handler for a `console_user_id_changed` request. -/
def requestReceived {R : Type} (receiver : ConsoleUserIdChangedReceiver) (peerId : PeerId)
    (requestId : R) (onConsole : Bool) :
    ConsoleUserIdChangedReceiver × List (PeerId × Outgoing R) :=
  match receiver.getPeerUid peerId with
  | none => (receiver, [(peerId, .closePeer)])
  | some uid =>
      let applied := receiver.applyRequest peerId uid onConsole
      (applied, (peerId, .respond requestId) ::
        applied.sendCoreServiceDaemonServerBoundIfAvailable peerId)

/-- The job of `async_core_service_daemon_server_bound`. -/
def serverBoundJob {R : Type} (receiver : ConsoleUserIdChangedReceiver) (uid : Option Uid)
    (generation : Nat) : ConsoleUserIdChangedReceiver × List (PeerId × Outgoing R) :=
  if generation ≠ receiver.coreServiceDaemonServerStateGeneration ∨
      uid ≠ receiver.currentConsoleUserId then
    (receiver, [])
  else
    let bound :=
      { receiver with
        coreServiceDaemonServerIsBound := true
        coreServiceDaemonServerBoundUid := uid }
    (bound, bound.broadcastCoreServiceDaemonServerBound)

/-- A job of `current_console_user_id_changed` is waiting. -/
def changeWaits (receiver : ConsoleUserIdChangedReceiver) : Bool :=
  receiver.jobs.any fun job =>
    match job with
    | .currentConsoleUserIdChanged _ => true
    | .coreServiceDaemonServerBound .. => false

/-- `async_core_service_daemon_server_bound`. -/
def asyncCoreServiceDaemonServerBound (receiver : ConsoleUserIdChangedReceiver)
    (uid : Option Uid) : ConsoleUserIdChangedReceiver :=
  let generation := receiver.coreServiceDaemonServerStateGeneration + 1
  { receiver with
    coreServiceDaemonServerStateGeneration := generation
    jobs := receiver.jobs ++ [.coreServiceDaemonServerBound uid generation receiver.changeWaits] }

/-- A closed peer is forgotten, and then at most the current user is. -/
theorem peerClosed_cases (receiver : ConsoleUserIdChangedReceiver) (peerId : PeerId) :
    ∃ peerStates : AList fun _ : PeerId => PeerState,
      (∀ other, other ≠ peerId →
        peerStates.lookup other = receiver.peerStates.lookup other) ∧
      let forgotten :=
        { receiver with peerCredentials := receiver.peerCredentials.erase peerId, peerStates }
      receiver.peerClosed peerId = forgotten ∨
        receiver.peerClosed peerId = forgotten.updateCurrentConsoleUserId none := by
  unfold peerClosed
  dsimp only
  split
  · exact ⟨_, fun _ _ => rfl, .inl rfl⟩
  · refine ⟨receiver.peerStates.erase peerId,
      fun other different => AList.lookup_erase_ne different, ?_⟩
    split
    · exact .inr rfl
    · exact .inl rfl

/-- A request notes its peer, and then at most the current user changes. -/
theorem applyRequest_cases (receiver : ConsoleUserIdChangedReceiver) (peerId : PeerId)
    (uid : Uid) (onConsole : Bool) :
    let noted :=
      { receiver with peerStates := receiver.peerStates.insert peerId ⟨uid, onConsole⟩ }
    receiver.applyRequest peerId uid onConsole = noted ∨
      ∃ value, receiver.applyRequest peerId uid onConsole =
        noted.updateCurrentConsoleUserId value := by
  unfold applyRequest
  dsimp only
  split
  · exact .inr ⟨_, rfl⟩
  · split
    · exact .inr ⟨_, rfl⟩
    · exact .inl rfl

/-- A request of a peer without credentials changes nothing. -/
theorem requestReceived_cases {R : Type} (receiver : ConsoleUserIdChangedReceiver)
    (peerId : PeerId) (requestId : R) (onConsole : Bool) :
    (receiver.requestReceived peerId requestId onConsole).1 = receiver ∨
      ∃ uid, receiver.getPeerUid peerId = some uid ∧
        (receiver.requestReceived peerId requestId onConsole).1 =
          receiver.applyRequest peerId uid onConsole := by
  unfold requestReceived
  split
  · exact .inl rfl
  case h_2 uid known => exact .inr ⟨uid, known, rfl⟩

end ConsoleUserIdChangedReceiver

/-- `receiver`: the user it was created for, and whether it has signalled
`server_bound`. -/
structure CoreServiceReceiver where
  currentConsoleUserId : Option Uid
  serverBoundSignalled : Bool
deriving DecidableEq

/-- `components_manager` of the daemon. -/
structure DaemonComponents where
  consoleUserIdChangedReceiver : ConsoleUserIdChangedReceiver
  receiver : CoreServiceReceiver

/-- What happens in the dispatcher of the daemon. -/
inductive DaemonEvent (R : Type) where
  | peerConnected (peerId : PeerId) (uid : Option Uid)
  | peerClosed (peerId : PeerId)
  | requestReceived (peerId : PeerId) (requestId : R) (onConsole : Bool)
  | corruptedRequest (peerId : PeerId)
  | serverBound
  | runJob

namespace DaemonComponents

/-- `start_receivers`. -/
def initial : DaemonComponents := ⟨.initial, ⟨none, false⟩⟩

/-- `start_receiver`. -/
def startReceiver (daemon : DaemonComponents) (uid : Option Uid) : DaemonComponents :=
  { daemon with receiver := ⟨uid, false⟩ }

/-- The first job of the receiver of console user changes. -/
def runJob {R : Type} (daemon : DaemonComponents) :
    DaemonComponents × List (PeerId × Outgoing R) :=
  let receiver := daemon.consoleUserIdChangedReceiver
  match receiver.jobs with
  | [] => (daemon, [])
  | .currentConsoleUserIdChanged value :: rest =>
      ({ daemon with
          consoleUserIdChangedReceiver := { receiver with jobs := rest } }.startReceiver value, [])
  | .coreServiceDaemonServerBound uid generation _ :: rest =>
      let result := { receiver with jobs := rest }.serverBoundJob uid generation
      ({ daemon with consoleUserIdChangedReceiver := result.1 }, result.2)

/-- One event. A corrupted request closes its peer; a bound server signals
`server_bound` when its socket got its owner and permissions. -/
def step {R : Type} (daemon : DaemonComponents) :
    DaemonEvent R → DaemonComponents × List (PeerId × Outgoing R)
  | .peerConnected peerId uid =>
      ({ daemon with
          consoleUserIdChangedReceiver :=
            daemon.consoleUserIdChangedReceiver.peerConnected peerId uid }, [])
  | .peerClosed peerId =>
      ({ daemon with
          consoleUserIdChangedReceiver :=
            daemon.consoleUserIdChangedReceiver.peerClosed peerId }, [])
  | .requestReceived peerId requestId onConsole =>
      let result := daemon.consoleUserIdChangedReceiver.requestReceived peerId requestId onConsole
      ({ daemon with consoleUserIdChangedReceiver := result.1 }, result.2)
  | .corruptedRequest peerId => (daemon, [(peerId, .closePeer)])
  | .serverBound =>
      ({ daemon with
          receiver := { daemon.receiver with serverBoundSignalled := true }
          consoleUserIdChangedReceiver :=
            daemon.consoleUserIdChangedReceiver.asyncCoreServiceDaemonServerBound
              daemon.receiver.currentConsoleUserId }, [])
  | .runJob => daemon.runJob

end DaemonComponents

end Karabiner

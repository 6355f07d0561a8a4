import Karabiner.Console.ServerBoundReports

/-! # The peers the daemon knows

What the daemon keeps of its peers: a state belongs to a connected peer with the same
user, the current user has a peer on the console, and what is noted as bound is about the
current user. An event about another peer leaves the state of a peer, and tells it of a
bound server exactly when that is noted.
-/

namespace Karabiner

namespace ConsoleUserIdChangedReceiver

/-- A peer of the user is on the console. -/
theorem hasOnConsolePeer_iff (receiver : ConsoleUserIdChangedReceiver) (uid : Uid) :
    receiver.hasOnConsolePeer uid = true ↔
      ∃ peerId, receiver.peerStates.lookup peerId = some ⟨uid, true⟩ := by
  unfold hasOnConsolePeer
  rw [List.any_eq_true]
  constructor
  · rintro ⟨⟨peerId, state⟩, member, holds⟩
    rw [Bool.and_eq_true, beq_iff_eq] at holds
    obtain ⟨same, onConsole⟩ := holds
    refine ⟨peerId, AList.mem_lookup_iff.mpr ?_⟩
    rw [← same, ← onConsole]
    exact member
  · rintro ⟨peerId, lookup⟩
    refine ⟨⟨peerId, ⟨uid, true⟩⟩, AList.mem_lookup_iff.mp lookup, ?_⟩
    rw [Bool.and_eq_true, beq_iff_eq]
    exact ⟨rfl, rfl⟩

/-- What the receiver of console user changes keeps. -/
structure PeersKept (receiver : ConsoleUserIdChangedReceiver) : Prop where
  connected : ∀ peerId state, receiver.peerStates.lookup peerId = some state →
    receiver.peerCredentials.lookup peerId = some (some state.uid)
  current : ∀ uid, receiver.currentConsoleUserId = some uid →
    receiver.hasOnConsolePeer uid = true
  bound : receiver.coreServiceDaemonServerIsBound = true →
    receiver.coreServiceDaemonServerBoundUid = receiver.currentConsoleUserId

theorem peersKept_initial : PeersKept initial :=
  ⟨nofun, nofun, nofun⟩

theorem update_peers (receiver : ConsoleUserIdChangedReceiver) (value : Option Uid) :
    (receiver.updateCurrentConsoleUserId value).peerStates = receiver.peerStates ∧
      (receiver.updateCurrentConsoleUserId value).peerCredentials = receiver.peerCredentials ∧
      (receiver.updateCurrentConsoleUserId value).currentConsoleUserId = value := by
  unfold updateCurrentConsoleUserId
  split
  · exact ⟨rfl, rfl, rfl⟩
  case isFalse same => exact ⟨rfl, rfl, not_not.mp same⟩

theorem update_bound {receiver : ConsoleUserIdChangedReceiver} {value : Option Uid}
    (isBound : (receiver.updateCurrentConsoleUserId value).coreServiceDaemonServerIsBound = true) :
    receiver.updateCurrentConsoleUserId value = receiver := by
  unfold updateCurrentConsoleUserId at isBound ⊢
  split at isBound
  · cases isBound
  · rw [if_neg ‹_›]

/-- The update is right when the new user has a peer on the console. -/
theorem PeersKept.update {receiver : ConsoleUserIdChangedReceiver} {value : Option Uid}
    (connected : ∀ peerId state, receiver.peerStates.lookup peerId = some state →
      receiver.peerCredentials.lookup peerId = some (some state.uid))
    (bound : receiver.coreServiceDaemonServerIsBound = true →
      receiver.coreServiceDaemonServerBoundUid = receiver.currentConsoleUserId)
    (right : ∀ uid, value = some uid → receiver.hasOnConsolePeer uid = true) :
    PeersKept (receiver.updateCurrentConsoleUserId value) := by
  obtain ⟨states, credentials, current⟩ := receiver.update_peers value
  refine ⟨?_, ?_, fun isBound => ?_⟩
  · rw [states, credentials]
    exact connected
  · intro uid same
    rw [current] at same
    have onConsole := right uid same
    unfold hasOnConsolePeer at onConsole ⊢
    rw [states]
    exact onConsole
  · have same := update_bound isBound
    rw [same] at isBound ⊢
    exact bound isBound

/-- A peer that is new has no state yet. -/
theorem PeersKept.peerConnected {receiver : ConsoleUserIdChangedReceiver}
    (kept : PeersKept receiver) {peerId : PeerId}
    (new : receiver.peerCredentials.lookup peerId = none) (uid : Option Uid) :
    PeersKept (receiver.peerConnected peerId uid) := by
  refine ⟨fun other state lookup => ?_, kept.current, kept.bound⟩
  have known := kept.connected other state lookup
  have different : other ≠ peerId := fun same => by
    rw [same, new] at known
    cases known
  change (receiver.peerCredentials.insert peerId uid).lookup other = _
  rw [AList.lookup_insert_ne different]
  exact known

/-- Closing a peer keeps the peers: its state and its credentials go together. -/
theorem PeersKept.peerClosed {receiver : ConsoleUserIdChangedReceiver}
    (kept : PeersKept receiver) (peerId : PeerId) : PeersKept (receiver.peerClosed peerId) := by
  have credentials : ∀ other state, other ≠ peerId →
      receiver.peerStates.lookup other = some state →
      (receiver.peerCredentials.erase peerId).lookup other = some (some state.uid) := by
    intro other state different lookup
    rw [AList.lookup_erase_ne different]
    exact kept.connected other state lookup
  unfold ConsoleUserIdChangedReceiver.peerClosed
  dsimp only
  split
  case h_1 unknown =>
    refine ⟨fun other state lookup => credentials other state ?_ lookup, kept.current, kept.bound⟩
    rintro rfl
    change receiver.peerStates.lookup other = some state at lookup
    rw [unknown] at lookup
    cases lookup
  case h_2 closed known =>
    have connected : ∀ other state,
        (receiver.peerStates.erase peerId).lookup other = some state →
        (receiver.peerCredentials.erase peerId).lookup other = some (some state.uid) := by
      intro other state lookup
      have different : other ≠ peerId := fun same => by
        rw [same, AList.lookup_erase] at lookup
        cases lookup
      rw [AList.lookup_erase_ne different] at lookup
      exact credentials other state different lookup
    split
    · exact PeersKept.update connected kept.bound nofun
    case isFalse stays =>
      refine ⟨connected, fun uid current => ?_, kept.bound⟩
      obtain ⟨other, lookup⟩ := (receiver.hasOnConsolePeer_iff uid).mp (kept.current uid current)
      by_cases same : other = peerId
      · rw [same, known] at lookup
        cases lookup
        rw [not_and, not_and] at stays
        exact Bool.not_eq_false _ ▸ stays rfl current
      · refine (hasOnConsolePeer_iff _ uid).mpr ⟨other, ?_⟩
        change (receiver.peerStates.erase peerId).lookup other = _
        rw [AList.lookup_erase_ne same]
        exact lookup

/-- A request of a peer with credentials keeps the peers, as its state has the user of the
credentials. -/
theorem PeersKept.applyRequest {receiver : ConsoleUserIdChangedReceiver}
    (kept : PeersKept receiver) {peerId : PeerId} {uid : Uid}
    (peer : receiver.peerCredentials.lookup peerId = some (some uid)) (onConsole : Bool) :
    PeersKept (receiver.applyRequest peerId uid onConsole) := by
  have connected : ∀ other state,
      (receiver.peerStates.insert peerId ⟨uid, onConsole⟩).lookup other = some state →
      receiver.peerCredentials.lookup other = some (some state.uid) := by
    intro other state lookup
    by_cases same : other = peerId
    · rw [same, AList.lookup_insert] at lookup
      cases lookup
      rw [same]
      exact peer
    · rw [AList.lookup_insert_ne same] at lookup
      exact kept.connected other state lookup
  unfold ConsoleUserIdChangedReceiver.applyRequest
  dsimp only
  split
  case isTrue arrives =>
    refine PeersKept.update connected kept.bound fun other same => ?_
    cases same
    refine (hasOnConsolePeer_iff _ uid).mpr ⟨peerId, ?_⟩
    change (receiver.peerStates.insert peerId ⟨uid, onConsole⟩).lookup peerId = _
    rw [AList.lookup_insert, arrives]
  case isFalse =>
    split
    · exact PeersKept.update connected kept.bound nofun
    case isFalse stays =>
      refine ⟨connected, fun other current => ?_, kept.bound⟩
      by_cases same : other = uid
      · rw [not_and] at stays
        rw [same] at current ⊢
        exact Bool.not_eq_false _ ▸ stays current
      · obtain ⟨otherPeer, lookup⟩ :=
          (receiver.hasOnConsolePeer_iff other).mp (kept.current other current)
        have different : otherPeer ≠ peerId := fun samePeer => by
          have known := kept.connected otherPeer _ lookup
          rw [samePeer, peer] at known
          injection known with known
          injection known with known
          exact same known.symm
        refine (hasOnConsolePeer_iff _ other).mpr ⟨otherPeer, ?_⟩
        change (receiver.peerStates.insert peerId ⟨uid, onConsole⟩).lookup otherPeer = _
        rw [AList.lookup_insert_ne different]
        exact lookup

theorem applyRequest_peers (receiver : ConsoleUserIdChangedReceiver) (peerId : PeerId)
    (uid : Uid) (onConsole : Bool) :
    (receiver.applyRequest peerId uid onConsole).peerStates =
        receiver.peerStates.insert peerId ⟨uid, onConsole⟩ ∧
      (receiver.applyRequest peerId uid onConsole).peerCredentials =
        receiver.peerCredentials := by
  rcases receiver.applyRequest_cases peerId uid onConsole with same | ⟨value, same⟩
  · rw [same]
    exact ⟨rfl, rfl⟩
  · rw [same]
    obtain ⟨states, credentials, _⟩ := update_peers { receiver with
      peerStates := receiver.peerStates.insert peerId ⟨uid, onConsole⟩ } value
    exact ⟨states, credentials⟩

/-- Applying a request announces no server: a bound one was bound before, to the same user. -/
theorem applyRequest_bound {receiver : ConsoleUserIdChangedReceiver} {peerId : PeerId}
    {uid : Uid} {onConsole : Bool}
    (isBound : (receiver.applyRequest peerId uid onConsole).coreServiceDaemonServerIsBound = true) :
    receiver.coreServiceDaemonServerIsBound = true ∧
      (receiver.applyRequest peerId uid onConsole).coreServiceDaemonServerBoundUid =
        receiver.coreServiceDaemonServerBoundUid := by
  rcases receiver.applyRequest_cases peerId uid onConsole with same | ⟨value, same⟩
  · rw [same] at isBound ⊢
    exact ⟨isBound, rfl⟩
  · rw [same] at isBound ⊢
    have kept := update_bound isBound
    rw [kept] at isBound ⊢
    exact ⟨isBound, rfl⟩

/-- Closing a peer leaves the states and the credentials of the others as they are. -/
theorem peerClosed_peers (receiver : ConsoleUserIdChangedReceiver) {peerId other : PeerId}
    (different : other ≠ peerId) :
    (receiver.peerClosed peerId).peerStates.lookup other = receiver.peerStates.lookup other ∧
      (receiver.peerClosed peerId).peerCredentials.lookup other =
        receiver.peerCredentials.lookup other := by
  have credentials : (receiver.peerCredentials.erase peerId).lookup other =
      receiver.peerCredentials.lookup other := AList.lookup_erase_ne different
  obtain ⟨peerStates, states, same | same⟩ := receiver.peerClosed_cases peerId
  · rw [same]
    exact ⟨states other different, credentials⟩
  · rw [same]
    obtain ⟨sameStates, sameCredentials, _⟩ := update_peers { receiver with
      peerCredentials := receiver.peerCredentials.erase peerId, peerStates } none
    rw [sameStates, sameCredentials]
    exact ⟨states other different, credentials⟩

theorem peerClosed_bound {receiver : ConsoleUserIdChangedReceiver} {peerId : PeerId}
    (isBound : (receiver.peerClosed peerId).coreServiceDaemonServerIsBound = true) :
    receiver.coreServiceDaemonServerIsBound = true ∧
      (receiver.peerClosed peerId).coreServiceDaemonServerBoundUid =
        receiver.coreServiceDaemonServerBoundUid := by
  obtain ⟨_, _, same | same⟩ := receiver.peerClosed_cases peerId
  · rw [same] at isBound ⊢
    exact ⟨isBound, rfl⟩
  · rw [same] at isBound ⊢
    have kept := update_bound isBound
    rw [kept] at isBound ⊢
    exact ⟨isBound, rfl⟩

end ConsoleUserIdChangedReceiver

namespace DaemonComponents

variable {R : Type}

/-- Every event keeps the peers, if a peer that connects is new. -/
theorem peersKept_step {daemon : DaemonComponents}
    (kept : daemon.consoleUserIdChangedReceiver.PeersKept) (event : DaemonEvent R)
    (new : ∀ peerId uid, event = .peerConnected peerId uid →
      daemon.consoleUserIdChangedReceiver.peerCredentials.lookup peerId = none) :
    (daemon.next event).consoleUserIdChangedReceiver.PeersKept := by
  cases event with
  | peerConnected peerId uid => exact kept.peerConnected (new peerId uid rfl) uid
  | peerClosed peerId => exact kept.peerClosed peerId
  | requestReceived peerId requestId onConsole =>
      change (daemon.consoleUserIdChangedReceiver.requestReceived peerId requestId
        onConsole).1.PeersKept
      rcases daemon.consoleUserIdChangedReceiver.requestReceived_cases peerId requestId onConsole
        with same | ⟨uid, known, same⟩
      · rw [same]
        exact kept
      · rw [same]
        exact kept.applyRequest (Option.join_eq_some_iff.mp known) onConsole
  | corruptedRequest peerId => exact kept
  | serverBound => exact ⟨kept.connected, kept.current, kept.bound⟩
  | runJob =>
      change (daemon.runJob (R := R)).1.consoleUserIdChangedReceiver.PeersKept
      unfold runJob
      dsimp only
      split
      · exact kept
      · exact ⟨kept.connected, kept.current, kept.bound⟩
      · unfold ConsoleUserIdChangedReceiver.serverBoundJob
        split
        · exact ⟨kept.connected, kept.current, kept.bound⟩
        case isFalse current =>
          rw [not_or, not_not, not_not] at current
          exact ⟨kept.connected, kept.current, fun _ => current.2⟩

/-! ## What an event does to a peer it is not about -/

/-- A message to the peer; the end of a connection is not a message. -/
def messageTo (peerId : PeerId) : PeerId × Outgoing R → Option (Outgoing R)
  | (_, .closePeer) => none
  | (other, .respond requestId) => if other = peerId then some (.respond requestId) else none
  | (other, .coreServiceDaemonServerBound uid) =>
      if other = peerId then some (.coreServiceDaemonServerBound uid) else none

/-- The messages to the peer. -/
def sentTo (peerId : PeerId) (outputs : List (PeerId × Outgoing R)) : List (Outgoing R) :=
  outputs.filterMap (messageTo peerId)

/-- The peer an event is about. -/
def peerOf : DaemonEvent R → Option PeerId
  | .peerConnected peerId _ | .peerClosed peerId | .requestReceived peerId _ _
  | .corruptedRequest peerId => some peerId
  | .serverBound | .runJob => none

theorem sentTo_available (receiver : ConsoleUserIdChangedReceiver) (peerId other : PeerId) :
    sentTo (R := R) peerId (receiver.sendCoreServiceDaemonServerBoundIfAvailable other) =
      if other = peerId ∧ receiver.coreServiceDaemonServerIsBound = true then
        [.coreServiceDaemonServerBound receiver.coreServiceDaemonServerBoundUid]
      else [] := by
  unfold ConsoleUserIdChangedReceiver.sendCoreServiceDaemonServerBoundIfAvailable sentTo
  by_cases isBound : receiver.coreServiceDaemonServerIsBound = true
  · by_cases same : other = peerId
    · simp only [isBound, same, List.filterMap_cons, messageTo, List.filterMap_nil, and_self,
        ↓reduceIte]
    · simp only [isBound, same, List.filterMap_cons, messageTo, List.filterMap_nil, false_and,
        ↓reduceIte]
  · simp only [isBound, and_false, List.filterMap_nil, Bool.false_eq_true, ↓reduceIte]

/-- A broadcast reaches every connected peer. -/
theorem sentTo_broadcast (receiver : ConsoleUserIdChangedReceiver) (peerId : PeerId)
    (isBound : receiver.coreServiceDaemonServerIsBound = true) :
    (∀ message ∈ sentTo (R := R) peerId receiver.broadcastCoreServiceDaemonServerBound,
      message = .coreServiceDaemonServerBound receiver.coreServiceDaemonServerBoundUid) ∧
    (sentTo (R := R) peerId receiver.broadcastCoreServiceDaemonServerBound = [] ↔
      receiver.peerCredentials.lookup peerId = none) := by
  have flat : sentTo (R := R) peerId receiver.broadcastCoreServiceDaemonServerBound =
      receiver.peerCredentials.keys.flatMap fun other =>
        sentTo peerId (receiver.sendCoreServiceDaemonServerBoundIfAvailable other) :=
    List.filterMap_flatMap
  rw [flat]
  constructor
  · intro message member
    obtain ⟨other, _, member⟩ := List.mem_flatMap.mp member
    rw [sentTo_available] at member
    split at member
    · exact List.mem_singleton.mp member
    · cases member
  · constructor
    · intro nothing
      by_contra known
      have member : peerId ∈ receiver.peerCredentials.keys :=
        AList.lookup_isSome.mp (Option.isSome_iff_ne_none.mpr known)
      have available := List.flatMap_eq_nil_iff.mp nothing peerId member
      rw [sentTo_available, if_pos ⟨rfl, isBound⟩] at available
      cases available
    · intro unknown
      refine List.flatMap_eq_nil_iff.mpr fun other member => ?_
      rw [sentTo_available, if_neg]
      rintro ⟨same, _⟩
      exact AList.lookup_eq_none.mp unknown (same ▸ member)

/-- A job leaves the peers and the current user. -/
theorem runJob_peers (daemon : DaemonComponents) :
    (daemon.runJob (R := R)).1.consoleUserIdChangedReceiver.peerCredentials =
        daemon.consoleUserIdChangedReceiver.peerCredentials ∧
      (daemon.runJob (R := R)).1.consoleUserIdChangedReceiver.peerStates =
        daemon.consoleUserIdChangedReceiver.peerStates ∧
      (daemon.runJob (R := R)).1.consoleUserIdChangedReceiver.currentConsoleUserId =
        daemon.consoleUserIdChangedReceiver.currentConsoleUserId := by
  unfold runJob
  dsimp only
  split
  · exact ⟨rfl, rfl, rfl⟩
  · exact ⟨rfl, rfl, rfl⟩
  · unfold ConsoleUserIdChangedReceiver.serverBoundJob
    split <;> exact ⟨rfl, rfl, rfl⟩

/-- An event about another peer, or about none, leaves the peer. -/
theorem next_peer {daemon : DaemonComponents} {event : DaemonEvent R} {peerId : PeerId}
    (other : peerOf event ≠ some peerId) :
    (daemon.next event).consoleUserIdChangedReceiver.peerCredentials.lookup peerId =
        daemon.consoleUserIdChangedReceiver.peerCredentials.lookup peerId ∧
      (daemon.next event).consoleUserIdChangedReceiver.peerStates.lookup peerId =
        daemon.consoleUserIdChangedReceiver.peerStates.lookup peerId := by
  cases event with
  | peerConnected connected uid =>
      have different : peerId ≠ connected := fun same => other (same ▸ rfl)
      exact ⟨AList.lookup_insert_ne different, rfl⟩
  | peerClosed closed =>
      have different : peerId ≠ closed := fun same => other (same ▸ rfl)
      exact (daemon.consoleUserIdChangedReceiver.peerClosed_peers different).symm
  | requestReceived requester requestId onConsole =>
      have different : peerId ≠ requester := fun same => other (same ▸ rfl)
      change (daemon.consoleUserIdChangedReceiver.requestReceived requester requestId
          onConsole).1.peerCredentials.lookup peerId = _ ∧
        (daemon.consoleUserIdChangedReceiver.requestReceived requester requestId
          onConsole).1.peerStates.lookup peerId = _
      rcases daemon.consoleUserIdChangedReceiver.requestReceived_cases requester requestId
        onConsole with same | ⟨uid, _, same⟩
      · rw [same]
        exact ⟨rfl, rfl⟩
      · obtain ⟨states, credentials⟩ :=
          daemon.consoleUserIdChangedReceiver.applyRequest_peers requester uid onConsole
        rw [same, states, credentials]
        exact ⟨rfl, AList.lookup_insert_ne different⟩
  | corruptedRequest | serverBound => exact ⟨rfl, rfl⟩
  | runJob =>
      obtain ⟨credentials, states, _⟩ := daemon.runJob_peers (R := R)
      exact ⟨congrArg (AList.lookup peerId) credentials, congrArg (AList.lookup peerId) states⟩

/-- A request leaves the credentials. -/
theorem next_request_credentials (daemon : DaemonComponents) (peerId : PeerId) (requestId : R)
    (onConsole : Bool) :
    (daemon.next (.requestReceived peerId requestId onConsole)
      ).consoleUserIdChangedReceiver.peerCredentials =
        daemon.consoleUserIdChangedReceiver.peerCredentials := by
  change (daemon.consoleUserIdChangedReceiver.requestReceived peerId requestId
    onConsole).1.peerCredentials = _
  rcases daemon.consoleUserIdChangedReceiver.requestReceived_cases peerId requestId onConsole
    with same | ⟨uid, _, same⟩
  · rw [same]
  · rw [same]
    exact (daemon.consoleUserIdChangedReceiver.applyRequest_peers peerId uid onConsole).2

/-- A closed peer is unknown. -/
theorem next_closed_credentials (daemon : DaemonComponents) (peerId : PeerId) :
    (daemon.next (R := R) (.peerClosed peerId)
      ).consoleUserIdChangedReceiver.peerCredentials.lookup peerId = none := by
  change (daemon.consoleUserIdChangedReceiver.peerClosed peerId).peerCredentials.lookup peerId = _
  obtain ⟨_, _, same | same⟩ := daemon.consoleUserIdChangedReceiver.peerClosed_cases peerId
  · rw [same]
    exact AList.lookup_erase _ _
  · rw [same, (ConsoleUserIdChangedReceiver.update_peers _ _).2.1]
    exact AList.lookup_erase _ _

/-- What an event tells a peer it is not about: a bound server, when that is noted, and
nothing when nothing new is noted. -/
theorem sentTo_other {daemon : DaemonComponents} {event : DaemonEvent R} {peerId : PeerId}
    (other : peerOf event ≠ some peerId) :
    (sentTo peerId (daemon.step event).2 = [] ∧ ∀ uid, (daemon.next event).BoundFor uid →
      daemon.BoundFor uid ∨
        daemon.consoleUserIdChangedReceiver.peerCredentials.lookup peerId = none) ∨
    ∃ uid, daemon.consoleUserIdChangedReceiver.peerCredentials.lookup peerId ≠ none ∧
      sentTo peerId (daemon.step event).2 ≠ [] ∧ (daemon.next event).BoundFor uid ∧
      ∀ message ∈ sentTo peerId (daemon.step event).2,
        message = .coreServiceDaemonServerBound uid := by
  cases event with
  | peerConnected | corruptedRequest | serverBound =>
      exact .inl ⟨rfl, fun _ isBound => .inl isBound⟩
  | peerClosed closed =>
      refine .inl ⟨rfl, fun uid isBound => .inl ?_⟩
      obtain ⟨before, same⟩ := ConsoleUserIdChangedReceiver.peerClosed_bound isBound.1
      exact ⟨before, same ▸ isBound.2⟩
  | requestReceived requester requestId onConsole =>
      have different : requester ≠ peerId := fun same => other (same ▸ rfl)
      left
      change sentTo peerId (daemon.consoleUserIdChangedReceiver.requestReceived requester
          requestId onConsole).2 = [] ∧
        ∀ uid, (daemon.consoleUserIdChangedReceiver.requestReceived requester requestId
            onConsole).1.coreServiceDaemonServerIsBound = true ∧
          (daemon.consoleUserIdChangedReceiver.requestReceived requester requestId
            onConsole).1.coreServiceDaemonServerBoundUid = uid → _
      unfold ConsoleUserIdChangedReceiver.requestReceived
      split
      · exact ⟨rfl, fun _ isBound => .inl isBound⟩
      case h_2 user _ =>
        constructor
        · have respond : messageTo (R := R) peerId (requester, .respond requestId) = none :=
            if_neg different
          unfold sentTo
          rw [List.filterMap_cons_none respond]
          refine (sentTo_available _ peerId requester).trans (if_neg ?_)
          exact fun same => different same.1
        · intro uid isBound
          obtain ⟨before, same⟩ := ConsoleUserIdChangedReceiver.applyRequest_bound isBound.1
          exact .inl ⟨before, same ▸ isBound.2⟩
  | runJob =>
      change (sentTo peerId (daemon.runJob (R := R)).2 = [] ∧
          ∀ uid, (daemon.runJob (R := R)).1.BoundFor uid → _) ∨
        ∃ uid, daemon.consoleUserIdChangedReceiver.peerCredentials.lookup peerId ≠ none ∧
          sentTo peerId (daemon.runJob (R := R)).2 ≠ [] ∧
          (daemon.runJob (R := R)).1.BoundFor uid ∧
          ∀ message ∈ sentTo peerId (daemon.runJob (R := R)).2, _
      unfold runJob
      dsimp only
      split
      · exact .inl ⟨rfl, fun _ isBound => .inl isBound⟩
      · exact .inl ⟨rfl, fun _ isBound => .inl isBound⟩
      case h_3 uid generation duringChange rest jobs =>
        unfold ConsoleUserIdChangedReceiver.serverBoundJob
        split
        · exact .inl ⟨rfl, fun _ isBound => .inl isBound⟩
        · obtain ⟨messages, reached⟩ := sentTo_broadcast (R := R)
            { daemon.consoleUserIdChangedReceiver with
              jobs := rest
              coreServiceDaemonServerIsBound := true
              coreServiceDaemonServerBoundUid := uid } peerId rfl
          by_cases nothing : sentTo (R := R) peerId
              (ConsoleUserIdChangedReceiver.broadcastCoreServiceDaemonServerBound
                { daemon.consoleUserIdChangedReceiver with
                  jobs := rest
                  coreServiceDaemonServerIsBound := true
                  coreServiceDaemonServerBoundUid := uid }) = []
          · exact .inl ⟨nothing, fun _ _ => .inr (reached.mp nothing)⟩
          · exact .inr ⟨uid, fun unknown => nothing (reached.mpr unknown), nothing, ⟨rfl, rfl⟩,
              messages⟩

end DaemonComponents

end Karabiner

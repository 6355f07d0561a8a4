import Karabiner.Console.ConsoleSystem
import Karabiner.Console.LinkedPeer

/-! # Registration of the console user servers

What holds in every run of the daemon and the console user servers. At quiescence the
daemon knows of a connected server whether its user is on the console, and has told it of
the bound server (`Karabiner.ConsoleSystem.registration`).
-/

namespace Karabiner

/-- The deliveries of a connection: it begins once and ends last. -/
def Stream (known : Bool) : List Incoming → Prop
  | [] => True
  | .connected _ :: rest => known = false ∧ Stream true rest
  | .request _ :: rest => Stream known rest
  | .closed :: rest => rest = []

theorem stream_requests (known : Bool) (requests : List Bool) :
    Stream known (requests.map Incoming.request) := by
  induction requests with
  | nil => trivial
  | cons request rest ih => exact ih

/-- A connection that is lost ends the stream with `closed`, behind a part of the messages. -/
theorem Stream.lose {known : Bool} {incoming : List Incoming} (stream : Stream known incoming)
    (isOpen : .closed ∉ incoming) (delivered : Nat) :
    Stream known (incoming.take delivered ++ [.closed]) := by
  induction incoming generalizing known delivered with
  | nil =>
      rw [List.take_nil]
      rfl
  | cons first rest ih =>
      have later : .closed ∉ rest := fun member => isOpen (List.mem_cons_of_mem _ member)
      cases delivered with
      | zero => rfl
      | succ delivered =>
          cases first with
          | connected uid => exact ⟨stream.1, ih stream.2 later delivered⟩
          | request earlier => exact ih stream later delivered
          | closed => exact absurd List.mem_cons_self isOpen

namespace ConsoleSystem

open DaemonComponents

/-- The credentials the daemon knows of a peer. -/
abbrev credentials (system : ConsoleSystem) (peerId : PeerId) : Option (Option Uid) :=
  system.daemon.consoleUserIdChangedReceiver.peerCredentials.lookup peerId

/-- The connection of a server, with the requests that are underway. -/
structure Registering (system : ConsoleSystem) (user : Uid) (peerId : PeerId)
    (requests : List Bool) : Prop where
  linked : Linked system.daemon user peerId (system.servers user) (system.toServer peerId) requests
  greeting : ∃ uid, (uid = none ∨ uid = some user) ∧
    (system.credentials peerId = some uid ∧
        system.toDaemon peerId = requests.map Incoming.request ∨
      system.credentials peerId = none ∧
        (system.servers user).waitingMessages ++ system.toServer peerId = [] ∧
        system.toDaemon peerId = .connected uid :: requests.map Incoming.request)

/-- What every action keeps. -/
structure Consistent (system : ConsoleSystem) : Prop where
  peers : system.daemon.consoleUserIdChangedReceiver.PeersKept
  orderly : ∀ user, (system.servers user).Orderly
  registering : ∀ user peerId, (system.servers user).connection = .up peerId →
    ∃ requests, system.Registering user peerId requests
  distinct : ∀ user other peerId, (system.servers user).connection = .up peerId →
    (system.servers other).connection = .up peerId → user = other
  fresh : ∀ peerId, system.nextPeerId ≤ peerId →
    system.toDaemon peerId = [] ∧ system.credentials peerId = none ∧
      ∀ user, (system.servers user).connection ≠ .up peerId
  owned : ∀ peerId, system.credentials peerId ≠ none ∨ system.toDaemon peerId ≠ [] →
    (∃ user, (system.servers user).connection = .up peerId) ∨ .closed ∈ system.toDaemon peerId
  stream : ∀ peerId, Stream (system.credentials peerId).isSome (system.toDaemon peerId)

theorem consistent_initial : Consistent initial where
  peers := ConsoleUserIdChangedReceiver.peersKept_initial
  orderly := fun _ => ConsoleUserServer.orderly_initial
  registering := nofun
  distinct := nofun
  fresh := fun _ _ => ⟨rfl, rfl, nofun⟩
  owned := fun _ known => by
    rcases known with known | underway
    · exact absurd rfl known
    · exact absurd rfl underway
  stream := fun _ => trivial

theorem Registering.isOpen {system : ConsoleSystem} {user : Uid} {peerId : PeerId}
    {requests : List Bool} (registering : system.Registering user peerId requests) :
    .closed ∉ system.toDaemon peerId := by
  have absent : Incoming.closed ∉ requests.map Incoming.request := fun member => by
    obtain ⟨_, _, same⟩ := List.mem_map.mp member
    cases same
  obtain ⟨uid, _, ⟨_, toDaemon⟩ | ⟨_, _, toDaemon⟩⟩ := registering.greeting
  · rw [toDaemon]
    exact absent
  · rw [toDaemon, List.mem_cons, not_or]
    exact ⟨nofun, absent⟩

/-! ## Changes of one server and one connection -/

theorem Consistent.orderly_update {system : ConsoleSystem} (consistent : Consistent system)
    {user : Uid} {server : ConsoleUserServer} (orderly : server.Orderly) :
    ∀ other, (Function.update system.servers user server other).Orderly :=
  (Function.forall_update_iff _ fun _ => ConsoleUserServer.Orderly).mpr
    ⟨orderly, fun other _ => consistent.orderly other⟩

theorem Consistent.stream_update {system : ConsoleSystem} (consistent : Consistent system)
    {peerId : PeerId} {incoming : List Incoming}
    (stream : Stream (system.credentials peerId).isSome incoming) :
    ∀ other, Stream (system.credentials other).isSome
      (Function.update system.toDaemon peerId incoming other) :=
  (Function.forall_update_iff _ fun other incoming =>
    Stream (system.credentials other).isSome incoming).mpr
      ⟨stream, fun other _ => consistent.stream other⟩

/-- The other servers keep their connections when one server and one connection change. -/
theorem Registering.elsewhere {system : ConsoleSystem} {other user : Uid} {peerId changed : PeerId}
    {requests : List Bool} (registering : system.Registering other peerId requests)
    (own : other ≠ user) (different : peerId ≠ changed) (server : ConsoleUserServer)
    (incoming : List Incoming) (outgoing : List (Outgoing Bool)) (nextPeerId : PeerId) :
    Registering { system.setServer user server with
      toDaemon := Function.update system.toDaemon changed incoming
      toServer := Function.update system.toServer changed outgoing
      nextPeerId } other peerId requests := by
  refine ⟨?_, ?_⟩
  · change Linked _ _ _ (Function.update system.servers user server other)
      (Function.update system.toServer changed outgoing peerId) _
    rw [Function.update_of_ne own, Function.update_of_ne different]
    exact registering.linked
  · change ∃ uid, _ ∧ (_ ∧ Function.update system.toDaemon changed incoming peerId = _ ∨
      _ ∧ (Function.update system.servers user server other).waitingMessages ++
        Function.update system.toServer changed outgoing peerId = [] ∧
      Function.update system.toDaemon changed incoming peerId = _)
    rw [Function.update_of_ne own, Function.update_of_ne different,
      Function.update_of_ne different]
    exact registering.greeting

/-! ## The servers -/

/-- A step of a server that leaves its connection and what waits for it. -/
theorem Consistent.setServer {system : ConsoleSystem} (consistent : Consistent system)
    {user : Uid} {server : ConsoleUserServer} (orderly : server.Orderly)
    (same : ∀ peerId, server.connection = .up peerId ↔
      (system.servers user).connection = .up peerId)
    (linked : ∀ peerId requests, (system.servers user).connection = .up peerId →
      Linked system.daemon user peerId (system.servers user) (system.toServer peerId) requests →
      Linked system.daemon user peerId server (system.toServer peerId) requests ∧
        server.waitingMessages = (system.servers user).waitingMessages) :
    Consistent (system.setServer user server) := by
  have connection : ∀ other peerId,
      ((system.setServer user server).servers other).connection = .up peerId ↔
        (system.servers other).connection = .up peerId := by
    intro other peerId
    change (Function.update system.servers user server other).connection = _ ↔ _
    by_cases own : other = user
    · rw [own, Function.update_self]
      exact same peerId
    · rw [Function.update_of_ne own]
  refine ⟨consistent.peers, consistent.orderly_update orderly, fun other peerId isUp => ?_, ?_, ?_,
    ?_, consistent.stream⟩
  · rw [connection] at isUp
    obtain ⟨requests, registering⟩ := consistent.registering other peerId isUp
    by_cases own : other = user
    · subst own
      obtain ⟨linked', messages⟩ := linked peerId requests isUp registering.linked
      refine ⟨requests, ?_, ?_⟩
      · change Linked _ _ _ (Function.update system.servers other server other) _ _
        rw [Function.update_self]
        exact linked'
      · have greeting := registering.greeting
        rw [← messages] at greeting
        change ∃ uid, _ ∧ (_ ∨ _ ∧
          (Function.update system.servers other server other).waitingMessages ++ _ = [] ∧ _)
        rw [Function.update_self]
        exact greeting
    · refine ⟨requests, ?_, ?_⟩
      · change Linked _ _ _ (Function.update system.servers user server other) _ _
        rw [Function.update_of_ne own]
        exact registering.linked
      · change ∃ uid, _ ∧ (_ ∨ _ ∧
          (Function.update system.servers user server other).waitingMessages ++ _ = [] ∧ _)
        rw [Function.update_of_ne own]
        exact registering.greeting
  · intro first second peerId firstUp secondUp
    rw [connection] at firstUp secondUp
    exact consistent.distinct first second peerId firstUp secondUp
  · intro peerId new
    obtain ⟨toDaemon, unknown, notUp⟩ := consistent.fresh peerId new
    exact ⟨toDaemon, unknown, fun other isUp => notUp other ((connection other peerId).mp isUp)⟩
  · intro peerId known
    refine (consistent.owned peerId known).imp_left ?_
    rintro ⟨other, isUp⟩
    exact ⟨other, (connection other peerId).mpr isUp⟩

/-- A step of a server on its connection. -/
theorem Consistent.atConnection {system : ConsoleSystem} (consistent : Consistent system)
    {user : Uid} {peerId : PeerId} {server : ConsoleUserServer} {incoming : List Incoming}
    {outgoing : List (Outgoing Bool)} {requests : List Bool}
    (isUp : (system.servers user).connection = .up peerId) (stays : server.connection = .up peerId)
    (orderly : server.Orderly)
    (linked : Linked system.daemon user peerId server outgoing requests)
    (greeting : ∃ uid, (uid = none ∨ uid = some user) ∧
      (system.credentials peerId = some uid ∧ incoming = requests.map Incoming.request ∨
        system.credentials peerId = none ∧ server.waitingMessages ++ outgoing = [] ∧
          incoming = .connected uid :: requests.map Incoming.request)) :
    Consistent { system.setServer user server with
      toDaemon := Function.update system.toDaemon peerId incoming
      toServer := Function.update system.toServer peerId outgoing } := by
  have isOpen : .closed ∉ incoming := by
    have absent : Incoming.closed ∉ requests.map Incoming.request := fun member => by
      obtain ⟨_, _, same⟩ := List.mem_map.mp member
      cases same
    obtain ⟨uid, _, ⟨_, same⟩ | ⟨_, _, same⟩⟩ := greeting
    · rw [same]
      exact absent
    · rw [same, List.mem_cons, not_or]
      exact ⟨nofun, absent⟩
  have connection : ∀ other otherPeer,
      (Function.update system.servers user server other).connection = .up otherPeer ↔
        (system.servers other).connection = .up otherPeer := by
    intro other otherPeer
    by_cases own : other = user
    · rw [own, Function.update_self, stays, isUp]
    · rw [Function.update_of_ne own]
  have stream : Stream (system.credentials peerId).isSome incoming := by
    obtain ⟨uid, _, ⟨known, same⟩ | ⟨unknown, _, same⟩⟩ := greeting
    · rw [same]
      exact stream_requests _ requests
    · rw [same]
      exact ⟨congrArg Option.isSome unknown, stream_requests _ requests⟩
  refine ⟨consistent.peers, consistent.orderly_update orderly, fun other otherPeer otherUp => ?_,
    ?_, ?_, ?_, consistent.stream_update stream⟩
  · have before := (connection other otherPeer).mp otherUp
    by_cases own : other = user
    · subst own
      have samePeer : otherPeer = peerId := by
        rw [isUp] at before
        injection before with same
        exact same.symm
      subst samePeer
      refine ⟨requests, ?_, ?_⟩
      · change Linked _ _ _ (Function.update system.servers other server other)
          (Function.update system.toServer otherPeer outgoing otherPeer) _
        rw [Function.update_self, Function.update_self]
        exact linked
      · change ∃ uid, _ ∧ (_ ∧ Function.update system.toDaemon otherPeer incoming otherPeer = _ ∨
          _ ∧ (Function.update system.servers other server other).waitingMessages ++
            Function.update system.toServer otherPeer outgoing otherPeer = [] ∧
          Function.update system.toDaemon otherPeer incoming otherPeer = _)
        rw [Function.update_self, Function.update_self, Function.update_self]
        exact greeting
    · have different : otherPeer ≠ peerId := fun same =>
        own (consistent.distinct other user peerId (same ▸ before) isUp)
      obtain ⟨otherRequests, registering⟩ := consistent.registering other otherPeer before
      exact ⟨otherRequests, registering.elsewhere own different server incoming outgoing
        system.nextPeerId⟩
  · intro first second otherPeer firstUp secondUp
    exact consistent.distinct first second otherPeer ((connection _ _).mp firstUp)
      ((connection _ _).mp secondUp)
  · intro otherPeer new
    obtain ⟨toDaemon, unknown, notUp⟩ := consistent.fresh otherPeer new
    have different : otherPeer ≠ peerId := fun same => notUp user (same ▸ isUp)
    refine ⟨?_, unknown, fun other otherUp => notUp other ((connection _ _).mp otherUp)⟩
    change Function.update system.toDaemon peerId incoming otherPeer = []
    rw [Function.update_of_ne different]
    exact toDaemon
  · intro otherPeer known
    by_cases same : otherPeer = peerId
    · exact .inl ⟨user, (connection user otherPeer).mpr (same ▸ isUp)⟩
    · change _ ∨ Function.update system.toDaemon peerId incoming otherPeer ≠ [] at known
      change (∃ other, (Function.update system.servers user server other).connection = _) ∨
        .closed ∈ Function.update system.toDaemon peerId incoming otherPeer
      rw [Function.update_of_ne same] at known ⊢
      refine (consistent.owned otherPeer known).imp_left ?_
      rintro ⟨other, otherUp⟩
      exact ⟨other, (connection other otherPeer).mpr otherUp⟩

/-- A server whose connection is not up is not known to the daemon by it. -/
theorem Consistent.setServerNotUp {system : ConsoleSystem} (consistent : Consistent system)
    {user : Uid} {server : ConsoleUserServer} (orderly : server.Orderly)
    (before : ∀ peerId, (system.servers user).connection ≠ .up peerId)
    (after : ∀ peerId, server.connection ≠ .up peerId) :
    Consistent (system.setServer user server) :=
  consistent.setServer orderly
    (fun peerId => ⟨fun isUp => absurd isUp (after peerId), fun isUp => absurd isUp (before peerId)⟩)
    (fun peerId _ isUp => absurd isUp (before peerId))

theorem notUp_iff {system : ConsoleSystem} {user : Uid} :
    system.notUp user = true ↔ ∀ peerId, (system.servers user).connection ≠ .up peerId := by
  unfold notUp
  cases (system.servers user).connection with
  | up peerId => exact ⟨nofun, fun none => absurd rfl (none peerId)⟩
  | closing => exact ⟨fun _ => nofun, fun _ => rfl⟩
  | down => exact ⟨fun _ => nofun, fun _ => rfl⟩

/-- The jobs of a client; a request goes to the connection. -/
theorem Consistent.runClientJob {system : ConsoleSystem} (consistent : Consistent system)
    (user : Uid) : Consistent (system.step (.runClientJob user)) := by
  have orderly := consistent.orderly user
  have sameConnection := ((system.servers user).runJob_connection user).1
  change Consistent ((system.setServer user ((system.servers user).runJob user).1).sendRequest
    (system.servers user).connection ((system.servers user).runJob user).2)
  cases isUp : (system.servers user).connection with
  | up peerId =>
      obtain ⟨requests, registering⟩ := consistent.registering user peerId isUp
      have step : Consistent { system.setServer user ((system.servers user).runJob user).1 with
          toDaemon := Function.update system.toDaemon peerId (system.toDaemon peerId ++
            ((system.servers user).runJob user).2.toList.map Incoming.request)
          toServer := Function.update system.toServer peerId (system.toServer peerId) } := by
        apply consistent.atConnection isUp (sameConnection.trans isUp) (orderly.runJob user)
          (registering.linked.runJob orderly isUp)
        obtain ⟨uid, owner, ⟨known, same⟩ | ⟨unknown, nothing, same⟩⟩ := registering.greeting
        · refine ⟨uid, owner, .inl ⟨known, ?_⟩⟩
          rw [same, List.map_append]
        · obtain ⟨noMessage, noneSent⟩ := List.append_eq_nil_iff.mp nothing
          refine ⟨uid, owner, .inr ⟨unknown, ?_, ?_⟩⟩
          · rw [noneSent, List.append_nil]
            exact ConsoleUserServer.runJob_messages orderly isUp user noMessage
          · rw [same, List.map_append, List.cons_append]
      rw [Function.update_eq_self] at step
      cases sent : ((system.servers user).runJob user).2 with
      | none =>
          rw [sent, Option.toList_none, List.map_nil, List.append_nil,
            Function.update_eq_self] at step
          exact step
      | some request =>
          rw [sent] at step
          exact step
  | closing =>
      exact consistent.setServerNotUp (orderly.runJob user) (isUp ▸ nofun)
        (sameConnection.trans isUp ▸ nofun)
  | down =>
      exact consistent.setServerNotUp (orderly.runJob user) (isUp ▸ nofun)
        (sameConnection.trans isUp ▸ nofun)

/-- A message that a client receives keeps the system consistent. -/
theorem Consistent.receive {system : ConsoleSystem} (consistent : Consistent system)
    (user : Uid) : Consistent (system.step (.receive user)) := by
  have orderly := consistent.orderly user
  unfold step
  dsimp only
  split
  case h_1 peerId isUp =>
    split
    · exact consistent
    case h_2 message rest underway =>
      obtain ⟨requests, registering⟩ := consistent.registering user peerId isUp
      have linked := registering.linked
      rw [underway] at linked
      have step : Consistent { system.setServer user ((system.servers user).receive message) with
          toDaemon := Function.update system.toDaemon peerId (system.toDaemon peerId)
          toServer := Function.update system.toServer peerId rest } := by
        apply consistent.atConnection isUp ?_ (orderly.receive message) (linked.receive orderly)
        · obtain ⟨uid, owner, known | ⟨_, nothing, _⟩⟩ := registering.greeting
          · exact ⟨uid, owner, .inl known⟩
          · rw [underway] at nothing
            exact absurd (List.append_eq_nil_iff.mp nothing).2 (List.cons_ne_nil _ _)
        · unfold ConsoleUserServer.receive
          split
          · split <;> exact isUp
          · exact isUp
          · exact isUp
      rw [Function.update_eq_self] at step
      exact step
  · exact consistent

/-- A new connection has a peer that no one knows. -/
theorem Consistent.connect {system : ConsoleSystem} (consistent : Consistent system)
    (user : Uid) (credentials : Bool) : Consistent (system.step (.connect user credentials)) := by
  unfold step
  dsimp only
  split
  case isFalse => exact consistent
  case isTrue canConnect =>
    have orderly := (consistent.orderly user).connect canConnect system.nextPeerId
    obtain ⟨_, unknown, unused⟩ := consistent.fresh system.nextPeerId (Nat.le_refl _)
    have isDown : (system.servers user).connection = .down := (of_decide_eq_true canConnect).1
    have noState : system.daemon.consoleUserIdChangedReceiver.peerStates.lookup
        system.nextPeerId = none := by
      cases state : system.daemon.consoleUserIdChangedReceiver.peerStates.lookup
          system.nextPeerId with
      | none => rfl
      | some known =>
          have connected := consistent.peers.connected _ _ state
          change system.credentials system.nextPeerId = _ at connected
          rw [unknown] at connected
          cases connected
    have messages : ((system.servers user).connect system.nextPeerId).waitingMessages = [] := by
      unfold ConsoleUserServer.waitingMessages ConsoleUserServer.connect ConsoleUserServer.push
      rw [ConsoleUserServer.sinceConnected_push_connected]
      rfl
    have acknowledged :
        ((system.servers user).connect system.nextPeerId).acknowledgedSince = none :=
      if_pos (List.mem_append_right _ (List.mem_singleton_self _))
    have earlier : ∀ other peerId, (system.servers other).connection = .up peerId →
        peerId < system.nextPeerId := by
      intro other peerId isUp
      by_contra notEarlier
      exact (consistent.fresh peerId (Nat.le_of_not_lt notEarlier)).2.2 other isUp
    have connection : ∀ other peerId,
        (Function.update system.servers user ((system.servers user).connect system.nextPeerId)
          other).connection = .up peerId →
        other = user ∧ peerId = system.nextPeerId ∨
          other ≠ user ∧ (system.servers other).connection = .up peerId := by
      intro other peerId isUp
      by_cases own : other = user
      · rw [own, Function.update_self] at isUp
        injection isUp with same
        exact .inl ⟨own, same.symm⟩
      · rw [Function.update_of_ne own] at isUp
        exact .inr ⟨own, isUp⟩
    refine ⟨consistent.peers, consistent.orderly_update orderly, fun other peerId isUp => ?_, ?_,
      ?_, ?_, consistent.stream_update ⟨congrArg Option.isSome unknown, trivial⟩⟩
    · rcases connection other peerId isUp with ⟨rfl, rfl⟩ | ⟨own, before⟩
      · refine ⟨[], ?_, ?_⟩
        · change Linked _ _ _ (Function.update system.servers other _ other)
            (Function.update system.toServer system.nextPeerId [] system.nextPeerId) _
          rw [Function.update_self, Function.update_self]
          refine ⟨List.nil_sublist _, ?_, fun _ known => ?_⟩
          · rw [messages, acknowledged]
            exact noState
          · change system.credentials system.nextPeerId = _ at known
            rw [unknown] at known
            cases known
        · refine ⟨if credentials then some other else none, ?_, .inr ⟨unknown, ?_, ?_⟩⟩
          · cases credentials
            · exact .inl rfl
            · exact .inr rfl
          · change (Function.update system.servers other _ other).waitingMessages ++
              Function.update system.toServer system.nextPeerId [] system.nextPeerId = []
            rw [Function.update_self, Function.update_self, messages]
            rfl
          · exact Function.update_self _ _ _
      · have different : peerId ≠ system.nextPeerId := Nat.ne_of_lt (earlier other peerId before)
        obtain ⟨requests, registering⟩ := consistent.registering other peerId before
        exact ⟨requests, registering.elsewhere own different _ _ [] (system.nextPeerId + 1)⟩
    · intro first second peerId firstUp secondUp
      rcases connection first peerId firstUp with ⟨sameFirst, peer⟩ | ⟨_, firstBefore⟩ <;>
        rcases connection second peerId secondUp with ⟨sameSecond, samePeer⟩ | ⟨_, secondBefore⟩
      · exact sameFirst.trans sameSecond.symm
      · exact absurd peer (Nat.ne_of_lt (earlier second peerId secondBefore))
      · exact absurd samePeer (Nat.ne_of_lt (earlier first peerId firstBefore))
      · exact consistent.distinct first second peerId firstBefore secondBefore
    · intro peerId new
      have new : system.nextPeerId + 1 ≤ peerId := new
      obtain ⟨toDaemon, unknownPeer, notUp⟩ := consistent.fresh peerId (Nat.le_of_succ_le new)
      have different : peerId ≠ system.nextPeerId := Nat.ne_of_gt new
      refine ⟨?_, unknownPeer, fun other isUp => ?_⟩
      · change Function.update system.toDaemon system.nextPeerId _ peerId = []
        rw [Function.update_of_ne different]
        exact toDaemon
      · rcases connection other peerId isUp with ⟨_, same⟩ | ⟨_, before⟩
        · exact different same
        · exact notUp other before
    · intro peerId known
      by_cases same : peerId = system.nextPeerId
      · refine .inl ⟨user, ?_⟩
        change (Function.update system.servers user _ user).connection = _
        rw [Function.update_self, same]
        rfl
      · change _ ∨ Function.update system.toDaemon system.nextPeerId _ peerId ≠ [] at known
        change _ ∨ .closed ∈ Function.update system.toDaemon system.nextPeerId _ peerId
        rw [Function.update_of_ne same] at known ⊢
        refine (consistent.owned peerId known).imp_left ?_
        rintro ⟨other, isUp⟩
        refine ⟨other, ?_⟩
        have own : other ≠ user := fun same => by
          rw [same, isDown] at isUp
          cases isUp
        change (Function.update system.servers user _ other).connection = _
        rw [Function.update_of_ne own]
        exact isUp

/-- A lost connection ends. -/
theorem Consistent.lose {system : ConsoleSystem} (consistent : Consistent system)
    (user : Uid) (delivered : Nat) : Consistent (system.step (.lose user delivered)) := by
  unfold step
  dsimp only
  split
  case h_2 => exact consistent
  case h_1 lost isUp =>
    have connection : ∀ other peerId,
        (Function.update system.servers user (system.servers user).lose other).connection =
            .up peerId ↔
          other ≠ user ∧ (system.servers other).connection = .up peerId := by
      intro other peerId
      by_cases own : other = user
      · rw [own, Function.update_self]
        exact ⟨nofun, fun both => absurd rfl both.1⟩
      · rw [Function.update_of_ne own]
        exact (and_iff_right own).symm
    have elsewhere : ∀ other peerId, other ≠ user →
        (system.servers other).connection = .up peerId → peerId ≠ lost := by
      intro other peerId own otherUp same
      exact own (consistent.distinct other user peerId otherUp (same ▸ isUp))
    obtain ⟨_, before⟩ := consistent.registering user lost isUp
    refine ⟨consistent.peers, consistent.orderly_update (consistent.orderly user).lose,
      fun other peerId otherUp => ?_, ?_, ?_, ?_,
      consistent.stream_update ((consistent.stream lost).lose before.isOpen delivered)⟩
    · obtain ⟨own, before⟩ := (connection other peerId).mp otherUp
      have different := elsewhere other peerId own before
      obtain ⟨requests, registering⟩ := consistent.registering other peerId before
      exact ⟨requests, registering.elsewhere own different _ _ [] system.nextPeerId⟩
    · intro first second peerId firstUp secondUp
      exact consistent.distinct first second peerId ((connection first peerId).mp firstUp).2
        ((connection second peerId).mp secondUp).2
    · intro peerId new
      obtain ⟨toDaemon, unknown, notUp⟩ := consistent.fresh peerId new
      have different : peerId ≠ lost := fun same => notUp user (same ▸ isUp)
      refine ⟨?_, unknown, fun other otherUp => notUp other ((connection other peerId).mp otherUp).2⟩
      change Function.update system.toDaemon lost _ peerId = []
      rw [Function.update_of_ne different]
      exact toDaemon
    · intro peerId known
      change _ ∨ Function.update system.toDaemon lost _ peerId ≠ [] at known
      change _ ∨ .closed ∈ Function.update system.toDaemon lost _ peerId
      by_cases same : peerId = lost
      · rw [same, Function.update_self]
        exact .inr (List.mem_append_right _ (List.mem_singleton_self _))
      · rw [Function.update_of_ne same] at known ⊢
        refine (consistent.owned peerId known).imp_left ?_
        rintro ⟨other, otherUp⟩
        have own : other ≠ user := fun own => by
          rw [own, isUp] at otherUp
          injection otherUp with samePeer
          exact same samePeer.symm
        exact ⟨other, (connection other peerId).mpr ⟨own, otherUp⟩⟩

/-! ## The daemon -/

/-- An event of the daemon, if it is right for the peer it is about. -/
theorem Consistent.event {system : ConsoleSystem} (consistent : Consistent system)
    {event : DaemonEvent Bool} {toDaemon : PeerId → List Incoming}
    (peers : (system.daemon.next event).consoleUserIdChangedReceiver.PeersKept)
    (other : ∀ peerId, peerOf event ≠ some peerId → toDaemon peerId = system.toDaemon peerId)
    (own : ∀ peerId, peerOf event = some peerId →
      let after := { system with toDaemon }.daemonEvent event
      system.toDaemon peerId ≠ [] ∧
        (∀ user, (system.servers user).connection = .up peerId →
          ∃ requests, after.Registering user peerId requests) ∧
        (after.credentials peerId ≠ none ∨ toDaemon peerId ≠ [] →
          (∃ user, (system.servers user).connection = .up peerId) ∨
            .closed ∈ toDaemon peerId) ∧
        Stream (after.credentials peerId).isSome (toDaemon peerId)) :
    Consistent ({ system with toDaemon }.daemonEvent event) := by
  refine ⟨peers, consistent.orderly, fun user peerId isUp => ?_, consistent.distinct, ?_, ?_, ?_⟩
  · by_cases about : peerOf event = some peerId
    · exact (own peerId about).2.1 user isUp
    · obtain ⟨requests, registering⟩ := consistent.registering user peerId isUp
      refine ⟨requests, registering.linked.otherEvent about, ?_⟩
      change ∃ uid, _ ∧ ((system.daemon.next event).consoleUserIdChangedReceiver.peerCredentials.lookup
          peerId = _ ∧ toDaemon peerId = _ ∨
        (system.daemon.next event).consoleUserIdChangedReceiver.peerCredentials.lookup
          peerId = _ ∧ (system.servers user).waitingMessages ++
            (system.toServer peerId ++ sentTo peerId (system.daemon.step event).2) = [] ∧
          toDaemon peerId = _)
      rw [(next_peer about).1, other peerId about]
      obtain ⟨uid, owner, known | ⟨unknown, nothing, underway⟩⟩ := registering.greeting
      · exact ⟨uid, owner, .inl known⟩
      · rcases sentTo_other about with ⟨silent, _⟩ | ⟨_, known, _⟩
        · rw [silent, List.append_nil]
          exact ⟨uid, owner, .inr ⟨unknown, nothing, underway⟩⟩
        · exact absurd unknown known
  · intro peerId new
    obtain ⟨nothing, unknown, notUp⟩ := consistent.fresh peerId new
    have about : peerOf event ≠ some peerId := fun about => (own peerId about).1 nothing
    exact ⟨(other peerId about).trans nothing, (next_peer about).1.trans unknown, notUp⟩
  · intro peerId known
    by_cases about : peerOf event = some peerId
    · exact (own peerId about).2.2.1 known
    · change (system.daemon.next event).consoleUserIdChangedReceiver.peerCredentials.lookup
        peerId ≠ none ∨ toDaemon peerId ≠ [] at known
      change _ ∨ .closed ∈ toDaemon peerId
      rw [(next_peer about).1, other peerId about] at known
      rw [other peerId about]
      exact consistent.owned peerId known
  · intro peerId
    by_cases about : peerOf event = some peerId
    · exact (own peerId about).2.2.2
    · change Stream ((system.daemon.next event).consoleUserIdChangedReceiver.peerCredentials.lookup
        peerId).isSome (toDaemon peerId)
      rw [(next_peer about).1, other peerId about]
      exact consistent.stream peerId

/-- The daemon handles a delivery. -/
theorem Consistent.serve {system : ConsoleSystem} (consistent : Consistent system)
    (peerId : PeerId) : Consistent (system.step (.serve peerId)) := by
  unfold step
  dsimp only
  split
  · exact consistent
  case h_2 incoming rest underway =>
    have stream := consistent.stream peerId
    rw [underway] at stream
    have delivers : system.toDaemon peerId ≠ [] := underway ▸ List.cons_ne_nil _ _
    have owned := consistent.owned peerId (.inr delivers)
    rw [underway] at owned
    have others : ∀ other, peerOf (eventOf peerId incoming) ≠ some other →
        Function.update system.toDaemon peerId rest other = system.toDaemon other := by
      intro other about
      have different : other ≠ peerId := fun same => about (by
        rw [same]
        cases incoming <;> rfl)
      exact Function.update_of_ne different _ _
    cases incoming with
    | connected uid =>
        obtain ⟨unknown, stream⟩ := stream
        have unknown : system.credentials peerId = none := Option.isSome_eq_false_iff.mp unknown
          |> Option.isNone_iff_eq_none.mp
        have known : (system.daemon.next (R := Bool) (.peerConnected peerId uid)
            ).consoleUserIdChangedReceiver.peerCredentials.lookup peerId = some uid :=
          AList.lookup_insert _
        refine consistent.event (peersKept_step consistent.peers _ ?_) others ?_
        · intro other otherUid same
          cases same
          exact unknown
        · intro other about
          cases about
          rw [Function.update_self]
          refine ⟨delivers, fun user isUp => ?_, fun _ => ?_, ?_⟩
          · obtain ⟨requests, registering⟩ := consistent.registering user peerId isUp
            obtain ⟨other, owner, ⟨isKnown, _⟩ | ⟨_, nothing, same⟩⟩ := registering.greeting
            · rw [unknown] at isKnown
              cases isKnown
            · rw [underway] at same
              injection same with sameUid sameRest
              injection sameUid with sameUid
              refine ⟨requests, ?_, other, owner, .inl ⟨sameUid ▸ known, ?_⟩⟩
              · exact registering.linked.serveConnected (consistent.orderly user) consistent.peers
                  unknown nothing uid
              · exact (Function.update_self _ _ _).trans sameRest
          · exact owned.imp_right fun member => by
              cases member with
              | tail _ member => exact member
          · change Stream (Option.isSome ((system.daemon.next (R := Bool)
              (.peerConnected peerId uid)).consoleUserIdChangedReceiver.peerCredentials.lookup
              peerId)) rest
            rw [known]
            exact stream
    | request onConsole =>
        have stays := congrArg (AList.lookup peerId) (next_request_credentials system.daemon peerId
          onConsole onConsole)
        refine consistent.event (peersKept_step consistent.peers _ nofun) others ?_
        intro other about
        cases about
        rw [Function.update_self]
        refine ⟨delivers, fun user isUp => ?_, fun _ => ?_, ?_⟩
        · obtain ⟨requests, registering⟩ := consistent.registering user peerId isUp
          obtain ⟨uid, owner, ⟨known, same⟩ | ⟨_, _, same⟩⟩ := registering.greeting
          · have linked := registering.linked
            rw [underway] at same
            cases requests with
            | nil => cases same
            | cons request requests =>
                injection same with sameRequest sameRest
                injection sameRequest with sameRequest
                subst sameRequest
                refine ⟨requests, linked.serveRequest (consistent.orderly user) ?_, uid, owner,
                  .inl ⟨stays.trans known, ?_⟩⟩
                · rcases owner with unknown | owner
                  · exact .inl (unknown ▸ known)
                  · exact .inr (owner ▸ known)
                · exact (Function.update_self _ _ _).trans sameRest
          · rw [underway] at same
            cases same
        · exact owned.imp_right fun member => by
            cases member with
            | tail _ member => exact member
        · change Stream (Option.isSome ((system.daemon.next
            (.requestReceived peerId onConsole onConsole)
            ).consoleUserIdChangedReceiver.peerCredentials.lookup peerId)) rest
          rw [stays]
          exact stream
    | closed =>
        have unknown := next_closed_credentials (R := Bool) system.daemon peerId
        refine consistent.event (peersKept_step consistent.peers _ nofun) others ?_
        intro other about
        cases about
        rw [Function.update_self]
        refine ⟨delivers, fun user isUp => ?_, fun known => ?_, ?_⟩
        · obtain ⟨_, registering⟩ := consistent.registering user peerId isUp
          exact absurd (underway ▸ List.mem_cons_self) registering.isOpen
        · rcases known with known | left
          · exact absurd unknown known
          · exact absurd stream left
        · rw [show rest = [] from stream]
          trivial

/-- The daemon handles something of its own. -/
theorem Consistent.daemonEvent {system : ConsoleSystem} (consistent : Consistent system)
    {event : DaemonEvent Bool} (own : peerOf event = none) :
    Consistent (system.daemonEvent event) := by
  refine consistent.event (peersKept_step consistent.peers event ?_) (fun _ _ => rfl) ?_
  · intro peerId uid same
    rw [same] at own
    cases own
  · intro peerId about
    rw [own] at about
    cases about

/-- Each step of the daemon, a client or a link keeps the system consistent. -/
theorem Consistent.step {system : ConsoleSystem} (consistent : Consistent system)
    (action : ConsoleAction) : Consistent (system.step action) := by
  cases action with
  | onConsoleChanged user onConsole =>
      refine consistent.setServer ((consistent.orderly user).onConsoleChanged onConsole)
        (fun _ => Iff.rfl) fun peerId requests _ linked => ⟨linked.onConsoleChanged onConsole, ?_⟩
      have other : ClientJob.consoleUserIdChanged onConsole ≠ .connected := nofun
      exact (ConsoleUserServer.waitingMessages_push _ other).trans (List.append_nil _)
  | runClientJob user => exact consistent.runClientJob user
  | receive user => exact consistent.receive user
  | connect user credentials => exact consistent.connect user credentials
  | lose user delivered => exact consistent.lose user delivered
  | failRequest user =>
      unfold ConsoleSystem.step
      dsimp only
      split
      case isTrue isNotUp =>
        have notUp := notUp_iff.mp isNotUp
        refine consistent.setServerNotUp ((consistent.orderly user).failRequest notUp) notUp ?_
        unfold ConsoleUserServer.failRequest
        split <;> exact notUp
      case isFalse => exact consistent
  | closed user =>
      unfold ConsoleSystem.step
      dsimp only
      split
      case isTrue closing =>
        exact consistent.setServerNotUp (consistent.orderly user).closed (closing ▸ nofun) nofun
      case isFalse => exact consistent
  | notReady user =>
      unfold ConsoleSystem.step
      dsimp only
      split
      case isTrue isNotUp =>
        have notUp := notUp_iff.mp isNotUp
        exact consistent.setServerNotUp ((consistent.orderly user).pushNotReady notUp) notUp notUp
      case isFalse => exact consistent
  | serve peerId => exact consistent.serve peerId
  | serverBound => exact consistent.daemonEvent rfl
  | runDaemonJob => exact consistent.daemonEvent rfl

/-! ## Quiescence -/

/-- No job of the server and no message of its connection is left, and nothing is underway
to the daemon. -/
def QuietFor (system : ConsoleSystem) (user : Uid) : Prop :=
  (system.servers user).jobs = [] ∧ (system.servers user).waiting = [] ∧
    (∀ peerId, (system.servers user).connection = .up peerId → system.toServer peerId = []) ∧
    ∀ peerId, system.toDaemon peerId = []

/-- At quiescence a connected client has its last value acknowledged. -/
theorem Consistent.acknowledged {system : ConsoleSystem} (consistent : Consistent system)
    {user : Uid} {peerId : PeerId} (quiet : system.QuietFor user)
    (isUp : (system.servers user).connection = .up peerId) :
    (system.servers user).acknowledged = (system.servers user).onConsole ∧
      ((system.servers user).onConsole ≠ none →
        (system.servers user).state.consoleUserIdChangedAccepted = true) := by
  obtain ⟨noJob, idle, _⟩ := quiet
  have orderly := consistent.orderly user
  have value := orderly.value
  have told := orderly.told
  have connection := orderly.connection
  rw [isUp] at connection
  rw [noJob] at value told connection
  have ready := connection.1 List.not_mem_nil
  have none : (system.servers user).unanswered = 0 := by
    unfold ConsoleUserServer.unanswered
    rw [noJob, idle]
    rfl
  have notPending :
      ¬ (system.servers user).state.pendingConsoleUserIdChangedRequest ≠ Option.none := by
    intro pending
    have one := (orderly.inFlight ready).mp (orderly.delivered ready pending)
    omega
  rcases told ready with accepted | pending | ⟨_, member⟩ | unknown
  · obtain ⟨_, _, onConsole, given, acknowledged⟩ := orderly.accepted accepted
    refine ⟨?_, fun _ => accepted⟩
    rw [acknowledged, ← given]
    exact value
  · exact absurd pending notPending
  · cases member
  · have given : (system.servers user).given = Option.none := by
      rw [← unknown]
      exact value
    rw [unknown]
    exact ⟨(orderly.unknown given).2, fun known => absurd rfl known⟩

/-- At quiescence the daemon knows whether the user of a connected server is on the
console. -/
theorem Consistent.peerState {system : ConsoleSystem} (consistent : Consistent system)
    {user : Uid} {peerId : PeerId} (quiet : system.QuietFor user)
    (isUp : (system.servers user).connection = .up peerId) :
    system.daemon.consoleUserIdChangedReceiver.peerStates.lookup peerId =
      (system.servers user).onConsole.map (PeerState.mk user) := by
  obtain ⟨acknowledged, _⟩ := consistent.acknowledged quiet isUp
  obtain ⟨noJob, _, noMessage, _⟩ := quiet
  obtain ⟨requests, registering⟩ := consistent.registering user peerId isUp
  have state := registering.linked.state
  have waiting : (system.servers user).waitingMessages = [] := by
    unfold ConsoleUserServer.waitingMessages
    rw [noJob]
    rfl
  have since : (system.servers user).acknowledgedSince = (system.servers user).acknowledged :=
    if_neg (noJob ▸ List.not_mem_nil)
  rw [waiting, noMessage peerId isUp, since, acknowledged] at state
  exact state

/-- When nothing is underway to the daemon, a peer it knows is the connection of a server,
and of the user the daemon takes it for. -/
theorem Consistent.connectionOf {system : ConsoleSystem} (consistent : Consistent system)
    {user : Uid} {peerId : PeerId} {onConsole : Bool}
    (delivered : ∀ peerId, system.toDaemon peerId = [])
    (state : system.daemon.consoleUserIdChangedReceiver.peerStates.lookup peerId =
      some ⟨user, onConsole⟩) :
    (system.servers user).connection = .up peerId := by
  have known : system.credentials peerId = some (some user) :=
    consistent.peers.connected peerId _ state
  rcases consistent.owned peerId (.inl (known ▸ nofun)) with ⟨other, isUp⟩ | ended
  · obtain ⟨requests, registering⟩ := consistent.registering other peerId isUp
    obtain ⟨uid, owner, ⟨same, _⟩ | ⟨unknown, _⟩⟩ := registering.greeting
    · rw [known] at same
      cases same
      rcases owner with nobody | owner
      · cases nobody
      · cases owner
        exact isUp
    · rw [known] at unknown
      cases unknown
  · rw [delivered] at ended
    cases ended

/-- The registration of a console user server. -/
structure Registered (system : ConsoleSystem) (user : Uid) : Prop where
  alone : (system.servers user).unanswered ≤ 1
  peerState : system.QuietFor user → ∀ peerId, (system.servers user).connection = .up peerId →
    system.daemon.consoleUserIdChangedReceiver.peerStates.lookup peerId =
      (system.servers user).onConsole.map (PeerState.mk user)
  signalled : ∀ signal ∈ (system.servers user).signalled, ∃ onConsole,
    signal.given = some onConsole ∧ signal.acknowledged = some onConsole
  messages : ((system.servers user).signalled.map BoundSignal.uid).Sublist
    (system.servers user).received
  noticed : system.QuietFor user → (system.servers user).onConsole = some true →
    system.daemon.BoundFor (some user) → (system.servers user).coreServiceDaemonClient = true

/-- In a consistent system each user is registered as the claims about the console say. -/
theorem Consistent.registered {system : ConsoleSystem} (consistent : Consistent system)
    (user : Uid) : system.Registered user where
  alone := (consistent.orderly user).atMostOne
  peerState := fun quiet _ isUp => consistent.peerState quiet isUp
  signalled := (consistent.orderly user).inTime
  messages := (List.sublist_append_left _ _).trans (consistent.orderly user).signals
  noticed := by
    intro quiet onConsole bound
    have current := consistent.peers.bound bound.1
    rw [bound.2] at current
    obtain ⟨peerId, state⟩ := (ConsoleUserIdChangedReceiver.hasOnConsolePeer_iff _ user).mp
      (consistent.peers.current user current.symm)
    have isUp := consistent.connectionOf quiet.2.2.2 state
    have accepted := (consistent.acknowledged quiet isUp).2 (onConsole ▸ nofun)
    obtain ⟨requests, registering⟩ := consistent.registering user peerId isUp
    obtain ⟨noJob, _, noMessage, delivered⟩ := quiet
    have noRequest : requests = [] := by
      obtain ⟨_, _, ⟨_, same⟩ | ⟨_, _, same⟩⟩ := registering.greeting
      · rw [delivered] at same
        exact List.map_eq_nil_iff.mp same.symm
      · rw [delivered] at same
        cases same
    rcases registering.linked.noticed bound (consistent.peers.connected peerId _ state) with
      underway | last | ⟨_, served⟩
    · exact absurd noRequest underway
    · have waiting : (system.servers user).waitingMessages = [] := by
        unfold ConsoleUserServer.waitingMessages
        rw [noJob]
        rfl
      rw [waiting, noMessage peerId isUp] at last
      cases last
    · rcases served (noJob ▸ List.not_mem_nil) accepted with client | elsewhere | ⟨_, member⟩
      · exact client
      · exact absurd onConsole elsewhere
      · rw [noJob] at member
        cases member

/-- The registration is right in every run: at most one request of a server is without an
answer; at quiescence the daemon knows of a connected server whether its user is on the
console; a signal is sent for a message, and only while the latest value given to the
client is the one acknowledged on the connection; and at quiescence the server of the user
on the console has its client if the daemon's server is bound for him. -/
theorem registration (actions : List ConsoleAction) (user : Uid) :
    (actions.foldl step initial).Registered user :=
  (Foundation.Execution.invariant_of_steps (fun _ action consistent => consistent.step action)
    consistent_initial actions).registered user

/-- A user comes to the console and his server gets its client. -/
example : (([.connect 501 true, .runClientJob 501, .onConsoleChanged 501 true, .runClientJob 501,
    .serve 0, .serve 0, .receive 501, .runClientJob 501, .runDaemonJob, .serverBound,
    .runDaemonJob, .receive 501, .runClientJob 501].foldl step initial).servers
      501).coreServiceDaemonClient = true := by decide

end ConsoleSystem

end Karabiner

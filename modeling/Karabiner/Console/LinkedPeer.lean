import Karabiner.Console.ClientJobs
import Karabiner.Console.RegisteredPeers

/-! # A server and its peer

What the daemon knows of the peer of a console user server, in terms of the messages that
are underway to the server: the state of the peer is the value of the last answer, and
the last message tells of a bound server unless the server has been told. The requests
that are underway to the daemon and the answers are those the client waits for.
-/

namespace Karabiner

namespace ConsoleUserServer

/-- What a job tells the client of its connection. -/
def underwayJob : ClientJob → Option (Outgoing Bool)
  | .received uid => some (.coreServiceDaemonServerBound uid)
  | .requestDone request true => some (.respond request)
  | _ => none

/-- The messages of the connection that wait in the jobs. -/
def waitingMessages (server : ConsoleUserServer) : List (Outgoing Bool) :=
  (sinceConnected server.jobs).filterMap underwayJob

/-- The value acknowledged on the connection. -/
def acknowledgedSince (server : ConsoleUserServer) : Option Bool :=
  if .connected ∈ server.jobs then none else server.acknowledged

/-- The value acknowledged after a message. -/
def answer (last : Option Bool) : Outgoing Bool → Option Bool
  | .respond request => some request
  | _ => last

theorem foldl_answer_of_bound {messages : List (Outgoing Bool)} {uid : Option Uid}
    (bound : ∀ message ∈ messages, message = .coreServiceDaemonServerBound uid)
    (last : Option Bool) : messages.foldl answer last = last := by
  induction messages with
  | nil => rfl
  | cons message rest ih =>
      rw [List.foldl_cons, bound message List.mem_cons_self]
      exact ih fun later member => bound later (List.mem_cons_of_mem _ member)

/-- A client whose value is acknowledged has been told of the bound server, or will be
given another value. -/
def Served (server : ConsoleUserServer) : Prop :=
  .connected ∉ server.jobs → server.state.consoleUserIdChangedAccepted = true →
    server.coreServiceDaemonClient = true ∨ server.onConsole ≠ some true ∨
      ∃ onConsole, .consoleUserIdChanged onConsole ∈ server.jobs

/-- Delivering the pending request leaves the connection and the jobs as they are, and waits for
what it sends. -/
theorem deliver_fields (server : ConsoleUserServer) :
    let result := server.deliverPendingConsoleUserIdChanged
    result.1.jobs = server.jobs ∧ result.1.connection = server.connection ∧
      result.1.acknowledged = server.acknowledged ∧
      result.1.state.consoleUserIdChangedAccepted =
        server.state.consoleUserIdChangedAccepted ∧
      result.1.waiting = server.waiting ++ result.2.toList := by
  rcases deliver_cases server with ⟨same, _⟩ | ⟨request, _, _, _, same⟩
  · rw [same]
    exact ⟨rfl, rfl, rfl, rfl, (List.append_nil _).symm⟩
  · rw [same]
    exact ⟨rfl, rfl, rfl, rfl, rfl⟩

/-- Raising the signal leaves the connection, the requests and the jobs of the client as they are.
-/
theorem notify_fields (server : ConsoleUserServer) (user : Uid) :
    let notified := server.notifyCoreServiceDaemonServerBoundIfReady user
    notified.jobs = server.jobs ∧ notified.connection = server.connection ∧
      notified.acknowledged = server.acknowledged ∧
      notified.state.consoleUserIdChangedAccepted =
        server.state.consoleUserIdChangedAccepted ∧
      notified.waiting = server.waiting := by
  rcases notify_cases server user with ⟨same, _⟩ | ⟨uid, _, _, same⟩
  · rw [same]
    exact ⟨rfl, rfl, rfl, rfl, rfl⟩
  · obtain ⟨client, bound⟩ := serverBound_cases { server with
      state := { server.state with pendingCoreServiceDaemonServerBound := none }
      signalled := server.signalled ++
        [BoundSignal.mk uid server.given server.acknowledged] } user uid
    rw [same, bound]
    exact ⟨rfl, rfl, rfl, rfl, rfl⟩

/-- A signal about the user creates the client, if he is on the console. -/
theorem notify_served {server : ConsoleUserServer} {user : Uid}
    (pending : server.state.pendingCoreServiceDaemonServerBound = some (some user)) :
    (server.notifyCoreServiceDaemonServerBoundIfReady user).Served := by
  intro _ accepted
  rcases notify_cases server user with ⟨same, notAccepted⟩ | ⟨uid, _, taken, same⟩
  · rw [same] at accepted
    rw [notAccepted accepted] at pending
    cases pending
  · rw [pending] at taken
    cases taken
    rw [same]
    unfold serverBound
    split
    · exact .inl rfl
    case isFalse elsewhere =>
      rw [not_and_or] at elsewhere
      exact .inr (.inl (elsewhere.resolve_right fun other => other rfl))

/-- A new connection asks for the value anew, if it is known. -/
theorem connected_fields (server : ConsoleUserServer) :
    server.connected.connection = server.connection ∧
      server.connected.waiting = server.waiting ∧
      server.connected.acknowledged = server.acknowledged ∧
      server.connected.state = server.state ∧
      ∃ values : List Bool, server.connected.jobs =
        server.jobs ++ values.map ClientJob.consoleUserIdChanged := by
  unfold connected
  split
  · exact ⟨rfl, rfl, rfl, rfl, [], (List.append_nil _).symm⟩
  case h_2 onConsole _ => exact ⟨rfl, rfl, rfl, rfl, [onConsole], rfl⟩

/-- A job sends at most one request, which then waits for its response, and only `connected` changes
the other jobs. -/
theorem perform_fields (server : ConsoleUserServer) (user : Uid) (job : ClientJob) :
    (server.perform user job).1.connection = server.connection ∧
      (server.perform user job).1.waiting =
        server.waiting ++ (server.perform user job).2.toList ∧
      (job ≠ .connected → (server.perform user job).1.jobs = server.jobs) := by
  cases job with
  | connected =>
      obtain ⟨connection, waiting, _⟩ := connected_fields { server with
        state := server.state.connected
        acknowledged := none }
      obtain ⟨_, sameConnection, _, _, sent⟩ := deliver_fields
        (connected { server with state := server.state.connected, acknowledged := none })
      exact ⟨sameConnection.trans connection, waiting ▸ sent, fun other => absurd rfl other⟩
  | connectionNotReady => exact ⟨rfl, (List.append_nil _).symm, fun _ => rfl⟩
  | received uid =>
      obtain ⟨jobs, connection, _, _, waiting⟩ := notify_fields { server with
        state := server.state.coreServiceDaemonServerBound uid
        received := server.received ++ [uid] } user
      exact ⟨connection, waiting.trans (List.append_nil _).symm, fun _ => jobs⟩
  | requestDone request ok =>
      cases ok with
      | false => exact ⟨rfl, (List.append_nil _).symm, fun _ => rfl⟩
      | true =>
          obtain ⟨jobs, connection, _, _, waiting⟩ := notify_fields { server with
            state := server.state.consoleUserIdChangedRequestSucceeded request
            acknowledged := some request } user
          obtain ⟨sameJobs, sameConnection, _, _, sent⟩ := deliver_fields
            (notifyCoreServiceDaemonServerBoundIfReady { server with
              state := server.state.consoleUserIdChangedRequestSucceeded request
              acknowledged := some request } user)
          exact ⟨sameConnection.trans connection, waiting ▸ sent, fun _ => sameJobs.trans jobs⟩
  | consoleUserIdChanged onConsole =>
      obtain ⟨jobs, connection, _, _, sent⟩ := deliver_fields { server with
        state := server.state.consoleUserIdChanged onConsole
        given := some onConsole }
      exact ⟨connection, sent, fun _ => jobs⟩

/-- What a job takes from the messages of the connection, and what it leaves. -/
theorem perform_messages {server : ConsoleUserServer} (orderly : Orderly server) {job : ClientJob}
    {rest : List ClientJob} {peerId : PeerId} (isUp : server.connection = .up peerId)
    (jobs : server.jobs = job :: rest) (user : Uid) :
    let after := ({ server with jobs := rest }.perform user job).1
    ∃ consumed : Option (Outgoing Bool),
      server.waitingMessages = consumed.toList ++ after.waitingMessages ∧
      after.acknowledgedSince = consumed.toList.foldl answer server.acknowledgedSince ∧
      (consumed = some (.coreServiceDaemonServerBound (some user)) ∨
        consumed = none ∧ server.Served → after.Served) := by
  intro after
  by_cases later : .connected ∈ rest
  · have notConnected : job ≠ .connected := fun same => by
      have once := orderly.once
      rw [jobs, same, List.count_cons_self] at once
      have := List.count_pos_iff.mpr later
      omega
    have afterJobs : after.jobs = rest := (perform_fields _ user job).2.2 notConnected
    refine ⟨none, ?_, ?_, fun _ absent => ?_⟩
    · unfold waitingMessages
      rw [afterJobs, jobs, sinceConnected_cons_of_mem later]
      rfl
    · unfold acknowledgedSince
      rw [afterJobs, jobs, if_pos later, if_pos (List.mem_cons_of_mem _ later)]
      rfl
    · rw [afterJobs] at absent
      exact absurd later absent
  · by_cases first : job = .connected
    · subst first
      obtain ⟨_, _, acknowledged, state, values, told⟩ := connected_fields { server with
        jobs := rest
        state := server.state.connected
        acknowledged := none }
      obtain ⟨sameJobs, _, sameAcknowledged, accepted, _⟩ := deliver_fields (connected { server with
        jobs := rest
        state := server.state.connected
        acknowledged := none })
      have afterJobs : after.jobs = rest ++ values.map ClientJob.consoleUserIdChanged :=
        sameJobs.trans told
      have absent : .connected ∉ after.jobs := by
        rw [afterJobs, List.mem_append, not_or]
        refine ⟨later, fun member => ?_⟩
        obtain ⟨_, _, same⟩ := List.mem_map.mp member
        cases same
      have silent : (values.map ClientJob.consoleUserIdChanged).filterMap underwayJob = [] := by
        rw [List.filterMap_map]
        exact List.filterMap_eq_nil_iff.mpr fun _ _ => rfl
      refine ⟨none, ?_, ?_, fun _ _ isAccepted => ?_⟩
      · unfold waitingMessages
        rw [sinceConnected_of_not_mem absent, jobs, sinceConnected_connected later, afterJobs,
          List.filterMap_append, silent, List.append_nil]
        rfl
      · unfold acknowledgedSince
        rw [if_neg absent, if_pos (jobs ▸ List.mem_cons_self)]
        exact sameAcknowledged.trans acknowledged
      · have notAccepted : after.state.consoleUserIdChangedAccepted = false :=
          accepted.trans (congrArg _ state)
        rw [notAccepted] at isAccepted
        cases isAccepted
    · have absent : .connected ∉ server.jobs := by
        rw [jobs, List.mem_cons, not_or]
        exact ⟨Ne.symm first, later⟩
      have afterJobs : after.jobs = rest := (perform_fields _ user job).2.2 first
      have before : server.waitingMessages = (underwayJob job).toList ++ after.waitingMessages := by
        unfold waitingMessages
        rw [sinceConnected_of_not_mem absent, afterJobs, sinceConnected_of_not_mem later, jobs]
        cases isMessage : underwayJob job with
        | none => exact List.filterMap_cons_none isMessage
        | some message => exact List.filterMap_cons_some isMessage
      have acknowledgedBefore : server.acknowledgedSince = server.acknowledged := if_neg absent
      have acknowledgedAfter : after.acknowledgedSince = after.acknowledged :=
        if_neg (afterJobs ▸ later)
      obtain ⟨_, noClosed, noFailed⟩ : ConnectionKept (.up peerId) _ server.jobs :=
        isUp ▸ orderly.connection
      rw [sinceConnected_of_not_mem absent, jobs] at noClosed noFailed
      refine ⟨underwayJob job, before, ?_⟩
      rw [acknowledgedBefore, acknowledgedAfter]
      cases job with
      | connected => exact absurd rfl first
      | connectionNotReady => exact absurd List.mem_cons_self noClosed
      | received uid =>
          refine ⟨(notify_fields _ user).2.2.1, fun received => ?_⟩
          rcases received with same | ⟨nothing, _⟩
          · cases same
            exact notify_served rfl
          · cases nothing
      | requestDone request ok =>
          cases ok with
          | false => exact absurd List.mem_cons_self (noFailed request)
          | true =>
              refine ⟨?_, fun received => ?_⟩
              · exact (deliver_fields _).2.2.1.trans (notify_fields _ user).2.2.1
              · rcases received with same | ⟨nothing, _⟩
                · cases same
                · cases nothing
      | consoleUserIdChanged onConsole =>
          refine ⟨(deliver_fields _).2.2.1, fun _ _ accepted => ?_⟩
          have notAccepted : after.state.consoleUserIdChangedAccepted = false :=
            (deliver_fields _).2.2.2.1
          rw [notAccepted] at accepted
          cases accepted

end ConsoleUserServer

namespace ConsoleUserServer

/-- A job adds no message. -/
theorem runJob_messages {server : ConsoleUserServer} (orderly : Orderly server) {peerId : PeerId}
    (isUp : server.connection = .up peerId) (user : Uid) (nothing : server.waitingMessages = []) :
    (server.runJob user).1.waitingMessages = [] := by
  unfold runJob
  split
  · exact nothing
  case h_2 job rest jobs =>
    obtain ⟨consumed, messages, _⟩ := perform_messages orderly isUp jobs user
    rw [nothing] at messages
    exact (List.append_eq_nil_iff.mp messages.symm).2

theorem runJob_connection (server : ConsoleUserServer) (user : Uid) :
    (server.runJob user).1.connection = server.connection ∧
      (server.runJob user).1.waiting = server.waiting ++ (server.runJob user).2.toList := by
  unfold runJob
  split
  · exact ⟨rfl, (List.append_nil _).symm⟩
  case h_2 job rest _ =>
    obtain ⟨connection, waiting, _⟩ := perform_fields { server with jobs := rest } user job
    exact ⟨connection, waiting⟩

theorem waitingMessages_push (server : ConsoleUserServer) {job : ClientJob}
    (other : job ≠ .connected) :
    (server.push job).waitingMessages = server.waitingMessages ++ (underwayJob job).toList := by
  unfold waitingMessages push
  rw [sinceConnected_push other, List.filterMap_append]
  cases isMessage : underwayJob job with
  | none => rw [List.filterMap_cons_none isMessage, Option.toList_none, List.filterMap_nil]
  | some message =>
      rw [List.filterMap_cons_some isMessage, Option.toList_some, List.filterMap_nil]

theorem connected_mem_push_iff (server : ConsoleUserServer) {job : ClientJob}
    (other : job ≠ .connected) :
    .connected ∈ (server.push job).jobs ↔ .connected ∈ server.jobs := by
  unfold push
  rw [List.mem_append, List.mem_singleton]
  exact or_iff_left other.symm

theorem acknowledgedSince_push (server : ConsoleUserServer) {job : ClientJob}
    (other : job ≠ .connected) :
    (server.push job).acknowledgedSince = server.acknowledgedSince :=
  if_congr (server.connected_mem_push_iff other) rfl rfl

end ConsoleUserServer

/-- The requests a daemon has answered in the messages. -/
def responses (messages : List (Outgoing Bool)) : List Bool :=
  messages.filterMap fun message =>
    match message with
    | .respond request => some request
    | _ => none

/-- What the daemon, a server and the connection between them agree on. `requests` is what
the daemon has yet to receive. -/
structure Linked (daemon : DaemonComponents) (user : Uid) (peerId : PeerId)
    (server : ConsoleUserServer) (toServer : List (Outgoing Bool)) (requests : List Bool) :
    Prop where
  answers : (requests ++ responses toServer).Sublist server.waiting
  state : daemon.consoleUserIdChangedReceiver.peerStates.lookup peerId =
    ((server.waitingMessages ++ toServer).foldl ConsoleUserServer.answer
      server.acknowledgedSince).map (PeerState.mk user)
  noticed : daemon.BoundFor (some user) →
    daemon.consoleUserIdChangedReceiver.peerCredentials.lookup peerId = some (some user) →
      requests ≠ [] ∨
        (server.waitingMessages ++ toServer).getLast? =
          some (.coreServiceDaemonServerBound (some user)) ∨
        (server.waitingMessages ++ toServer = [] ∧ server.Served)

namespace Linked

variable {daemon : DaemonComponents} {user : Uid} {peerId : PeerId}
  {server : ConsoleUserServer} {toServer : List (Outgoing Bool)} {requests : List Bool}

/-- At most one request is underway. -/
theorem alone (orderly : server.Orderly)
    (linked : Linked daemon user peerId server toServer requests) :
    (requests ++ responses toServer).length ≤ 1 := by
  have length := linked.answers.length_le
  have atMostOne := orderly.atMostOne
  unfold ConsoleUserServer.unanswered at atMostOne
  omega

/-- A job of the client keeps the link: what it sends joins the requests that are on their way. -/
theorem runJob (orderly : server.Orderly) (isUp : server.connection = .up peerId)
    (linked : Linked daemon user peerId server toServer requests) :
    Linked daemon user peerId (server.runJob user).1 toServer
      (requests ++ (server.runJob user).2.toList) := by
  have after := orderly.runJob user
  unfold ConsoleUserServer.runJob at after ⊢
  split at after
  · rw [Option.toList_none, List.append_nil]
    exact linked
  case h_2 job rest jobs =>
    obtain ⟨_, waiting, _⟩ := ConsoleUserServer.perform_fields
      { server with jobs := rest } user job
    obtain ⟨consumed, messages, acknowledged, served⟩ :=
      ConsoleUserServer.perform_messages orderly isUp jobs user
    refine ⟨?_, ?_, fun bound known => ?_⟩
    · rw [waiting]
      cases sent : ({ server with jobs := rest }.perform user job).2 with
      | none =>
          rw [Option.toList_none, List.append_nil, List.append_nil]
          exact linked.answers
      | some request =>
          -- The request is the only one, so nothing was underway before.
          have idle : server.waiting = [] := by
            have atMostOne := after.atMostOne
            unfold ConsoleUserServer.unanswered at atMostOne
            rw [waiting, sent, Option.toList_some, List.length_append, List.length_singleton]
              at atMostOne
            have none : server.waiting.length = 0 := by
              dsimp only at atMostOne
              omega
            exact List.eq_nil_of_length_eq_zero none
          have nothing := linked.answers
          rw [idle, List.sublist_nil, List.append_eq_nil_iff] at nothing
          rw [nothing.1, nothing.2, idle]
          exact List.Sublist.refl _
    · rw [linked.state, acknowledged, messages, List.append_assoc, List.foldl_append]
    · rcases linked.noticed bound known with underway | last | ⟨nothing, isServed⟩
      · exact .inl fun none => underway (List.append_eq_nil_iff.mp none).1
      · right
        rw [messages, List.append_assoc] at last
        by_cases left :
            ({ server with jobs := rest }.perform user job).1.waitingMessages ++ toServer = []
        · rw [left, List.append_nil] at last
          refine .inr ⟨left, served (.inl ?_)⟩
          cases consumed with
          | none => cases last
          | some message => exact last
        · rw [List.getLast?_append_of_ne_nil _ left] at last
          exact .inl last
      · right
        rw [messages, List.append_assoc, List.append_eq_nil_iff] at nothing
        refine .inr ⟨nothing.2, served (.inr ⟨?_, isServed⟩)⟩
        cases consumed with
        | none => rfl
        | some message => cases nothing.1

/-- A value waits for the client. -/
theorem onConsoleChanged (linked : Linked daemon user peerId server toServer requests)
    (onConsole : Bool) :
    Linked daemon user peerId (server.onConsoleChanged onConsole) toServer requests := by
  have other : ClientJob.consoleUserIdChanged onConsole ≠ .connected := nofun
  have messages : (server.onConsoleChanged onConsole).waitingMessages =
      server.waitingMessages :=
    (ConsoleUserServer.waitingMessages_push _ other).trans (List.append_nil _)
  have acknowledged : (server.onConsoleChanged onConsole).acknowledgedSince =
      server.acknowledgedSince := ConsoleUserServer.acknowledgedSince_push _ other
  refine ⟨linked.answers, ?_, ?_⟩
  · rw [messages, acknowledged]
    exact linked.state
  · rw [messages]
    intro bound known
    refine (linked.noticed bound known).imp_right (Or.imp_right ?_)
    rintro ⟨nothing, _⟩
    exact ⟨nothing, fun _ _ =>
      .inr (.inr ⟨onConsole, List.mem_append_right _ (List.mem_singleton_self _)⟩)⟩

/-- A message arrives. -/
theorem receive (orderly : server.Orderly) {message : Outgoing Bool}
    {rest : List (Outgoing Bool)}
    (linked : Linked daemon user peerId server (message :: rest) requests) :
    Linked daemon user peerId (server.receive message) rest requests := by
  cases message with
  | closePeer =>
      refine ⟨linked.answers, ?_, fun bound known => ?_⟩
      · have state := linked.state
        rw [List.foldl_append] at state ⊢
        exact state
      · rcases linked.noticed bound known with underway | last | ⟨nothing, _⟩
        · exact .inl underway
        · rw [List.getLast?_append_of_ne_nil _ (List.cons_ne_nil _ _)] at last
          by_cases left : rest = []
          · rw [left] at last
            cases last
          · rw [List.getLast?_cons_of_ne_nil left] at last
            refine .inr (.inl ?_)
            rw [List.getLast?_append_of_ne_nil _ left]
            exact last
        · exact absurd (List.append_eq_nil_iff.mp nothing).2 (List.cons_ne_nil _ _)
  | coreServiceDaemonServerBound uid =>
      have other : ClientJob.received uid ≠ .connected := nofun
      have messages : (server.push (.received uid)).waitingMessages ++ rest =
          server.waitingMessages ++ .coreServiceDaemonServerBound uid :: rest := by
        rw [server.waitingMessages_push other, List.append_assoc]
        rfl
      refine ⟨linked.answers, ?_, fun bound known => ?_⟩
      · change _ = (((server.push (.received uid)).waitingMessages ++ rest).foldl _
          (server.push (.received uid)).acknowledgedSince).map _
        rw [messages, server.acknowledgedSince_push other]
        exact linked.state
      · change _ ∨ ((server.push (.received uid)).waitingMessages ++ rest).getLast? = _ ∨
          (server.push (.received uid)).waitingMessages ++ rest = [] ∧ _
        rw [messages]
        refine (linked.noticed bound known).imp_right (Or.imp_right ?_)
        rintro ⟨nothing, _⟩
        exact absurd (List.append_eq_nil_iff.mp nothing).2 (List.cons_ne_nil _ _)
  | respond request =>
      have other : ClientJob.requestDone request true ≠ .connected := nofun
      have length := linked.alone orderly
      have answers : (requests ++ request :: responses rest).Sublist server.waiting :=
        linked.answers
      have waits : request ∈ server.waiting := answers.subset
        (List.mem_append_right _ List.mem_cons_self)
      have received : server.receive (.respond request) =
          { server with waiting := server.waiting.erase request }.push
            (.requestDone request true) := if_pos waits
      have nothingElse : requests ++ responses rest = [] := by
        apply List.eq_nil_of_length_eq_zero
        change (requests ++ request :: responses rest).length ≤ 1 at length
        rw [List.length_append, List.length_cons] at length
        rw [List.length_append]
        omega
      have messages : (server.receive (.respond request)).waitingMessages ++ rest =
          server.waitingMessages ++ .respond request :: rest := by
        rw [received, ConsoleUserServer.waitingMessages_push _ other, List.append_assoc]
        rfl
      refine ⟨?_, ?_, fun bound known => ?_⟩
      · rw [nothingElse]
        exact List.nil_sublist _
      · rw [messages, received, ConsoleUserServer.acknowledgedSince_push _ other]
        exact linked.state
      · rw [messages]
        refine (linked.noticed bound known).imp_right (Or.imp_right ?_)
        rintro ⟨nothing, _⟩
        exact absurd (List.append_eq_nil_iff.mp nothing).2 (List.cons_ne_nil _ _)


/-- An event about another peer. -/
theorem otherEvent (linked : Linked daemon user peerId server toServer requests)
    {event : DaemonEvent Bool} (other : DaemonComponents.peerOf event ≠ some peerId) :
    Linked (daemon.next event) user peerId server
      (toServer ++ DaemonComponents.sentTo peerId (daemon.step event).2) requests := by
  obtain ⟨credentials, states⟩ := DaemonComponents.next_peer other
  rcases DaemonComponents.sentTo_other other with
    ⟨silent, before⟩ | ⟨uid, _, told, bound, messages⟩
  · rw [silent, List.append_nil]
    refine ⟨linked.answers, states.trans linked.state, fun bound known => ?_⟩
    rw [credentials] at known
    rcases before (some user) bound with before | unknown
    · exact linked.noticed before known
    · rw [unknown] at known
      cases known
  · have noResponse : responses (DaemonComponents.sentTo peerId (daemon.step event).2) = [] := by
      apply List.filterMap_eq_nil_iff.mpr
      intro message member
      rw [messages message member]
    have noAnswer : ∀ last, (DaemonComponents.sentTo peerId (daemon.step event).2).foldl
        ConsoleUserServer.answer last = last :=
      ConsoleUserServer.foldl_answer_of_bound messages
    refine ⟨?_, ?_, fun boundUser known => ?_⟩
    · unfold responses at noResponse ⊢
      rw [List.filterMap_append, noResponse, List.append_nil]
      exact linked.answers
    · rw [states, ← List.append_assoc, List.foldl_append, noAnswer]
      exact linked.state
    · refine .inr (.inl ?_)
      have same : uid = some user := bound.2.symm.trans boundUser.2
      rw [← List.append_assoc, List.getLast?_append_of_ne_nil _ told,
        List.getLast?_eq_some_getLast told, messages _ (List.getLast_mem told), same]

/-- The daemon receives the request. -/
theorem serveRequest {onConsole : Bool} (orderly : server.Orderly)
    (linked : Linked daemon user peerId server toServer (onConsole :: requests))
    (peer : daemon.consoleUserIdChangedReceiver.peerCredentials.lookup peerId = some none ∨
      daemon.consoleUserIdChangedReceiver.peerCredentials.lookup peerId = some (some user)) :
    Linked (daemon.next (.requestReceived peerId onConsole onConsole)) user peerId server
      (toServer ++ DaemonComponents.sentTo peerId
        (daemon.step (.requestReceived peerId onConsole onConsole)).2) requests := by
  have length := linked.alone orderly
  rw [List.cons_append, List.length_cons] at length
  have nothingElse : requests ++ responses toServer = [] :=
    List.eq_nil_of_length_eq_zero (by omega)
  obtain ⟨noRequest, noResponse⟩ := List.append_eq_nil_iff.mp nothingElse
  rcases peer with refused | accepted
  · have result : daemon.consoleUserIdChangedReceiver.requestReceived peerId onConsole onConsole =
        (daemon.consoleUserIdChangedReceiver, [(peerId, .closePeer)]) := by
      unfold ConsoleUserIdChangedReceiver.requestReceived ConsoleUserIdChangedReceiver.getPeerUid
      rw [refused]
      rfl
    have next : daemon.step (.requestReceived peerId onConsole onConsole) =
        (daemon, [(peerId, .closePeer)]) := by
      unfold DaemonComponents.step
      dsimp only
      rw [result]
    unfold DaemonComponents.next
    rw [next]
    change Linked daemon user peerId server (toServer ++ []) requests
    rw [List.append_nil]
    refine ⟨?_, linked.state, fun _ known => ?_⟩
    · rw [nothingElse]
      exact List.nil_sublist _
    · rw [refused] at known
      cases known
  · have result : daemon.consoleUserIdChangedReceiver.requestReceived peerId onConsole onConsole =
        (daemon.consoleUserIdChangedReceiver.applyRequest peerId user onConsole,
          (peerId, .respond onConsole) ::
            (daemon.consoleUserIdChangedReceiver.applyRequest peerId user onConsole
              ).sendCoreServiceDaemonServerBoundIfAvailable peerId) := by
      unfold ConsoleUserIdChangedReceiver.requestReceived ConsoleUserIdChangedReceiver.getPeerUid
      rw [accepted]
      rfl
    have next : (daemon.next (.requestReceived peerId onConsole onConsole)
        ).consoleUserIdChangedReceiver =
          daemon.consoleUserIdChangedReceiver.applyRequest peerId user onConsole :=
      congrArg Prod.fst result
    have sent : DaemonComponents.sentTo peerId
        (daemon.step (.requestReceived peerId onConsole onConsole)).2 =
          .respond onConsole :: DaemonComponents.sentTo peerId
            ((daemon.consoleUserIdChangedReceiver.applyRequest peerId user onConsole
              ).sendCoreServiceDaemonServerBoundIfAvailable peerId) := by
      have outputs : (daemon.step (.requestReceived peerId onConsole onConsole)).2 =
          (peerId, .respond onConsole) ::
            (daemon.consoleUserIdChangedReceiver.applyRequest peerId user onConsole
              ).sendCoreServiceDaemonServerBoundIfAvailable peerId := congrArg Prod.snd result
      have respond : DaemonComponents.messageTo (R := Bool) peerId
          (peerId, .respond onConsole) = some (.respond onConsole) := if_pos rfl
      rw [outputs]
      exact List.filterMap_cons_some respond
    obtain ⟨states, credentials⟩ := daemon.consoleUserIdChangedReceiver.applyRequest_peers peerId
      user onConsole
    rw [DaemonComponents.sentTo_available] at sent
    rw [sent, noRequest]
    refine ⟨?_, ?_, fun bound known => ?_⟩
    · have answered : responses (toServer ++ .respond onConsole ::
          (if peerId = peerId ∧ (daemon.consoleUserIdChangedReceiver.applyRequest peerId user
              onConsole).coreServiceDaemonServerIsBound = true then
            [.coreServiceDaemonServerBound (daemon.consoleUserIdChangedReceiver.applyRequest peerId
              user onConsole).coreServiceDaemonServerBoundUid]
          else [])) = [onConsole] := by
        unfold responses at noResponse ⊢
        rw [List.filterMap_append, noResponse]
        split <;> rfl
      have answers := linked.answers
      rw [noRequest, noResponse] at answers
      rw [List.nil_append, answered]
      exact answers
    · rw [next, states, AList.lookup_insert, ← List.append_assoc, List.foldl_append]
      split <;> rfl
    · have isBound := bound.1
      have boundUid := bound.2
      rw [next] at isBound boundUid
      rw [if_pos ⟨rfl, isBound⟩, boundUid]
      refine .inr (.inl ?_)
      rw [← List.append_assoc, List.getLast?_append_of_ne_nil _ (List.cons_ne_nil _ _)]
      rfl

/-- The daemon hears of the connection. -/
theorem serveConnected (orderly : server.Orderly)
    (kept : daemon.consoleUserIdChangedReceiver.PeersKept)
    (linked : Linked daemon user peerId server toServer requests)
    (unknown : daemon.consoleUserIdChangedReceiver.peerCredentials.lookup peerId = none)
    (nothing : server.waitingMessages ++ toServer = []) (uid : Option Uid) :
    Linked (daemon.next (R := Bool) (.peerConnected peerId uid)) user peerId server
      (toServer ++ DaemonComponents.sentTo peerId
        (daemon.step (R := Bool) (.peerConnected peerId uid)).2) requests := by
  change Linked _ user peerId server (toServer ++ []) requests
  rw [List.append_nil]
  refine ⟨linked.answers, linked.state, fun _ _ => .inr (.inr ⟨nothing, fun absent accepted => ?_⟩)⟩
  -- An acknowledged value is known to the daemon, which does not know the peer.
  obtain ⟨_, _, onConsole, _, acknowledged⟩ := orderly.accepted accepted
  have state := linked.state
  have since : server.acknowledgedSince = some onConsole := (if_neg absent).trans acknowledged
  rw [nothing, since] at state
  have known := kept.connected peerId _ state
  rw [unknown] at known
  cases known

end Linked

end Karabiner

import Karabiner.Console.ConsoleUserIdChangedClient

/-! # The jobs of a client

What the jobs of `console_user_id_changed_client` keep, whatever the daemon does: at most
one request is without an answer, a ready client with a pending request has sent one, and
`core_service_daemon_server_bound` is signalled for received messages only, while the
latest value is the one acknowledged on the connection. A reconnection is known by its
`connected` job, and what came after it is about the new connection.
-/

namespace Karabiner

namespace ConsoleUserServer

/-- The jobs after the last `connected`, all if there is none. -/
def sinceConnected : List ClientJob → List ClientJob
  | [] => []
  | job :: rest =>
      if .connected ∈ rest then sinceConnected rest
      else if job = .connected then rest
      else job :: rest

theorem sinceConnected_of_not_mem {jobs : List ClientJob} (absent : .connected ∉ jobs) :
    sinceConnected jobs = jobs := by
  cases jobs with
  | nil => rfl
  | cons job rest =>
      unfold sinceConnected
      rw [if_neg (fun member => absent (List.mem_cons_of_mem _ member)),
        if_neg (fun same : job = .connected => absent (same ▸ List.mem_cons_self))]

theorem sinceConnected_cons_of_mem {job : ClientJob} {rest : List ClientJob}
    (member : .connected ∈ rest) : sinceConnected (job :: rest) = sinceConnected rest := by
  unfold sinceConnected
  rw [if_pos member]
  cases rest with
  | nil => cases member
  | cons => rfl

theorem sinceConnected_connected {rest : List ClientJob} (absent : .connected ∉ rest) :
    sinceConnected (.connected :: rest) = rest := by
  unfold sinceConnected
  rw [if_neg absent, if_pos rfl]

theorem mem_of_mem_sinceConnected {job : ClientJob} {jobs : List ClientJob}
    (member : job ∈ sinceConnected jobs) : job ∈ jobs := by
  induction jobs with
  | nil => exact member
  | cons first rest ih =>
      unfold sinceConnected at member
      split at member
      · exact List.mem_cons_of_mem _ (ih member)
      · split at member
        · exact List.mem_cons_of_mem _ member
        · exact member

theorem sinceConnected_push {job : ClientJob} (other : job ≠ .connected)
    (jobs : List ClientJob) : sinceConnected (jobs ++ [job]) = sinceConnected jobs ++ [job] := by
  induction jobs with
  | nil => exact sinceConnected_of_not_mem fun member => other (List.mem_singleton.mp member).symm
  | cons first rest ih =>
      have member_iff : .connected ∈ rest ++ [job] ↔ .connected ∈ rest := by
        rw [List.mem_append, List.mem_singleton]
        exact or_iff_left other.symm
      unfold sinceConnected
      simp only [List.cons_append, member_iff, ih]
      split
      · rfl
      · split <;> rfl

theorem sinceConnected_push_connected (jobs : List ClientJob) :
    sinceConnected (jobs ++ [.connected]) = [] := by
  induction jobs with
  | nil => exact sinceConnected_connected List.not_mem_nil
  | cons first rest ih =>
      rw [List.cons_append,
        sinceConnected_cons_of_mem (List.mem_append_right _ (List.mem_singleton_self _)), ih]

/-- The value the client was given after the jobs. -/
def valueAfter (given : Option Bool) (jobs : List ClientJob) : Option Bool :=
  jobs.foldl (fun value job =>
    match job with
    | .consoleUserIdChanged onConsole => some onConsole
    | _ => value) given

/-- A callback of a request. -/
def isDone : ClientJob → Bool
  | .requestDone _ _ => true
  | _ => false

/-- The requests whose callback has not run. -/
def unanswered (server : ConsoleUserServer) : Nat :=
  server.waiting.length + server.jobs.countP isDone

/-- What the connection says about the jobs since the last `connected`. -/
def ConnectionKept (connection : Connection) (ready : Bool) (jobs : List ClientJob) : Prop :=
  match connection with
  | .up _ =>
      (.connected ∉ jobs → ready = true) ∧ .connectionNotReady ∉ sinceConnected jobs ∧
        ∀ request, .requestDone request false ∉ sinceConnected jobs
  | .closing => True
  | .down =>
      (ready = true → .connectionNotReady ∈ jobs) ∧
        (.connected ∈ jobs → .connectionNotReady ∈ sinceConnected jobs)

/-- The jobs a connection that is up can add. -/
def ofConnection : ClientJob → Bool
  | .connected | .connectionNotReady | .requestDone _ false => false
  | _ => true

/-- A job other than `connected` keeps what the connection says, if a connection that is up can add
it. -/
theorem ConnectionKept.push {connection : Connection} {ready : Bool} {jobs : List ClientJob}
    (kept : ConnectionKept connection ready jobs) {job : ClientJob} (other : job ≠ .connected)
    (allowed : ofConnection job = true ∨ ∀ peerId, connection ≠ .up peerId) :
    ConnectionKept connection ready (jobs ++ [job]) := by
  cases connection with
  | up peerId =>
      have allowed : ofConnection job = true :=
        allowed.resolve_right fun notUp => notUp peerId rfl
      obtain ⟨isReady, noClosed, noFailed⟩ := kept
      refine ⟨fun absent => isReady fun member => absent (List.mem_append_left _ member), ?_, ?_⟩
      · rw [sinceConnected_push other]
        intro member
        rcases List.mem_append.mp member with earlier | new
        · exact noClosed earlier
        · rw [← List.mem_singleton.mp new] at allowed
          cases allowed
      · intro request member
        rw [sinceConnected_push other] at member
        rcases List.mem_append.mp member with earlier | new
        · exact noFailed request earlier
        · rw [← List.mem_singleton.mp new] at allowed
          cases allowed
  | closing => trivial
  | down =>
      refine ⟨fun isReady => List.mem_append_left _ (kept.1 isReady), fun member => ?_⟩
      rw [sinceConnected_push other]
      rcases List.mem_append.mp member with earlier | new
      · exact List.mem_append_left _ (kept.2 earlier)
      · exact absurd (List.mem_singleton.mp new).symm other

/-- A job that leaves the queue and is not about the connection. -/
theorem ConnectionKept.rest {connection : Connection} {ready : Bool} {job : ClientJob}
    {rest : List ClientJob} (kept : ConnectionKept connection ready (job :: rest))
    (allowed : ofConnection job = true) : ConnectionKept connection ready rest := by
  have other : job ≠ .connected := fun same => by
    rw [same] at allowed
    cases allowed
  have since : ∀ {later}, later ∈ sinceConnected rest → later ∈ sinceConnected (job :: rest) := by
    intro later member
    by_cases connecting : .connected ∈ rest
    · rw [sinceConnected_cons_of_mem connecting]
      exact member
    · rw [sinceConnected_of_not_mem connecting] at member
      rw [sinceConnected_of_not_mem (by
        rw [List.mem_cons, not_or]
        exact ⟨other.symm, connecting⟩)]
      exact List.mem_cons_of_mem _ member
  cases connection with
  | up peerId =>
      obtain ⟨isReady, noClosed, noFailed⟩ := kept
      refine ⟨fun absent => isReady ?_, fun member => noClosed (since member),
        fun request member => noFailed request (since member)⟩
      rw [List.mem_cons, not_or]
      exact ⟨other.symm, absent⟩
  | closing => trivial
  | down =>
      obtain ⟨notReady, closed⟩ := kept
      constructor
      · intro isReady
        rcases List.mem_cons.mp (notReady isReady) with head | member
        · rw [← head] at allowed
          cases allowed
        · exact member
      · intro connecting
        have member := closed (List.mem_cons_of_mem _ connecting)
        rw [sinceConnected_cons_of_mem connecting] at member
        exact member

/-- After `connected` the client is ready. -/
theorem ConnectionKept.connected {connection : Connection} {ready : Bool}
    {rest : List ClientJob} (kept : ConnectionKept connection ready (.connected :: rest))
    (last : .connected ∉ rest) : ConnectionKept connection true rest := by
  cases connection with
  | up peerId =>
      obtain ⟨_, noClosed, noFailed⟩ := kept
      rw [sinceConnected_connected last, ← sinceConnected_of_not_mem last] at noClosed noFailed
      exact ⟨fun _ => rfl, noClosed, noFailed⟩
  | closing => trivial
  | down =>
      have closed := kept.2 List.mem_cons_self
      rw [sinceConnected_connected last] at closed
      exact ⟨fun _ => closed, fun member => absurd member last⟩

/-- A job that makes the client not ready is from an earlier connection. -/
theorem ConnectionKept.notReady {connection : Connection} {ready : Bool} {job : ClientJob}
    {rest : List ClientJob} (kept : ConnectionKept connection ready (job :: rest))
    (other : job ≠ .connected) (refused : ofConnection job = false) :
    ConnectionKept connection false rest := by
  cases connection with
  | up peerId =>
      obtain ⟨isReady, noClosed, noFailed⟩ := kept
      have connecting : .connected ∈ rest := by
        by_contra absent
        have first : job ∈ sinceConnected (job :: rest) := by
          rw [sinceConnected_of_not_mem (by
            rw [List.mem_cons, not_or]
            exact ⟨other.symm, absent⟩)]
          exact List.mem_cons_self
        cases job with
        | connected => exact other rfl
        | connectionNotReady => exact noClosed first
        | requestDone request ok =>
            cases ok with
            | false => exact noFailed request first
            | true => cases refused
        | received uid => cases refused
        | consoleUserIdChanged onConsole => cases refused
      rw [sinceConnected_cons_of_mem connecting] at noClosed noFailed
      exact ⟨fun absent => absurd connecting absent, noClosed, noFailed⟩
  | closing => trivial
  | down =>
      refine ⟨fun isReady => (by cases isReady), fun connecting => ?_⟩
      have member := kept.2 (List.mem_cons_of_mem _ connecting)
      rw [sinceConnected_cons_of_mem connecting] at member
      exact member

/-- What holds before the pending request is delivered. -/
structure Prepared (server : ConsoleUserServer) : Prop where
  pendingGiven : ∀ onConsole,
    server.state.pendingConsoleUserIdChangedRequest = some onConsole →
      server.given = some onConsole
  accepted : server.state.consoleUserIdChangedAccepted = true →
    server.state.pendingConsoleUserIdChangedRequest = none ∧ server.unanswered = 0 ∧
      ∃ onConsole, server.given = some onConsole ∧ server.acknowledged = some onConsole
  inFlight : server.state.connectionReady = true →
    (server.state.consoleUserIdChangedRequestInFlight = true ↔ server.unanswered = 1)
  atMostOne : server.unanswered ≤ 1
  connecting : .connected ∈ server.jobs →
    server.state.connectionReady = false ∧ server.waiting = [] ∧
      ∀ request ok, .requestDone request ok ∉ sinceConnected server.jobs
  once : server.jobs.count .connected ≤ 1
  told : server.state.connectionReady = true →
    server.state.consoleUserIdChangedAccepted = true ∨
      server.state.pendingConsoleUserIdChangedRequest ≠ none ∨
      (∃ onConsole, .consoleUserIdChanged onConsole ∈ server.jobs) ∨ server.onConsole = none
  value : valueAfter server.given server.jobs = server.onConsole
  unknown : server.given = none → server.unanswered = 0 ∧ server.acknowledged = none
  signals : (server.signalled.map BoundSignal.uid ++
    server.state.pendingCoreServiceDaemonServerBound.toList).Sublist server.received
  inTime : ∀ signal ∈ server.signalled, ∃ onConsole,
    signal.given = some onConsole ∧ signal.acknowledged = some onConsole
  connection : ConnectionKept server.connection server.state.connectionReady server.jobs

/-- What holds between the jobs. -/
structure Orderly (server : ConsoleUserServer) : Prop extends Prepared server where
  delivered : server.state.connectionReady = true →
    server.state.pendingConsoleUserIdChangedRequest ≠ none →
      server.state.consoleUserIdChangedRequestInFlight = true

theorem orderly_initial : Orderly initial where
  pendingGiven := fun _ pending => by cases pending
  accepted := fun accepted => by cases accepted
  inFlight := fun ready => by cases ready
  atMostOne := Nat.zero_le 1
  connecting := fun member => absurd member List.not_mem_nil
  once := Nat.zero_le 1
  told := fun ready => by cases ready
  value := rfl
  unknown := fun _ => ⟨rfl, rfl⟩
  signals := List.Sublist.refl []
  inTime := fun _ member => absurd member List.not_mem_nil
  connection := by
    constructor
    · exact fun ready => by cases ready
    · exact fun member => absurd member List.not_mem_nil
  delivered := fun ready => by cases ready

/-! ## The two tests of the client -/

/-- The pending request is delivered, or there is none, the connection is not ready, or one is in
flight. -/
theorem deliver_cases (server : ConsoleUserServer) :
    (server.deliverPendingConsoleUserIdChanged = (server, none) ∧
      (server.state.connectionReady = true →
        server.state.pendingConsoleUserIdChangedRequest ≠ none →
        server.state.consoleUserIdChangedRequestInFlight = true)) ∨
    ∃ request, server.state.connectionReady = true ∧
      server.state.pendingConsoleUserIdChangedRequest = some request ∧
      server.state.consoleUserIdChangedRequestInFlight = false ∧
      server.deliverPendingConsoleUserIdChanged =
        ({ server with
            state := { server.state with consoleUserIdChangedRequestInFlight := true }
            waiting := server.waiting ++ [request] }, some request) := by
  unfold deliverPendingConsoleUserIdChanged
    ConsoleUserIdChangedClientState.takeConsoleUserIdChangedRequest
  by_cases held : server.state.connectionReady = false ∨
      server.state.pendingConsoleUserIdChangedRequest = none ∨
      server.state.consoleUserIdChangedRequestInFlight = true
  · left
    rw [if_pos held]
    refine ⟨rfl, fun ready pending => ?_⟩
    rcases held with notReady | nothing | inFlight
    · rw [notReady] at ready
      cases ready
    · exact absurd nothing pending
    · exact inFlight
  · right
    rw [if_neg held]
    rw [not_or, not_or] at held
    obtain ⟨ready, pending, inFlight⟩ := held
    obtain ⟨request, pending⟩ := Option.ne_none_iff_exists'.mp pending
    refine ⟨request, Bool.not_eq_false _ ▸ ready, pending, Bool.not_eq_true _ ▸ inFlight, ?_⟩
    simp only [pending]

/-- The signal of the bound server is raised once a user is accepted and a signal is pending, and
else nothing happens. -/
theorem notify_cases (server : ConsoleUserServer) (user : Uid) :
    (server.notifyCoreServiceDaemonServerBoundIfReady user = server ∧
      (server.state.consoleUserIdChangedAccepted = true →
        server.state.pendingCoreServiceDaemonServerBound = none)) ∨
    ∃ uid, server.state.consoleUserIdChangedAccepted = true ∧
      server.state.pendingCoreServiceDaemonServerBound = some uid ∧
      server.notifyCoreServiceDaemonServerBoundIfReady user =
        { server with
          state := { server.state with pendingCoreServiceDaemonServerBound := none }
          signalled := server.signalled ++
            [BoundSignal.mk uid server.given server.acknowledged] }.serverBound user uid := by
  unfold notifyCoreServiceDaemonServerBoundIfReady
    ConsoleUserIdChangedClientState.takeCoreServiceDaemonServerBoundAction
  by_cases held : server.state.consoleUserIdChangedAccepted = false ∨
      server.state.pendingCoreServiceDaemonServerBound = none
  · left
    rw [if_pos held]
    refine ⟨rfl, fun accepted => ?_⟩
    rcases held with notAccepted | nothing
    · rw [notAccepted] at accepted
      cases accepted
    · exact nothing
  · right
    rw [if_neg held]
    rw [not_or] at held
    obtain ⟨accepted, pending⟩ := held
    obtain ⟨uid, pending⟩ := Option.ne_none_iff_exists'.mp pending
    refine ⟨uid, Bool.not_eq_false _ ▸ accepted, pending, ?_⟩
    rw [pending]

/-- After the delivery a pending request is in flight. -/
theorem Prepared.deliver {server : ConsoleUserServer} (prepared : Prepared server) :
    Orderly server.deliverPendingConsoleUserIdChanged.1 := by
  rcases deliver_cases server with ⟨same, delivered⟩ | ⟨request, ready, pending, free, same⟩
  · rw [same]
    exact ⟨prepared, delivered⟩
  · rw [same]
    -- Nothing is unanswered when nothing is in flight, so the request is the only one.
    have none : server.unanswered = 0 := by
      have one : server.unanswered ≠ 1 := fun one => by
        have inFlight := (prepared.inFlight ready).mpr one
        rw [free] at inFlight
        cases inFlight
      have := prepared.atMostOne
      omega
    have one : ConsoleUserServer.unanswered { server with
        state := { server.state with consoleUserIdChangedRequestInFlight := true }
        waiting := server.waiting ++ [request] } = 1 := by
      unfold unanswered at none ⊢
      dsimp only
      rw [List.length_append, List.length_singleton]
      omega
    have notConnecting : .connected ∉ server.jobs := fun member => by
      have notReady := (prepared.connecting member).1
      rw [ready] at notReady
      cases notReady
    refine ⟨⟨prepared.pendingGiven, ?_, fun _ => ⟨fun _ => one, fun _ => rfl⟩, Nat.le_of_eq one,
      fun member => absurd member notConnecting, prepared.once, prepared.told, prepared.value,
      ?_, prepared.signals, prepared.inTime, prepared.connection⟩, fun _ _ => rfl⟩
    · intro accepted
      have nothing := (prepared.accepted accepted).1
      rw [pending] at nothing
      cases nothing
    · intro unknown
      have given := prepared.pendingGiven request pending
      change server.given = Option.none at unknown
      rw [unknown] at given
      cases given

theorem serverBound_cases (server : ConsoleUserServer) (user : Uid) (uid : Option Uid) :
    ∃ coreServiceDaemonClient,
      server.serverBound user uid = { server with coreServiceDaemonClient } := by
  unfold serverBound
  split
  · exact ⟨true, rfl⟩
  · exact ⟨server.coreServiceDaemonClient, rfl⟩

/-- A signal takes the notification that the last message left. -/
theorem Prepared.notify {server : ConsoleUserServer} (prepared : Prepared server) (user : Uid) :
    Prepared (server.notifyCoreServiceDaemonServerBoundIfReady user) := by
  rcases notify_cases server user with ⟨same, _⟩ | ⟨uid, accepted, pending, same⟩
  · rw [same]
    exact prepared
  · obtain ⟨client, bound⟩ := serverBound_cases { server with
      state := { server.state with pendingCoreServiceDaemonServerBound := none }
      signalled := server.signalled ++
        [BoundSignal.mk uid server.given server.acknowledged] } user uid
    rw [same, bound]
    refine ⟨prepared.pendingGiven, prepared.accepted, prepared.inFlight, prepared.atMostOne,
      prepared.connecting, prepared.once, prepared.told, prepared.value, prepared.unknown, ?_, ?_,
      prepared.connection⟩
    · have signals := prepared.signals
      rw [pending] at signals
      change ((server.signalled ++ _).map _ ++ []).Sublist _
      rw [List.map_append, List.append_nil]
      exact signals
    · intro signal member
      rcases List.mem_append.mp member with earlier | new
      · exact prepared.inTime signal earlier
      · rw [List.mem_singleton.mp new]
        exact (prepared.accepted accepted).2.2

theorem Orderly.notify {server : ConsoleUserServer} (orderly : Orderly server) (user : Uid) :
    Orderly (server.notifyCoreServiceDaemonServerBoundIfReady user) := by
  refine ⟨orderly.toPrepared.notify user, ?_⟩
  rcases notify_cases server user with ⟨same, _⟩ | ⟨uid, _, _, same⟩
  · rw [same]
    exact orderly.delivered
  · obtain ⟨client, bound⟩ := serverBound_cases { server with
      state := { server.state with pendingCoreServiceDaemonServerBound := none }
      signalled := server.signalled ++
        [BoundSignal.mk uid server.given server.acknowledged] } user uid
    rw [same, bound]
    exact orderly.delivered

/-! ## The jobs -/

/-- What the first job leaves of the tests that look at the jobs. -/
theorem Orderly.rest {server : ConsoleUserServer} (orderly : Orderly server) {job : ClientJob}
    {rest : List ClientJob} (jobs : server.jobs = job :: rest) :
    (.connected ∈ rest → server.state.connectionReady = false ∧ server.waiting = [] ∧
      ∀ request ok, .requestDone request ok ∉ sinceConnected rest) ∧
    rest.count .connected ≤ 1 := by
  constructor
  · intro member
    have connecting := orderly.connecting (jobs ▸ List.mem_cons_of_mem _ member)
    rw [jobs, sinceConnected_cons_of_mem member] at connecting
    exact connecting
  · have once := orderly.once
    rw [jobs] at once
    exact Nat.le_trans ((List.sublist_cons_self job rest).count_le _) once

/-- Performing `connected` keeps the state orderly: what was given is to be sent anew. -/
theorem Orderly.performConnected {server : ConsoleUserServer} (orderly : Orderly server)
    {rest : List ClientJob} (jobs : server.jobs = .connected :: rest) (user : Uid) :
    Orderly ({ server with jobs := rest }.perform user .connected).1 := by
  have member : .connected ∈ server.jobs := jobs ▸ List.mem_cons_self
  have last : .connected ∉ rest := by
    have once := orderly.once
    rw [jobs, List.count_cons_self] at once
    exact List.count_eq_zero.mp (by omega)
  obtain ⟨_, idle, noneDone⟩ := orderly.connecting member
  rw [jobs, sinceConnected_connected last] at noneDone
  have unansweredRest : rest.countP isDone = 0 := by
    rw [List.countP_eq_zero]
    intro job inside
    cases job with
    | requestDone request ok => exact absurd inside (noneDone request ok)
    | _ => exact Bool.false_ne_true
  have connection := orderly.connection
  rw [jobs] at connection
  have connection := connection.connected last
  have value := orderly.value
  rw [jobs] at value
  have signals : (server.signalled.map BoundSignal.uid ++ []).Sublist server.received :=
    (List.Sublist.append_left (List.nil_sublist _) _).trans orderly.signals
  have unknown : server.given = none → server.waiting.length + rest.countP isDone = 0 ∧
      (none : Option Bool) = none := fun _ => ⟨by rw [idle, unansweredRest]; rfl, rfl⟩
  have atMostOne : server.waiting.length + rest.countP isDone ≤ 1 := by
    rw [idle, unansweredRest]
    exact Nat.zero_le 1
  have inFlight : false = true ↔ server.waiting.length + rest.countP isDone = 1 := by
    rw [idle, unansweredRest]
    decide
  apply Prepared.deliver
  unfold connected
  split
  case h_1 notKnown =>
    exact ⟨orderly.pendingGiven, nofun, fun _ => inFlight, atMostOne,
      fun member => absurd member last, (orderly.rest jobs).2,
      fun _ => .inr (.inr (.inr notKnown)), value, unknown, signals, orderly.inTime,
      connection⟩
  case h_2 onConsole known =>
    have told : (rest ++ [ClientJob.consoleUserIdChanged onConsole]).countP isDone =
        rest.countP isDone := by
      rw [List.countP_append]
      rfl
    have countConnected :
        (rest ++ [ClientJob.consoleUserIdChanged onConsole]).count ClientJob.connected =
          rest.count ClientJob.connected := by
      rw [List.count_append]
      rfl
    refine ⟨orderly.pendingGiven, nofun, fun _ => ?_, ?_, fun member => ?_, ?_, fun _ => ?_, ?_,
      fun _ => ?_, signals, orderly.inTime, connection.push nofun (.inl rfl)⟩
    · change false = true ↔ server.waiting.length + (rest ++ [_]).countP isDone = 1
      rw [told]
      exact inFlight
    · change server.waiting.length + (rest ++ [_]).countP isDone ≤ 1
      rw [told]
      exact atMostOne
    · rcases List.mem_append.mp member with earlier | new
      · exact absurd earlier last
      · cases List.mem_singleton.mp new
    · change (rest ++ [_]).count ClientJob.connected ≤ 1
      rw [countConnected]
      exact (orderly.rest jobs).2
    · exact .inr (.inr (.inl ⟨onConsole, List.mem_append_right _ (List.mem_singleton_self _)⟩))
    · change valueAfter server.given (rest ++ [_]) = server.onConsole
      unfold valueAfter
      rw [List.foldl_append]
      exact known.symm
    · change server.waiting.length + (rest ++ [_]).countP isDone = 0 ∧ none = none
      rw [told, idle, unansweredRest]
      exact ⟨rfl, rfl⟩

/-- The jobs of `closed` and of a failed request. -/
theorem Orderly.performNotReady {server : ConsoleUserServer} (orderly : Orderly server)
    {job : ClientJob} {rest : List ClientJob} (jobs : server.jobs = job :: rest)
    (refused : job = .connectionNotReady ∨ ∃ request, job = .requestDone request false) :
    Orderly { server with
      jobs := rest
      state := server.state.connectionNotReady
      acknowledged := none } := by
  have other : job ≠ .connected ∧ ofConnection job = false ∧
      ∀ given, valueAfter given (job :: rest) = valueAfter given rest := by
    rcases refused with same | ⟨request, same⟩ <;> rw [same] <;> exact ⟨nofun, rfl, fun _ => rfl⟩
  have fewer : server.waiting.length + rest.countP isDone ≤ server.unanswered := by
    unfold unanswered
    rw [jobs, List.countP_cons]
    omega
  have connection := orderly.connection
  rw [jobs] at connection
  have value := orderly.value
  rw [jobs, other.2.2] at value
  have signals : (server.signalled.map BoundSignal.uid ++ []).Sublist server.received :=
    (List.Sublist.append_left (List.nil_sublist _) _).trans orderly.signals
  exact ⟨⟨orderly.pendingGiven, nofun, nofun, Nat.le_trans fewer orderly.atMostOne,
    fun member => ⟨rfl, ((orderly.rest jobs).1 member).2⟩, (orderly.rest jobs).2, nofun, value,
    fun unknown => ⟨Nat.le_zero.mp ((orderly.unknown unknown).1 ▸ fewer), rfl⟩, signals,
    orderly.inTime, connection.notReady other.1 other.2.1⟩, nofun⟩

/-- A message is noted. -/
theorem Orderly.performReceived {server : ConsoleUserServer} (orderly : Orderly server)
    {uid : Option Uid} {rest : List ClientJob} (jobs : server.jobs = .received uid :: rest)
    (user : Uid) : Orderly ({ server with jobs := rest }.perform user (.received uid)).1 := by
  have same : server.unanswered = server.waiting.length + rest.countP isDone := by
    unfold unanswered
    rw [jobs]
    rfl
  have told : (∃ onConsole, .consoleUserIdChanged onConsole ∈ server.jobs) →
      ∃ onConsole, .consoleUserIdChanged onConsole ∈ rest := by
    rintro ⟨onConsole, member⟩
    rw [jobs] at member
    cases member with
    | tail _ member => exact ⟨onConsole, member⟩
  have value := orderly.value
  have connection := orderly.connection
  rw [jobs] at value connection
  have accepted := orderly.accepted
  have inFlight := orderly.inFlight
  have atMostOne := orderly.atMostOne
  have unknown := orderly.unknown
  rw [same] at accepted inFlight atMostOne unknown
  apply Orderly.notify
  refine ⟨⟨orderly.pendingGiven, accepted, inFlight, atMostOne, (orderly.rest jobs).1,
    (orderly.rest jobs).2,
    fun ready => (orderly.told ready).imp_right (Or.imp_right (Or.imp_left told)), value,
    unknown, ?_, orderly.inTime, connection.rest rfl⟩, orderly.delivered⟩
  exact List.Sublist.append ((List.sublist_append_left _ _).trans orderly.signals)
    (List.Sublist.refl [uid])

/-- A value is given to the client, which forgets what it was told for the last one. -/
theorem Orderly.performConsoleUserIdChanged {server : ConsoleUserServer}
    (orderly : Orderly server) {onConsole : Bool} {rest : List ClientJob}
    (jobs : server.jobs = .consoleUserIdChanged onConsole :: rest) (user : Uid) :
    Orderly ({ server with jobs := rest }.perform user (.consoleUserIdChanged onConsole)).1 := by
  have same : server.unanswered = server.waiting.length + rest.countP isDone := by
    unfold unanswered
    rw [jobs]
    rfl
  have value := orderly.value
  have connection := orderly.connection
  rw [jobs] at value connection
  apply Prepared.deliver
  have signals : (server.signalled.map BoundSignal.uid ++ []).Sublist server.received :=
    (List.Sublist.append_left (List.nil_sublist _) _).trans orderly.signals
  have inFlight := orderly.inFlight
  have atMostOne := orderly.atMostOne
  rw [same] at inFlight atMostOne
  exact ⟨fun _ => id, nofun, inFlight, atMostOne,
    (orderly.rest jobs).1, (orderly.rest jobs).2, fun _ => .inr (.inl nofun), value, nofun,
    signals, orderly.inTime, connection.rest rfl⟩

/-- An answer accepts the pending value if it is about an equal one. -/
theorem Orderly.performRequestDone {server : ConsoleUserServer} (orderly : Orderly server)
    {request : Bool} {rest : List ClientJob}
    (jobs : server.jobs = .requestDone request true :: rest) (user : Uid) :
    Orderly ({ server with jobs := rest }.perform user (.requestDone request true)).1 := by
  have one : server.unanswered = server.waiting.length + rest.countP isDone + 1 := by
    unfold unanswered
    rw [jobs, List.countP_cons_of_pos rfl]
    rfl
  have noneLeft : server.waiting.length + rest.countP isDone = 0 := by
    have := orderly.atMostOne
    omega
  have notAccepted : server.state.consoleUserIdChangedAccepted = false := by
    by_contra accepted
    have none := (orderly.accepted (Bool.not_eq_false _ ▸ accepted)).2.1
    omega
  have told : (∃ onConsole, .consoleUserIdChanged onConsole ∈ server.jobs) →
      ∃ onConsole, .consoleUserIdChanged onConsole ∈ rest := by
    rintro ⟨onConsole, member⟩
    rw [jobs] at member
    cases member with
    | tail _ member => exact ⟨onConsole, member⟩
  have value := orderly.value
  have connection := orderly.connection
  rw [jobs] at value connection
  have known : server.given ≠ none := fun unknown => by
    have := (orderly.unknown unknown).1
    omega
  apply Prepared.deliver
  apply Prepared.notify
  unfold ConsoleUserIdChangedClientState.consoleUserIdChangedRequestSucceeded
  dsimp only
  split
  case isTrue equal =>
    refine ⟨nofun, fun _ => ⟨rfl, noneLeft, request, orderly.pendingGiven request equal, rfl⟩, ?_,
      ?_, (orderly.rest jobs).1, (orderly.rest jobs).2, fun _ => .inl rfl, value,
      fun unknown => absurd unknown known, orderly.signals, orderly.inTime, connection.rest rfl⟩
    · intro _
      constructor
      · exact nofun
      · intro one
        change server.waiting.length + rest.countP isDone = 1 at one
        omega
    · change server.waiting.length + rest.countP isDone ≤ 1
      omega
  case isFalse other =>
    refine ⟨orderly.pendingGiven, fun accepted => ?_, ?_, ?_, (orderly.rest jobs).1,
      (orderly.rest jobs).2,
      fun ready => (orderly.told ready).imp_right (Or.imp_right (Or.imp_left told)), value,
      fun unknown => absurd unknown known, orderly.signals, orderly.inTime, connection.rest rfl⟩
    · change server.state.consoleUserIdChangedAccepted = true at accepted
      rw [notAccepted] at accepted
      cases accepted
    · intro _
      constructor
      · exact nofun
      · intro one
        change server.waiting.length + rest.countP isDone = 1 at one
        omega
    · change server.waiting.length + rest.countP isDone ≤ 1
      omega

/-- Every job of the client keeps the order. -/
theorem Orderly.runJob {server : ConsoleUserServer} (orderly : Orderly server) (user : Uid) :
    Orderly (server.runJob user).1 := by
  unfold ConsoleUserServer.runJob
  split
  · exact orderly
  case h_2 job rest jobs =>
    cases job with
    | connected => exact orderly.performConnected jobs user
    | connectionNotReady => exact orderly.performNotReady jobs (.inl rfl)
    | received uid => exact orderly.performReceived jobs user
    | requestDone request ok =>
        cases ok with
        | true => exact orderly.performRequestDone jobs user
        | false => exact orderly.performNotReady jobs (.inr ⟨request, rfl⟩)
    | consoleUserIdChanged onConsole => exact orderly.performConsoleUserIdChanged jobs user

/-! ## What the connection and the session add -/

/-- A job that is not about a value or a new connection. -/
theorem Orderly.push {server : ConsoleUserServer} (orderly : Orderly server) {job : ClientJob}
    {waiting : List Bool} (other : job ≠ .connected)
    (noValue : ∀ given, valueAfter given [job] = given)
    (moved : waiting.length + [job].countP isDone = server.waiting.length)
    (allowed : ofConnection job = true ∨ ∀ peerId, server.connection ≠ .up peerId) :
    Orderly ({ server with waiting }.push job) := by
  have same : ConsoleUserServer.unanswered ({ server with waiting }.push job) =
      server.unanswered := by
    unfold unanswered ConsoleUserServer.push
    dsimp only
    rw [List.countP_append]
    omega
  have connecting : .connected ∈ server.jobs ++ [job] → .connected ∈ server.jobs := by
    intro member
    rcases List.mem_append.mp member with earlier | new
    · exact earlier
    · exact absurd (List.mem_singleton.mp new).symm other
  refine ⟨⟨orderly.pendingGiven, ?_, ?_, ?_, fun member => ?_, ?_, fun ready => ?_, ?_, ?_,
    orderly.signals, orderly.inTime, orderly.connection.push other allowed⟩, orderly.delivered⟩
  · rw [same]
    exact orderly.accepted
  · rw [same]
    exact orderly.inFlight
  · rw [same]
    exact orderly.atMostOne
  · obtain ⟨notReady, idle, noneDone⟩ := orderly.connecting (connecting member)
    rw [idle, List.length_nil] at moved
    have nothing : waiting.length = 0 := by omega
    refine ⟨notReady, List.eq_nil_of_length_eq_zero nothing, fun request ok member => ?_⟩
    have pushed : .requestDone request ok ∈ sinceConnected (server.jobs ++ [job]) := member
    rw [sinceConnected_push other] at pushed
    rcases List.mem_append.mp pushed with earlier | new
    · exact noneDone request ok earlier
    · rw [← List.mem_singleton.mp new] at moved
      have one : [ClientJob.requestDone request ok].countP isDone = 1 := rfl
      omega
  · change (server.jobs ++ [job]).count ClientJob.connected ≤ 1
    rw [List.count_append, List.count_singleton, if_neg (by simpa using other)]
    exact orderly.once
  · refine (orderly.told ready).imp_right (Or.imp_right (Or.imp_left ?_))
    rintro ⟨onConsole, member⟩
    exact ⟨onConsole, List.mem_append_left _ member⟩
  · change valueAfter server.given (server.jobs ++ [job]) = server.onConsole
    rw [← orderly.value]
    unfold valueAfter at noValue ⊢
    rw [List.foldl_append]
    exact noValue _
  · rw [same]
    exact orderly.unknown

/-- The session says whether its user is on the console. -/
theorem Orderly.onConsoleChanged {server : ConsoleUserServer} (orderly : Orderly server)
    (onConsole : Bool) : Orderly (server.onConsoleChanged onConsole) := by
  have same : ConsoleUserServer.unanswered (server.onConsoleChanged onConsole) =
      server.unanswered := by
    unfold unanswered ConsoleUserServer.onConsoleChanged ConsoleUserServer.push
    dsimp only
    rw [List.countP_append]
    rfl
  have told : .consoleUserIdChanged onConsole ∈ server.jobs ++ [.consoleUserIdChanged onConsole] :=
    List.mem_append_right _ (List.mem_singleton_self _)
  refine ⟨⟨orderly.pendingGiven, ?_, ?_, ?_, fun member => ?_, ?_,
    fun _ => .inr (.inr (.inl ⟨onConsole, told⟩)), ?_, ?_, orderly.signals, orderly.inTime,
    orderly.connection.push nofun (.inl rfl)⟩, orderly.delivered⟩
  · rw [same]
    exact orderly.accepted
  · rw [same]
    exact orderly.inFlight
  · rw [same]
    exact orderly.atMostOne
  · have connecting : .connected ∈ server.jobs := by
      rcases List.mem_append.mp member with earlier | new
      · exact earlier
      · cases List.mem_singleton.mp new
    obtain ⟨notReady, idle, noneDone⟩ := orderly.connecting connecting
    refine ⟨notReady, idle, fun request ok member => ?_⟩
    have pushed : .requestDone request ok ∈
        sinceConnected (server.jobs ++ [.consoleUserIdChanged onConsole]) := member
    have other : ClientJob.consoleUserIdChanged onConsole ≠ .connected := nofun
    rw [sinceConnected_push other] at pushed
    rcases List.mem_append.mp pushed with earlier | new
    · exact noneDone request ok earlier
    · cases List.mem_singleton.mp new
  · change (server.jobs ++ [_]).count ClientJob.connected ≤ 1
    rw [List.count_append]
    exact orderly.once
  · change valueAfter server.given (server.jobs ++ [_]) = some onConsole
    unfold valueAfter
    rw [List.foldl_append]
    rfl
  · rw [same]
    exact orderly.unknown

/-- At a new connection the jobs of the last one have run. -/
theorem Orderly.connect {server : ConsoleUserServer} (orderly : Orderly server)
    (canConnect : server.canConnect = true) (peerId : PeerId) :
    Orderly (server.connect peerId) := by
  have canConnect := of_decide_eq_true canConnect
  obtain ⟨isDown, idle, noneClosed⟩ := canConnect
  have connection := orderly.connection
  rw [isDown] at connection
  have notReady : server.state.connectionReady = false := by
    by_contra ready
    exact noneClosed (connection.1 (Bool.not_eq_false _ ▸ ready))
  have noneConnected : .connected ∉ server.jobs := fun member =>
    noneClosed (mem_of_mem_sinceConnected (connection.2 member))
  have same : ConsoleUserServer.unanswered (server.connect peerId) = server.unanswered := by
    unfold unanswered ConsoleUserServer.connect ConsoleUserServer.push
    dsimp only
    rw [List.countP_append]
    rfl
  have contradict : ∀ {P : Prop}, server.state.connectionReady = true → P := fun ready => by
    rw [notReady] at ready
    cases ready
  refine ⟨⟨orderly.pendingGiven, ?_, fun ready => contradict ready, ?_, fun _ => ⟨notReady, idle, ?_⟩,
    ?_, fun ready => contradict ready, ?_, ?_, orderly.signals, orderly.inTime, ?_⟩,
    orderly.delivered⟩
  · rw [same]
    exact orderly.accepted
  · rw [same]
    exact orderly.atMostOne
  · intro request ok member
    have pushed : .requestDone request ok ∈ sinceConnected (server.jobs ++ [.connected]) := member
    rw [sinceConnected_push_connected] at pushed
    cases pushed
  · change (server.jobs ++ [ClientJob.connected]).count ClientJob.connected ≤ 1
    rw [List.count_append, List.count_eq_zero.mpr noneConnected]
    exact Nat.le_refl 1
  · change valueAfter server.given (server.jobs ++ [.connected]) = server.onConsole
    rw [← orderly.value]
    unfold valueAfter
    rw [List.foldl_append]
    rfl
  · rw [same]
    exact orderly.unknown
  · change ConnectionKept (.up peerId) server.state.connectionReady (server.jobs ++ [.connected])
    refine ⟨fun absent => ?_, ?_, ?_⟩
    · exact absurd (List.mem_append_right _ (List.mem_singleton_self _)) absent
    · rw [sinceConnected_push_connected]
      exact List.not_mem_nil
    · rw [sinceConnected_push_connected]
      exact fun _ => List.not_mem_nil

theorem Orderly.lose {server : ConsoleUserServer} (orderly : Orderly server) :
    Orderly server.lose :=
  ⟨{ orderly.toPrepared with connection := trivial }, orderly.delivered⟩

/-- The job that makes the client not ready, when the connection has failed. -/
theorem Orderly.pushNotReady {server : ConsoleUserServer} (orderly : Orderly server)
    (notUp : ∀ peerId, server.connection ≠ .up peerId) :
    Orderly (server.push .connectionNotReady) :=
  orderly.push nofun (fun _ => rfl) rfl (.inr notUp)

theorem Orderly.closed {server : ConsoleUserServer} (orderly : Orderly server) :
    Orderly server.closed := by
  have pushed := orderly.lose.pushNotReady nofun
  refine ⟨{ pushed.toPrepared with connection := ?_ }, pushed.delivered⟩
  constructor
  · exact fun _ => List.mem_append_right _ (List.mem_singleton_self _)
  · intro _
    change .connectionNotReady ∈ sinceConnected (server.jobs ++ [.connectionNotReady])
    have other : ClientJob.connectionNotReady ≠ .connected := nofun
    rw [sinceConnected_push other]
    exact List.mem_append_right _ (List.mem_singleton_self _)

theorem Orderly.failRequest {server : ConsoleUserServer} (orderly : Orderly server)
    (notUp : ∀ peerId, server.connection ≠ .up peerId) : Orderly server.failRequest := by
  unfold ConsoleUserServer.failRequest
  split
  · exact orderly
  · exact orderly.push nofun (fun _ => rfl) (by rw [‹server.waiting = _›]; rfl) (.inr notUp)

theorem Orderly.receive {server : ConsoleUserServer} (orderly : Orderly server)
    (message : Outgoing Bool) : Orderly (server.receive message) := by
  cases message with
  | respond request =>
      change Orderly (if request ∈ server.waiting then _ else server)
      split
      case isTrue member =>
        refine orderly.push nofun (fun _ => rfl) ?_ (.inl rfl)
        have length := List.length_erase_add_one member
        exact length
      case isFalse => exact orderly
  | coreServiceDaemonServerBound uid =>
      exact orderly.push nofun (fun _ => rfl) rfl (.inl rfl)
  | closePeer => exact orderly

end ConsoleUserServer

end Karabiner

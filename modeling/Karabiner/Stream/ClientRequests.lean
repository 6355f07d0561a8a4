import Karabiner.Stream.Client
import Mathlib.Data.List.Count
import Mathlib.Data.List.Induction
import Mathlib.Data.List.Nodup
import Mathlib.Data.List.Perm.Basic

/-! # The requests of a client

A callback given to `async_request` waits in a post, then among the pending requests, then in a job
of the dispatcher, which calls it. In every run it is called at most once, it is in exactly one of
these places as long as the ids do not wrap around, and the data that it is called with are those of
a response to its own request, over the connection that it was sent over
(`StreamClient.called_once`).
-/

namespace Karabiner

/-- The callback that a post is to send a request for. -/
def ClientPost.asks : ClientPost → Option Nat
  | request callback => some callback
  | _ => none

/-- The callback that a job calls. -/
def StreamClientJob.calls : StreamClientJob → Option Nat
  | callback asker _ => some asker
  | _ => none

namespace StreamClient

variable {c next : StreamClient}

/-- The callbacks, wherever they are. -/
def callbacks (c : StreamClient) : List Nat :=
  c.posts.filterMap ClientPost.asks ++ (c.pendingRequests.map PendingRequest.callback ++
    (c.jobs.filterMap StreamClientJob.calls ++ c.answers.map Prod.fst))

theorem count_callbacks (c : StreamClient) (callback : Nat) :
    c.callbacks.count callback =
      (c.posts.filterMap ClientPost.asks).count callback +
        ((c.pendingRequests.map PendingRequest.callback).count callback +
          ((c.jobs.filterMap StreamClientJob.calls).count callback +
            (c.answers.map Prod.fst).count callback)) := by
  simp only [callbacks, List.count_append]

/-- A response to the request of a callback has come over the connection of the request. -/
def Responded (c : StreamClient) (callback : Nat) (data : List UInt8) : Prop :=
  ∃ connection request, (connection, request) ∈ c.requests ∧ request.callback = callback ∧
    (connection, request.id, data) ∈ c.responses

theorem Responded.mono {callback : Nat} {data : List UInt8} (responded : c.Responded callback data)
    (requests : c.requests ⊆ next.requests) (responses : c.responses ⊆ next.responses) :
    next.Responded callback data := by
  obtain ⟨connection, request, isSent, isOwn, isSignalled⟩ := responded
  exact ⟨connection, request, requests isSent, isOwn, responses isSignalled⟩

/-- No callback is in two places, and none is lost before the ids wrap around. -/
structure Accounted (c : StreamClient) : Prop where
  atMost : ∀ callback, c.callbacks.count callback ≤ (List.range c.asked).count callback
  all : c.asked ≤ 2 ^ 64 →
    ∀ callback, c.callbacks.count callback = (List.range c.asked).count callback

theorem Accounted.of_count (accounted : c.Accounted) (asked : next.asked = c.asked)
    (same : ∀ callback, next.callbacks.count callback = c.callbacks.count callback) :
    next.Accounted where
  atMost callback := by
    rw [same, asked]
    exact accounted.atMost callback
  all few callback := by
    rw [same, asked]
    exact accounted.all (asked ▸ few) callback

/-- The invariant of the requests. -/
structure Kept (c : StreamClient) : Prop where
  accounted : c.Accounted
  few : c.requests.length + (c.posts.filterMap ClientPost.asks).length ≤ c.asked
  nextId : c.nextRequestId = UInt64.ofNat c.requests.length
  ids : ∀ request ∈ c.pendingRequests,
    ∃ index < c.requests.length, request.id = UInt64.ofNat (index + 1)
  sent : ∀ request ∈ c.pendingRequests,
    ∃ connection, c.peer = some connection ∧ (connection, request) ∈ c.requests
  fresh : c.connectingSocket.isSome → c.peer = none
  posted : ∀ connection id data,
    ClientPost.peerSignal connection (.responseReceived id data) ∈ c.posts →
      (connection, id, data) ∈ c.responses
  enqueued : ∀ callback data, StreamClientJob.callback callback (.data data) ∈ c.jobs →
    c.Responded callback data
  answered : ∀ callback data, (callback, RequestResult.data data) ∈ c.answers →
    c.Responded callback data

theorem kept_initial (invalidate : Bool) : (initial invalidate).Kept where
  accounted := ⟨fun _ => Nat.zero_le _, fun _ _ => rfl⟩
  few := le_rfl
  nextId := rfl
  ids _ member := by cases member
  sent _ member := by cases member
  fresh isConnecting := by cases isConnecting
  posted _ _ _ member := by cases member
  enqueued _ _ member := by cases member
  answered _ _ member := by cases member

/-! ## What an operation keeps -/

theorem Kept.pending_eq_nil (kept : c.Kept) (noPeer : c.peer = none) : c.pendingRequests = [] := by
  refine List.eq_nil_iff_forall_not_mem.mpr fun request member => ?_
  obtain ⟨connection, isPeer, -⟩ := kept.sent request member
  rw [noPeer] at isPeer
  cases isPeer

/-- The components that have nothing to do with requests. -/
theorem Kept.frame (kept : c.Kept) (stopped : Bool) (sockets : Nat) (peers : List Nat)
    (generation : Nat) (calls : List Nat) (signals : List ClientSignal) :
    Kept { c with
      stopped := stopped, sockets := sockets, peers := peers, generation := generation,
      calls := calls, signals := signals } :=
  ⟨kept.accounted.of_count rfl fun _ => rfl, kept.few, kept.nextId, kept.ids, kept.sent, kept.fresh,
    kept.posted, kept.enqueued, kept.answered⟩

/-- A post that asks for nothing keeps the account, if a response that it carries has been received.
-/
theorem Kept.post (kept : c.Kept) {post : ClientPost} (asksNothing : post.asks = none)
    (responds : ∀ connection id data, post = .peerSignal connection (.responseReceived id data) →
      (connection, id, data) ∈ c.responses) : (c.post post).Kept := by
  have same : (c.post post).posts.filterMap ClientPost.asks =
      c.posts.filterMap ClientPost.asks := by
    change (c.posts ++ [post]).filterMap ClientPost.asks = _
    rw [List.filterMap_append, List.filterMap_cons_none asksNothing, List.filterMap_nil,
      List.append_nil]
  refine ⟨kept.accounted.of_count rfl fun callback => ?_, ?_, kept.nextId, kept.ids, kept.sent,
    kept.fresh, fun connection id data member => ?_, kept.enqueued, kept.answered⟩
  · rw [count_callbacks, count_callbacks, same]
    rfl
  · rw [same]
    exact kept.few
  · obtain member | isNew := List.mem_append.mp member
    · exact kept.posted connection id data member
    · exact responds connection id data (List.mem_singleton.mp isNew).symm

/-- A job that calls nothing keeps the account. -/
theorem Kept.enqueue (kept : c.Kept) {job : StreamClientJob} (callsNothing : job.calls = none) :
    (c.enqueue job).Kept := by
  have same : (c.enqueue job).jobs.filterMap StreamClientJob.calls =
      c.jobs.filterMap StreamClientJob.calls := by
    change (c.jobs ++ [job]).filterMap StreamClientJob.calls = _
    rw [List.filterMap_append, List.filterMap_cons_none callsNothing, List.filterMap_nil,
      List.append_nil]
  refine ⟨kept.accounted.of_count rfl fun callback => ?_, kept.few, kept.nextId, kept.ids,
    kept.sent, kept.fresh, kept.posted, fun callback data member => ?_, kept.answered⟩
  · rw [count_callbacks, count_callbacks, same]
    rfl
  · obtain member | isNew := List.mem_append.mp member
    · exact kept.enqueued callback data member
    · rw [← List.mem_singleton.mp isNew] at callsNothing
      cases callsNothing

theorem calls_completed (requests : List PendingRequest) (result : RequestResult) :
    (requests.map fun request => StreamClientJob.callback request.callback result).filterMap
      StreamClientJob.calls = requests.map PendingRequest.callback := by
  rw [List.filterMap_map]
  exact congrFun List.filterMap_eq_map requests

/-- Completing requests calls each of them once, with data only if it was responded to. -/
theorem Kept.completeWhere (kept : c.Kept) (isOver : PendingRequest → Bool)
    {result : RequestResult} (responded : ∀ request ∈ c.pendingRequests, isOver request = true →
      ∀ data, result = .data data → c.Responded request.callback data) :
    (c.completeWhere isOver result).Kept := by
  refine ⟨kept.accounted.of_count rfl fun callback => ?_, kept.few, kept.nextId,
    fun request member => kept.ids request (List.mem_of_mem_filter member),
    fun request member => kept.sent request (List.mem_of_mem_filter member), kept.fresh,
    kept.posted, fun callback data member => ?_, kept.answered⟩
  · have split := ((List.filter_append_perm isOver c.pendingRequests).map
      PendingRequest.callback).count_eq callback
    rw [List.map_append, List.count_append] at split
    rw [count_callbacks, count_callbacks]
    unfold StreamClient.completeWhere
    dsimp only
    rw [List.filterMap_append, calls_completed, List.count_append, ← split]
    omega
  · obtain member | isNew := List.mem_append.mp member
    · exact kept.enqueued callback data member
    · obtain ⟨request, isCompleted, isJob⟩ := List.mem_map.mp isNew
      obtain ⟨isPending, isCompleted⟩ := List.mem_filter.mp isCompleted
      injection isJob with own isData
      exact own ▸ responded request isPending isCompleted data isData

theorem Kept.fail (kept : c.Kept) (isOver : PendingRequest → Bool) (error : RequestError) :
    (c.completeWhere isOver (.error error)).Kept :=
  kept.completeWhere isOver fun _ _ _ _ isData => by cases isData

theorem pending_completeAll (c : StreamClient) (error : RequestError) :
    (c.completeAll error).pendingRequests = [] :=
  List.filter_eq_nil_iff.mpr fun _ _ => by simp

/-- The peer changes while no request is pending. -/
theorem Kept.setPeer (kept : c.Kept) (noRequest : c.pendingRequests = []) {peer : Option Nat}
    (fresh : c.connectingSocket.isSome → peer = none) : Kept { c with peer := peer } where
  accounted := kept.accounted.of_count rfl fun _ => rfl
  few := kept.few
  nextId := kept.nextId
  ids := kept.ids
  sent request member := by
    have isPending : request ∈ c.pendingRequests := member
    rw [noRequest] at isPending
    cases isPending
  fresh := fresh
  posted := kept.posted
  enqueued := kept.enqueued
  answered := kept.answered

theorem Kept.setConnecting (kept : c.Kept) {socket : Option Nat}
    (fresh : socket.isSome → c.peer = none) : Kept { c with connectingSocket := socket } :=
  ⟨kept.accounted.of_count rfl fun _ => rfl, kept.few, kept.nextId, kept.ids, kept.sent, fresh,
    kept.posted, kept.enqueued, kept.answered⟩

theorem Kept.closeConnectingSocket (kept : c.Kept) : c.closeConnectingSocket.Kept :=
  kept.setConnecting fun isConnecting => by cases isConnecting

theorem Kept.closePeer (kept : c.Kept) (error : RequestError) : (c.closePeer error).Kept := by
  unfold StreamClient.closePeer
  split
  · exact (kept.fail _ error).setPeer (pending_completeAll c error) fun _ => rfl
  · exact kept

/-! ## The io thread -/

section Post

variable {post : ClientPost} {rest : List ClientPost}

theorem Kept.popPost (kept : c.Kept) (queue : c.posts = post :: rest)
    (asksNothing : post.asks = none) : Kept { c with posts := rest } := by
  have same : c.posts.filterMap ClientPost.asks = rest.filterMap ClientPost.asks := by
    rw [queue, List.filterMap_cons_none asksNothing]
  refine ⟨kept.accounted.of_count rfl fun callback => ?_, ?_, kept.nextId, kept.ids, kept.sent,
    kept.fresh, fun connection id data member => ?_, kept.enqueued, kept.answered⟩
  · rw [count_callbacks, count_callbacks, same]
  · have := kept.few
    rwa [same] at this
  · exact kept.posted connection id data (queue ▸ List.mem_cons_of_mem _ member)

/-- A socket that has been connected keeps the account of the requests. -/
theorem Kept.handleConnectedSocket (kept : c.Kept) (socket : Nat) (verified : Bool) :
    (c.handleConnectedSocket socket verified).Kept := by
  unfold StreamClient.handleConnectedSocket
  split
  · exact kept
  · rename_i isCurrent
    have closed := kept.closeConnectingSocket
    have noPeer : c.peer = none := kept.fresh (by rw [not_not.mp isCurrent]; rfl)
    dsimp only
    split
    · exact closed
    split
    · exact closed.enqueue rfl
    · have connected : Kept { c.closeConnectingSocket with peer := some socket } :=
        closed.setPeer (kept.pending_eq_nil noPeer) fun isConnecting => by cases isConnecting
      exact (connected.frame _ _ (socket :: c.peers) _ _ _).post rfl
        fun _ _ _ isResponse => by cases isResponse

/-- A signal of the peer keeps the account: a response completes the request with its id. -/
theorem Kept.handlePeerSignal (kept : c.Kept) (connection : Nat) (signal : PeerSignal)
    (responded : ∀ id data, signal = .responseReceived id data →
      (connection, id, data) ∈ c.responses) : (c.handlePeerSignal connection signal).Kept := by
  unfold StreamClient.handlePeerSignal
  split
  · exact kept
  · rename_i isCurrent
    have isCurrent := not_not.mp isCurrent
    cases signal with
    | ready => exact kept
    | healthCheckResponseReceived => exact kept
    | received data => exact kept.enqueue rfl
    | requestReceived id data => exact kept.enqueue rfl
    | errorOccurred error => exact (kept.fail _ _).enqueue rfl
    | closed =>
        exact ((kept.fail _ _).setPeer (pending_completeAll c _) fun _ => rfl).enqueue rfl
    | responseReceived id data =>
        refine kept.completeWhere _ fun request isPending isOwn other isData => ?_
        obtain ⟨own, isPeer, isSent⟩ := kept.sent request isPending
        have sameConnection : own = connection := Option.some.inj (isPeer.symm.trans isCurrent)
        have sameId : request.id = id := eq_of_beq isOwn
        have sameData : data = other := RequestResult.data.inj isData
        refine ⟨connection, request, sameConnection ▸ isSent, rfl, ?_⟩
        rw [sameId, ← sameData]
        exact responded id data rfl

theorem asks_of_request {callback : Nat} (queue : c.posts = .request callback :: rest) :
    c.posts.filterMap ClientPost.asks = callback :: rest.filterMap ClientPost.asks := by
  rw [queue]
  exact List.filterMap_cons_some rfl

/-- The id of the next request is the next number, modulo its size. -/
theorem Kept.nextId_add_one (kept : c.Kept) :
    c.nextRequestId + 1 = UInt64.ofNat (c.requests.length + 1) := by
  rw [kept.nextId, UInt64.ofNat_add]
  rfl

/-- The id of the next request is new, as long as the ids do not wrap around. -/
theorem Kept.id_new (kept : c.Kept) (few : c.requests.length + 1 ≤ 2 ^ 64) :
    c.pendingRequests.any (·.id == c.nextRequestId + 1) = false := by
  refine List.any_eq_false.mpr fun request member same => ?_
  obtain ⟨index, less, isId⟩ := kept.ids request member
  rw [isId, kept.nextId_add_one] at same
  have sameNumber := congrArg UInt64.toNat (eq_of_beq same)
  rw [UInt64.toNat_ofNat', UInt64.toNat_ofNat'] at sameNumber
  omega

/-- The callback of a request that cannot be sent. -/
theorem Kept.refuse {callback : Nat} (kept : c.Kept)
    (queue : c.posts = .request callback :: rest) :
    ({ c with posts := rest }.enqueue (.callback callback (.error .notConnected))).Kept := by
  have asks := asks_of_request queue
  refine ⟨kept.accounted.of_count rfl fun other => ?_, ?_, kept.nextId, kept.ids, kept.sent,
    kept.fresh, fun connection id data member => ?_, fun other data member => ?_, kept.answered⟩
  · have calls : [StreamClientJob.callback callback (.error .notConnected)].filterMap
        StreamClientJob.calls = [callback] := rfl
    rw [count_callbacks, count_callbacks, asks]
    unfold StreamClient.enqueue
    dsimp only
    rw [List.filterMap_append, calls, List.count_append]
    simp only [List.count_cons, List.count_nil]
    omega
  · have few := kept.few
    rw [asks, List.length_cons] at few
    exact (Nat.add_le_add_left (Nat.le_succ _) _).trans few
  · exact kept.posted connection id data (queue ▸ List.mem_cons_of_mem _ member)
  · obtain member | isNew := List.mem_append.mp member
    · exact kept.enqueued other data member
    · cases List.mem_singleton.mp isNew

theorem mem_pending_add {callback connection : Nat} {request : PendingRequest}
    (member : request ∈ (c.add connection callback).pendingRequests) :
    request ∈ c.pendingRequests ∨ request = ⟨c.nextRequestId + 1, callback⟩ := by
  unfold StreamClient.add at member
  dsimp only at member
  split at member
  · exact .inl member
  · exact (List.mem_append.mp member).imp_right List.mem_singleton.mp

/-- Only a request whose id is taken is lost. -/
theorem Accounted.add {callback connection : Nat} (accounted : c.Accounted)
    (queue : c.posts = .request callback :: rest)
    (isNew : c.asked ≤ 2 ^ 64 →
      c.pendingRequests.any (·.id == c.nextRequestId + 1) = false) :
    ({ c with posts := rest }.add connection callback).Accounted := by
  have asks := asks_of_request queue
  by_cases taken : c.pendingRequests.any (·.id == c.nextRequestId + 1) = true
  · have lost : ∀ other, ({ c with posts := rest }.add connection callback).callbacks.count other ≤
        c.callbacks.count other := by
      intro other
      rw [count_callbacks, count_callbacks, asks]
      unfold StreamClient.add
      dsimp only
      rw [if_pos taken, List.count_cons]
      omega
    refine ⟨fun other => (lost other).trans (accounted.atMost other), fun few => ?_⟩
    rw [isNew few] at taken
    cases taken
  · refine accounted.of_count rfl fun other => ?_
    rw [count_callbacks, count_callbacks, asks]
    unfold StreamClient.add
    dsimp only
    rw [if_neg taken, List.map_append, List.count_append]
    simp only [List.map_cons, List.map_nil, List.count_cons, List.count_nil]
    omega

/-- The request that is posted first is sent. -/
theorem Kept.add {callback connection : Nat} (kept : c.Kept)
    (queue : c.posts = .request callback :: rest) (isPeer : c.peer = some connection) :
    ({ c with posts := rest }.add connection callback).Kept := by
  have asks := asks_of_request queue
  have few := kept.few
  rw [asks, List.length_cons] at few
  have grows : c.requests ⊆ ({ c with posts := rest }.add connection callback).requests :=
    List.subset_append_left _ _
  refine ⟨?_, ?_, ?_, fun request member => ?_, fun request member => ?_, kept.fresh,
    fun own id data member => ?_, fun other data member => ?_, fun other data member => ?_⟩
  · exact kept.accounted.add queue fun bound => kept.id_new (by omega)
  · unfold StreamClient.add
    dsimp only
    rw [List.length_append, List.length_singleton]
    omega
  · unfold StreamClient.add
    dsimp only
    rw [List.length_append, List.length_singleton]
    exact kept.nextId_add_one
  · have length : ({ c with posts := rest }.add connection callback).requests.length =
        c.requests.length + 1 := List.length_append
    rw [length]
    obtain member | rfl := mem_pending_add member
    · obtain ⟨index, less, isId⟩ := kept.ids request member
      exact ⟨index, Nat.lt_succ_of_lt less, isId⟩
    · exact ⟨c.requests.length, Nat.lt_succ_self _, kept.nextId_add_one⟩
  · obtain member | rfl := mem_pending_add member
    · obtain ⟨own, isOwn, isSent⟩ := kept.sent request member
      exact ⟨own, isOwn, grows isSent⟩
    · exact ⟨connection, isPeer, List.mem_append_right _ (List.mem_singleton.mpr rfl)⟩
  · exact kept.posted own id data (queue ▸ List.mem_cons_of_mem _ member)
  · exact (kept.enqueued other data member).mono grows fun _ => id
  · exact (kept.answered other data member).mono grows fun _ => id

/-- The io thread does the post that is first. -/
theorem Kept.run (kept : c.Kept) (queue : c.posts = post :: rest) :
    ({ c with posts := rest }.run post).Kept := by
  cases post with
  | stop => exact (kept.popPost queue rfl).closeConnectingSocket.closePeer _
  | invalidate =>
      exact ((kept.popPost queue rfl).closeConnectingSocket.closePeer _).enqueue rfl
  | connect =>
      have popped := kept.popPost queue rfl
      unfold StreamClient.run
      dsimp only
      split
      · exact popped
      · rename_i isFree
        have noPeer : c.peer = none := by
          cases isPeer : c.peer with
          | none => rfl
          | some connection => simp [isPeer] at isFree
        exact (popped.setConnecting fun _ => noPeer).frame _ (c.sockets + 1) _ _ _ _
  | handleConnectedSocket socket verified =>
      exact (kept.popPost queue rfl).handleConnectedSocket socket verified
  | announce connection =>
      have popped := kept.popPost queue rfl
      unfold StreamClient.run
      dsimp only
      split
      · exact popped.enqueue rfl
      · exact popped
  | request callback =>
      unfold StreamClient.run
      dsimp only
      split
      · rename_i connection isPeer
        exact kept.add queue isPeer
      · exact kept.refuse queue
  | peerSignal connection signal =>
      refine (kept.popPost queue rfl).handlePeerSignal connection signal
        fun id data isResponse => ?_
      exact kept.posted connection id data (queue ▸ isResponse ▸ List.mem_cons_self)

end Post

theorem Kept.connectOver (kept : c.Kept) (socket : Nat) (succeeded : Bool) :
    (c.connectOver socket succeeded).Kept := by
  unfold StreamClient.connectOver
  split
  · exact kept
  split
  · exact kept.enqueue rfl
  · exact kept.closeConnectingSocket.enqueue rfl

theorem Kept.timeOut (kept : c.Kept) (id : UInt64) : (c.timeOut id).Kept := by
  have completed : (c.complete id (.error .timedOut)).Kept := kept.fail _ _
  unfold StreamClient.timeOut
  dsimp only
  split
  · split
    · exact (completed.closePeer _).enqueue rfl
    · exact completed
  · exact completed

/-! ## The dispatcher -/

section Job

variable {job : StreamClientJob} {rest : List StreamClientJob}

theorem Kept.popJob (kept : c.Kept) (queue : c.jobs = job :: rest)
    (callsNothing : job.calls = none) : Kept { c with jobs := rest } := by
  refine ⟨kept.accounted.of_count rfl fun callback => ?_, kept.few, kept.nextId, kept.ids,
    kept.sent, kept.fresh, kept.posted, fun callback data member => ?_, kept.answered⟩
  · rw [count_callbacks, count_callbacks, queue, List.filterMap_cons_none callsNothing]
  · exact kept.enqueued callback data (queue ▸ List.mem_cons_of_mem _ member)

/-- The dispatcher calls a callback. -/
theorem Kept.call {callback : Nat} {result : RequestResult} (kept : c.Kept)
    (queue : c.jobs = .callback callback result :: rest) :
    Kept { c with jobs := rest, answers := c.answers ++ [(callback, result)] } := by
  have calls : c.jobs.filterMap StreamClientJob.calls =
      callback :: rest.filterMap StreamClientJob.calls := by
    rw [queue]
    exact List.filterMap_cons_some rfl
  refine ⟨kept.accounted.of_count rfl fun other => ?_, kept.few, kept.nextId, kept.ids,
    kept.sent, kept.fresh, kept.posted, fun other data member => ?_, fun other data member => ?_⟩
  · rw [count_callbacks, count_callbacks, calls, List.map_append, List.count_append]
    simp only [List.map_cons, List.map_nil, List.count_cons, List.count_nil]
    omega
  · exact kept.enqueued other data (queue ▸ List.mem_cons_of_mem _ member)
  · obtain member | isNew := List.mem_append.mp member
    · exact kept.answered other data member
    · obtain ⟨rfl, rfl⟩ := Prod.mk.inj (List.mem_singleton.mp isNew)
      exact kept.enqueued other data (queue ▸ List.mem_cons_self)

theorem Kept.scheduleReconnect (kept : c.Kept) : c.scheduleReconnect.Kept := by
  unfold StreamClient.scheduleReconnect
  split
  · exact kept
  · exact kept.enqueue rfl

theorem Kept.postPlain (kept : c.Kept) {post : ClientPost} (asksNothing : post.asks = none)
    (noSignal : ∀ connection signal, post ≠ .peerSignal connection signal) :
    (c.post post).Kept :=
  kept.post asksNothing fun _ _ _ isSignal => absurd isSignal (noSignal _ _)

/-- The dispatcher does the job that is first. -/
theorem Kept.perform (kept : c.Kept) (queue : c.jobs = job :: rest) (verified : Bool) :
    ({ c with jobs := rest }.perform verified job).Kept := by
  cases job with
  | start =>
      exact ((kept.popJob queue rfl).frame false _ _ _ _ _).postPlain rfl
        fun _ _ isSignal => by cases isSignal
  | stop =>
      exact (((kept.popJob queue rfl).frame true _ _ _ _ _).enqueue rfl).postPlain rfl
        fun _ _ isSignal => by cases isSignal
  | invalidate =>
      exact ((kept.popJob queue rfl).enqueue rfl).postPlain rfl
        fun _ _ isSignal => by cases isSignal
  | debounce => exact (kept.popJob queue rfl).frame _ _ _ _ _ _
  | cancel => exact (kept.popJob queue rfl).frame _ _ _ _ _ _
  | scheduleReconnect => exact (kept.popJob queue rfl).scheduleReconnect
  | verify socket =>
      exact (kept.popJob queue rfl).postPlain rfl fun _ _ isSignal => by cases isSignal
  | signal signal =>
      have signalled := (kept.popJob queue rfl).frame c.stopped c.sockets c.peers c.generation
        c.calls (c.signals ++ [signal])
      unfold StreamClient.perform
      dsimp only
      split
      · exact signalled.scheduleReconnect
      · exact signalled
  | callback callback result => exact kept.call queue

end Job

/-! ## The runs -/

/-- A request is asked for. -/
theorem Kept.ask (kept : c.Kept) :
    ({ c with asked := c.asked + 1 }.post (.request c.asked)).Kept := by
  have asks : (c.posts ++ [ClientPost.request c.asked]).filterMap ClientPost.asks =
      c.posts.filterMap ClientPost.asks ++ [c.asked] := by
    rw [List.filterMap_append]
    rfl
  have one : ∀ other, ({ c with asked := c.asked + 1 }.post (.request c.asked)).callbacks.count
      other = c.callbacks.count other + [c.asked].count other := by
    intro other
    rw [count_callbacks, count_callbacks]
    unfold StreamClient.post
    dsimp only
    rw [asks, List.count_append]
    omega
  refine ⟨⟨fun other => ?_, fun few other => ?_⟩, ?_, kept.nextId, kept.ids, kept.sent,
    kept.fresh, fun connection id data member => ?_, kept.enqueued, kept.answered⟩
  · rw [one]
    unfold StreamClient.post
    dsimp only
    rw [List.range_succ, List.count_append]
    exact Nat.add_le_add_right (kept.accounted.atMost other) _
  · rw [one, kept.accounted.all ((Nat.le_succ _).trans few)]
    unfold StreamClient.post
    dsimp only
    rw [List.range_succ, List.count_append]
  · unfold StreamClient.post
    dsimp only
    rw [asks, List.length_append, List.length_singleton, ← Nat.add_assoc]
    exact Nat.succ_le_succ kept.few
  · obtain member | isNew := List.mem_append.mp member
    · exact kept.posted connection id data member
    · cases List.mem_singleton.mp isNew

/-- A peer has signalled a response. -/
theorem Kept.respond (kept : c.Kept) (response : Nat × UInt64 × List UInt8) :
    Kept { c with responses := c.responses ++ [response] } where
  accounted := kept.accounted.of_count rfl fun _ => rfl
  few := kept.few
  nextId := kept.nextId
  ids := kept.ids
  sent := kept.sent
  fresh := kept.fresh
  posted connection id data member :=
    List.mem_append_left _ (kept.posted connection id data member)
  enqueued callback data member :=
    (kept.enqueued callback data member).mono (fun _ => id) (List.subset_append_left _ _)
  answered callback data member :=
    (kept.answered callback data member).mono (fun _ => id) (List.subset_append_left _ _)

/-- A peer that signals keeps the account, as what it signals is recorded. -/
theorem Kept.peerSignals (kept : c.Kept) (connection : Nat) (signal : PeerSignal) :
    (c.step (.peerSignals connection signal)).Kept := by
  unfold StreamClient.step
  dsimp only
  split
  · split
    · rename_i requestId data
      refine (kept.respond (connection, requestId, data)).post rfl fun own id other isOwn => ?_
      obtain ⟨rfl, isResponse⟩ := ClientPost.peerSignal.inj isOwn
      obtain ⟨rfl, rfl⟩ := PeerSignal.responseReceived.inj isResponse
      exact List.mem_append_right _ (List.mem_singleton.mpr rfl)
    · rename_i notResponse
      refine kept.post rfl fun own id other isOwn => ?_
      exact absurd (ClientPost.peerSignal.inj isOwn).2 (notResponse id other)
  · exact kept

/-- Every step keeps the account of the requests. -/
theorem Kept.step (kept : c.Kept) (action : StreamClientAction) : (c.step action).Kept := by
  cases action with
  | asyncStart => exact kept.enqueue rfl
  | asyncStop => exact kept.enqueue rfl
  | asyncInvalidateConnection => exact kept.enqueue rfl
  | asyncRequest => exact kept.ask
  | work verified =>
      unfold StreamClient.step
      dsimp only
      split
      · rename_i job rest queue
        exact kept.perform queue verified
      · exact kept
  | reconnect generation =>
      have called := kept.frame c.stopped c.sockets c.peers c.generation
        (c.calls.erase generation) c.signals
      unfold StreamClient.step
      dsimp only
      split
      · split
        · exact called.postPlain rfl fun _ _ isSignal => by cases isSignal
        · exact called
      · exact kept
  | runPost =>
      unfold StreamClient.step
      dsimp only
      split
      · rename_i post rest queue
        exact kept.run queue
      · exact kept
  | connectOver socket succeeded => exact kept.connectOver socket succeeded
  | timeOut id => exact kept.timeOut id
  | peerSignals connection signal => exact kept.peerSignals connection signal

theorem kept_foldl (invalidate : Bool) (actions : List StreamClientAction) :
    (actions.foldl StreamClient.step (initial invalidate)).Kept := by
  induction actions using List.reverseRecOn with
  | nil => exact kept_initial invalidate
  | append_singleton actions action ih =>
      rw [List.foldl_append]
      exact ih.step action

/-- In every run, a callback is called at most once. Before the ids wrap around, each callback that
has been given is in one place: in a post, with a pending request, in a job, or among the answers;
no request is pending without a peer. The data that a callback is called with are a response to its
own request, over the connection that it was sent over. -/
theorem called_once (invalidate : Bool) (actions : List StreamClientAction) :
    let c := actions.foldl StreamClient.step (initial invalidate)
    (c.answers.map Prod.fst).Nodup ∧
      (c.asked ≤ 2 ^ 64 → c.callbacks.Perm (List.range c.asked)) ∧
      (c.peer = none → c.pendingRequests = []) ∧
      ∀ callback data, (callback, RequestResult.data data) ∈ c.answers →
        c.Responded callback data := by
  intro c
  have kept : c.Kept := kept_foldl invalidate actions
  refine ⟨List.nodup_iff_count_le_one.mpr fun callback => ?_, fun few => ?_,
    kept.pending_eq_nil, kept.answered⟩
  · have atMost := kept.accounted.atMost callback
    have once := List.nodup_iff_count_le_one.mp (List.nodup_range (n := c.asked)) callback
    rw [count_callbacks] at atMost
    omega
  · exact List.perm_iff_count.mpr (kept.accounted.all few)

end StreamClient

end Karabiner

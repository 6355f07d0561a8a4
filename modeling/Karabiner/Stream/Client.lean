import Karabiner.Stream.Peer

/-! # The client of a socket

`pqrs::unix_domain_stream::client` works on two threads: the io thread runs what is posted to it and
the handlers of sockets and timers, the dispatcher runs the jobs of the client. Posts and jobs are
done in their order. The peers signal whatever they like, the handlers of connects and timers run at
any time, and `reconnect_task_` runs its function when the generation of the call is still the one
of the task. A generation has 64 bits in the source: a run has fewer than 2^64 requests for the
task. The destructor is left out.
-/

namespace Karabiner

/-- The error that a callback is called with. -/
inductive RequestError where
  | notConnected
  | timedOut
  | connectionReset
  | operationAborted
  | peer (error : StreamError)

inductive RequestResult where
  | data (data : List UInt8)
  | error (error : RequestError)

/-- The signals of a client, with the number of the connection that they are about. -/
inductive ClientSignal where
  | connected (connection : Nat)
  | peerVerificationFailed
  | connectFailed
  | closed (connection : Nat)
  | errorOccurred (connection : Nat) (error : StreamError)
  | received (connection : Nat) (data : List UInt8)
  | requestReceived (connection : Nat) (requestId : UInt64) (data : List UInt8)

/-- Whether `schedule_reconnect` follows in the same job. -/
def ClientSignal.reconnects : ClientSignal → Bool
  | peerVerificationFailed | connectFailed | closed _ => true
  | _ => false

/-- What is posted to the io thread. -/
inductive ClientPost where
  | stop
  | invalidate
  | connect
  | handleConnectedSocket (socket : Nat) (verified : Bool)
  /-- The last post of `handle_connected_socket`. -/
  | announce (connection : Nat)
  | request (callback : Nat)
  | peerSignal (connection : Nat) (signal : PeerSignal)

/-- The jobs of the dispatcher. -/
inductive StreamClientJob where
  | start
  | stop
  | invalidate
  | debounce
  | cancel
  | scheduleReconnect
  | verify (socket : Nat)
  | signal (signal : ClientSignal)
  | callback (callback : Nat) (result : RequestResult)

/-- `pending_request`. -/
structure PendingRequest where
  id : UInt64
  callback : Nat

/-- `client`. Sockets and callbacks are numbered, and what has been sent and answered is noted. -/
structure StreamClient where
  invalidateConnectionOnRequestError : Bool
  stopped : Bool
  connectingSocket : Option Nat
  peer : Option Nat
  sockets : Nat
  peers : List Nat
  asked : Nat
  nextRequestId : UInt64
  pendingRequests : List PendingRequest
  posts : List ClientPost
  jobs : List StreamClientJob
  generation : Nat
  calls : List Nat
  signals : List ClientSignal
  answers : List (Nat × RequestResult)
  /-- The requests that have been sent, with their connections. -/
  requests : List (Nat × PendingRequest)
  /-- The responses that the peers have signalled. -/
  responses : List (Nat × UInt64 × List UInt8)

inductive StreamClientAction where
  | asyncStart
  | asyncStop
  | asyncInvalidateConnection
  | asyncRequest
  /-- The dispatcher does its next job; `verify_peer_` says whether a socket is verified. -/
  | work (verified : Bool)
  /-- A call of `reconnect_task_` is due. -/
  | reconnect (generation : Nat)
  | runPost
  /-- The handler of a connect. -/
  | connectOver (socket : Nat) (succeeded : Bool)
  /-- The timer of a request expires. -/
  | timeOut (id : UInt64)
  | peerSignals (connection : Nat) (signal : PeerSignal)

namespace StreamClient

def initial (invalidateConnectionOnRequestError : Bool) : StreamClient :=
  ⟨invalidateConnectionOnRequestError, true, none, none, 0, [], 0, 0, [], [], [], 0, [], [], [], [],
    []⟩

def post (c : StreamClient) (post : ClientPost) : StreamClient :=
  { c with posts := c.posts ++ [post] }

def enqueue (c : StreamClient) (job : StreamClientJob) : StreamClient :=
  { c with jobs := c.jobs ++ [job] }

/-! ## `request_manager` -/

/-- `add`, for the request that is sent over a connection. `emplace` keeps what it finds. -/
def add (c : StreamClient) (connection callback : Nat) : StreamClient :=
  let request := ⟨c.nextRequestId + 1, callback⟩
  { c with
    nextRequestId := c.nextRequestId + 1
    pendingRequests :=
      if c.pendingRequests.any (·.id == request.id) then c.pendingRequests
      else c.pendingRequests ++ [request]
    requests := c.requests ++ [(connection, request)] }

/-- The requests are completed that `isOver` holds of; the map hands them out in any order. -/
def completeWhere (c : StreamClient) (isOver : PendingRequest → Bool) (result : RequestResult) :
    StreamClient :=
  { c with
    pendingRequests := c.pendingRequests.filter fun request => !isOver request
    jobs := c.jobs ++ (c.pendingRequests.filter isOver).map fun request =>
      .callback request.callback result }

def complete (c : StreamClient) (id : UInt64) (result : RequestResult) : StreamClient :=
  c.completeWhere (·.id == id) result

def completeAll (c : StreamClient) (error : RequestError) : StreamClient :=
  c.completeWhere (fun _ => true) (.error error)

/-! ## The io thread -/

def closeConnectingSocket (c : StreamClient) : StreamClient := { c with connectingSocket := none }

/-- `close_peer`. -/
def closePeer (c : StreamClient) (error : RequestError) : StreamClient :=
  if c.peer.isSome then { c.completeAll error with peer := none } else c

def handleConnectedSocket (c : StreamClient) (socket : Nat) (verified : Bool) : StreamClient :=
  if c.connectingSocket ≠ some socket then c
  else
    let c := c.closeConnectingSocket
    if c.stopped then c
    else if !verified then c.enqueue (.signal .peerVerificationFailed)
    else { c with peer := some socket, peers := socket :: c.peers }.post (.announce socket)

/-- The handlers of the signals of a peer. -/
def handlePeerSignal (c : StreamClient) (connection : Nat) (signal : PeerSignal) : StreamClient :=
  if c.peer ≠ some connection then c
  else
    match signal with
    | .received data => c.enqueue (.signal (.received connection data))
    | .requestReceived requestId data =>
        c.enqueue (.signal (.requestReceived connection requestId data))
    | .responseReceived requestId data => c.complete requestId (.data data)
    | .errorOccurred error =>
        (c.completeAll (.peer error)).enqueue (.signal (.errorOccurred connection error))
    | .closed =>
        { c.completeAll .connectionReset with peer := none }.enqueue (.signal (.closed connection))
    | .ready | .healthCheckResponseReceived => c

def run (c : StreamClient) : ClientPost → StreamClient
  | .stop => c.closeConnectingSocket.closePeer .operationAborted
  | .invalidate =>
      (c.closeConnectingSocket.closePeer .operationAborted).enqueue .scheduleReconnect
  | .connect =>
      if c.stopped || c.connectingSocket.isSome || c.peer.isSome then c
      else { c with connectingSocket := some c.sockets, sockets := c.sockets + 1 }
  | .handleConnectedSocket socket verified => c.handleConnectedSocket socket verified
  | .announce connection =>
      if c.peer = some connection then c.enqueue (.signal (.connected connection)) else c
  | .request callback =>
      match c.peer with
      | some connection => c.add connection callback
      | none => c.enqueue (.callback callback (.error .notConnected))
  | .peerSignal connection signal => c.handlePeerSignal connection signal

def connectOver (c : StreamClient) (socket : Nat) (succeeded : Bool) : StreamClient :=
  if c.stopped ∨ c.connectingSocket ≠ some socket then c
  else if succeeded then c.enqueue (.verify socket)
  else c.closeConnectingSocket.enqueue (.signal .connectFailed)

/-- The timer of a request, with its `timeout_callback`. -/
def timeOut (c : StreamClient) (id : UInt64) : StreamClient :=
  let completed := c.complete id (.error .timedOut)
  match c.peer with
  | some connection =>
      if c.invalidateConnectionOnRequestError then
        (completed.closePeer .connectionReset).enqueue (.signal (.closed connection))
      else completed
  | none => completed

/-! ## The dispatcher -/

def scheduleReconnect (c : StreamClient) : StreamClient :=
  if c.stopped then c else c.enqueue .debounce

def perform (c : StreamClient) (verified : Bool) : StreamClientJob → StreamClient
  | .start => { c with stopped := false }.post .connect
  | .stop => ({ c with stopped := true }.enqueue .cancel).post .stop
  | .invalidate => (c.enqueue .cancel).post .invalidate
  | .debounce => { c with generation := c.generation + 1, calls := c.calls ++ [c.generation + 1] }
  | .cancel => { c with generation := c.generation + 1 }
  | .scheduleReconnect => c.scheduleReconnect
  | .verify socket => c.post (.handleConnectedSocket socket verified)
  | .signal signal =>
      let signalled := { c with signals := c.signals ++ [signal] }
      if signal.reconnects then signalled.scheduleReconnect else signalled
  | .callback callback result => { c with answers := c.answers ++ [(callback, result)] }

def step (c : StreamClient) : StreamClientAction → StreamClient
  | .asyncStart => c.enqueue .start
  | .asyncStop => c.enqueue .stop
  | .asyncInvalidateConnection => c.enqueue .invalidate
  | .asyncRequest => { c with asked := c.asked + 1 }.post (.request c.asked)
  | .work verified =>
      match c.jobs with
      | job :: rest => { c with jobs := rest }.perform verified job
      | [] => c
  | .reconnect generation =>
      if generation ∈ c.calls then
        let called := { c with calls := c.calls.erase generation }
        if c.generation = generation ∧ c.stopped = false then called.post .connect else called
      else c
  | .runPost =>
      match c.posts with
      | post :: rest => { c with posts := rest }.run post
      | [] => c
  | .connectOver socket succeeded => c.connectOver socket succeeded
  | .timeOut id => c.timeOut id
  | .peerSignals connection signal =>
      if connection ∈ c.peers then
        let posted := c.post (.peerSignal connection signal)
        match signal with
        | .responseReceived requestId data =>
            { posted with responses := c.responses ++ [(connection, requestId, data)] }
        | _ => posted
      else c

end StreamClient

end Karabiner

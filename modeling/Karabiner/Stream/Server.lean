import Karabiner.Stream.Peer

/-! # The server of a socket

`pqrs::unix_domain_stream::server` works on two threads as its client does: posts on the io thread,
jobs on the dispatcher. Each accepted socket becomes a peer with a number of its own. What a peer
signals goes to the owner only when the peer has been exposed, which `verify_peer_` decides when the
peer is ready. The requests of the server are left out, and so is the destructor; the handlers of
accepts, timers and health checks run at any time. The numbers of peers and the generations of
`bind_retry_task_` have 64 bits in the source: a run accepts fewer than 2^64 sockets and has fewer
than 2^64 requests for the task.
-/

namespace Karabiner

inductive ServerSignal where
  | bound
  | bindFailed
  | closed
  | peerConnected (id : Nat)
  | peerClosed (id : Nat)
  | peerErrorOccurred (id : Nat) (error : StreamError)
  | received (id : Nat) (data : List UInt8)
  | requestReceived (id : Nat) (requestId : UInt64) (data : List UInt8)

/-- What is posted to the io thread. -/
inductive ServerPost where
  | stop
  | bind
  | healthCheck
  | closePeer (id : Nat)
  /-- The post of the handler of `closed`. -/
  | erasePeer (id : Nat)

/-- The jobs of the dispatcher. -/
inductive StreamServerJob where
  | start
  | stop
  | debounce
  | cancel
  | bound
  | bindFailed
  | closed
  /-- The job that the handler of a signal of a peer queues. -/
  | peer (id : Nat) (signal : PeerSignal)

/-- `server`, with the peers that have signalled that they are ready. -/
structure StreamServer where
  stopped : Bool
  acceptor : Bool
  nextPeerId : Nat
  peers : List Nat
  exposedPeerIds : List Nat
  readyPeerIds : List Nat
  healthCheckInProgress : Bool
  posts : List ServerPost
  jobs : List StreamServerJob
  generation : Nat
  calls : List Nat
  signals : List ServerSignal

inductive StreamServerAction where
  | asyncStart
  | asyncStop
  | asyncClosePeer (id : Nat)
  | work
  /-- A call of `bind_retry_task_` is due. -/
  | bindRetry (generation : Nat)
  | healthCheckTimer
  /-- The next post runs; `bind` says whether the socket can be bound. -/
  | runPost (binds : Bool)
  /-- The handler of an accept, with a socket or with an error. -/
  | accept (succeeded : Bool)
  | healthCheckSucceeds
  | healthCheckFails
  | peerSignals (id : Nat) (signal : PeerSignal)

namespace StreamServer

def initial : StreamServer :=
  ⟨true, false, 0, [], [], [], false, [], [], 0, [], []⟩

def post (s : StreamServer) (post : ServerPost) : StreamServer :=
  { s with posts := s.posts ++ [post] }

def enqueue (s : StreamServer) (job : StreamServerJob) : StreamServer :=
  { s with jobs := s.jobs ++ [job] }

def signal (s : StreamServer) (signal : ServerSignal) : StreamServer :=
  { s with signals := s.signals ++ [signal] }

/-! ## The io thread -/

def closeAcceptor (s : StreamServer) : StreamServer := { s with acceptor := false }

/-- `close_peer`, which has the peer close. -/
def closePeer (s : StreamServer) (id : Nat) : StreamServer :=
  { s with peers := s.peers.erase id }

def bind (s : StreamServer) (binds : Bool) : StreamServer :=
  if s.stopped || s.acceptor then s
  else if binds then { s with acceptor := true }.enqueue .bound
  else s.closeAcceptor.enqueue .bindFailed

def healthCheck (s : StreamServer) : StreamServer :=
  if s.stopped || !s.acceptor || s.healthCheckInProgress then s
  else { s with healthCheckInProgress := true }

/-- `handle_socket_path_health_check_failed`. -/
def healthCheckFails (s : StreamServer) : StreamServer :=
  if s.healthCheckInProgress then
    { s with healthCheckInProgress := false }.closeAcceptor.enqueue .closed
  else s

def run (s : StreamServer) (binds : Bool) : ServerPost → StreamServer
  | .stop => { s.closeAcceptor with peers := [], healthCheckInProgress := false }
  | .bind => s.bind binds
  | .healthCheck => s.healthCheck
  | .closePeer id | .erasePeer id => s.closePeer id

/-- The handler of an accept, with `handle_accepted_socket`. -/
def accept (s : StreamServer) (succeeded : Bool) : StreamServer :=
  if s.stopped then s
  else if succeeded then
    { s with nextPeerId := s.nextPeerId + 1, peers := s.peers ++ [s.nextPeerId + 1] }
  else s.closeAcceptor.enqueue .closed

/-! ## The dispatcher -/

/-- `schedule_bind_retry`; a call of the stopped timer may still come. -/
def scheduleBindRetry (s : StreamServer) : StreamServer :=
  if s.stopped then s else s.enqueue .debounce

/-- The jobs that the handlers of the signals of a peer queue. -/
def handlePeerSignal (s : StreamServer) (verifyPeer : Nat → Bool) (id : Nat) :
    PeerSignal → StreamServer
  | .ready =>
      if verifyPeer id then
        { s with exposedPeerIds := s.exposedPeerIds.insert id }.signal (.peerConnected id)
      else s.post (.closePeer id)
  | .received data => if id ∈ s.exposedPeerIds then s.signal (.received id data) else s
  | .requestReceived requestId data =>
      if id ∈ s.exposedPeerIds then s.signal (.requestReceived id requestId data) else s
  | .errorOccurred error =>
      if id ∈ s.exposedPeerIds then s.signal (.peerErrorOccurred id error) else s
  | .closed =>
      if id ∈ s.exposedPeerIds then
        { s with exposedPeerIds := s.exposedPeerIds.filter (· != id) }.signal (.peerClosed id)
      else s
  | .responseReceived _ _ | .healthCheckResponseReceived => s

def perform (s : StreamServer) (verifyPeer : Nat → Bool) : StreamServerJob → StreamServer
  | .start => { s with stopped := false }.post .bind
  | .stop =>
      ({ s with stopped := true, exposedPeerIds := [] }.enqueue .cancel).post .stop
  | .debounce => { s with generation := s.generation + 1, calls := s.calls ++ [s.generation + 1] }
  | .cancel => { s with generation := s.generation + 1 }
  | .bound => s.signal .bound
  | .bindFailed => (s.signal .bindFailed).scheduleBindRetry
  | .closed => (s.signal .closed).scheduleBindRetry
  | .peer id signal => s.handlePeerSignal verifyPeer id signal

/-- A peer signals something; it signals once that it is ready. -/
def peerSignals (s : StreamServer) (id : Nat) (signal : PeerSignal) : StreamServer :=
  if id = 0 ∨ s.nextPeerId < id then s
  else
    match signal with
    | .ready =>
        if id ∈ s.readyPeerIds then s
        else { s with readyPeerIds := id :: s.readyPeerIds }.enqueue (.peer id .ready)
    | .closed => (s.post (.erasePeer id)).enqueue (.peer id .closed)
    | signal => s.enqueue (.peer id signal)

def step (verifyPeer : Nat → Bool) (s : StreamServer) : StreamServerAction → StreamServer
  | .asyncStart => s.enqueue .start
  | .asyncStop => s.enqueue .stop
  | .asyncClosePeer id => s.post (.closePeer id)
  | .work =>
      match s.jobs with
      | job :: rest => { s with jobs := rest }.perform verifyPeer job
      | [] => s
  | .bindRetry generation =>
      if generation ∈ s.calls then
        let called := { s with calls := s.calls.erase generation }
        if s.generation = generation ∧ s.stopped = false then called.post .bind else called
      else s
  | .healthCheckTimer => s.post .healthCheck
  | .runPost binds =>
      match s.posts with
      | post :: rest => { s with posts := rest }.run binds post
      | [] => s
  | .accept succeeded => s.accept succeeded
  | .healthCheckSucceeds => { s with healthCheckInProgress := false }
  | .healthCheckFails => s.healthCheckFails
  | .peerSignals id signal => s.peerSignals id signal

end StreamServer

end Karabiner

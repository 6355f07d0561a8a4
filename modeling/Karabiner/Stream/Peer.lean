import Karabiner.Stream.Protocol

/-! # The ends of a connection

`pqrs::unix_domain_stream::impl::peer` is one end of a connection. All of it is done by the handlers
of one thread: those of what the owner posts, of reads and writes that are over, and of timers. A
read or a write is over when its buffer is full, or with an error. A socket that is closed aborts
those that are not over, while the handlers of those that are over are still called; so is the
handler of a timer that has expired, which here may be called at any time.
-/

namespace Karabiner

/-- How a read or a write fails. -/
inductive SocketError where
  | operationAborted
  | eof
  | badDescriptor
  | other (code : Nat)
  deriving DecidableEq

/-- `asio::error_code`. -/
inductive StreamError where
  | timedOut
  | messageSize
  | noBufferSpace
  | invalidArgument
  | operationNotSupported
  | socket (error : SocketError)
  deriving DecidableEq

/-- The signals, in the order of their jobs. -/
inductive PeerSignal where
  | ready
  | received (data : List UInt8)
  | requestReceived (requestId : UInt64) (data : List UInt8)
  | responseReceived (requestId : UInt64) (data : List UInt8)
  | healthCheckResponseReceived
  | errorOccurred (error : StreamError)
  | closed
  deriving DecidableEq

/-- `common_options`. -/
structure PeerOptions where
  maxMessageSize : Nat
  maxSendQueueSize : Nat

/-- The read that is under way: of a header, or of a body with its size. -/
structure Reading where
  body : Option UInt32
  bytes : List UInt8
  length_le : bytes.length ≤ (body.map UInt32.toNat).getD Protocol.headerSize

namespace Reading

/-- The bytes that the buffer takes. -/
def size (reading : Reading) : Nat := (reading.body.map UInt32.toNat).getD Protocol.headerSize

def isFull (reading : Reading) : Bool := reading.bytes.length == reading.size

def start (body : Option UInt32) : Reading := ⟨body, [], Nat.zero_le _⟩

/-- The bytes that are taken of those that have arrived. -/
def taken (reading : Reading) (arrived : List UInt8) : List UInt8 :=
  arrived.take (reading.size - reading.bytes.length)

def append (reading : Reading) (arrived : List UInt8) : Reading where
  body := reading.body
  bytes := reading.bytes ++ reading.taken arrived
  length_le := by
    have le := reading.length_le
    have takenLe : (reading.taken arrived).length ≤ reading.size - reading.bytes.length :=
      List.length_take_le _ _
    rw [List.length_append]
    exact (Nat.add_le_add_left takenLe _).trans_eq (Nat.add_sub_of_le le)

end Reading

/-- `peer`, with the messages that have been put into the queue. -/
structure Peer where
  options : PeerOptions
  isOpen : Bool
  ready : Bool
  closeAfterWrite : Bool
  reading : Option Reading
  readError : Option SocketError
  writeQueue : List (List UInt8)
  /-- A write is under way, and `written` bytes of the first frame have been written. -/
  writing : Bool
  written : Nat
  writeError : Option SocketError
  signals : List PeerSignal
  accepted : List StreamMessage

namespace Peer

def signal (p : Peer) (signal : PeerSignal) : Peer := { p with signals := p.signals ++ [signal] }

/-- The first frame has been written. -/
def isWritten (p : Peer) : Bool := (p.writeQueue.headD []).length ≤ p.written

/-! ## Closing -/

/-- `close_socket`. -/
def closeSocket (p : Peer) : Peer :=
  { p with
    isOpen := false
    readError :=
      if p.reading.all Reading.isFull then p.readError else p.readError.or (some .operationAborted)
    writeError :=
      if !p.writing || p.isWritten then p.writeError
      else p.writeError.or (some .operationAborted) }

def close (p : Peer) : Peer :=
  let closed := p.closeSocket
  if p.isOpen then closed.signal .closed else closed

def handleError (p : Peer) (error : StreamError) : Peer :=
  if error = .socket .operationAborted then p else (p.signal (.errorOccurred error)).close

/-! ## Writing -/

def write (p : Peer) : Peer :=
  if !p.isOpen || p.writeQueue.isEmpty then p else { p with writing := true, writeError := none }

def validOutgoingFrame (p : Peer) (frame : List UInt8) : Bool :=
  let bodySize := (Protocol.decodeUint32 (frame.take Protocol.headerSize)).toNat
  if frame.length < Protocol.headerSize + Protocol.typeSize then false
  else if frame.length ≠ Protocol.headerSize + bodySize ∨ bodySize < Protocol.typeSize then false
  else
    match MessageType.ofUnderlying (frame.getD Protocol.headerSize 0) with
    | some .request | some .response =>
        Protocol.typeSize + Protocol.requestIdSize ≤ bodySize &&
          bodySize ≤ p.options.maxMessageSize + Protocol.typeSize + Protocol.requestIdSize
    | some _ => bodySize ≤ p.options.maxMessageSize + Protocol.typeSize
    | none => false

/-- `push_frame` with the frame of a message. -/
def pushFrame (p : Peer) (message : StreamMessage) : Peer :=
  if !p.isOpen then p
  else if !p.validOutgoingFrame message.frame ||
      p.options.maxSendQueueSize ≤ p.writeQueue.length then p.handleError .noBufferSpace
  else
    let pushed :=
      { p with
        writeQueue := p.writeQueue ++ [message.frame]
        accepted := p.accepted ++ [message] }
    if p.writeQueue.isEmpty then pushed.write else pushed

/-- The handler of a write that is over. -/
def writeHandler (p : Peer) : Peer :=
  let ended := { p with writing := false, writeError := none }
  match p.writeError with
  | some error => ended.handleError (.socket error)
  | none =>
      let popped := { ended with writeQueue := p.writeQueue.tail, written := 0 }
      if popped.writeQueue.isEmpty && p.closeAfterWrite then popped.close else popped.write

/-! ## Reading -/

def ensureReady (p : Peer) : Peer :=
  if p.ready then p else { p with ready := true }.signal .ready

def readHeader (p : Peer) : Peer :=
  if !p.isOpen then p else { p with reading := some (.start none), readError := none }

/-- `read_body`, which fails at once when the socket is closed. -/
def readBody (p : Peer) (size : UInt32) : Peer :=
  { p with
    reading := some (.start (some size))
    readError := if p.isOpen then none else some .badDescriptor }

def handleHeader (p : Peer) (header : List UInt8) : Peer :=
  let bodySize := Protocol.decodeUint32 header
  if bodySize.toNat < Protocol.typeSize ∨
      p.options.maxMessageSize + Protocol.typeSize + Protocol.requestIdSize < bodySize.toNat then
    p.handleError .messageSize
  else p.readBody bodySize

def handleBody (p : Peer) (body : List UInt8) : Peer :=
  match MessageType.ofUnderlying (body.getD 0 0) with
  | some .heartbeat => p.readHeader
  | some .userData =>
      let ready := p.ensureReady
      if p.options.maxMessageSize + Protocol.typeSize < body.length then
        ready.handleError .messageSize
      else (ready.signal (.received (body.drop Protocol.typeSize))).readHeader
  | some .request => requestOrResponse .requestReceived
  | some .response => requestOrResponse .responseReceived
  | some .healthCheck =>
      if p.ready then p.handleError .operationNotSupported
      else { p with closeAfterWrite := true }.pushFrame .healthCheckResponse
  | some .healthCheckResponse => (p.signal .healthCheckResponseReceived).readHeader
  | none => p.handleError .invalidArgument
where
  requestOrResponse (received : UInt64 → List UInt8 → PeerSignal) : Peer :=
    let ready := p.ensureReady
    if body.length < Protocol.typeSize + Protocol.requestIdSize ∨
        p.options.maxMessageSize + Protocol.typeSize + Protocol.requestIdSize < body.length then
      ready.handleError .messageSize
    else
      (ready.signal (received (Protocol.decodeUint64 body Protocol.typeSize)
        (body.drop (Protocol.typeSize + Protocol.requestIdSize)))).readHeader

/-- The handler of a read that is over. -/
def readHandler (p : Peer) (reading : Reading) : Peer :=
  let ended := { p with reading := none, readError := none }
  match p.readError, reading.body with
  | some error, none =>
      if error = .eof ∧ reading.bytes = [] then ended.close else ended.handleError (.socket error)
  | some error, some _ => ended.handleError (.socket error)
  | none, none => ended.handleHeader reading.bytes
  | none, some _ => ended.handleBody reading.bytes

end Peer

/-- What happens at an end. -/
inductive PeerAction where
  | close
  | push (message : StreamMessage)
  | heartbeatTimer
  | readyDeadline
  /-- `heartbeat_deadline_`, `read_deadline_` or `write_deadline_`. -/
  | deadline
  | readFails (error : SocketError)
  | readHandler
  | writeFails (error : SocketError)
  | writeHandler

namespace Peer

/-- A peer that has been started. -/
def initial (options : PeerOptions) : Peer :=
  readHeader ⟨options, true, false, false, none, none, [], false, 0, none, [], []⟩

def step (p : Peer) : PeerAction → Peer
  | .close => p.close
  | .push message => p.pushFrame message
  | .heartbeatTimer => if p.isOpen then p.pushFrame .heartbeat else p
  | .readyDeadline => p.ensureReady
  | .deadline => p.handleError .timedOut
  | .readFails error =>
      if p.reading.all Reading.isFull then p
      else { p with readError := p.readError.or (some error) }
  | .readHandler =>
      match p.reading with
      | some reading => if reading.isFull || p.readError.isSome then p.readHandler reading else p
      | none => p
  | .writeFails error =>
      if !p.writing || p.isWritten then p
      else { p with writeError := p.writeError.or (some error) }
  | .writeHandler =>
      if p.writing && (p.writeError.isSome || p.isWritten) then p.writeHandler else p

end Peer

end Karabiner

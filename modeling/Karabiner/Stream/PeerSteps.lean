import Karabiner.Stream.Peer

/-! # What a step of a peer does

A step puts messages into the queue, and signals come of the bytes of the other end
(`Peer.Extends`). A body that has been read is handed over, unless it is larger than the peer allows
(`Peer.Sends.handleBody_message`).
-/

namespace Karabiner

namespace StreamMessage

/-- The signal that a message becomes at the other end. -/
def handedOver : StreamMessage → Option PeerSignal
  | userData data => some (.received data)
  | request requestId data => some (.requestReceived requestId data)
  | response requestId data => some (.responseReceived requestId data)
  | healthCheckResponse => some .healthCheckResponseReceived
  | heartbeat | healthCheck => none

/-- What the body has beside the data. -/
def overhead : StreamMessage → Nat
  | request _ _ | response _ _ => Protocol.typeSize + Protocol.requestIdSize
  | _ => Protocol.typeSize

end StreamMessage

namespace PeerSignal

/-- Whether the signal is a message of the other end. -/
def isMessage : PeerSignal → Bool
  | received _ | requestReceived _ _ | responseReceived _ _ | healthCheckResponseReceived => true
  | ready | errorOccurred _ | closed => false

/-- Whether the signal comes of the bytes of the other end: a message, or an error that says that
they make none. -/
def isOutcome : PeerSignal → Bool
  | errorOccurred error => error = .messageSize ∨ error = .invalidArgument
  | signal => signal.isMessage

end PeerSignal

namespace Peer

open Protocol

variable {p next last : Peer} {message : StreamMessage}

/-- The messages of the other end that are handed to the owner. -/
def handed (p : Peer) : List PeerSignal := p.signals.filter PeerSignal.isMessage

def outcome (p : Peer) : List PeerSignal := p.signals.filter PeerSignal.isOutcome

/-- The bytes of the queue that are still to be written. -/
def unsent (p : Peer) : List UInt8 :=
  (p.writeQueue.headD []).drop p.written ++ p.writeQueue.tail.flatten

/-! ## What is sent -/

structure Sends (p : Peer) : Prop where
  written : p.writeQueue = [] → p.written = 0
  valid : ∀ message ∈ p.accepted, p.validOutgoingFrame message.frame = true

/-- Messages are put into the queue, and signals come of the bytes of the other end. -/
structure Extends (p next : Peer) (sent : List StreamMessage) (outcome : List PeerSignal) :
    Prop where
  sends : next.Sends
  options : next.options = p.options
  accepted : next.accepted = p.accepted ++ sent
  unsent : next.unsent = p.unsent ++ (sent.map StreamMessage.frame).flatten
  outcome : next.outcome = p.outcome ++ outcome

theorem Extends.trans {sent later : List StreamMessage} {outcome outcomeLater : List PeerSignal}
    (first : p.Extends next sent outcome) (second : next.Extends last later outcomeLater) :
    p.Extends last (sent ++ later) (outcome ++ outcomeLater) where
  sends := second.sends
  options := second.options.trans first.options
  accepted := by rw [second.accepted, first.accepted, List.append_assoc]
  unsent := by
    rw [second.unsent, first.unsent, List.append_assoc, List.map_append, List.flatten_append]
  outcome := by rw [second.outcome, first.outcome, List.append_assoc]

/-- A peer that has accepted and written the same, with more outcomes, extends the one before by
these. -/
theorem Extends.of_same (sends : p.Sends) (options : next.options = p.options)
    (accepted : next.accepted = p.accepted) (writeQueue : next.writeQueue = p.writeQueue)
    (written : next.written = p.written) {outcome : List PeerSignal}
    (signals : next.outcome = p.outcome ++ outcome) : p.Extends next [] outcome where
  sends := by
    refine ⟨by rw [writeQueue, written]; exact sends.written, fun message member => ?_⟩
    have valid := sends.valid message (accepted ▸ member)
    unfold validOutgoingFrame at valid ⊢
    rwa [options]
  options := options
  accepted := accepted.trans (List.append_nil _).symm
  unsent := by
    unfold Peer.unsent
    rw [writeQueue, written]
    exact (List.append_nil _).symm
  outcome := signals

/-- What a step changes that is nothing to what is sent. -/
theorem Extends.of_unchanged (sends : p.Sends)
    (same : (next.options, next.accepted, next.writeQueue, next.written, next.outcome) =
      (p.options, p.accepted, p.writeQueue, p.written, p.outcome)) : p.Extends next [] [] := by
  obtain ⟨options, accepted, writeQueue, written, outcome⟩ := by simpa using same
  exact .of_same sends options accepted writeQueue written
    (outcome.trans (List.append_nil _).symm)

theorem Extends.refl (sends : p.Sends) : p.Extends p [] [] := .of_unchanged sends rfl

theorem Sends.signal (sends : p.Sends) (signal : PeerSignal) :
    p.Extends (p.signal signal) [] (if signal.isOutcome then [signal] else []) := by
  refine Extends.of_same sends (by rfl) (by rfl) (by rfl) (by rfl) ?_
  unfold outcome Peer.signal
  rw [List.filter_append, List.filter_cons, List.filter_nil]

theorem Sends.close (sends : p.Sends) : p.Extends p.close [] [] := by
  have closed : p.Extends p.closeSocket [] [] :=
    .of_unchanged sends (by rfl)
  unfold Peer.close
  dsimp only
  split
  · exact closed.trans (closed.sends.signal .closed)
  · exact closed

theorem Sends.handleError (sends : p.Sends) (error : StreamError) :
    p.Extends (p.handleError error) []
      (if (PeerSignal.errorOccurred error).isOutcome then [.errorOccurred error] else []) := by
  unfold Peer.handleError
  split
  · rename_i aborted
    rw [aborted]
    exact .refl sends
  · have signals := sends.signal (.errorOccurred error)
    have closes := signals.trans signals.sends.close
    rwa [List.append_nil, List.append_nil] at closes

theorem Sends.write (sends : p.Sends) : p.Extends p.write [] [] := by
  unfold Peer.write
  split
  · exact .refl sends
  · exact .of_unchanged sends (by rfl)

/-- A pushed message is accepted and queued with its frame, or nothing changes. -/
theorem Sends.pushFrame (sends : p.Sends) (message : StreamMessage) :
    ∃ sent, p.Extends (p.pushFrame message) sent [] := by
  unfold Peer.pushFrame
  split
  · exact ⟨[], .refl sends⟩
  split
  · exact ⟨[], sends.handleError .noBufferSpace⟩
  · rename_i refused
    have valid : p.validOutgoingFrame message.frame = true := by
      by_contra invalid
      simp [invalid] at refused
    have pushed : p.Extends { p with
        writeQueue := p.writeQueue ++ [message.frame]
        accepted := p.accepted ++ [message] } [message] [] := by
      refine ⟨⟨fun none => absurd none (by simp), fun other member => ?_⟩, rfl, rfl, ?_,
        (List.append_nil _).symm⟩
      · obtain member | isLast := List.mem_append.mp member
        · exact sends.valid other member
        · rw [List.mem_singleton.mp isLast]
          exact valid
      · unfold Peer.unsent
        cases isQueue : p.writeQueue with
        | nil => simp [sends.written isQueue]
        | cons first rest => simp
    refine ⟨[message], ?_⟩
    dsimp only
    split
    · exact pushed.trans pushed.sends.write
    · exact pushed

/-- The end of a write takes what has been written from the queue, and is no outcome. -/
theorem Sends.writeHandler (sends : p.Sends) (isOver : p.writeError = none → p.isWritten = true) :
    p.Extends p.writeHandler [] [] := by
  have ended : p.Extends { p with writing := false, writeError := none } [] [] :=
    .of_unchanged sends (by rfl)
  unfold Peer.writeHandler
  dsimp only
  split
  · rename_i error _
    exact ended.trans (ended.sends.handleError (.socket error))
  · rename_i noError
    have popped : p.Extends { p with
        writing := false, writeError := none, writeQueue := p.writeQueue.tail, written := 0 }
        [] [] := by
      refine ⟨⟨fun _ => rfl, sends.valid⟩, rfl, (List.append_nil _).symm, ?_,
        (List.append_nil _).symm⟩
      have nothingLeft : (p.writeQueue.headD []).drop p.written = [] :=
        List.drop_eq_nil_of_le (of_decide_eq_true (isOver noError))
      unfold Peer.unsent
      rw [nothingLeft]
      cases p.writeQueue.tail <;> simp
    split
    · exact popped.trans popped.sends.close
    · exact popped.trans popped.sends.write

theorem Sends.ensureReady (sends : p.Sends) : p.Extends p.ensureReady [] [] := by
  unfold Peer.ensureReady
  split
  · exact .refl sends
  · have ready : p.Extends { p with ready := true } [] [] := .of_unchanged sends (by rfl)
    exact ready.trans (ready.sends.signal .ready)

theorem Sends.readHeader (sends : p.Sends) : p.Extends p.readHeader [] [] := by
  unfold Peer.readHeader
  split
  · exact .refl sends
  · exact .of_unchanged sends (by rfl)

theorem Sends.readBody (sends : p.Sends) (size : UInt32) : p.Extends (p.readBody size) [] [] :=
  .of_unchanged sends (by rfl)

/-! ## What is read -/

@[simp] theorem reading_signal (p : Peer) (signal : PeerSignal) :
    (p.signal signal).reading = p.reading := rfl

@[simp] theorem reading_close (p : Peer) : p.close.reading = p.reading := by
  unfold Peer.close
  dsimp only
  split <;> rfl

@[simp] theorem reading_handleError (p : Peer) (error : StreamError) :
    (p.handleError error).reading = p.reading := by
  unfold Peer.handleError
  split
  · rfl
  · rw [reading_close, reading_signal]

@[simp] theorem reading_write (p : Peer) : p.write.reading = p.reading := by
  unfold Peer.write
  split <;> rfl

@[simp] theorem reading_pushFrame (p : Peer) (message : StreamMessage) :
    (p.pushFrame message).reading = p.reading := by
  unfold Peer.pushFrame
  dsimp only
  split
  · rfl
  split
  · exact reading_handleError p _
  split
  · exact reading_write _
  · rfl

@[simp] theorem reading_ensureReady (p : Peer) : p.ensureReady.reading = p.reading := by
  unfold Peer.ensureReady
  split <;> rfl

@[simp] theorem reading_writeHandler (p : Peer) : p.writeHandler.reading = p.reading := by
  unfold Peer.writeHandler
  dsimp only
  split
  · exact reading_handleError _ _
  split
  · exact reading_close _
  · exact reading_write _

/-- After a message the next header is read, unless the socket is closed. -/
theorem reading_readHeader (isOver : p.reading = none) (reading : Reading)
    (isReading : p.readHeader.reading = some reading) : reading = .start none := by
  unfold Peer.readHeader at isReading
  split at isReading
  · rw [isOver] at isReading
    cases isReading
  · exact (Option.some.inj isReading).symm

/-- A message that is accepted fits its header and the size that the sender allows. -/
theorem sizes_of_valid (valid : p.validOutgoingFrame message.frame = true) :
    (UInt32.ofNat message.body.length).toNat = message.body.length ∧
      message.body.length ≤ p.options.maxMessageSize + message.overhead := by
  have header : decodeUint32 (message.frame.take headerSize) =
      UInt32.ofNat message.body.length := by
    rw [message.frame_eq]
    exact decodeUint32_encodeUint32 _
  have length : message.frame.length = headerSize + message.body.length := by
    rw [message.frame_eq, List.length_append]
    rfl
  have type : message.frame.getD headerSize 0 = message.body.getD 0 0 := by
    rw [message.frame_eq]
    rfl
  unfold validOutgoingFrame at valid
  dsimp only at valid
  rw [header, length, type] at valid
  split at valid
  · cases valid
  split at valid
  · cases valid
  · rename_i fits
    have size := Nat.add_left_cancel (not_not.mp (not_or.mp fits).1)
    refine ⟨size.symm, ?_⟩
    rw [← size, message.ofUnderlying_body] at valid
    cases message with
    | request _ _ | response _ _ =>
        exact (of_decide_eq_true (Bool.and_eq_true_iff.mp valid).2).trans_eq (Nat.add_assoc _ _ _)
    | _ => exact of_decide_eq_true valid

/-- A message is handed over, and the next header is read. -/
theorem Sends.handOver (sends : p.Sends) {signal : PeerSignal}
    (isMessage : signal.isOutcome = true) :
    p.Extends (p.signal signal).readHeader [] [signal] := by
  have signals := sends.signal signal
  rw [if_pos isMessage] at signals
  exact signals.trans signals.sends.readHeader

theorem Sends.requestOrResponse (sends : p.Sends) (body : List UInt8)
    {received : UInt64 → List UInt8 → PeerSignal}
    (isMessage : ∀ requestId data, (received requestId data).isOutcome = true) :
    ∃ outcome, p.Extends (handleBody.requestOrResponse p body received) [] outcome := by
  have ready := sends.ensureReady
  unfold handleBody.requestOrResponse
  dsimp only
  split
  · exact ⟨_, ready.trans (ready.sends.handleError .messageSize)⟩
  · exact ⟨_, ready.trans (ready.sends.handOver (isMessage _ _))⟩

/-- Handling a body sends at most a response to a health check, and its outcome is recorded. -/
theorem Sends.handleBody (sends : p.Sends) (body : List UInt8) :
    ∃ sent outcome, p.Extends (p.handleBody body) sent outcome := by
  have ready := sends.ensureReady
  unfold Peer.handleBody
  split
  · exact ⟨_, _, sends.readHeader⟩
  · dsimp only
    split
    · exact ⟨_, _, ready.trans (ready.sends.handleError .messageSize)⟩
    · exact ⟨_, _, ready.trans (ready.sends.handOver rfl)⟩
  · exact ⟨_, sends.requestOrResponse body fun _ _ => rfl⟩
  · exact ⟨_, sends.requestOrResponse body fun _ _ => rfl⟩
  · split
    · exact ⟨_, _, sends.handleError .operationNotSupported⟩
    · have closes : p.Extends { p with closeAfterWrite := true } [] [] :=
        .of_unchanged sends (by rfl)
      obtain ⟨sent, pushes⟩ := closes.sends.pushFrame .healthCheckResponse
      exact ⟨_, _, closes.trans pushes⟩
  · exact ⟨_, _, sends.handOver rfl⟩
  · exact ⟨_, _, sends.handleError .invalidArgument⟩

/-- A peer has read a message: it hands the message over and goes on, or the message is larger than
it allows. -/
def Handled (p next : Peer) (message : StreamMessage) : Prop :=
  (∃ sent, p.Extends next sent message.handedOver.toList) ∧
      (∀ reading, next.reading = some reading → reading = .start none) ∨
    p.Extends next [] [.errorOccurred .messageSize] ∧ next.reading = none ∧
      p.options.maxMessageSize + message.overhead < message.body.length

theorem Sends.handled_of_tooLarge (sends : p.Sends) (isOver : p.reading = none)
    (tooLarge : p.options.maxMessageSize + message.overhead < message.body.length) :
    p.Handled (p.ensureReady.handleError .messageSize) message := by
  have ready := sends.ensureReady
  refine .inr ⟨ready.trans (ready.sends.handleError .messageSize), ?_, tooLarge⟩
  rw [reading_handleError, reading_ensureReady]
  exact isOver

/-- A message that is handed over has been handled: its signal is the outcome, and the next header
is read. -/
theorem Sends.handled_of_handOver (sends : p.Sends) (isOver : p.reading = none)
    {signal : PeerSignal} (isMessage : signal.isOutcome = true)
    (isSignal : message.handedOver = some signal) :
    p.Handled (p.ensureReady.signal signal).readHeader message := by
  have ready := sends.ensureReady
  refine .inl ⟨⟨[], ?_⟩, reading_readHeader ?_⟩
  · rw [isSignal]
    exact ready.trans (ready.sends.handOver isMessage)
  · rw [reading_signal, reading_ensureReady]
    exact isOver

/-- The body of a request or response is decoded to its id and data, which are handed over. -/
theorem Sends.requestOrResponse_message (sends : p.Sends) (isOver : p.reading = none)
    {received : UInt64 → List UInt8 → PeerSignal}
    (isMessage : ∀ requestId data, (received requestId data).isOutcome = true)
    {type : MessageType} {requestId : UInt64} {data : List UInt8}
    (isBody : message.body = type.toUnderlying :: (encodeUint64 requestId ++ data))
    (overhead : message.overhead = typeSize + requestIdSize)
    (isSignal : message.handedOver = some (received requestId data)) :
    p.Handled (handleBody.requestOrResponse p message.body received) message := by
  unfold handleBody.requestOrResponse
  dsimp only
  split
  · rename_i wrongSize
    refine sends.handled_of_tooLarge isOver ?_
    obtain tooSmall | tooLarge := wrongSize
    · rw [isBody, List.length_cons, List.length_append, length_encodeUint64] at tooSmall
      unfold typeSize at tooSmall
      omega
    · rwa [overhead, ← Nat.add_assoc]
  · have decoded : decodeUint64 message.body typeSize = requestId := by
      rw [isBody]
      exact decodeUint64_encodeUint64 _ _ _
    have dropped : message.body.drop (typeSize + requestIdSize) = data := by
      rw [isBody]
      rfl
    rw [decoded, dropped]
    exact sends.handled_of_handOver isOver (isMessage _ _) isSignal

/-- The body of each message that can be sent is handled as that message. -/
theorem Sends.handleBody_message (sends : p.Sends) (isOver : p.reading = none)
    (message : StreamMessage) : p.Handled (p.handleBody message.body) message := by
  unfold Peer.handleBody
  rw [message.ofUnderlying_body]
  cases message with
  | heartbeat => exact .inl ⟨⟨_, sends.readHeader⟩, reading_readHeader isOver⟩
  | userData data =>
      dsimp only [StreamMessage.type]
      split
      · rename_i tooLarge
        exact sends.handled_of_tooLarge isOver tooLarge
      · exact sends.handled_of_handOver isOver rfl rfl
  | healthCheck =>
      dsimp only [StreamMessage.type]
      split
      · refine .inl ⟨⟨_, sends.handleError .operationNotSupported⟩, fun reading isReading => ?_⟩
        rw [reading_handleError, isOver] at isReading
        cases isReading
      · have closes : p.Extends { p with closeAfterWrite := true } [] [] :=
          .of_unchanged sends (by rfl)
        obtain ⟨sent, pushes⟩ := closes.sends.pushFrame .healthCheckResponse
        refine .inl ⟨⟨_, closes.trans pushes⟩, fun reading isReading => ?_⟩
        rw [reading_pushFrame] at isReading
        exact absurd isReading (by simp [isOver])
  | healthCheckResponse =>
      exact .inl ⟨⟨_, sends.handOver rfl⟩, reading_readHeader isOver⟩
  | request _ _ => exact sends.requestOrResponse_message isOver (fun _ _ => rfl) rfl rfl rfl
  | response _ _ => exact sends.requestOrResponse_message isOver (fun _ _ => rfl) rfl rfl rfl

theorem Sends.ended (sends : p.Sends) :
    p.Extends { p with reading := none, readError := none } [] [] :=
  .of_unchanged sends (by rfl)

/-- The read handler extends what the peer has accepted, written and signalled. -/
theorem Sends.readHandler (sends : p.Sends) (reading : Reading) :
    ∃ sent outcome, p.Extends (p.readHandler reading) sent outcome := by
  have ended := sends.ended
  unfold Peer.readHandler
  dsimp only
  split
  · split
    · exact ⟨_, _, ended.trans ended.sends.close⟩
    · exact ⟨_, _, ended.trans (ended.sends.handleError _)⟩
  · exact ⟨_, _, ended.trans (ended.sends.handleError _)⟩
  · unfold handleHeader
    dsimp only
    split
    · exact ⟨_, _, ended.trans (ended.sends.handleError .messageSize)⟩
    · exact ⟨_, _, ended.trans (ended.sends.readBody _)⟩
  · obtain ⟨sent, outcome, handles⟩ := ended.sends.handleBody reading.bytes
    exact ⟨_, _, ended.trans handles⟩

/-- A step that is not the handler of a read. -/
theorem Sends.step_of_ne (sends : p.Sends) {action : PeerAction}
    (isOther : action ≠ .readHandler) :
    (∃ sent, p.Extends (p.step action) sent []) ∧ (p.step action).reading = p.reading := by
  cases action with
  | close => exact ⟨⟨_, sends.close⟩, reading_close p⟩
  | push message => exact ⟨sends.pushFrame message, reading_pushFrame p message⟩
  | heartbeatTimer =>
      unfold Peer.step
      dsimp only
      split
      · exact ⟨sends.pushFrame .heartbeat, reading_pushFrame p .heartbeat⟩
      · exact ⟨⟨_, .refl sends⟩, rfl⟩
  | readyDeadline => exact ⟨⟨_, sends.ensureReady⟩, reading_ensureReady p⟩
  | deadline => exact ⟨⟨_, sends.handleError .timedOut⟩, reading_handleError p _⟩
  | readFails error =>
      unfold Peer.step
      dsimp only
      split
      · exact ⟨⟨_, .refl sends⟩, rfl⟩
      · exact ⟨⟨_, .of_unchanged sends (by rfl)⟩, rfl⟩
  | readHandler => exact absurd rfl isOther
  | writeFails error =>
      unfold Peer.step
      dsimp only
      split
      · exact ⟨⟨_, .refl sends⟩, rfl⟩
      · exact ⟨⟨_, .of_unchanged sends (by rfl)⟩, rfl⟩
  | writeHandler =>
      unfold Peer.step
      dsimp only
      split
      · rename_i isOver
        refine ⟨⟨_, sends.writeHandler fun noError => ?_⟩, reading_writeHandler p⟩
        simpa [noError] using (Bool.and_eq_true_iff.mp isOver).2
      · exact ⟨⟨_, .refl sends⟩, rfl⟩

end Peer

end Karabiner

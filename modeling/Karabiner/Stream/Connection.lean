import Karabiner.Stream.PeerSteps
import Mathlib.Data.List.Induction
import Mathlib.Logic.Function.Basic

/-! # What a connection carries

Two peers are the ends of a connection, and the socket carries bytes in both directions: those that
one end has written are read by the other one in pieces of any size. In every run, what an end hands
to its owner are the messages of the other end, in their order
(`StreamConnection.messages_in_order`).
-/

namespace Karabiner

/-- A connection, with the bytes of each end that have been written and are not yet read. -/
structure StreamConnection where
  peer : Bool → Peer
  wire : Bool → List UInt8

inductive StreamConnectionAction where
  | act (side : Bool) (action : PeerAction)
  /-- Some bytes of the first frame are written. -/
  | writeSome (side : Bool) (count : Nat)
  /-- Some bytes of the other end arrive. -/
  | readSome (side : Bool) (count : Nat)

namespace StreamConnection

open Function

def initial (options : Bool → PeerOptions) : StreamConnection :=
  ⟨fun side => .initial (options side), fun _ => []⟩

def setPeer (c : StreamConnection) (side : Bool) (p : Peer) : StreamConnection :=
  { c with peer := update c.peer side p }

def setWire (c : StreamConnection) (side : Bool) (bytes : List UInt8) : StreamConnection :=
  { c with wire := update c.wire side bytes }

def writeSome (c : StreamConnection) (side : Bool) (count : Nat) : StreamConnection :=
  let p := c.peer side
  if p.writing && p.writeError.isNone then
    let bytes := ((p.writeQueue.headD []).drop p.written).take count
    (c.setPeer side { p with written := p.written + bytes.length }).setWire side
      (c.wire side ++ bytes)
  else c

def readSome (c : StreamConnection) (side : Bool) (count : Nat) : StreamConnection :=
  let p := c.peer side
  match p.reading, p.readError with
  | some reading, none =>
      let arrived := (c.wire !side).take count
      (c.setPeer side { p with reading := some (reading.append arrived) }).setWire (!side)
        ((c.wire !side).drop (reading.taken arrived).length)
  | _, _ => c

def step (c : StreamConnection) : StreamConnectionAction → StreamConnection
  | .act side action => c.setPeer side ((c.peer side).step action)
  | .writeSome side count => c.writeSome side count
  | .readSome side count => c.readSome side count

end StreamConnection

namespace Peer

open Protocol

variable {p next sender receiver : Peer} {message : StreamMessage} {wire : List UInt8}

/-- The bytes of the frame that is being read. -/
def frameBytes (reading : Reading) : List UInt8 :=
  (reading.body.map encodeUint32).getD [] ++ reading.bytes

/-- What one end has put into its queue and what has come of it at the other one: some messages have
been handled, and the bytes of the others are those that are still on their way. -/
def Carries (sender receiver : Peer) (wire : List UInt8) : Prop :=
  ∃ handled rest rejected,
    sender.accepted = handled ++ rest ∧
    receiver.outcome = handled.filterMap StreamMessage.handedOver ++ rejected ∧
    (rejected = [] ∨ rejected = [.errorOccurred .messageSize] ∧ receiver.reading = none ∧
      receiver.options.maxMessageSize < sender.options.maxMessageSize) ∧
    ∀ reading, receiver.reading = some reading →
      frameBytes reading ++ wire ++ sender.unsent = (rest.map StreamMessage.frame).flatten

theorem Carries.send (carries : Carries sender receiver wire) {sent : List StreamMessage}
    {outcome : List PeerSignal} (extends_ : sender.Extends next sent outcome) :
    Carries next receiver wire := by
  obtain ⟨handled, rest, rejected, accepted, isOutcome, rejects, bytes⟩ := carries
  refine ⟨handled, rest ++ sent, rejected, ?_, isOutcome, ?_, fun reading isReading => ?_⟩
  · rw [extends_.accepted, accepted, List.append_assoc]
  · rwa [extends_.options]
  · rw [extends_.unsent, ← List.append_assoc, bytes reading isReading, List.map_append,
      List.flatten_append]

/-- The receiver does something else than to read, or its read fails. -/
theorem Carries.receive (carries : Carries sender receiver wire)
    (options : next.options = receiver.options) (outcome : next.outcome = receiver.outcome)
    (same : ∀ reading, next.reading = some reading → receiver.reading = some reading)
    (none : receiver.reading = none → next.reading = none) : Carries sender next wire := by
  obtain ⟨handled, rest, rejected, accepted, isOutcome, rejects, bytes⟩ := carries
  refine ⟨handled, rest, rejected, accepted, outcome.trans isOutcome, ?_, fun reading isReading =>
    bytes reading (same reading isReading)⟩
  rw [options]
  exact rejects.imp_right fun ⟨isRejected, isNone, less⟩ => ⟨isRejected, none isNone, less⟩

/-- The bytes of messages start with the header of the first one. -/
theorem exists_first {rest : List StreamMessage} {header more : List UInt8}
    (isHeader : header.length = headerSize)
    (bytes : header ++ more = (rest.map StreamMessage.frame).flatten) :
    ∃ message later, rest = message :: later ∧
      header = encodeUint32 (UInt32.ofNat message.body.length) ∧
      more = message.body ++ (later.map StreamMessage.frame).flatten := by
  cases rest with
  | nil =>
      have isEmpty : header = [] := (List.append_eq_nil_iff.mp bytes).1
      rw [isEmpty] at isHeader
      cases isHeader
  | cons message later =>
      rw [List.map_cons, List.flatten_cons, message.frame_eq, List.append_assoc] at bytes
      obtain ⟨same, sameMore⟩ := List.append_inj bytes isHeader
      exact ⟨message, later, rfl, same, sameMore⟩

/-- The header of a message is read. -/
theorem Carries.readsHeader (carries : Carries sender receiver wire) (sends : sender.Sends)
    (receives : receiver.Sends) {reading : Reading} (isReading : receiver.reading = some reading)
    (isHeader : reading.body = none) (isFull : reading.bytes.length = reading.size) :
    Carries sender
      (handleHeader { receiver with reading := none, readError := none } reading.bytes) wire := by
  obtain ⟨handled, rest, rejected, accepted, isOutcome, rejects, bytes⟩ := carries
  have noneRejected : rejected = [] := rejects.resolve_right fun ⟨_, isNone, _⟩ => by
    rw [isReading] at isNone
    cases isNone
  have read := bytes reading isReading
  unfold frameBytes at read
  unfold Reading.size at isFull
  rw [isHeader] at read isFull
  have fits : reading.bytes ++ (wire ++ sender.unsent) =
      (rest.map StreamMessage.frame).flatten := (List.append_assoc _ _ _).symm.trans read
  obtain ⟨message, later, isRest, header, -⟩ := exists_first isFull fits
  have valid := sends.valid message (accepted ▸ isRest ▸ List.mem_append_right _ List.mem_cons_self)
  obtain ⟨size, bound⟩ := sizes_of_valid valid
  have ended := receives.ended
  unfold handleHeader
  dsimp only
  rw [header, decodeUint32_encodeUint32, size]
  split
  · rename_i wrongSize
    have errors := ended.trans (ended.sends.handleError .messageSize)
    refine ⟨handled, rest, [.errorOccurred .messageSize], accepted, ?_, .inr ⟨rfl, ?_, ?_⟩,
      fun other isOther => ?_⟩
    · rw [errors.outcome, isOutcome, noneRejected, List.append_nil]
      rfl
    · exact reading_handleError _ _
    · rw [errors.options]
      have notEmpty : typeSize ≤ message.body.length := by
        cases message <;> exact Nat.le_add_left _ _
      have tooLarge := wrongSize.resolve_left (Nat.not_lt_of_le notEmpty)
      have overhead : message.overhead ≤ typeSize + requestIdSize := by
        cases message <;> exact Nat.le_of_ble_eq_true rfl
      change receiver.options.maxMessageSize + typeSize + requestIdSize < _ at tooLarge
      omega
    · rw [reading_handleError] at isOther
      cases isOther
  · have reads := ended.trans (ended.sends.readBody (UInt32.ofNat message.body.length))
    refine ⟨handled, rest, [], accepted, ?_, .inl rfl, fun other isOther => ?_⟩
    · rw [reads.outcome, isOutcome, noneRejected, List.append_nil]
      exact List.append_nil _
    · obtain rfl := Option.some.inj isOther
      rw [← fits, header]
      exact List.append_assoc _ _ _

/-- The body of a message is read. -/
theorem Carries.readsBody (carries : Carries sender receiver wire) (sends : sender.Sends)
    (receives : receiver.Sends) {reading : Reading} (isReading : receiver.reading = some reading)
    {size : UInt32} (isBody : reading.body = some size)
    (isFull : reading.bytes.length = reading.size) :
    Carries sender
      (handleBody { receiver with reading := none, readError := none } reading.bytes) wire := by
  obtain ⟨handled, rest, rejected, accepted, isOutcome, rejects, bytes⟩ := carries
  have noneRejected : rejected = [] := rejects.resolve_right fun ⟨_, isNone, _⟩ => by
    rw [isReading] at isNone
    cases isNone
  have read := bytes reading isReading
  unfold frameBytes at read
  unfold Reading.size at isFull
  rw [isBody] at read isFull
  have fits : encodeUint32 size ++ (reading.bytes ++ (wire ++ sender.unsent)) =
      (rest.map StreamMessage.frame).flatten := by
    rw [← read, List.append_assoc, List.append_assoc]
    rfl
  obtain ⟨message, later, isRest, header, isMore⟩ := exists_first rfl fits
  have valid := sends.valid message (accepted ▸ isRest ▸ List.mem_append_right _ List.mem_cons_self)
  obtain ⟨toNat, bound⟩ := sizes_of_valid valid
  have sameSize : size = UInt32.ofNat message.body.length := by
    rw [← decodeUint32_encodeUint32 size, header, decodeUint32_encodeUint32]
  have length : reading.bytes.length = message.body.length := by
    rw [isFull, sameSize]
    exact toNat
  obtain ⟨sameBody, onTheirWay⟩ := List.append_inj isMore length
  have ended := receives.ended
  rw [sameBody]
  obtain ⟨⟨sent, hands⟩, goesOn⟩ | ⟨rejectsIt, isNone, tooLarge⟩ :=
    ended.sends.handleBody_message rfl message
  · have handles := ended.trans hands
    refine ⟨handled ++ [message], later, [], ?_, ?_, .inl rfl, fun other isOther => ?_⟩
    · rw [accepted, isRest, List.append_assoc]
      rfl
    · rw [handles.outcome, isOutcome, noneRejected, List.append_nil, List.append_nil,
        List.filterMap_append]
      rfl
    · rw [goesOn other isOther]
      exact onTheirWay
  · have errors := ended.trans rejectsIt
    refine ⟨handled, rest, [.errorOccurred .messageSize], accepted, ?_, .inr ⟨rfl, isNone, ?_⟩,
      fun other isOther => ?_⟩
    · rw [errors.outcome, isOutcome, noneRejected, List.append_nil]
      rfl
    · rw [errors.options]
      change receiver.options.maxMessageSize + _ < _ at tooLarge
      omega
    · rw [isNone] at isOther
      cases isOther

/-- A read that is over hands over the frame, and what is carried to the receiver is one frame less.
-/
theorem Carries.readHandler (carries : Carries sender receiver wire) (sends : sender.Sends)
    (receives : receiver.Sends) {reading : Reading} (isReading : receiver.reading = some reading)
    (isOver : (reading.isFull || receiver.readError.isSome) = true) :
    Carries sender (receiver.readHandler reading) wire := by
  have ended := receives.ended
  have stops {next : Peer}
      (extends_ : Extends { receiver with reading := none, readError := none } next [] [])
      (isNone : next.reading = none) : Carries sender next wire := by
    refine carries.receive extends_.options
      (extends_.outcome.trans (List.append_nil _)) (fun other isOther => ?_) fun _ => isNone
    rw [isNone] at isOther
    cases isOther
  unfold Peer.readHandler
  dsimp only
  split
  · split
    · exact stops ended.sends.close (reading_close _)
    · exact stops (ended.sends.handleError (.socket _)) (reading_handleError _ _)
  · exact stops (ended.sends.handleError (.socket _)) (reading_handleError _ _)
  · rename_i noError isHeader
    have isFull : reading.isFull = true := by simpa [noError] using isOver
    exact carries.readsHeader sends receives isReading isHeader (beq_iff_eq.mp isFull)
  · rename_i noError isBody
    have isFull : reading.isFull = true := by simpa [noError] using isOver
    exact carries.readsBody sends receives isReading isBody (beq_iff_eq.mp isFull)

/-- The read handler extends what the receiver has got, and the wire carries the rest. -/
theorem Carries.step_readHandler (carries : Carries sender receiver wire) (sends : sender.Sends)
    (receives : receiver.Sends) :
    (∃ sent outcome, receiver.Extends (receiver.step .readHandler) sent outcome) ∧
      Carries sender (receiver.step .readHandler) wire := by
  unfold Peer.step
  dsimp only
  split
  · rename_i reading isReading
    split
    · rename_i isOver
      exact ⟨receives.readHandler reading,
        carries.readHandler sends receives isReading isOver⟩
    · exact ⟨⟨_, _, .refl receives⟩, carries⟩
  · exact ⟨⟨_, _, .refl receives⟩, carries⟩

theorem take_append_drop_take (bytes : List UInt8) (count : Nat) :
    bytes.take count ++ bytes.drop (bytes.take count).length = bytes :=
  List.prefix_iff_eq_append.mp (List.take_prefix count bytes)

/-- Bytes of the first frame are written. -/
theorem Sends.advance (sends : p.Sends) (count : Nat) :
    let bytes := ((p.writeQueue.headD []).drop p.written).take count
    Sends { p with written := p.written + bytes.length } ∧
      bytes ++ unsent { p with written := p.written + bytes.length } = p.unsent := by
  intro bytes
  refine ⟨⟨fun isEmpty => ?_, sends.valid⟩, ?_⟩
  · have noBytes : bytes = [] := by
      change p.writeQueue = [] at isEmpty
      simp [bytes, isEmpty]
    change p.written + bytes.length = 0
    rw [sends.written isEmpty, noBytes]
    rfl
  · unfold unsent
    dsimp only
    rw [← List.append_assoc, ← List.drop_drop, take_append_drop_take]

theorem Carries.write (carries : Carries sender receiver wire) (sends : sender.Sends)
    (count : Nat) :
    let bytes := ((sender.writeQueue.headD []).drop sender.written).take count
    Carries { sender with written := sender.written + bytes.length } receiver (wire ++ bytes) := by
  intro bytes
  obtain ⟨handled, rest, rejected, accepted, isOutcome, rejects, read⟩ := carries
  refine ⟨handled, rest, rejected, accepted, isOutcome, rejects, fun reading isReading => ?_⟩
  rw [← read reading isReading, ← (sends.advance count).2, List.append_assoc, List.append_assoc,
    List.append_assoc]

/-- Bytes arrive. -/
theorem Carries.read (carries : Carries sender receiver wire) {reading : Reading}
    (isReading : receiver.reading = some reading) (count : Nat) :
    Carries sender { receiver with reading := some (reading.append (wire.take count)) }
      (wire.drop (reading.taken (wire.take count)).length) := by
  obtain ⟨handled, rest, rejected, accepted, isOutcome, rejects, bytes⟩ := carries
  have taken : reading.taken (wire.take count) ++
      wire.drop (reading.taken (wire.take count)).length = wire :=
    List.prefix_iff_eq_append.mp ((List.take_prefix _ _).trans (List.take_prefix count wire))
  refine ⟨handled, rest, rejected, accepted, isOutcome, ?_, fun other isOther => ?_⟩
  · refine rejects.imp_right fun ⟨_, isNone, _⟩ => ?_
    rw [isReading] at isNone
    cases isNone
  · obtain rfl := Option.some.inj isOther
    rw [← bytes reading isReading]
    unfold frameBytes Reading.append
    dsimp only
    nth_rewrite 4 [← taken]
    simp only [List.append_assoc]

end Peer

namespace StreamConnection

open Function Peer

variable {c : StreamConnection} {options : Bool → PeerOptions}

/-- What every step keeps. -/
structure Kept (c : StreamConnection) (options : Bool → PeerOptions) : Prop where
  sends : ∀ side, (c.peer side).Sends
  options : ∀ side, (c.peer side).options = options side
  carries : ∀ side, Carries (c.peer side) (c.peer !side) (c.wire side)

theorem kept_initial : Kept (initial options) options where
  sends side := ⟨fun _ => rfl, fun message member => absurd member (List.not_mem_nil)⟩
  options side := rfl
  carries side := by
    refine ⟨[], [], [], rfl, rfl, .inl rfl, fun reading isReading => ?_⟩
    obtain rfl := Option.some.inj isReading
    rfl

/-- One end changes. -/
theorem Kept.change (kept : c.Kept options) {next : StreamConnection} {side : Bool}
    (others : next.peer (!side) = c.peer !side) (sends : (next.peer side).Sends)
    (sameOptions : (next.peer side).options = (c.peer side).options)
    (out : Carries (next.peer side) (c.peer !side) (next.wire side))
    (into : Carries (c.peer !side) (next.peer side) (next.wire !side)) : next.Kept options := by
  refine ⟨fun other => ?_, fun other => ?_, fun other => ?_⟩ <;>
    obtain rfl | rfl := Bool.eq_or_eq_not other side
  · exact sends
  · exact others ▸ kept.sends _
  · exact sameOptions.trans (kept.options _)
  · exact others ▸ kept.options _
  · exact others ▸ out
  · rw [others, Bool.not_not]
    exact into

theorem peer_setPeer (c : StreamConnection) (side : Bool) (p : Peer) :
    (c.setPeer side p).peer side = p := update_self ..

theorem peer_setPeer_not (c : StreamConnection) (side : Bool) (p : Peer) :
    (c.setPeer side p).peer (!side) = c.peer !side := update_of_ne (Bool.not_ne_self side) _ _

/-- An action of one end keeps both directions. -/
theorem Kept.act (kept : c.Kept options) (side : Bool) (action : PeerAction) :
    Kept (c.setPeer side ((c.peer side).step action)) options := by
  have sends := kept.sends side
  have into : Carries (c.peer !side) (c.peer side) (c.wire !side) := by
    have carries := kept.carries !side
    rwa [Bool.not_not] at carries
  have steps {sent : List StreamMessage} {outcome : List PeerSignal}
      (extends_ : (c.peer side).Extends ((c.peer side).step action) sent outcome)
      (nextInto : Carries (c.peer !side) ((c.peer side).step action) (c.wire !side)) :
      Kept (c.setPeer side ((c.peer side).step action)) options := by
    refine kept.change (peer_setPeer_not c side _) ?_ ?_ ?_ ?_
    · rw [peer_setPeer]
      exact extends_.sends
    · rw [peer_setPeer]
      exact extends_.options
    · rw [peer_setPeer]
      exact (kept.carries side).send extends_
    · rw [peer_setPeer]
      exact nextInto
  by_cases isRead : action = .readHandler
  · subst isRead
    obtain ⟨⟨sent, outcome, extends_⟩, carries⟩ := into.step_readHandler (kept.sends _) sends
    exact steps extends_ carries
  · obtain ⟨⟨sent, extends_⟩, reading⟩ := sends.step_of_ne isRead
    refine steps extends_ (into.receive extends_.options
      (extends_.outcome.trans (List.append_nil _)) (fun other isReading => ?_) fun isNone => ?_)
    · rwa [reading] at isReading
    · rwa [reading]

/-- Bytes that are written in part join the wire behind those on it. -/
theorem Kept.writeSome (kept : c.Kept options) (side : Bool) (count : Nat) :
    Kept (c.writeSome side count) options := by
  have sends := kept.sends side
  have into : Carries (c.peer !side) (c.peer side) (c.wire !side) := by
    have carries := kept.carries !side
    rwa [Bool.not_not] at carries
  unfold StreamConnection.writeSome
  dsimp only
  split
  · have writes := (kept.carries side).write sends count
    obtain ⟨nextSends, -⟩ := sends.advance count
    refine @Kept.change _ _ kept _ side (peer_setPeer_not c side _) ?_ ?_ ?_ ?_
    · exact (peer_setPeer c side _).symm ▸ nextSends
    · exact (peer_setPeer c side _).symm ▸ rfl
    · unfold setWire
      dsimp only
      rw [peer_setPeer, update_self]
      exact writes
    · unfold setWire
      dsimp only
      rw [peer_setPeer, update_of_ne (Bool.not_ne_self side)]
      exact into.receive rfl rfl (fun _ isReading => isReading) fun isNone => isNone
  · exact kept

/-- Bytes that are read in part leave the wire in their order. -/
theorem Kept.readSome (kept : c.Kept options) (side : Bool) (count : Nat) :
    Kept (c.readSome side count) options := by
  have sends := kept.sends side
  have into : Carries (c.peer !side) (c.peer side) (c.wire !side) := by
    have carries := kept.carries !side
    rwa [Bool.not_not] at carries
  unfold StreamConnection.readSome
  dsimp only
  split
  · rename_i reading isReading _
    have extends_ : (c.peer side).Extends { c.peer side with
        reading := some (reading.append ((c.wire !side).take count)) } [] [] :=
      .of_unchanged sends (by rfl)
    refine @Kept.change _ _ kept _ side (peer_setPeer_not c side _) ?_ ?_ ?_ ?_
    · exact (peer_setPeer c side _).symm ▸ extends_.sends
    · exact (peer_setPeer c side _).symm ▸ rfl
    · unfold setWire
      dsimp only
      rw [peer_setPeer, update_of_ne (Bool.not_ne_self side).symm]
      exact (kept.carries side).send extends_
    · unfold setWire
      dsimp only
      rw [peer_setPeer, update_self]
      exact into.read isReading count
  · exact kept

/-- Both directions are kept in every run. -/
theorem kept_foldl (options : Bool → PeerOptions) (actions : List StreamConnectionAction) :
    Kept (actions.foldl step (initial options)) options := by
  induction actions using List.reverseRecOn with
  | nil => exact kept_initial
  | append_singleton actions action ih =>
      rw [List.foldl_append]
      cases action with
      | act side action => exact ih.act side action
      | writeSome side count => exact ih.writeSome side count
      | readSome side count => exact ih.readSome side count

/-- Nothing of what an end has put into its queue is still on its way. -/
def Delivered (c : StreamConnection) (side : Bool) : Prop :=
  (∃ reading, (c.peer !side).reading = some reading ∧ frameBytes reading = []) ∧
    c.wire side = [] ∧ (c.peer side).unsent = []

theorem isMessage_of_handedOver {message : StreamMessage} {signal : PeerSignal}
    (isSignal : message.handedOver = some signal) : signal.isMessage = true := by
  cases message <;> cases isSignal <;> rfl

/-- What is handed over, apart from what is rejected. -/
theorem handed_eq (p : Peer) {handled : List StreamMessage} {rejected : List PeerSignal}
    (outcome : p.outcome = handled.filterMap StreamMessage.handedOver ++ rejected)
    (noMessage : ∀ signal ∈ rejected, signal.isMessage = false) :
    p.handed = handled.filterMap StreamMessage.handedOver := by
  have fromOutcome : p.handed = p.outcome.filter PeerSignal.isMessage := by
    unfold handed Peer.outcome
    rw [List.filter_filter]
    refine List.filter_congr fun signal _ => ?_
    cases signal <;> simp [PeerSignal.isMessage, PeerSignal.isOutcome]
  have messages : (handled.filterMap StreamMessage.handedOver).filter PeerSignal.isMessage =
      handled.filterMap StreamMessage.handedOver := by
    refine List.filter_eq_self.mpr fun signal member => ?_
    obtain ⟨message, -, isSignal⟩ := List.mem_filterMap.mp member
    exact isMessage_of_handedOver isSignal
  have others : rejected.filter PeerSignal.isMessage = [] :=
    List.filter_eq_nil_iff.mpr fun signal member => by simp [noMessage signal member]
  rw [fromOutcome, outcome, List.filter_append, messages, others, List.append_nil]

/-- However the bytes are cut into pieces, and whatever timers expire, reads and writes fail or ends
are closed: what an end hands to its owner are the first of the messages that the other end has put
into its queue, all of them once nothing is on its way; and no data, request or response is rejected
unless the other end allows larger ones. -/
theorem messages_in_order (options : Bool → PeerOptions) (actions : List StreamConnectionAction)
    (side : Bool) :
    let c := actions.foldl step (initial options)
    let sent := (c.peer side).accepted.filterMap StreamMessage.handedOver
    (c.peer !side).handed <+: sent ∧ (c.Delivered side → (c.peer !side).handed = sent) ∧
      ((options side).maxMessageSize ≤ (options !side).maxMessageSize →
        .errorOccurred .messageSize ∉ (c.peer !side).signals ∧
          .errorOccurred .invalidArgument ∉ (c.peer !side).signals) := by
  intro c sent
  have kept : Kept c options := kept_foldl options actions
  obtain ⟨handled, rest, rejected, accepted, outcome, rejects, bytes⟩ := kept.carries side
  have noMessage : ∀ signal ∈ rejected, signal.isMessage = false := by
    intro signal member
    obtain rfl | ⟨rfl, -⟩ := rejects
    · cases member
    · rw [List.mem_singleton.mp member]
      rfl
  have handed := handed_eq _ outcome noMessage
  have isSent : sent = handled.filterMap StreamMessage.handedOver ++
      rest.filterMap StreamMessage.handedOver := by
    change (c.peer side).accepted.filterMap _ = _
    rw [accepted, List.filterMap_append]
  refine ⟨⟨_, handed ▸ isSent.symm⟩, fun delivered => ?_, fun fits => ?_⟩
  · obtain ⟨⟨reading, isReading, noBytes⟩, noWire, nothingUnsent⟩ := delivered
    have read := bytes reading isReading
    rw [noBytes, noWire, nothingUnsent] at read
    have noRest : rest = [] := by
      cases rest with
      | nil => rfl
      | cons message later =>
          rw [List.map_cons, List.flatten_cons, message.frame_eq] at read
          cases read
    rw [handed, isSent, noRest]
    exact (List.append_nil _).symm
  · have noneRejected : rejected = [] := rejects.resolve_right fun ⟨_, _, less⟩ => by
      rw [kept.options, kept.options] at less
      exact absurd less (Nat.not_lt_of_le fits)
    have notOutcome {error : StreamError} (isOutcome : (PeerSignal.errorOccurred error).isOutcome) :
        .errorOccurred error ∉ (c.peer !side).signals := by
      intro member
      have isIn : .errorOccurred error ∈ (c.peer !side).outcome :=
        List.mem_filter.mpr ⟨member, isOutcome⟩
      rw [outcome, noneRejected, List.append_nil] at isIn
      obtain ⟨message, -, isSignal⟩ := List.mem_filterMap.mp isIn
      cases isMessage_of_handedOver isSignal
    exact ⟨notOutcome rfl, notOutcome rfl⟩

end StreamConnection

end Karabiner

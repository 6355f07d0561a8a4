import Karabiner.Foundation.History
import Karabiner.Stream.Connection

/-! # The order of the signals of a peer

Whatever happens at an end, its peer signals once that it is ready, before it hands over anything
that it has received, and once that it is closed (`StreamConnection.admitted_signals`). This is what
its owner relies on: a server verifies a peer when it is ready, and nothing of it is handed over
before.
-/

namespace Karabiner

open Foundation.History

/-- Whether a signal hands over what has been received. -/
def PeerSignal.handsOver : PeerSignal → Bool
  | received _ | requestReceived _ _ | responseReceived _ _ => true
  | ready | closed | healthCheckResponseReceived | errorOccurred _ => false

namespace Peer

variable {p next : Peer}

/-- The signals that may follow some others. -/
def Follows (before : List PeerSignal) : PeerSignal → Prop
  | .ready => .ready ∉ before
  | .closed => .closed ∉ before
  | .received _ | .requestReceived _ _ | .responseReceived _ _ => .ready ∈ before
  | .healthCheckResponseReceived | .errorOccurred _ => True

/-- The invariant of the signals. -/
structure InOrder (p : Peer) : Prop where
  admitted : Admitted Follows p.signals
  ready : p.ready = true ↔ .ready ∈ p.signals
  isOpen : p.isOpen = true → .closed ∉ p.signals

theorem inOrder_initial (options : PeerOptions) : (initial options).InOrder where
  admitted := admitted_nil
  ready := ⟨(fun isReady => by cases isReady), fun member => by cases member⟩
  isOpen _ member := by cases member

/-- Nothing is signalled, and the socket is not opened again. -/
theorem InOrder.quiet (inOrder : p.InOrder) (signals : next.signals = p.signals)
    (ready : next.ready = p.ready) (isOpen : next.isOpen = true → p.isOpen = true) :
    next.InOrder where
  admitted := signals ▸ inOrder.admitted
  ready := by rw [signals, ready, inOrder.ready]
  isOpen stays := by
    rw [signals]
    exact inOrder.isOpen (isOpen stays)

/-- A signal that neither `ready` nor `closed` follows. -/
theorem InOrder.signal (inOrder : p.InOrder) {signal : PeerSignal}
    (follows : Follows p.signals signal) (notReady : signal ≠ .ready)
    (notClosed : signal ≠ .closed) : (p.signal signal).InOrder where
  admitted := inOrder.admitted.concat follows
  ready := by
    refine inOrder.ready.trans ⟨List.mem_append_left _, fun member => ?_⟩
    exact (List.mem_append.mp member).resolve_right fun isLast =>
      notReady (List.mem_singleton.mp isLast).symm
  isOpen stays member := by
    obtain member | isLast := List.mem_append.mp member
    · exact inOrder.isOpen stays member
    · exact notClosed (List.mem_singleton.mp isLast).symm

theorem InOrder.close (inOrder : p.InOrder) : p.close.InOrder := by
  unfold Peer.close
  dsimp only
  split
  · rename_i wasOpen
    refine ⟨inOrder.admitted.concat (inOrder.isOpen wasOpen), ?_, fun stays => by cases stays⟩
    refine inOrder.ready.trans ⟨List.mem_append_left _, fun member => ?_⟩
    exact (List.mem_append.mp member).resolve_right fun isLast => by
      cases List.mem_singleton.mp isLast
  · exact inOrder.quiet rfl rfl fun stays => by cases stays

theorem InOrder.handleError (inOrder : p.InOrder) (error : StreamError) :
    (p.handleError error).InOrder := by
  unfold Peer.handleError
  split
  · exact inOrder
  · have signalled : (p.signal (.errorOccurred error)).InOrder :=
      inOrder.signal trivial (fun isReady => by cases isReady) fun isClosed => by cases isClosed
    exact signalled.close

/-! ## Writing -/

theorem InOrder.write (inOrder : p.InOrder) : p.write.InOrder := by
  unfold Peer.write
  split
  · exact inOrder
  · exact inOrder.quiet rfl rfl id

theorem InOrder.pushFrame (inOrder : p.InOrder) (message : StreamMessage) :
    (p.pushFrame message).InOrder := by
  unfold Peer.pushFrame
  split
  · exact inOrder
  split
  · exact inOrder.handleError _
  · have pushed : InOrder { p with
        writeQueue := p.writeQueue ++ [message.frame]
        accepted := p.accepted ++ [message] } := inOrder.quiet rfl rfl id
    dsimp only
    split
    · exact pushed.write
    · exact pushed

theorem InOrder.writeHandler (inOrder : p.InOrder) : p.writeHandler.InOrder := by
  have ended : InOrder { p with writing := false, writeError := none } := inOrder.quiet rfl rfl id
  have popped : InOrder { p with
      writing := false, writeError := none, writeQueue := p.writeQueue.tail, written := 0 } :=
    inOrder.quiet rfl rfl id
  unfold Peer.writeHandler
  dsimp only
  split
  · exact ended.handleError _
  · split
    · exact popped.close
    · exact popped.write

/-! ## Reading -/

/-- After `ensure_ready` the peer has signalled that it is ready. -/
theorem InOrder.ensureReady (inOrder : p.InOrder) :
    p.ensureReady.InOrder ∧ p.ensureReady.ready = true := by
  unfold Peer.ensureReady
  split
  · rename_i isReady
    exact ⟨inOrder, isReady⟩
  · rename_i notReady
    have isNew : .ready ∉ p.signals := fun member => notReady (inOrder.ready.mpr member)
    refine ⟨⟨inOrder.admitted.concat isNew, ⟨fun _ => ?_, fun _ => rfl⟩, fun stays member => ?_⟩,
      rfl⟩
    · exact List.mem_append_right _ (List.mem_singleton.mpr rfl)
    · obtain member | isLast := List.mem_append.mp member
      · exact inOrder.isOpen stays member
      · cases List.mem_singleton.mp isLast

theorem InOrder.readHeader (inOrder : p.InOrder) : p.readHeader.InOrder := by
  unfold Peer.readHeader
  split
  · exact inOrder
  · exact inOrder.quiet rfl rfl id

theorem InOrder.handleHeader (inOrder : p.InOrder) (header : List UInt8) :
    (p.handleHeader header).InOrder := by
  unfold Peer.handleHeader
  dsimp only
  split
  · exact inOrder.handleError _
  · exact inOrder.quiet rfl rfl id

theorem follows_of_handsOver {before : List PeerSignal} {signal : PeerSignal}
    (handsOver : signal.handsOver = true) (isReady : .ready ∈ before) : Follows before signal := by
  cases signal with
  | received data => exact isReady
  | requestReceived id data => exact isReady
  | responseReceived id data => exact isReady
  | ready => cases handsOver
  | closed => cases handsOver
  | healthCheckResponseReceived => cases handsOver
  | errorOccurred error => cases handsOver

theorem InOrder.handOver (inOrder : p.InOrder) (isReady : p.ready = true) {signal : PeerSignal}
    (handsOver : signal.handsOver = true) : (p.signal signal).InOrder := by
  refine inOrder.signal (follows_of_handsOver handsOver (inOrder.ready.mp isReady))
    (fun isReady => ?_) fun isClosed => ?_
  · rw [isReady] at handsOver
    cases handsOver
  · rw [isClosed] at handsOver
    cases handsOver

theorem InOrder.requestOrResponse (inOrder : p.InOrder) (body : List UInt8)
    {received : UInt64 → List UInt8 → PeerSignal}
    (handsOver : ∀ id data, (received id data).handsOver = true) :
    (handleBody.requestOrResponse p body received).InOrder := by
  obtain ⟨ready, isReady⟩ := inOrder.ensureReady
  unfold handleBody.requestOrResponse
  dsimp only
  split
  · exact ready.handleError _
  · exact (ready.handOver isReady (handsOver _ _)).readHeader

/-- Whatever the body of a frame is, handling it keeps the signals in order. -/
theorem InOrder.handleBody (inOrder : p.InOrder) (body : List UInt8) :
    (p.handleBody body).InOrder := by
  unfold Peer.handleBody
  split
  · exact inOrder.readHeader
  · obtain ⟨ready, isReady⟩ := inOrder.ensureReady
    dsimp only
    split
    · exact ready.handleError _
    · exact (ready.handOver isReady rfl).readHeader
  · exact inOrder.requestOrResponse body fun _ _ => rfl
  · exact inOrder.requestOrResponse body fun _ _ => rfl
  · split
    · exact inOrder.handleError _
    · have closing : InOrder { p with closeAfterWrite := true } := inOrder.quiet rfl rfl id
      exact closing.pushFrame _
  · have signalled : (p.signal .healthCheckResponseReceived).InOrder :=
      inOrder.signal trivial (fun isReady => by cases isReady) fun isClosed => by cases isClosed
    exact signalled.readHeader
  · exact inOrder.handleError _

theorem InOrder.readHandler (inOrder : p.InOrder) (reading : Reading) :
    (p.readHandler reading).InOrder := by
  have ended : InOrder { p with reading := none, readError := none } := inOrder.quiet rfl rfl id
  unfold Peer.readHandler
  dsimp only
  split
  · split
    · exact ended.close
    · exact ended.handleError _
  · exact ended.handleError _
  · exact ended.handleHeader _
  · exact ended.handleBody _

/-! ## The runs -/

/-- Every action of a peer keeps its signals in order. -/
theorem InOrder.step (inOrder : p.InOrder) (action : PeerAction) : (p.step action).InOrder := by
  cases action with
  | close => exact inOrder.close
  | push message => exact inOrder.pushFrame message
  | heartbeatTimer =>
      unfold Peer.step
      dsimp only
      split
      · exact inOrder.pushFrame _
      · exact inOrder
  | readyDeadline => exact inOrder.ensureReady.1
  | deadline => exact inOrder.handleError _
  | readFails error =>
      unfold Peer.step
      dsimp only
      split
      · exact inOrder
      · exact inOrder.quiet rfl rfl id
  | readHandler =>
      unfold Peer.step
      dsimp only
      split
      · split
        · exact inOrder.readHandler _
        · exact inOrder
      · exact inOrder
  | writeFails error =>
      unfold Peer.step
      dsimp only
      split
      · exact inOrder
      · exact inOrder.quiet rfl rfl id
  | writeHandler =>
      unfold Peer.step
      dsimp only
      split
      · exact inOrder.writeHandler
      · exact inOrder

end Peer

namespace StreamConnection

variable {c : StreamConnection}

theorem inOrder_setPeer (inOrder : ∀ side, (c.peer side).InOrder) {side : Bool} {p : Peer}
    (own : p.InOrder) (other : Bool) : ((c.setPeer side p).peer other).InOrder := by
  unfold setPeer
  dsimp only
  by_cases same : other = side
  · rw [same, Function.update_self]
    exact own
  · rw [Function.update_of_ne same]
    exact inOrder other

/-- The bytes that the socket carries change no signals. -/
theorem inOrder_step (inOrder : ∀ side, (c.peer side).InOrder) (action : StreamConnectionAction)
    (side : Bool) : ((c.step action).peer side).InOrder := by
  cases action with
  | act own action => exact inOrder_setPeer inOrder ((inOrder own).step action) side
  | writeSome own count =>
      have writes (written : Nat) : Peer.InOrder { c.peer own with written := written } :=
        (inOrder own).quiet rfl rfl id
      unfold step writeSome
      dsimp only
      split
      · exact inOrder_setPeer inOrder (writes _) side
      · exact inOrder side
  | readSome own count =>
      have reads (reading : Option Reading) :
          Peer.InOrder { c.peer own with reading := reading } :=
        (inOrder own).quiet rfl rfl id
      unfold step readSome
      dsimp only
      split
      · exact inOrder_setPeer inOrder (reads _) side
      · exact inOrder side

/-- In every run of a connection, each end signals that it is ready once, and before what it hands
over, and that it is closed once. -/
theorem admitted_signals (options : Bool → PeerOptions) (actions : List StreamConnectionAction)
    (side : Bool) :
    Admitted Peer.Follows
      ((actions.foldl StreamConnection.step (initial options)).peer side).signals := by
  suffices inOrder : ∀ side,
      ((actions.foldl StreamConnection.step (initial options)).peer side).InOrder from
    (inOrder side).admitted
  induction actions using List.reverseRecOn with
  | nil => exact fun side => Peer.inOrder_initial (options side)
  | append_singleton actions action ih =>
      rw [List.foldl_append]
      exact inOrder_step ih action

end StreamConnection

end Karabiner

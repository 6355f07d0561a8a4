import Karabiner.Foundation.History
import Karabiner.Stream.Server
import Mathlib.Data.List.Nodup

/-! # The peers that a server hands over

The owner of a server hears of a peer only when `verify_peer_` has accepted it: in every run a peer
is announced at most once, its end comes after its announcement and at most once, and whatever else
is signalled of a peer comes in between (`StreamServer.verified_signals`).
-/

namespace Karabiner

open Foundation.History

/-- Whether a signal announces a peer or its end. -/
def ServerSignal.changesPeers : ServerSignal → Bool
  | peerConnected _ | peerClosed _ => true
  | _ => false

/-- The peer whose readiness a job handles. -/
def StreamServerJob.readies : StreamServerJob → Option Nat
  | peer id .ready => some id
  | _ => none

namespace StreamServer

variable {verifyPeer : Nat → Bool} {s next : StreamServer}

/-- A peer has been announced, and its end has not. -/
def IsConnected (signals : List ServerSignal) (id : Nat) : Prop :=
  .peerConnected id ∈ signals ∧ .peerClosed id ∉ signals

/-- The signals that may follow some others. -/
def Follows (verifyPeer : Nat → Bool) (before : List ServerSignal) : ServerSignal → Prop
  | .peerConnected id =>
      verifyPeer id = true ∧ .peerConnected id ∉ before ∧ .peerClosed id ∉ before
  | .peerClosed id | .peerErrorOccurred id _ | .received id _ | .requestReceived id _ _ =>
      IsConnected before id
  | .bound | .bindFailed | .closed => True

/-- The peers whose readiness is still to be handled. -/
def readying (s : StreamServer) : List Nat := s.jobs.filterMap StreamServerJob.readies

/-- The invariant of the signals. -/
structure Kept (verifyPeer : Nat → Bool) (s : StreamServer) : Prop where
  admitted : Admitted (Follows verifyPeer) s.signals
  exposed : ∀ id ∈ s.exposedPeerIds, IsConnected s.signals id
  once : s.readying.Nodup
  ready : ∀ id ∈ s.readying, id ∈ s.readyPeerIds ∧ .peerConnected id ∉ s.signals
  connected : ∀ id, .peerConnected id ∈ s.signals → id ∈ s.readyPeerIds
  ended : ∀ id, .peerClosed id ∈ s.signals → .peerConnected id ∈ s.signals

theorem kept_initial : initial.Kept verifyPeer where
  admitted := admitted_nil
  exposed _ member := by cases member
  once := List.nodup_nil
  ready _ member := by cases member
  connected _ member := by cases member
  ended _ member := by cases member

/-! ## What an operation keeps -/

/-- Nothing is signalled, no peer is exposed and no readiness is queued. -/
structure Quiet (s next : StreamServer) : Prop where
  signals : next.signals = s.signals
  exposed : next.exposedPeerIds ⊆ s.exposedPeerIds
  readyPeerIds : next.readyPeerIds = s.readyPeerIds
  readying : next.readying.Sublist s.readying

theorem Quiet.of_same (signals : next.signals = s.signals)
    (exposed : next.exposedPeerIds = s.exposedPeerIds)
    (readyPeerIds : next.readyPeerIds = s.readyPeerIds) (jobs : next.jobs = s.jobs) :
    s.Quiet next where
  signals := signals
  exposed := exposed ▸ List.Subset.refl _
  readyPeerIds := readyPeerIds
  readying := by
    unfold StreamServer.readying
    rw [jobs]

theorem Quiet.refl (s : StreamServer) : s.Quiet s := .of_same rfl rfl rfl rfl

theorem Quiet.trans {last : StreamServer} (first : s.Quiet next) (second : next.Quiet last) :
    s.Quiet last where
  signals := second.signals.trans first.signals
  exposed := List.Subset.trans second.exposed first.exposed
  readyPeerIds := second.readyPeerIds.trans first.readyPeerIds
  readying := second.readying.trans first.readying

/-- What is quiet keeps the peers, since no signal has been raised and no peer exposed. -/
theorem Kept.quiet (kept : s.Kept verifyPeer) (quiet : s.Quiet next) : next.Kept verifyPeer := by
  obtain ⟨signals, exposed, readyPeerIds, readying⟩ := quiet
  refine ⟨?_, fun id member => ?_, kept.once.sublist readying, fun id member => ?_, ?_, ?_⟩
  · rw [signals]
    exact kept.admitted
  · rw [signals]
    exact kept.exposed id (exposed member)
  · rw [signals, readyPeerIds]
    exact kept.ready id (readying.subset member)
  · rw [signals, readyPeerIds]
    exact kept.connected
  · rw [signals]
    exact kept.ended

theorem quiet_enqueue (s : StreamServer) {job : StreamServerJob} (readies : job.readies = none) :
    s.Quiet (s.enqueue job) := by
  refine ⟨rfl, fun _ => id, rfl, ?_⟩
  unfold readying enqueue
  dsimp only
  rw [List.filterMap_append, List.filterMap_cons_none readies, List.filterMap_nil, List.append_nil]

theorem Quiet.enqueue (quiet : s.Quiet next) {job : StreamServerJob}
    (readies : job.readies = none) : s.Quiet (next.enqueue job) :=
  quiet.trans (quiet_enqueue next readies)

theorem quiet_scheduleBindRetry (s : StreamServer) : s.Quiet s.scheduleBindRetry := by
  unfold scheduleBindRetry
  split
  · exact .of_same rfl rfl rfl rfl
  · exact quiet_enqueue s rfl

/-- A signal is given that announces no peer and no end of one. -/
theorem Kept.signal (kept : s.Kept verifyPeer) {signal : ServerSignal}
    (follows : Follows verifyPeer s.signals signal) (plain : signal.changesPeers = false) :
    (s.signal signal).Kept verifyPeer := by
  have notConnected : ∀ id, .peerConnected id ∈ s.signals ++ [signal] →
      .peerConnected id ∈ s.signals := by
    refine fun id member => (List.mem_append.mp member).resolve_right fun isNew => ?_
    rw [← List.mem_singleton.mp isNew] at plain
    cases plain
  have notClosed : ∀ id, .peerClosed id ∈ s.signals ++ [signal] → .peerClosed id ∈ s.signals := by
    refine fun id member => (List.mem_append.mp member).resolve_right fun isNew => ?_
    rw [← List.mem_singleton.mp isNew] at plain
    cases plain
  refine ⟨kept.admitted.concat follows, fun id member => ?_, kept.once, fun id member => ?_,
    fun id member => kept.connected id (notConnected id member), fun id member => ?_⟩
  · obtain ⟨isConnected, isOpen⟩ := kept.exposed id member
    exact ⟨List.mem_append_left _ isConnected, fun isClosed => isOpen (notClosed id isClosed)⟩
  · obtain ⟨isReady, isNew⟩ := kept.ready id member
    exact ⟨isReady, fun isConnected => isNew (notConnected id isConnected)⟩
  · exact List.mem_append_left _ (kept.ended id (notClosed id member))

/-- A verified peer is exposed and announced. -/
theorem Kept.expose (kept : s.Kept verifyPeer) {id : Nat} (verified : verifyPeer id = true)
    (isReady : id ∈ s.readyPeerIds) (isNew : .peerConnected id ∉ s.signals)
    (isHandled : id ∉ s.readying) :
    Kept verifyPeer
      ({ s with exposedPeerIds := s.exposedPeerIds.insert id }.signal (.peerConnected id)) := by
  have notClosed : ∀ other, .peerClosed other ∈ s.signals ++ [.peerConnected id] →
      .peerClosed other ∈ s.signals := by
    refine fun other member => (List.mem_append.mp member).resolve_right fun isLast => ?_
    cases List.mem_singleton.mp isLast
  have isOpen : .peerClosed id ∉ s.signals := fun isClosed => isNew (kept.ended id isClosed)
  refine ⟨kept.admitted.concat ⟨verified, isNew, isOpen⟩, fun other member => ?_, kept.once,
    fun other member => ?_, fun other member => ?_, fun other member => ?_⟩
  · obtain rfl | member := List.mem_insert_iff.mp member
    · exact ⟨List.mem_append_right _ (List.mem_singleton.mpr rfl),
        fun isClosed => isOpen (notClosed _ isClosed)⟩
    · obtain ⟨isConnected, stays⟩ := kept.exposed other member
      exact ⟨List.mem_append_left _ isConnected, fun isClosed => stays (notClosed _ isClosed)⟩
  · obtain ⟨otherReady, otherNew⟩ := kept.ready other member
    refine ⟨otherReady, fun isConnected => ?_⟩
    obtain isConnected | isLast := List.mem_append.mp isConnected
    · exact otherNew isConnected
    · rw [ServerSignal.peerConnected.inj (List.mem_singleton.mp isLast)] at member
      exact isHandled member
  · obtain isConnected | isLast := List.mem_append.mp member
    · exact kept.connected other isConnected
    · rw [ServerSignal.peerConnected.inj (List.mem_singleton.mp isLast)]
      exact isReady
  · exact List.mem_append_left _ (kept.ended other (notClosed other member))

/-- The end of an exposed peer is announced. -/
theorem Kept.conceal (kept : s.Kept verifyPeer) {id : Nat} (isExposed : id ∈ s.exposedPeerIds) :
    Kept verifyPeer
      ({ s with exposedPeerIds := s.exposedPeerIds.filter (· != id) }.signal (.peerClosed id)) := by
  have own := kept.exposed id isExposed
  have notConnected : ∀ other, .peerConnected other ∈ s.signals ++ [.peerClosed id] →
      .peerConnected other ∈ s.signals := by
    refine fun other member => (List.mem_append.mp member).resolve_right fun isLast => ?_
    cases List.mem_singleton.mp isLast
  refine ⟨kept.admitted.concat own, fun other member => ?_, kept.once, fun other member => ?_,
    fun other member => kept.connected other (notConnected other member),
    fun other member => ?_⟩
  · obtain ⟨isExposed, isOther⟩ := List.mem_filter.mp member
    obtain ⟨isConnected, isOpen⟩ := kept.exposed other isExposed
    refine ⟨List.mem_append_left _ isConnected, fun isClosed => ?_⟩
    obtain isClosed | isLast := List.mem_append.mp isClosed
    · exact isOpen isClosed
    · exact bne_iff_ne.mp isOther (ServerSignal.peerClosed.inj (List.mem_singleton.mp isLast))
  · obtain ⟨isReady, isNew⟩ := kept.ready other member
    exact ⟨isReady, fun isConnected => isNew (notConnected other isConnected)⟩
  · obtain isClosed | isLast := List.mem_append.mp member
    · exact List.mem_append_left _ (kept.ended other isClosed)
    · rw [ServerSignal.peerClosed.inj (List.mem_singleton.mp isLast)]
      exact List.mem_append_left _ own.1

/-! ## The dispatcher -/

section Job

variable {job : StreamServerJob} {rest : List StreamServerJob}

theorem quiet_popJob (queue : s.jobs = job :: rest) : s.Quiet { s with jobs := rest } := by
  refine ⟨rfl, fun _ => id, rfl, ?_⟩
  unfold readying
  rw [queue]
  exact (List.sublist_cons_self job rest).filterMap _

/-- The handler of a signal, where `ready` is handled for the first time. -/
theorem Kept.handlePeerSignal (kept : s.Kept verifyPeer) (id : Nat) (signal : PeerSignal)
    (isReady : signal = .ready →
      id ∈ s.readyPeerIds ∧ .peerConnected id ∉ s.signals ∧ id ∉ s.readying) :
    (s.handlePeerSignal verifyPeer id signal).Kept verifyPeer := by
  unfold StreamServer.handlePeerSignal
  cases signal with
  | ready =>
      obtain ⟨isReady, isNew, isHandled⟩ := isReady rfl
      dsimp only
      split
      · rename_i verified
        exact kept.expose verified isReady isNew isHandled
      · exact kept.quiet (.of_same rfl rfl rfl rfl)
  | received data =>
      dsimp only
      split
      · rename_i isExposed
        exact kept.signal (kept.exposed id isExposed) rfl
      · exact kept
  | requestReceived requestId data =>
      dsimp only
      split
      · rename_i isExposed
        exact kept.signal (kept.exposed id isExposed) rfl
      · exact kept
  | errorOccurred error =>
      dsimp only
      split
      · rename_i isExposed
        exact kept.signal (kept.exposed id isExposed) rfl
      · exact kept
  | closed =>
      dsimp only
      split
      · rename_i isExposed
        exact kept.conceal isExposed
      · exact kept
  | responseReceived requestId data => exact kept
  | healthCheckResponseReceived => exact kept

/-- The dispatcher does the job that is first. -/
theorem Kept.perform (kept : s.Kept verifyPeer) (queue : s.jobs = job :: rest) :
    ({ s with jobs := rest }.perform verifyPeer job).Kept verifyPeer := by
  have popped := kept.quiet (quiet_popJob queue)
  cases job with
  | start => exact popped.quiet (.of_same rfl rfl rfl rfl)
  | stop =>
      have hidden : { s with jobs := rest }.Quiet { s with
          jobs := rest, stopped := true, exposedPeerIds := [] } :=
        ⟨rfl, List.nil_subset _, rfl, .refl _⟩
      exact (popped.quiet (hidden.enqueue rfl)).quiet (.of_same rfl rfl rfl rfl)
  | debounce => exact popped.quiet (.of_same rfl rfl rfl rfl)
  | cancel => exact popped.quiet (.of_same rfl rfl rfl rfl)
  | bound => exact popped.signal trivial rfl
  | bindFailed =>
      have signalled : Kept verifyPeer (StreamServer.signal { s with jobs := rest } .bindFailed) :=
        popped.signal trivial rfl
      exact signalled.quiet (quiet_scheduleBindRetry _)
  | closed =>
      have signalled : Kept verifyPeer (StreamServer.signal { s with jobs := rest } .closed) :=
        popped.signal trivial rfl
      exact signalled.quiet (quiet_scheduleBindRetry _)
  | peer id signal =>
      refine popped.handlePeerSignal id signal fun isReady => ?_
      have own : s.readying = id :: StreamServer.readying { s with jobs := rest } := by
        unfold StreamServer.readying
        rw [queue, isReady]
        exact List.filterMap_cons_some rfl
      have first : id ∈ s.readying := own ▸ List.mem_cons_self
      have once := kept.once
      rw [own] at once
      exact ⟨(kept.ready id first).1, (kept.ready id first).2, (List.nodup_cons.mp once).1⟩

end Job

/-! ## The io thread -/

theorem quiet_closeAcceptor (s : StreamServer) : s.Quiet s.closeAcceptor :=
  .of_same rfl rfl rfl rfl

/-- What runs on the io thread is quiet: it raises no signal by itself. -/
theorem quiet_run (s : StreamServer) (binds : Bool) (post : ServerPost) :
    s.Quiet (s.run binds post) := by
  cases post with
  | stop => exact .of_same rfl rfl rfl rfl
  | bind =>
      unfold StreamServer.run StreamServer.bind
      dsimp only
      split
      · exact .refl s
      split
      · have accepts : s.Quiet { s with acceptor := true } := .of_same rfl rfl rfl rfl
        exact accepts.enqueue rfl
      · exact (quiet_closeAcceptor s).enqueue rfl
  | healthCheck =>
      unfold StreamServer.run StreamServer.healthCheck
      dsimp only
      split
      · exact .refl s
      · exact .of_same rfl rfl rfl rfl
  | closePeer id => exact .of_same rfl rfl rfl rfl
  | erasePeer id => exact .of_same rfl rfl rfl rfl

theorem quiet_accept (s : StreamServer) (succeeded : Bool) : s.Quiet (s.accept succeeded) := by
  unfold StreamServer.accept
  split
  · exact .refl s
  split
  · exact .of_same rfl rfl rfl rfl
  · exact (quiet_closeAcceptor s).enqueue rfl

theorem quiet_healthCheckFails (s : StreamServer) : s.Quiet s.healthCheckFails := by
  unfold StreamServer.healthCheckFails
  split
  · have failed : s.Quiet { s with healthCheckInProgress := false }.closeAcceptor :=
      .of_same rfl rfl rfl rfl
    exact failed.enqueue rfl
  · exact .refl s

/-! ## The runs -/

/-- The readiness of a peer is queued for the first time. -/
theorem Kept.readied (kept : s.Kept verifyPeer) {id : Nat} (isNew : id ∉ s.readyPeerIds) :
    Kept verifyPeer
      ({ s with readyPeerIds := id :: s.readyPeerIds }.enqueue (.peer id .ready)) := by
  have own : StreamServer.readying
      ({ s with readyPeerIds := id :: s.readyPeerIds }.enqueue (.peer id .ready)) =
        s.readying ++ [id] := by
    unfold StreamServer.readying StreamServer.enqueue
    dsimp only
    rw [List.filterMap_append]
    rfl
  refine ⟨kept.admitted, kept.exposed, ?_, fun other member => ?_,
    fun other member => List.mem_cons_of_mem _ (kept.connected other member), kept.ended⟩
  · rw [own]
    refine List.nodup_append.mpr ⟨kept.once, List.nodup_singleton _, ?_⟩
    rintro other isQueued last isLast rfl
    rw [List.mem_singleton.mp isLast] at isQueued
    exact isNew (kept.ready id isQueued).1
  · rw [own] at member
    obtain member | isLast := List.mem_append.mp member
    · exact ⟨List.mem_cons_of_mem _ (kept.ready other member).1, (kept.ready other member).2⟩
    · obtain rfl := List.mem_singleton.mp isLast
      exact ⟨List.mem_cons_self, fun isConnected => isNew (kept.connected _ isConnected)⟩

/-- A signal of a peer keeps what is known of the peers, as it only queues a job. -/
theorem Kept.peerSignals (kept : s.Kept verifyPeer) (id : Nat) (signal : PeerSignal) :
    (s.peerSignals id signal).Kept verifyPeer := by
  unfold StreamServer.peerSignals
  split
  · exact kept
  · split
    · split
      · exact kept
      · rename_i isNew
        exact kept.readied isNew
    · have posted : s.Quiet (s.post (.erasePeer id)) := .of_same rfl rfl rfl rfl
      exact kept.quiet (posted.enqueue rfl)
    · rename_i notReady notClosed
      refine kept.quiet (quiet_enqueue s ?_)
      cases signal with
      | ready => exact absurd rfl notReady
      | _ => rfl

/-- Every step keeps what is known of the peers. -/
theorem Kept.step (kept : s.Kept verifyPeer) (action : StreamServerAction) :
    (s.step verifyPeer action).Kept verifyPeer := by
  cases action with
  | asyncStart => exact kept.quiet (quiet_enqueue s rfl)
  | asyncStop => exact kept.quiet (quiet_enqueue s rfl)
  | asyncClosePeer id => exact kept.quiet (.of_same rfl rfl rfl rfl)
  | work =>
      unfold StreamServer.step
      dsimp only
      split
      · rename_i job rest queue
        exact kept.perform queue
      · exact kept
  | bindRetry generation =>
      unfold StreamServer.step
      dsimp only
      split
      · split
        · exact kept.quiet (.of_same rfl rfl rfl rfl)
        · exact kept.quiet (.of_same rfl rfl rfl rfl)
      · exact kept
  | healthCheckTimer => exact kept.quiet (.of_same rfl rfl rfl rfl)
  | runPost binds =>
      unfold StreamServer.step
      dsimp only
      split
      · rename_i post rest queue
        have popped : s.Quiet { s with posts := rest } := .of_same rfl rfl rfl rfl
        exact kept.quiet (popped.trans (quiet_run _ binds post))
      · exact kept
  | accept succeeded => exact kept.quiet (quiet_accept s succeeded)
  | healthCheckSucceeds => exact kept.quiet (.of_same rfl rfl rfl rfl)
  | healthCheckFails => exact kept.quiet (quiet_healthCheckFails s)
  | peerSignals id signal => exact kept.peerSignals id signal

theorem kept_foldl (verifyPeer : Nat → Bool) (actions : List StreamServerAction) :
    (actions.foldl (StreamServer.step verifyPeer) initial).Kept verifyPeer := by
  induction actions using List.reverseRecOn with
  | nil => exact kept_initial
  | append_singleton actions action ih =>
      rw [List.foldl_append]
      exact ih.step action

/-- In every run, a peer is announced only when it has been verified, once, and not after its end;
its end and whatever else is signalled of it comes after its announcement, and before its end. -/
theorem verified_signals (verifyPeer : Nat → Bool) (actions : List StreamServerAction) :
    Admitted (Follows verifyPeer) (actions.foldl (StreamServer.step verifyPeer) initial).signals :=
  (kept_foldl verifyPeer actions).admitted

end StreamServer

end Karabiner

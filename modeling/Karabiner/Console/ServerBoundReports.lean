import Karabiner.Console.ConsoleUserIdChangedReceiver
import Karabiner.Foundation.Execution

/-! # Reports of a bound server

A report of `receiver_` is noted by a job. The job is dropped when the generation or
the user has changed since the report, which is not enough when the change came
before it: `receiver_` is replaced only by the job of the change, and a report it makes
in between is taken for one of its successor. In all other cases a noted report is
about the receiver that exists (`Karabiner.DaemonComponents.reports_iff`).
-/

namespace Karabiner

namespace DaemonComponents

variable {R : Type}

/-- The daemon after an event. -/
def next (daemon : DaemonComponents) (event : DaemonEvent R) : DaemonComponents :=
  (daemon.step event).1

/-- The server is noted as bound for the user. -/
def BoundFor (daemon : DaemonComponents) (uid : Option Uid) : Prop :=
  daemon.consoleUserIdChangedReceiver.coreServiceDaemonServerIsBound = true ∧
    daemon.consoleUserIdChangedReceiver.coreServiceDaemonServerBoundUid = uid

/-- What an event newly notes and what it sends is about the receiver that exists then. -/
def ReportsReceiver (daemon : DaemonComponents) (event : DaemonEvent R) : Prop :=
  (∀ uid, ¬ daemon.BoundFor uid → (daemon.next event).BoundFor uid →
    (daemon.next event).receiver = ⟨uid, true⟩) ∧
  ∀ peerId uid, (peerId, .coreServiceDaemonServerBound uid) ∈ (daemon.step event).2 →
    (daemon.next event).receiver = ⟨uid, true⟩

/-- A report made while a change of the user was waiting does not pass the tests of its
job. -/
def LateReportDropped (daemon : DaemonComponents) : DaemonEvent R → Prop
  | .runJob => ∀ uid generation rest,
      daemon.consoleUserIdChangedReceiver.jobs =
          .coreServiceDaemonServerBound uid generation true :: rest →
        ¬ (generation =
            daemon.consoleUserIdChangedReceiver.coreServiceDaemonServerStateGeneration ∧
          uid = daemon.consoleUserIdChangedReceiver.currentConsoleUserId)
  | _ => True

/-- At quiescence a report of the receiver has been noted for the current user. -/
def NotedWhenQuiet (daemon : DaemonComponents) : Prop :=
  daemon.consoleUserIdChangedReceiver.jobs = [] → daemon.receiver.serverBoundSignalled = true →
    daemon.BoundFor daemon.consoleUserIdChangedReceiver.currentConsoleUserId

/-! ## The user the receiver is or will be created for -/

/-- The user of the receiver after the waiting jobs. -/
def awaitedUser (receiver : CoreServiceReceiver) (jobs : List ReceiverJob) : Option Uid :=
  jobs.foldl (fun uid job =>
    match job with
    | .currentConsoleUserIdChanged value => value
    | .coreServiceDaemonServerBound .. => uid) receiver.currentConsoleUserId

/-- No change of the user is waiting. -/
def Settled (jobs : List ReceiverJob) : Prop := ∀ value, .currentConsoleUserIdChanged value ∉ jobs

/-- The jobs are settled exactly when no change of the console user waits among them. -/
theorem settled_iff (receiver : ConsoleUserIdChangedReceiver) :
    Settled receiver.jobs ↔ receiver.changeWaits = false := by
  unfold Settled ConsoleUserIdChangedReceiver.changeWaits
  rw [List.any_eq_false]
  constructor
  · intro settled job member
    cases job with
    | currentConsoleUserIdChanged value => exact absurd member (settled value)
    | coreServiceDaemonServerBound => exact Bool.false_ne_true
  · exact fun none value member => none _ member rfl

theorem awaitedUser_of_settled {receiver : CoreServiceReceiver} {jobs : List ReceiverJob}
    (settled : Settled jobs) : awaitedUser receiver jobs = receiver.currentConsoleUserId := by
  unfold awaitedUser
  induction jobs with
  | nil => rfl
  | cons job rest ih =>
      cases job with
      | currentConsoleUserIdChanged value => exact absurd List.mem_cons_self (settled value)
      | coreServiceDaemonServerBound uid generation duringChange =>
          exact ih fun value member => settled value (List.mem_cons_of_mem _ member)

/-! ## What every event keeps -/

/-- The part that holds in every run. -/
structure Follows (daemon : DaemonComponents) : Prop where
  user : awaitedUser daemon.receiver daemon.consoleUserIdChangedReceiver.jobs =
    daemon.consoleUserIdChangedReceiver.currentConsoleUserId
  generations : ∀ uid generation duringChange,
    .coreServiceDaemonServerBound uid generation duringChange ∈
        daemon.consoleUserIdChangedReceiver.jobs →
      generation ≤ daemon.consoleUserIdChangedReceiver.coreServiceDaemonServerStateGeneration
  timely : ∀ uid,
    .coreServiceDaemonServerBound uid
        daemon.consoleUserIdChangedReceiver.coreServiceDaemonServerStateGeneration false ∈
        daemon.consoleUserIdChangedReceiver.jobs →
      Settled daemon.consoleUserIdChangedReceiver.jobs ∧ daemon.receiver = ⟨uid, true⟩
  late : daemon.receiver.serverBoundSignalled = true → ∀ uid before after,
    daemon.consoleUserIdChangedReceiver.jobs = before ++
        .coreServiceDaemonServerBound uid
          daemon.consoleUserIdChangedReceiver.coreServiceDaemonServerStateGeneration true ::
        after →
      ¬ Settled before
  noted : daemon.receiver.serverBoundSignalled = true →
    Settled daemon.consoleUserIdChangedReceiver.jobs →
    daemon.BoundFor daemon.consoleUserIdChangedReceiver.currentConsoleUserId ∨
      ∃ duringChange, .coreServiceDaemonServerBound
        daemon.consoleUserIdChangedReceiver.currentConsoleUserId
        daemon.consoleUserIdChangedReceiver.coreServiceDaemonServerStateGeneration duringChange ∈
          daemon.consoleUserIdChangedReceiver.jobs

/-- A noted report is about the receiver that exists. -/
structure Reported (daemon : DaemonComponents) : Prop extends Follows daemon where
  bound : ∀ uid, daemon.BoundFor uid →
    Settled daemon.consoleUserIdChangedReceiver.jobs ∧ daemon.receiver = ⟨uid, true⟩

theorem reported_initial : Reported initial where
  user := rfl
  generations := fun _ _ _ member => absurd member List.not_mem_nil
  timely := fun _ member => absurd member List.not_mem_nil
  late := fun signalled => by cases signalled
  noted := fun signalled => by cases signalled
  bound := fun _ isBound => by cases isBound.1

/-- The peers take no part. -/
theorem Follows.peers {daemon : DaemonComponents} (follows : Follows daemon)
    (peerCredentials : AList fun _ : PeerId => Option Uid)
    (peerStates : AList fun _ : PeerId => PeerState) :
    Follows { daemon with
      consoleUserIdChangedReceiver :=
        { daemon.consoleUserIdChangedReceiver with peerCredentials, peerStates } } :=
  ⟨follows.user, follows.generations, follows.timely, follows.late, follows.noted⟩

theorem not_settled_append (jobs : List ReceiverJob) (value : Option Uid) :
    ¬ Settled (jobs ++ [.currentConsoleUserIdChanged value]) := fun settled =>
  settled value (List.mem_append_right _ (List.mem_singleton_self _))

/-- A change of the user makes every waiting report out of date. -/
theorem Follows.update {daemon : DaemonComponents} (follows : Follows daemon)
    (value : Option Uid) :
    Follows { daemon with
      consoleUserIdChangedReceiver :=
        daemon.consoleUserIdChangedReceiver.updateCurrentConsoleUserId value } := by
  unfold ConsoleUserIdChangedReceiver.updateCurrentConsoleUserId
  split
  · have old : ∀ uid duringChange,
        .coreServiceDaemonServerBound uid
          (daemon.consoleUserIdChangedReceiver.coreServiceDaemonServerStateGeneration + 1)
          duringChange ∉
        daemon.consoleUserIdChangedReceiver.jobs ++ [.currentConsoleUserIdChanged value] := by
      intro uid duringChange member
      rcases List.mem_append.mp member with earlier | new
      · have atMost := follows.generations _ _ _ earlier
        omega
      · cases List.mem_singleton.mp new
    refine ⟨?_, ?_, ?_, ?_, ?_⟩
    · unfold awaitedUser
      rw [List.foldl_append]
      rfl
    · intro uid generation duringChange member
      rcases List.mem_append.mp member with earlier | new
      · exact Nat.le_succ_of_le (follows.generations _ _ _ earlier)
      · cases List.mem_singleton.mp new
    · exact fun uid member => absurd member (old uid false)
    · intro _ uid before after same
      have split : daemon.consoleUserIdChangedReceiver.jobs ++
          [.currentConsoleUserIdChanged value] = before ++ .coreServiceDaemonServerBound uid
          (daemon.consoleUserIdChangedReceiver.coreServiceDaemonServerStateGeneration + 1)
          true :: after := same
      refine absurd ?_ (old uid true)
      rw [split]
      exact List.mem_append_right before List.mem_cons_self
    · exact fun _ settled => absurd settled (not_settled_append _ value)
  · exact follows

/-- A report gets a new generation; it is late exactly when a change was waiting. -/
theorem Follows.serverBound {daemon : DaemonComponents} (follows : Follows daemon) :
    Follows { daemon with
      receiver := { daemon.receiver with serverBoundSignalled := true }
      consoleUserIdChangedReceiver :=
        daemon.consoleUserIdChangedReceiver.asyncCoreServiceDaemonServerBound
          daemon.receiver.currentConsoleUserId } := by
  have old : ∀ uid duringChange,
      .coreServiceDaemonServerBound uid
        (daemon.consoleUserIdChangedReceiver.coreServiceDaemonServerStateGeneration + 1)
        duringChange ∉ daemon.consoleUserIdChangedReceiver.jobs := by
    intro uid duringChange member
    have atMost := follows.generations _ _ _ member
    omega
  have settled_append : ∀ uid generation duringChange,
      Settled daemon.consoleUserIdChangedReceiver.jobs →
      Settled (daemon.consoleUserIdChangedReceiver.jobs ++
        [.coreServiceDaemonServerBound uid generation duringChange]) := by
    intro uid generation duringChange settled value member
    rcases List.mem_append.mp member with earlier | new
    · exact settled value earlier
    · cases List.mem_singleton.mp new
  refine ⟨?_, ?_, ?_, ?_, ?_⟩
  · refine Eq.trans ?_ follows.user
    unfold awaitedUser ConsoleUserIdChangedReceiver.asyncCoreServiceDaemonServerBound
    dsimp only
    rw [List.foldl_append]
    rfl
  · intro uid generation duringChange member
    rcases List.mem_append.mp member with earlier | new
    · exact Nat.le_succ_of_le (follows.generations _ _ _ earlier)
    · cases List.mem_singleton.mp new
      exact Nat.le_refl _
  · intro uid member
    rcases List.mem_append.mp member with earlier | new
    · exact absurd earlier (old uid false)
    · have job := List.mem_singleton.mp new
      injection job with same _ timely
      have settled := (settled_iff daemon.consoleUserIdChangedReceiver).mpr timely.symm
      exact ⟨settled_append _ _ _ settled, by rw [same]⟩
  · intro _ uid before after same settled
    unfold ConsoleUserIdChangedReceiver.asyncCoreServiceDaemonServerBound at same
    dsimp only at same
    rcases List.append_eq_append_iff.mp same with ⟨middle, front, back⟩ | ⟨middle, front, back⟩
    · cases middle with
      | nil =>
          rw [List.nil_append] at back
          injection back with job
          injection job with _ _ during
          rw [List.append_nil] at front
          rw [front, settled_iff, during] at settled
          cases settled
      | cons first rest =>
          injection back with _ nothing
          cases rest <;> cases nothing
    · cases middle with
      | nil =>
          rw [List.nil_append] at back
          injection back with job
          injection job with _ _ during
          rw [List.append_nil] at front
          rw [← front, settled_iff, ← during] at settled
          cases settled
      | cons first rest =>
          injection back with job
          refine old uid true ?_
          rw [front, ← job]
          exact List.mem_append_right _ List.mem_cons_self
  · intro _ settled
    right
    have before : Settled daemon.consoleUserIdChangedReceiver.jobs := fun value member =>
      settled value (List.mem_append_left _ member)
    have user := follows.user
    rw [awaitedUser_of_settled before] at user
    refine ⟨daemon.consoleUserIdChangedReceiver.changeWaits, List.mem_append_right _ ?_⟩
    apply List.mem_singleton.mpr
    rw [user]
    rfl

/-! ## The jobs -/

/-- The receiver is replaced, and what was known of the old one is forgotten. -/
theorem Follows.changeJob {daemon : DaemonComponents} (follows : Follows daemon)
    {value : Option Uid} {rest : List ReceiverJob}
    (jobs : daemon.consoleUserIdChangedReceiver.jobs = .currentConsoleUserIdChanged value :: rest) :
    Follows ({ daemon with
      consoleUserIdChangedReceiver :=
        { daemon.consoleUserIdChangedReceiver with jobs := rest } }.startReceiver value) where
  user := by
    have user := follows.user
    rw [jobs] at user
    exact user
  generations := fun uid generation duringChange member =>
    follows.generations uid generation duringChange (by
      rw [jobs]
      exact List.mem_cons_of_mem _ member)
  timely := fun uid member => by
    have timely := (follows.timely uid (by
      rw [jobs]
      exact List.mem_cons_of_mem _ member)).1
    rw [jobs] at timely
    exact absurd List.mem_cons_self (timely value)
  late := fun signalled => by cases signalled
  noted := fun signalled => by cases signalled

/-- A report leaves the queue and is noted when it passes the tests. -/
theorem Follows.boundJob {daemon : DaemonComponents} (follows : Follows daemon)
    {uid : Option Uid} {generation : Nat} {duringChange : Bool} {rest : List ReceiverJob}
    (jobs : daemon.consoleUserIdChangedReceiver.jobs =
      .coreServiceDaemonServerBound uid generation duringChange :: rest) :
    Follows { daemon with
      consoleUserIdChangedReceiver :=
        (ConsoleUserIdChangedReceiver.serverBoundJob (R := R)
          { daemon.consoleUserIdChangedReceiver with jobs := rest } uid generation).1 } := by
  have members : ∀ job ∈ rest, job ∈ daemon.consoleUserIdChangedReceiver.jobs := by
    rw [jobs]
    exact fun job member => List.mem_cons_of_mem _ member
  have settled_of : Settled daemon.consoleUserIdChangedReceiver.jobs → Settled rest :=
    fun settled value member => settled value (members _ member)
  have user : awaitedUser daemon.receiver rest =
      daemon.consoleUserIdChangedReceiver.currentConsoleUserId := by
    have user := follows.user
    rw [jobs] at user
    exact user
  have late : daemon.receiver.serverBoundSignalled = true → ∀ uid before after,
      rest = before ++ .coreServiceDaemonServerBound uid
        daemon.consoleUserIdChangedReceiver.coreServiceDaemonServerStateGeneration true ::
        after → ¬ Settled before := by
    intro signalled other before after same settled
    refine follows.late signalled other
      (.coreServiceDaemonServerBound uid generation duringChange :: before) after ?_ ?_
    · rw [jobs, same, List.cons_append]
    · intro value member
      cases member with
      | tail _ member => exact settled value member
  have timely : ∀ other,
      .coreServiceDaemonServerBound other
        daemon.consoleUserIdChangedReceiver.coreServiceDaemonServerStateGeneration false ∈ rest →
      Settled rest ∧ daemon.receiver = ⟨other, true⟩ := by
    intro other member
    obtain ⟨settled, receiver⟩ := follows.timely other (members _ member)
    exact ⟨settled_of settled, receiver⟩
  unfold ConsoleUserIdChangedReceiver.serverBoundJob
  split
  case isTrue outOfDate =>
    refine ⟨user, fun _ _ _ member => follows.generations _ _ _ (members _ member), timely,
      late, ?_⟩
    intro signalled settled
    have settled_jobs : Settled daemon.consoleUserIdChangedReceiver.jobs := by
      rw [jobs]
      intro value member
      cases member with
      | tail _ member => exact settled value member
    rcases follows.noted signalled settled_jobs with isBound | ⟨during, member⟩
    · exact .inl isBound
    · rw [jobs] at member
      rcases List.mem_cons.mp member with head | member
      · injection head with sameUid sameGeneration
        rcases outOfDate with other | other
        · exact absurd sameGeneration.symm other
        · exact absurd sameUid.symm other
      · exact .inr ⟨during, member⟩
  case isFalse current =>
    rw [not_or, not_not, not_not] at current
    exact ⟨user, fun _ _ _ member => follows.generations _ _ _ (members _ member), timely, late,
      fun _ _ => .inl ⟨rfl, current.2⟩⟩

/-- Every event keeps it. -/
theorem Follows.step {daemon : DaemonComponents} (follows : Follows daemon)
    (event : DaemonEvent R) : Follows (daemon.next event) := by
  cases event with
  | peerConnected peerId uid => exact follows.peers _ _
  | peerClosed peerId =>
      change Follows { daemon with
        consoleUserIdChangedReceiver := daemon.consoleUserIdChangedReceiver.peerClosed peerId }
      obtain ⟨_, _, same | same⟩ :=
        daemon.consoleUserIdChangedReceiver.peerClosed_cases peerId
      · rw [same]
        exact follows.peers _ _
      · rw [same]
        exact (follows.peers _ _).update none
  | requestReceived peerId requestId onConsole =>
      change Follows { daemon with
        consoleUserIdChangedReceiver :=
          (daemon.consoleUserIdChangedReceiver.requestReceived peerId requestId onConsole).1 }
      rcases daemon.consoleUserIdChangedReceiver.requestReceived_cases peerId requestId onConsole
        with same | ⟨uid, _, same⟩
      · rw [same]
        exact follows
      rw [same]
      rcases daemon.consoleUserIdChangedReceiver.applyRequest_cases peerId uid onConsole
        with same | ⟨value, same⟩
      · rw [same]
        exact follows.peers _ _
      · rw [same]
        exact (follows.peers _ _).update value
  | corruptedRequest peerId => exact follows
  | serverBound => exact follows.serverBound
  | runJob =>
      change Follows (daemon.runJob (R := R)).1
      unfold runJob
      dsimp only
      split
      · exact follows
      · exact follows.changeJob ‹_›
      · exact follows.boundJob ‹_›

/-! ## Noted reports -/

/-- A message that is sent tells what is noted. -/
theorem boundFor_of_sent {daemon : DaemonComponents} {event : DaemonEvent R} {peerId : PeerId}
    {uid : Option Uid}
    (sent : (peerId, .coreServiceDaemonServerBound uid) ∈ (daemon.step event).2) :
    (daemon.next event).BoundFor uid := by
  have available : ∀ (receiver : ConsoleUserIdChangedReceiver) (other : PeerId),
      (peerId, Outgoing.coreServiceDaemonServerBound uid) ∈
          receiver.sendCoreServiceDaemonServerBoundIfAvailable (R := R) other →
        receiver.coreServiceDaemonServerIsBound = true ∧
          receiver.coreServiceDaemonServerBoundUid = uid := by
    intro receiver other member
    unfold ConsoleUserIdChangedReceiver.sendCoreServiceDaemonServerBoundIfAvailable at member
    split at member
    · injection List.mem_singleton.mp member with _ same
      injection same with same
      exact ⟨‹_›, same.symm⟩
    · cases member
  cases event with
  | peerConnected | peerClosed | serverBound => cases sent
  | corruptedRequest => cases List.mem_singleton.mp sent
  | requestReceived other requestId onConsole =>
      change (daemon.consoleUserIdChangedReceiver.requestReceived other requestId
        onConsole).1.coreServiceDaemonServerIsBound = true ∧ (daemon.consoleUserIdChangedReceiver
          |>.requestReceived other requestId onConsole).1.coreServiceDaemonServerBoundUid = uid
      change _ ∈ (daemon.consoleUserIdChangedReceiver.requestReceived other requestId
        onConsole).2 at sent
      unfold ConsoleUserIdChangedReceiver.requestReceived at sent ⊢
      split at sent
      · cases List.mem_singleton.mp sent
      · rcases List.mem_cons.mp sent with respond | member
        · cases respond
        · exact available _ _ member
  | runJob =>
      change (daemon.runJob (R := R)).1.BoundFor uid
      change _ ∈ (daemon.runJob (R := R)).2 at sent
      unfold runJob at sent ⊢
      dsimp only at sent ⊢
      split at sent
      · cases sent
      · cases sent
      · unfold ConsoleUserIdChangedReceiver.serverBoundJob at sent ⊢
        split at sent
        · cases sent
        · rw [if_neg ‹_›]
          obtain ⟨other, _, member⟩ := List.mem_flatMap.mp sent
          exact available _ _ member

/-- A noted report is about the receiver, hence what is noted and sent is. -/
theorem Reported.reportsReceiver {daemon : DaemonComponents} {event : DaemonEvent R}
    (reported : Reported (daemon.next event)) : daemon.ReportsReceiver event :=
  ⟨fun uid _ isBound => (reported.bound uid isBound).2,
    fun _ uid sent => (reported.bound uid (boundFor_of_sent sent)).2⟩

/-- An update of the console user keeps what has been reported true of the daemon. -/
theorem Reported.update {daemon : DaemonComponents} (reported : Reported daemon)
    (value : Option Uid) :
    Reported { daemon with
      consoleUserIdChangedReceiver :=
        daemon.consoleUserIdChangedReceiver.updateCurrentConsoleUserId value } := by
  refine ⟨reported.toFollows.update value, ?_⟩
  intro uid isBound
  unfold BoundFor ConsoleUserIdChangedReceiver.updateCurrentConsoleUserId at isBound
  unfold ConsoleUserIdChangedReceiver.updateCurrentConsoleUserId
  dsimp only at isBound ⊢
  split at isBound
  · cases isBound.1
  · split
    · contradiction
    · exact reported.bound uid isBound

theorem Reported.peers {daemon : DaemonComponents} (reported : Reported daemon)
    (peerCredentials : AList fun _ : PeerId => Option Uid)
    (peerStates : AList fun _ : PeerId => PeerState) :
    Reported { daemon with
      consoleUserIdChangedReceiver :=
        { daemon.consoleUserIdChangedReceiver with peerCredentials, peerStates } } :=
  ⟨reported.toFollows.peers _ _, reported.bound⟩

/-- Every event but the job of a late report keeps it. -/
theorem Reported.step {daemon : DaemonComponents} (reported : Reported daemon)
    (event : DaemonEvent R) (dropped : daemon.LateReportDropped event) :
    Reported (daemon.next event) := by
  cases event with
  | peerConnected peerId uid => exact reported.peers _ _
  | peerClosed peerId =>
      change Reported { daemon with
        consoleUserIdChangedReceiver := daemon.consoleUserIdChangedReceiver.peerClosed peerId }
      obtain ⟨_, _, same | same⟩ :=
        daemon.consoleUserIdChangedReceiver.peerClosed_cases peerId
      · rw [same]
        exact reported.peers _ _
      · rw [same]
        exact (reported.peers _ _).update none
  | requestReceived peerId requestId onConsole =>
      change Reported { daemon with
        consoleUserIdChangedReceiver :=
          (daemon.consoleUserIdChangedReceiver.requestReceived peerId requestId onConsole).1 }
      rcases daemon.consoleUserIdChangedReceiver.requestReceived_cases peerId requestId onConsole
        with same | ⟨uid, _, same⟩
      · rw [same]
        exact reported
      rw [same]
      rcases daemon.consoleUserIdChangedReceiver.applyRequest_cases peerId uid onConsole
        with same | ⟨value, same⟩
      · rw [same]
        exact reported.peers _ _
      · rw [same]
        exact (reported.peers _ _).update value
  | corruptedRequest peerId => exact reported
  | serverBound =>
      refine ⟨reported.toFollows.step (R := R) .serverBound, ?_⟩
      intro uid isBound
      obtain ⟨settled, receiver⟩ := reported.bound uid isBound
      constructor
      · intro value member
        rcases List.mem_append.mp member with earlier | new
        · exact settled value earlier
        · cases List.mem_singleton.mp new
      · change CoreServiceReceiver.mk daemon.receiver.currentConsoleUserId true = ⟨uid, true⟩
        rw [receiver]
  | runJob =>
      refine ⟨reported.toFollows.step (R := R) .runJob, ?_⟩
      change ∀ uid, (daemon.runJob (R := R)).1.BoundFor uid →
        Settled (daemon.runJob (R := R)).1.consoleUserIdChangedReceiver.jobs ∧
          (daemon.runJob (R := R)).1.receiver = ⟨uid, true⟩
      have settled_tail : ∀ {job rest},
          daemon.consoleUserIdChangedReceiver.jobs = job :: rest →
          Settled daemon.consoleUserIdChangedReceiver.jobs → Settled rest := by
        intro job rest jobs settled value member
        rw [jobs] at settled
        exact settled value (List.mem_cons_of_mem _ member)
      unfold runJob
      dsimp only
      split
      · exact reported.bound
      case h_2 value rest jobs =>
        intro uid isBound
        have settled := (reported.bound uid isBound).1
        rw [jobs] at settled
        exact absurd List.mem_cons_self (settled value)
      case h_3 uid generation duringChange rest jobs =>
        unfold ConsoleUserIdChangedReceiver.serverBoundJob
        split
        · intro other isBound
          obtain ⟨settled, receiver⟩ := reported.bound other isBound
          exact ⟨settled_tail jobs settled, receiver⟩
        case isFalse passes =>
          rw [not_or, not_not, not_not] at passes
          intro other isBound
          have same : uid = other := isBound.2
          rw [← same]
          cases duringChange with
          | true => exact absurd passes (dropped uid generation rest jobs)
          | false =>
              obtain ⟨settled, receiver⟩ := reported.timely uid (by
                rw [jobs, passes.1]
                exact List.mem_cons_self)
              exact ⟨settled_tail jobs settled, receiver⟩

/-- The job of a late report that passes the tests is about a receiver that is gone. -/
theorem Reported.lateReportDropped {daemon : DaemonComponents} (reported : Reported daemon)
    {event : DaemonEvent R} (right : daemon.ReportsReceiver event) :
    daemon.LateReportDropped event := by
  cases event with
  | runJob =>
      intro uid generation rest jobs passes
      have notSignalled : daemon.receiver.serverBoundSignalled ≠ true := fun signalled =>
        reported.late signalled uid [] rest (passes.1 ▸ jobs) fun _ => List.not_mem_nil
      have next : daemon.next (R := R) .runJob = { daemon with
          consoleUserIdChangedReceiver :=
            { daemon.consoleUserIdChangedReceiver with
              jobs := rest
              coreServiceDaemonServerIsBound := true
              coreServiceDaemonServerBoundUid := uid } } := by
        change (daemon.runJob (R := R)).1 = _
        unfold runJob
        dsimp only
        rw [jobs]
        dsimp only
        unfold ConsoleUserIdChangedReceiver.serverBoundJob
        rw [if_neg]
        rw [not_or, not_not, not_not]
        exact passes
      by_cases noted : daemon.BoundFor uid
      · apply notSignalled
        rw [(reported.bound uid noted).2]
      · have receiver := right.1 uid noted (next ▸ ⟨rfl, rfl⟩)
        rw [next] at receiver
        apply notSignalled
        change daemon.receiver = _ at receiver
        rw [receiver]
  | _ => trivial

/-- At quiescence the report of the receiver has been noted. -/
theorem Follows.notedWhenQuiet {daemon : DaemonComponents} (follows : Follows daemon) :
    daemon.NotedWhenQuiet := by
  intro quiet signalled
  have settled : Settled daemon.consoleUserIdChangedReceiver.jobs := by
    rw [quiet]
    exact fun _ => List.not_mem_nil
  rcases follows.noted signalled settled with isBound | ⟨during, member⟩
  · exact isBound
  · rw [quiet] at member
    cases member

/-- What an event notes and sends is about the receiver that exists, and no report of
that receiver is missing at quiescence. -/
def ServerBoundRight (daemon : DaemonComponents) (event : DaemonEvent R) : Prop :=
  daemon.ReportsReceiver event ∧ (daemon.next event).NotedWhenQuiet

/-- In a run everything that is noted and sent is about the receiver that exists, and
its reports are noted at quiescence, exactly when no report that was made while a change
of the user was waiting passes the tests of its job. -/
theorem reports_iff (events : List (DaemonEvent R)) :
    Foundation.Execution.StepsMeet next ServerBoundRight initial events ↔
      Foundation.Execution.StepsMeet next LateReportDropped initial events := by
  refine Foundation.Execution.stepsMeet_iff ?_ ?_ events reported_initial
  · intro daemon event reported
    constructor
    · exact fun right => reported.lateReportDropped right.1
    · intro dropped
      have after := reported.step event dropped
      exact ⟨after.reportsReceiver, after.toFollows.notedWhenQuiet⟩
  · exact fun daemon event reported right =>
      reported.step event (reported.lateReportDropped right.1)

/-- The user goes away and comes back, and the receiver that was created for him before
reports that it is bound. -/
def awayAndBack : List (DaemonEvent Unit) :=
  [.peerConnected 0 (some 501), .requestReceived 0 () true, .runJob,
    .requestReceived 0 () false, .requestReceived 0 () true, .serverBound,
    .runJob, .runJob, .runJob]

/-- The report is noted although the receiver that exists has not reported yet. -/
theorem awayAndBack_notedEarly :
    ¬ Foundation.Execution.StepsMeet next ServerBoundRight initial awayAndBack := by
  rintro ⟨_, _, _, _, _, _, _, _, ⟨⟨noted, _⟩, _⟩, _⟩
  have receiver := noted (some 501) (fun bound => Bool.false_ne_true bound.1) ⟨rfl, rfl⟩
  injection receiver with _ signalled
  exact Bool.false_ne_true signalled

end DaemonComponents

end Karabiner

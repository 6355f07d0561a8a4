import Karabiner.Foundation.Surviving
import Karabiner.Stream.Client
import Mathlib.Data.List.Induction

/-! # A client goes on

A client that has been started and not stopped has a peer, or it is connecting, or something that is
queued or armed makes it connect again. A `stop` that is still posted takes the peer away, and a
`cancel` that is still queued takes the armed call away, so the invariant says what comes after them
(`StreamClient.goes_on`).
-/

namespace Karabiner

open Foundation.Surviving

/-- Whether the client connects after the post, or has the dispatcher reconnect. -/
def ClientPost.connects : ClientPost → Bool
  | connect | invalidate => true
  | _ => false

/-- Whether `schedule_reconnect` or a connect follows from a job. -/
def StreamClientJob.reconnects : StreamClientJob → Bool
  | invalidate | scheduleReconnect => true
  | signal signalled => signalled.reconnects
  | _ => false

namespace StreamClient

variable {c next : StreamClient}

/-- Something that is queued or armed makes the client connect. -/
inductive Promised (c : StreamClient) : Prop where
  | posted (connects : Survives (·.connects = true) (· = .stop) c.posts)
  | queued (job : StreamClientJob) (isQueued : job ∈ c.jobs) (reconnects : job.reconnects = true)
  | debounces (debounces : Survives (· = .debounce) (· = .cancel) c.jobs)
  | armed (isArmed : c.generation ∈ c.calls) (stays : StreamClientJob.cancel ∉ c.jobs)

/-- The client has a peer or connects, and that is not taken away, or it is going to connect. -/
def GoesOn (c : StreamClient) : Prop :=
  c.Promised ∨ (c.peer.isSome ∨ c.connectingSocket.isSome) ∧ ClientPost.stop ∉ c.posts

/-- Requests are completed, and the peer may be given up. -/
structure Completes (c next : StreamClient) : Prop where
  stopped : next.stopped = c.stopped
  connectingSocket : next.connectingSocket = c.connectingSocket
  posts : next.posts = c.posts
  generation : next.generation = c.generation
  calls : next.calls = c.calls
  jobs : ∃ more, next.jobs = c.jobs ++ more ∧ StreamClientJob.cancel ∉ more

theorem completes_completeWhere (c : StreamClient) (isOver : PendingRequest → Bool)
    (result : RequestResult) : c.Completes (c.completeWhere isOver result) where
  stopped := rfl
  connectingSocket := rfl
  posts := rfl
  generation := rfl
  calls := rfl
  jobs := ⟨_, rfl, fun member => by
    obtain ⟨request, -, isCancel⟩ := List.mem_map.mp member
    cases isCancel⟩

theorem completes_closePeer (c : StreamClient) (error : RequestError) :
    c.Completes (c.closePeer error) := by
  unfold StreamClient.closePeer
  split
  · obtain ⟨stopped, connecting, posts, generation, calls, jobs⟩ :=
      completes_completeWhere c (fun _ => true) (.error error)
    exact ⟨stopped, connecting, posts, generation, calls, jobs⟩
  · exact ⟨rfl, rfl, rfl, rfl, rfl, [], (List.append_nil _).symm, List.not_mem_nil⟩

/-- Jobs are queued that do not cancel anything. -/
theorem Promised.of_jobs (promised : c.Promised) (posts : next.posts = c.posts)
    (generation : next.generation = c.generation) (calls : next.calls = c.calls)
    (jobs : ∃ more, next.jobs = c.jobs ++ more ∧ StreamClientJob.cancel ∉ more) :
    next.Promised := by
  obtain ⟨more, isMore, noCancel⟩ := jobs
  cases promised with
  | posted connects => exact .posted (posts ▸ connects)
  | queued job isQueued reconnects =>
      refine .queued job ?_ reconnects
      rw [isMore]
      exact List.mem_append_left _ isQueued
  | debounces debounces =>
      refine .debounces ?_
      rw [isMore]
      exact debounces.append fun _ member isCancel => noCancel (isCancel ▸ member)
  | armed isArmed stays =>
      refine .armed (generation ▸ calls ▸ isArmed) fun member => ?_
      rw [isMore] at member
      exact (List.mem_append.mp member).elim stays noCancel

theorem Promised.completes (promised : c.Promised) (completes : c.Completes next) :
    next.Promised :=
  promised.of_jobs completes.posts completes.generation completes.calls completes.jobs

theorem Promised.of_same (promised : c.Promised) (posts : next.posts = c.posts)
    (generation : next.generation = c.generation) (calls : next.calls = c.calls)
    (jobs : next.jobs = c.jobs) : next.Promised :=
  promised.of_jobs posts generation calls
    ⟨[], jobs.trans (List.append_nil _).symm, List.not_mem_nil⟩

theorem Promised.post (promised : c.Promised) {post : ClientPost} (notStop : post ≠ .stop) :
    (c.post post).Promised := by
  cases promised with
  | posted connects =>
      refine .posted (connects.append fun later member isStop => notStop ?_)
      exact (List.mem_singleton.mp member).symm.trans isStop
  | queued job isQueued reconnects => exact .queued job isQueued reconnects
  | debounces debounces => exact .debounces debounces
  | armed isArmed stays => exact .armed isArmed stays

theorem GoesOn.post (goesOn : c.GoesOn) {post : ClientPost} (notStop : post ≠ .stop) :
    (c.post post).GoesOn := by
  refine goesOn.imp (·.post notStop) fun ⟨isConnected, noStop⟩ => ⟨isConnected, fun member => ?_⟩
  obtain member | isNew := List.mem_append.mp member
  · exact noStop member
  · exact notStop (List.mem_singleton.mp isNew).symm

theorem goesOn_post (c : StreamClient) {post : ClientPost} (connects : post.connects = true) :
    (c.post post).GoesOn :=
  .inl (.posted (survives_concat c.posts connects))

theorem GoesOn.enqueue (goesOn : c.GoesOn) {job : StreamClientJob} (notCancel : job ≠ .cancel) :
    (c.enqueue job).GoesOn :=
  goesOn.imp_left fun promised => promised.of_jobs rfl rfl rfl
    ⟨[job], rfl, fun member => notCancel (List.mem_singleton.mp member).symm⟩

theorem goesOn_enqueue (c : StreamClient) {job : StreamClientJob}
    (reconnects : job.reconnects = true) : (c.enqueue job).GoesOn :=
  .inl (.queued job (List.mem_append_right _ (List.mem_singleton.mpr rfl)) reconnects)

theorem goesOn_enqueue_debounce (c : StreamClient) : (c.enqueue .debounce).GoesOn :=
  .inl (.debounces (survives_concat c.jobs rfl))

/-! ## The io thread -/

section Post

variable {post : ClientPost} {rest : List ClientPost}

/-- Unless the post that is first connects, its removal breaks no promise. -/
theorem Promised.popPost (promised : c.Promised) (queue : c.posts = post :: rest) :
    (post.connects = true ∧ ClientPost.stop ∉ rest) ∨ Promised { c with posts := rest } := by
  cases promised with
  | posted connects =>
      rw [queue] at connects
      refine connects.of_cons.imp (fun own => ⟨own.1, fun member => ?_⟩) .posted
      exact own.2 .stop member rfl
  | queued job isQueued reconnects => exact .inr (.queued job isQueued reconnects)
  | debounces debounces => exact .inr (.debounces debounces)
  | armed isArmed stays => exact .inr (.armed isArmed stays)

theorem GoesOn.popPost (goesOn : c.GoesOn) (queue : c.posts = post :: rest)
    (connectsNot : post.connects = false) : GoesOn { c with posts := rest } := by
  refine goesOn.imp (fun promised => ?_) fun ⟨isConnected, noStop⟩ => ⟨isConnected, ?_⟩
  · refine (promised.popPost queue).resolve_left fun ⟨connects, _⟩ => ?_
    rw [connectsNot] at connects
    cases connects
  · rw [queue] at noStop
    exact fun member => noStop (List.mem_cons_of_mem _ member)

/-- A `stop` takes the peer away, but not what has been promised after it. -/
theorem GoesOn.stop (goesOn : c.GoesOn) (queue : c.posts = .stop :: rest) :
    Promised { c with posts := rest } := by
  obtain promised | ⟨-, noStop⟩ := goesOn
  · exact (promised.popPost queue).resolve_left fun ⟨connects, _⟩ => by cases connects
  · rw [queue] at noStop
    exact absurd List.mem_cons_self noStop

/-- After a connect the client has a peer or connects. -/
theorem GoesOn.connect (goesOn : c.GoesOn) (queue : c.posts = .connect :: rest)
    (isConnected : next.peer.isSome ∨ next.connectingSocket.isSome)
    (posts : next.posts = rest) (generation : next.generation = c.generation)
    (calls : next.calls = c.calls) (jobs : next.jobs = c.jobs) : next.GoesOn := by
  obtain promised | ⟨-, noStop⟩ := goesOn
  · obtain ⟨-, noStop⟩ | promised := promised.popPost queue
    · exact .inr ⟨isConnected, posts ▸ noStop⟩
    · exact .inl (promised.of_same posts generation calls jobs)
  · rw [queue] at noStop
    exact .inr ⟨isConnected, posts ▸ fun member => noStop (List.mem_cons_of_mem _ member)⟩

/-- A socket that has been connected lets the client go on: it has a peer, or is to reconnect. -/
theorem GoesOn.handleConnectedSocket (goesOn : c.GoesOn) (socket : Nat) (verified : Bool)
    (isStarted : c.stopped = false) : (c.handleConnectedSocket socket verified).GoesOn := by
  unfold StreamClient.handleConnectedSocket
  split
  · exact goesOn
  · rename_i isCurrent
    dsimp only
    split
    · rename_i isStopped
      exact Bool.noConfusion (isStarted.symm.trans isStopped)
    split
    · exact goesOn_enqueue _ rfl
    · refine GoesOn.post ?_ fun isStop => by cases isStop
      obtain promised | ⟨-, noStop⟩ := goesOn
      · exact .inl (promised.of_same rfl rfl rfl rfl)
      · exact .inr ⟨.inl rfl, noStop⟩

theorem GoesOn.completeWhere (goesOn : c.GoesOn) (isOver : PendingRequest → Bool)
    (result : RequestResult) : (c.completeWhere isOver result).GoesOn :=
  goesOn.imp_left (·.completes (completes_completeWhere c isOver result))

/-- A signal of the peer lets the client go on: whatever ends the connection leads to a reconnect.
-/
theorem GoesOn.handlePeerSignal (goesOn : c.GoesOn) (connection : Nat) (signal : PeerSignal) :
    (c.handlePeerSignal connection signal).GoesOn := by
  unfold StreamClient.handlePeerSignal
  split
  · exact goesOn
  · cases signal with
    | ready => exact goesOn
    | healthCheckResponseReceived => exact goesOn
    | received data => exact goesOn.enqueue fun isCancel => by cases isCancel
    | requestReceived id data => exact goesOn.enqueue fun isCancel => by cases isCancel
    | errorOccurred error =>
        exact (goesOn.completeWhere _ _).enqueue fun isCancel => by cases isCancel
    | closed => exact goesOn_enqueue _ rfl
    | responseReceived id data => exact goesOn.completeWhere _ _

/-- The io thread does the post that is first. -/
theorem GoesOn.run (goesOn : c.GoesOn) (queue : c.posts = post :: rest)
    (isStarted : c.stopped = false) : ({ c with posts := rest }.run post).GoesOn := by
  cases post with
  | stop =>
      refine .inl (Promised.completes ?_ (completes_closePeer _ _))
      exact (goesOn.stop queue).of_same rfl rfl rfl rfl
  | invalidate => exact goesOn_enqueue _ rfl
  | connect =>
      unfold StreamClient.run
      dsimp only
      split
      · rename_i isBusy
        refine goesOn.connect queue ?_ rfl rfl rfl rfl
        rw [isStarted] at isBusy
        simpa [or_comm] using isBusy
      · exact goesOn.connect queue (.inr rfl) rfl rfl rfl rfl
  | handleConnectedSocket socket verified =>
      exact (goesOn.popPost queue rfl).handleConnectedSocket socket verified isStarted
  | announce connection =>
      have popped := goesOn.popPost queue rfl
      unfold StreamClient.run
      dsimp only
      split
      · exact popped.enqueue fun isCancel => by cases isCancel
      · exact popped
  | request callback =>
      have popped := goesOn.popPost queue rfl
      unfold StreamClient.run
      dsimp only
      split
      · exact popped.imp_left (·.of_same rfl rfl rfl rfl)
      · exact popped.enqueue fun isCancel => by cases isCancel
  | peerSignal connection signal =>
      exact (goesOn.popPost queue rfl).handlePeerSignal connection signal

end Post

theorem GoesOn.connectOver (goesOn : c.GoesOn) (socket : Nat) (succeeded : Bool) :
    (c.connectOver socket succeeded).GoesOn := by
  unfold StreamClient.connectOver
  split
  · exact goesOn
  split
  · exact goesOn.enqueue fun isCancel => by cases isCancel
  · exact goesOn_enqueue _ rfl

theorem GoesOn.timeOut (goesOn : c.GoesOn) (id : UInt64) : (c.timeOut id).GoesOn := by
  have completed : (c.complete id (.error .timedOut)).GoesOn := goesOn.completeWhere _ _
  unfold StreamClient.timeOut
  dsimp only
  split
  · split
    · exact goesOn_enqueue _ rfl
    · exact completed
  · exact completed

/-! ## The dispatcher -/

section Job

variable {job : StreamClientJob} {rest : List StreamClientJob}

/-- What the removal of the job that is first can take away. -/
theorem GoesOn.popJob (goesOn : c.GoesOn) (queue : c.jobs = job :: rest)
    (reconnectsNot : job.reconnects = false) (notDebounce : job ≠ .debounce) :
    GoesOn { c with jobs := rest } := by
  refine goesOn.imp_left fun promised => ?_
  cases promised with
  | posted connects => exact .posted connects
  | queued other isQueued reconnects =>
      rw [queue] at isQueued
      obtain rfl | isQueued := List.mem_cons.mp isQueued
      · rw [reconnectsNot] at reconnects
        cases reconnects
      · exact .queued other isQueued reconnects
  | debounces debounces =>
      rw [queue] at debounces
      exact .debounces (debounces.of_cons.resolve_left fun own => notDebounce own.1)
  | armed isArmed stays =>
      rw [queue] at stays
      exact .armed isArmed fun member => stays (List.mem_cons_of_mem _ member)

/-- `cancel` takes the armed call away, which is not promised while it is queued. -/
theorem GoesOn.cancel (goesOn : c.GoesOn) (queue : c.jobs = .cancel :: rest) :
    GoesOn { c with jobs := rest, generation := c.generation + 1 } := by
  refine goesOn.imp_left fun promised => ?_
  cases promised with
  | posted connects => exact .posted connects
  | queued other isQueued reconnects =>
      rw [queue] at isQueued
      obtain rfl | isQueued := List.mem_cons.mp isQueued
      · cases reconnects
      · exact .queued other isQueued reconnects
  | debounces debounces =>
      rw [queue] at debounces
      exact .debounces (debounces.of_cons.resolve_left fun own => by cases own.1)
  | armed isArmed stays =>
      rw [queue] at stays
      exact absurd List.mem_cons_self stays

/-- The debounce arms a call of the reconnect task with the new generation. -/
theorem GoesOn.debounce (goesOn : c.GoesOn) (queue : c.jobs = .debounce :: rest) :
    GoesOn { c with
      jobs := rest, generation := c.generation + 1, calls := c.calls ++ [c.generation + 1] } := by
  have arms : c.generation + 1 ∈ c.calls ++ [c.generation + 1] :=
    List.mem_append_right _ (List.mem_singleton.mpr rfl)
  refine goesOn.imp_left fun promised => ?_
  cases promised with
  | posted connects => exact .posted connects
  | queued other isQueued reconnects =>
      rw [queue] at isQueued
      obtain rfl | isQueued := List.mem_cons.mp isQueued
      · cases reconnects
      · exact .queued other isQueued reconnects
  | debounces debounces =>
      rw [queue] at debounces
      obtain ⟨-, noCancel⟩ | later := debounces.of_cons
      · exact .armed arms fun member => noCancel .cancel member rfl
      · exact .debounces later
  | armed isArmed stays =>
      rw [queue] at stays
      exact .armed arms fun member => stays (List.mem_cons_of_mem _ member)

theorem stopped_scheduleReconnect (c : StreamClient) :
    c.scheduleReconnect.stopped = c.stopped := by
  unfold StreamClient.scheduleReconnect
  split
  · rfl
  · rfl

theorem goesOn_scheduleReconnect (isStarted : c.stopped = false) : c.scheduleReconnect.GoesOn := by
  unfold StreamClient.scheduleReconnect
  rw [isStarted]
  exact goesOn_enqueue_debounce c

/-- The dispatcher does the job that is first, which may stop or start the client. -/
theorem goesOn_perform (goesOn : c.stopped = false → c.GoesOn) (queue : c.jobs = job :: rest)
    (verified : Bool)
    (isStarted : ({ c with jobs := rest }.perform verified job).stopped = false) :
    ({ c with jobs := rest }.perform verified job).GoesOn := by
  cases job with
  | start => exact goesOn_post _ rfl
  | stop => cases isStarted
  | invalidate => exact goesOn_post _ rfl
  | debounce => exact (goesOn isStarted).debounce queue
  | cancel => exact (goesOn isStarted).cancel queue
  | scheduleReconnect =>
      exact goesOn_scheduleReconnect ((stopped_scheduleReconnect _).symm.trans isStarted)
  | verify socket =>
      exact ((goesOn isStarted).popJob queue rfl fun isDebounce => by cases isDebounce).post
        fun isStop => by cases isStop
  | signal signal =>
      unfold StreamClient.perform at isStarted ⊢
      dsimp only at isStarted ⊢
      split
      · rename_i reconnects
        rw [if_pos reconnects, stopped_scheduleReconnect] at isStarted
        exact goesOn_scheduleReconnect isStarted
      · rename_i reconnectsNot
        rw [if_neg reconnectsNot] at isStarted
        exact ((goesOn isStarted).popJob queue (Bool.eq_false_of_not_eq_true reconnectsNot)
          fun isDebounce => by cases isDebounce).imp_left (·.of_same rfl rfl rfl rfl)
  | callback callback result =>
      exact ((goesOn isStarted).popJob queue rfl fun isDebounce => by cases isDebounce).imp_left
        (·.of_same rfl rfl rfl rfl)

end Job

/-! ## The runs -/

/-- The reconnect task lets the client go on: it connects, or a later call is armed. -/
theorem GoesOn.reconnect (goesOn : c.GoesOn) (isStarted : c.stopped = false) (generation : Nat) :
    (c.step (.reconnect generation)).GoesOn := by
  unfold StreamClient.step
  dsimp only
  split
  · split
    · exact goesOn_post _ rfl
    · rename_i isOther
      have other : c.generation ≠ generation := fun same => isOther ⟨same, isStarted⟩
      refine goesOn.imp_left fun promised => ?_
      cases promised with
      | posted connects => exact .posted connects
      | queued job isQueued reconnects => exact .queued job isQueued reconnects
      | debounces debounces => exact .debounces debounces
      | armed isArmed stays => exact .armed ((List.mem_erase_of_ne other).mpr isArmed) stays
  · exact goesOn

theorem GoesOn.peerSignals (goesOn : c.GoesOn) (connection : Nat) (signal : PeerSignal) :
    (c.step (.peerSignals connection signal)).GoesOn := by
  have posted : (c.post (.peerSignal connection signal)).GoesOn :=
    goesOn.post fun isStop => by cases isStop
  unfold StreamClient.step
  dsimp only
  split
  · split
    · exact posted.imp_left (·.of_same rfl rfl rfl rfl)
    · exact posted
  · exact goesOn

/-! Only the jobs `start` and `stop` start or stop the client. -/

theorem stopped_closePeer (c : StreamClient) (error : RequestError) :
    (c.closePeer error).stopped = c.stopped :=
  (completes_closePeer c error).stopped

theorem stopped_handleConnectedSocket (c : StreamClient) (socket : Nat) (verified : Bool) :
    (c.handleConnectedSocket socket verified).stopped = c.stopped := by
  unfold StreamClient.handleConnectedSocket
  dsimp only
  split
  · rfl
  split
  · rfl
  split
  · rfl
  · rfl

theorem stopped_handlePeerSignal (c : StreamClient) (connection : Nat) (signal : PeerSignal) :
    (c.handlePeerSignal connection signal).stopped = c.stopped := by
  unfold StreamClient.handlePeerSignal
  split
  · rfl
  · cases signal with
    | ready => rfl
    | healthCheckResponseReceived => rfl
    | received data => rfl
    | requestReceived id data => rfl
    | errorOccurred error => rfl
    | closed => rfl
    | responseReceived id data => rfl

/-- What is posted to the io thread does not stop the client. -/
theorem stopped_run (c : StreamClient) (post : ClientPost) : (c.run post).stopped = c.stopped := by
  cases post with
  | stop => exact stopped_closePeer _ _
  | invalidate => exact stopped_closePeer _ _
  | connect =>
      unfold StreamClient.run
      dsimp only
      split
      · rfl
      · rfl
  | handleConnectedSocket socket verified => exact stopped_handleConnectedSocket c socket verified
  | announce connection =>
      unfold StreamClient.run
      dsimp only
      split
      · rfl
      · rfl
  | request callback =>
      unfold StreamClient.run
      dsimp only
      split
      · rfl
      · rfl
  | peerSignal connection signal => exact stopped_handlePeerSignal c connection signal

theorem stopped_connectOver (c : StreamClient) (socket : Nat) (succeeded : Bool) :
    (c.connectOver socket succeeded).stopped = c.stopped := by
  unfold StreamClient.connectOver
  split
  · rfl
  split
  · rfl
  · rfl

theorem stopped_timeOut (c : StreamClient) (id : UInt64) : (c.timeOut id).stopped = c.stopped := by
  unfold StreamClient.timeOut
  dsimp only
  split
  · split
    · exact stopped_closePeer _ _
    · rfl
  · rfl

theorem stopped_reconnect (c : StreamClient) (generation : Nat) :
    (c.step (.reconnect generation)).stopped = c.stopped := by
  unfold StreamClient.step
  dsimp only
  split
  · split
    · rfl
    · rfl
  · rfl

theorem stopped_peerSignals (c : StreamClient) (connection : Nat) (signal : PeerSignal) :
    (c.step (.peerSignals connection signal)).stopped = c.stopped := by
  unfold StreamClient.step
  dsimp only
  split
  · split
    · rfl
    · rfl
  · rfl

/-- Every step lets a client that is not stopped go on. -/
theorem goesOn_step (goesOn : c.stopped = false → c.GoesOn) (action : StreamClientAction)
    (isStarted : (c.step action).stopped = false) : (c.step action).GoesOn := by
  cases action with
  | asyncStart => exact (goesOn isStarted).enqueue fun isCancel => by cases isCancel
  | asyncStop => exact (goesOn isStarted).enqueue fun isCancel => by cases isCancel
  | asyncInvalidateConnection =>
      exact (goesOn isStarted).enqueue fun isCancel => by cases isCancel
  | asyncRequest =>
      have asked : GoesOn { c with asked := c.asked + 1 } :=
        (goesOn isStarted).imp_left (·.of_same rfl rfl rfl rfl)
      exact asked.post fun isStop => by cases isStop
  | work verified =>
      unfold StreamClient.step at isStarted ⊢
      cases queue : c.jobs with
      | nil =>
          simp only [queue] at isStarted ⊢
          exact goesOn isStarted
      | cons job rest =>
          simp only [queue] at isStarted ⊢
          exact goesOn_perform goesOn queue verified isStarted
  | reconnect generation =>
      have wasStarted := (stopped_reconnect c generation).symm.trans isStarted
      exact (goesOn wasStarted).reconnect wasStarted generation
  | runPost =>
      unfold StreamClient.step at isStarted ⊢
      cases queue : c.posts with
      | nil =>
          simp only [queue] at isStarted ⊢
          exact goesOn isStarted
      | cons post rest =>
          simp only [queue] at isStarted ⊢
          have wasStarted := (stopped_run _ post).symm.trans isStarted
          exact (goesOn wasStarted).run queue wasStarted
  | connectOver socket succeeded =>
      exact (goesOn ((stopped_connectOver c socket succeeded).symm.trans isStarted)).connectOver
        socket succeeded
  | timeOut id => exact (goesOn ((stopped_timeOut c id).symm.trans isStarted)).timeOut id
  | peerSignals connection signal =>
      have wasStarted := (stopped_peerSignals c connection signal).symm.trans isStarted
      exact (goesOn wasStarted).peerSignals connection signal

theorem goesOn_foldl (invalidate : Bool) (actions : List StreamClientAction) :
    (actions.foldl StreamClient.step (initial invalidate)).stopped = false →
      (actions.foldl StreamClient.step (initial invalidate)).GoesOn := by
  induction actions using List.reverseRecOn with
  | nil => exact fun isStarted => by cases isStarted
  | append_singleton actions action ih =>
      rw [List.foldl_append]
      exact goesOn_step ih action

/-- A client with nothing to do and no peer has its reconnect armed with the generation it has now.
-/
theorem GoesOn.armed_of_idle (goesOn : c.GoesOn) (noPost : c.posts = []) (noJob : c.jobs = [])
    (noPeer : c.peer = none) (noSocket : c.connectingSocket = none) :
    c.generation ∈ c.calls := by
  obtain promised | ⟨isConnected, -⟩ := goesOn
  · cases promised with
    | posted connects =>
        rw [noPost] at connects
        exact absurd connects not_survives_nil
    | queued job isQueued reconnects =>
        rw [noJob] at isQueued
        cases isQueued
    | debounces debounces =>
        rw [noJob] at debounces
        exact absurd debounces not_survives_nil
    | armed isArmed stays => exact isArmed
  · simp [noPeer, noSocket] at isConnected

/-- When the armed call is due, the client connects. -/
theorem connects_of_armed (isStarted : c.stopped = false) (noPost : c.posts = [])
    (noPeer : c.peer = none) (noSocket : c.connectingSocket = none)
    (isArmed : c.generation ∈ c.calls) :
    ((c.step (.reconnect c.generation)).step .runPost).connectingSocket = some c.sockets := by
  have due : c.step (.reconnect c.generation) =
      { c with calls := c.calls.erase c.generation }.post .connect := by
    unfold StreamClient.step
    dsimp only
    rw [if_pos isArmed, if_pos ⟨rfl, isStarted⟩]
  have isPosted : ({ c with calls := c.calls.erase c.generation }.post .connect).posts =
      [.connect] := by
    change c.posts ++ [.connect] = _
    rw [noPost, List.nil_append]
  rw [due]
  unfold StreamClient.step
  simp only [isPosted]
  unfold StreamClient.run StreamClient.post
  simp [isStarted, noPeer, noSocket]

/-! ## The generations -/

/-- A step counts one request for `reconnect_task_` at most. -/
theorem generation_step (c : StreamClient) (action : StreamClientAction) :
    (c.step action).generation ≤ c.generation + 1 := by
  cases action with
  | work verified =>
      unfold step
      cases c.jobs with
      | nil => exact Nat.le_succ _
      | cons job rest =>
          cases job <;> unfold perform <;> grind [post, enqueue, scheduleReconnect]
  | runPost =>
      unfold step
      cases c.posts with
      | nil => exact Nat.le_succ _
      | cons post rest =>
          cases post with
          | peerSignal connection signal =>
              unfold run handlePeerSignal
              cases signal <;> grind [enqueue, complete, completeAll, completeWhere]
          | _ =>
              unfold run
              grind [StreamClient.post, enqueue, add, closePeer, completeAll, completeWhere,
                closeConnectingSocket, handleConnectedSocket]
  | peerSignals connection signal =>
      unfold step
      cases signal <;> grind [post]
  | _ =>
      unfold step
      grind [post, enqueue, connectOver, closeConnectingSocket, timeOut, complete, closePeer,
        completeAll, completeWhere]

/-- In a run of fewer than 2^64 steps the generations do not wrap around. -/
theorem generation_le (invalidate : Bool) (actions : List StreamClientAction) :
    (actions.foldl StreamClient.step (initial invalidate)).generation ≤ actions.length := by
  induction actions using List.reverseRecOn with
  | nil => exact le_rfl
  | append_singleton actions action ih =>
      rw [List.foldl_append, List.length_append]
      exact (generation_step _ action).trans (Nat.succ_le_succ ih)

/-! ## The runs of a started client -/

/-- In every run, a client that is not stopped goes on: when both threads have nothing to do and it
has no peer and is not connecting, `reconnect_task_` is armed, and its call makes it connect. -/
theorem goes_on (invalidate : Bool) (actions : List StreamClientAction) :
    let c := actions.foldl StreamClient.step (initial invalidate)
    (c.stopped = false → c.GoesOn) ∧
      (c.stopped = false → c.posts = [] → c.jobs = [] → c.peer = none →
        c.connectingSocket = none → c.generation ∈ c.calls ∧
          ((c.step (.reconnect c.generation)).step .runPost).connectingSocket =
            some c.sockets) := by
  intro c
  have goesOn : c.stopped = false → c.GoesOn := goesOn_foldl invalidate actions
  refine ⟨goesOn, fun isStarted noPost noJob noPeer noSocket => ?_⟩
  have isArmed := (goesOn isStarted).armed_of_idle noPost noJob noPeer noSocket
  exact ⟨isArmed, connects_of_armed isStarted noPost noPeer noSocket isArmed⟩

end StreamClient

end Karabiner

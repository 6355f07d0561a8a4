import Karabiner.Foundation.Surviving
import Karabiner.Stream.Server
import Mathlib.Data.List.Induction

/-! # A server goes on

A server that has been started and not stopped has an acceptor, or something that is queued or armed
makes it bind its socket again (`StreamServer.binds_again`).
-/

namespace Karabiner

open Foundation.Surviving

namespace StreamServer

variable {verifyPeer : Nat → Bool} {s next : StreamServer}

/-- Something that is queued or armed makes the server bind. -/
inductive Promised (s : StreamServer) : Prop where
  | posted (binds : Survives (· = .bind) (· = .stop) s.posts)
  | queued (retries : .bindFailed ∈ s.jobs ∨ .closed ∈ s.jobs)
  | debounces (debounces : Survives (· = .debounce) (· = .cancel) s.jobs)
  | armed (isArmed : s.generation ∈ s.calls) (stays : ∀ job ∈ s.jobs, ¬job = .cancel)

/-- The server has an acceptor that no `stop` is to close, or it is going to bind. -/
def GoesOn (s : StreamServer) : Prop :=
  s.Promised ∨ s.acceptor = true ∧ ∀ post ∈ s.posts, ¬post = .stop

/-! ## What an operation keeps -/

theorem Promised.of_same (promised : s.Promised) (generation : next.generation = s.generation)
    (calls : next.calls = s.calls) (posts : next.posts = s.posts) (jobs : next.jobs = s.jobs) :
    next.Promised := by
  cases promised with
  | posted binds => exact .posted (posts ▸ binds)
  | queued retries => exact .queued (jobs ▸ retries)
  | debounces debounces => exact .debounces (jobs ▸ debounces)
  | armed isArmed stays => exact .armed (generation ▸ calls ▸ isArmed) (jobs ▸ stays)

/-- Jobs are queued that cancel nothing, and posts that do not stop the server. -/
structure Adds (s next : StreamServer) : Prop where
  acceptor : next.acceptor = s.acceptor
  generation : next.generation = s.generation
  calls : next.calls = s.calls
  posts : ∃ more, next.posts = s.posts ++ more ∧ ∀ post ∈ more, ¬post = .stop
  jobs : ∃ more, next.jobs = s.jobs ++ more ∧ ∀ job ∈ more, ¬job = .cancel

theorem Promised.adds (promised : s.Promised) (adds : s.Adds next) : next.Promised := by
  obtain ⟨-, generation, calls, ⟨posts, isPosts, noStop⟩, jobs, isJobs, noCancel⟩ := adds
  cases promised with
  | posted binds => exact .posted (isPosts ▸ binds.append noStop)
  | queued retries =>
      refine .queued ?_
      rw [isJobs]
      exact retries.imp (List.mem_append_left _) (List.mem_append_left _)
  | debounces debounces => exact .debounces (isJobs ▸ debounces.append noCancel)
  | armed isArmed stays =>
      refine .armed (generation ▸ calls ▸ isArmed) fun job member => ?_
      rw [isJobs] at member
      exact (List.mem_append.mp member).elim (stays job) (noCancel job)

theorem GoesOn.adds (goesOn : s.GoesOn) (adds : s.Adds next) : next.GoesOn := by
  refine goesOn.imp (·.adds adds) fun ⟨isBound, noStop⟩ => ⟨adds.acceptor.trans isBound, ?_⟩
  obtain ⟨more, isMore, none⟩ := adds.posts
  intro post member
  rw [isMore] at member
  exact (List.mem_append.mp member).elim (noStop post) (none post)

theorem Adds.of_same (acceptor : next.acceptor = s.acceptor)
    (generation : next.generation = s.generation) (calls : next.calls = s.calls)
    (posts : next.posts = s.posts) (jobs : next.jobs = s.jobs) : s.Adds next where
  acceptor := acceptor
  generation := generation
  calls := calls
  posts := ⟨[], posts.trans (List.append_nil _).symm, fun _ member => by cases member⟩
  jobs := ⟨[], jobs.trans (List.append_nil _).symm, fun _ member => by cases member⟩

theorem Adds.post (adds : s.Adds next) {post : ServerPost} (notStop : ¬post = .stop) :
    s.Adds (next.post post) := by
  obtain ⟨acceptor, generation, calls, ⟨more, isMore, none⟩, jobs⟩ := adds
  refine ⟨acceptor, generation, calls, ⟨more ++ [post], ?_, fun later member => ?_⟩, jobs⟩
  · rw [← List.append_assoc, ← isMore]
    rfl
  · obtain member | isLast := List.mem_append.mp member
    · exact none later member
    · exact List.mem_singleton.mp isLast ▸ notStop

theorem Adds.enqueue (adds : s.Adds next) {job : StreamServerJob} (notCancel : ¬job = .cancel) :
    s.Adds (next.enqueue job) := by
  obtain ⟨acceptor, generation, calls, posts, more, isMore, none⟩ := adds
  refine ⟨acceptor, generation, calls, posts, more ++ [job], ?_, fun later member => ?_⟩
  · rw [← List.append_assoc, ← isMore]
    rfl
  · obtain member | isLast := List.mem_append.mp member
    · exact none later member
    · exact List.mem_singleton.mp isLast ▸ notCancel

theorem Adds.refl (s : StreamServer) : s.Adds s := .of_same rfl rfl rfl rfl rfl

theorem goesOn_postBind (s : StreamServer) : (s.post .bind).GoesOn :=
  .inl (.posted (survives_concat s.posts rfl))

theorem goesOn_retry (s : StreamServer) {job : StreamServerJob}
    (retries : job = .bindFailed ∨ job = .closed) : (s.enqueue job).GoesOn := by
  have member : job ∈ s.jobs ++ [job] := List.mem_append_right _ (List.mem_singleton.mpr rfl)
  obtain rfl | rfl := retries
  · exact .inl (.queued (.inl member))
  · exact .inl (.queued (.inr member))

/-! ## The io thread -/

section Post

variable {post : ServerPost} {rest : List ServerPost}

/-- Unless the post that is first binds, its removal breaks no promise. -/
theorem Promised.popPost (promised : s.Promised) (queue : s.posts = post :: rest) :
    (post = .bind ∧ ∀ later ∈ rest, ¬later = .stop) ∨ Promised { s with posts := rest } := by
  cases promised with
  | posted binds =>
      rw [queue] at binds
      exact binds.of_cons.imp_right .posted
  | queued retries => exact .inr (.queued retries)
  | debounces debounces => exact .inr (.debounces debounces)
  | armed isArmed stays => exact .inr (.armed isArmed stays)

theorem GoesOn.popPost (goesOn : s.GoesOn) (queue : s.posts = post :: rest)
    (notBind : ¬post = .bind) : GoesOn { s with posts := rest } := by
  refine goesOn.imp (fun promised => ?_) fun ⟨isBound, noStop⟩ => ⟨isBound, ?_⟩
  · exact (promised.popPost queue).resolve_left fun own => notBind own.1
  · rw [queue] at noStop
    exact fun later member => noStop later (List.mem_cons_of_mem _ member)

/-- A `stop` takes the acceptor away, but not what has been promised after it. -/
theorem GoesOn.stop (goesOn : s.GoesOn) (queue : s.posts = .stop :: rest) :
    Promised { s with posts := rest } := by
  obtain promised | ⟨-, noStop⟩ := goesOn
  · exact (promised.popPost queue).resolve_left fun own => by cases own.1
  · rw [queue] at noStop
    exact absurd rfl (noStop .stop List.mem_cons_self)

/-- After a bind that does not fail the server has an acceptor. -/
theorem GoesOn.bound (goesOn : s.GoesOn) (queue : s.posts = .bind :: rest) :
    GoesOn { s with posts := rest, acceptor := true } := by
  obtain promised | ⟨-, noStop⟩ := goesOn
  · obtain ⟨-, noStop⟩ | promised := promised.popPost queue
    · exact .inr ⟨rfl, noStop⟩
    · exact .inl (promised.of_same rfl rfl rfl rfl)
  · rw [queue] at noStop
    exact .inr ⟨rfl, fun later member => noStop later (List.mem_cons_of_mem _ member)⟩

/-- The io thread does the post that is first. -/
theorem GoesOn.run (goesOn : s.GoesOn) (queue : s.posts = post :: rest) (binds : Bool)
    (isStarted : s.stopped = false) : ({ s with posts := rest }.run binds post).GoesOn := by
  cases post with
  | stop => exact .inl ((goesOn.stop queue).of_same rfl rfl rfl rfl)
  | bind =>
      have bound := goesOn.bound queue
      unfold StreamServer.run StreamServer.bind
      dsimp only
      split
      · rename_i isBusy
        have hasAcceptor : s.acceptor = true := by simpa [isStarted] using isBusy
        have same : { s with posts := rest } = { s with posts := rest, acceptor := true } := by
          rw [← hasAcceptor]
        exact same ▸ bound
      split
      · exact bound.adds ((Adds.refl _).enqueue fun isCancel => by cases isCancel)
      · exact goesOn_retry _ (.inl rfl)
  | healthCheck =>
      have popped := goesOn.popPost queue fun isBind => by cases isBind
      unfold StreamServer.run StreamServer.healthCheck
      dsimp only
      split
      · exact popped
      · exact popped.adds (.of_same rfl rfl rfl rfl rfl)
  | closePeer id =>
      exact (goesOn.popPost queue fun isBind => by cases isBind).adds
        (.of_same rfl rfl rfl rfl rfl)
  | erasePeer id =>
      exact (goesOn.popPost queue fun isBind => by cases isBind).adds
        (.of_same rfl rfl rfl rfl rfl)

end Post

theorem GoesOn.accept (goesOn : s.GoesOn) (succeeded : Bool) : (s.accept succeeded).GoesOn := by
  unfold StreamServer.accept
  split
  · exact goesOn
  split
  · exact goesOn.adds (.of_same rfl rfl rfl rfl rfl)
  · exact goesOn_retry _ (.inr rfl)

theorem GoesOn.healthCheckFails (goesOn : s.GoesOn) : s.healthCheckFails.GoesOn := by
  unfold StreamServer.healthCheckFails
  split
  · exact goesOn_retry _ (.inr rfl)
  · exact goesOn

/-! ## The dispatcher -/

section Job

variable {job : StreamServerJob} {rest : List StreamServerJob}

/-- A job may be taken from the queue, if it is neither a retry nor the debounce. -/
theorem GoesOn.popJob (goesOn : s.GoesOn) (queue : s.jobs = job :: rest)
    (retriesNot : ¬(job = .bindFailed ∨ job = .closed)) (notDebounce : ¬job = .debounce) :
    GoesOn { s with jobs := rest } := by
  refine goesOn.imp_left fun promised => ?_
  cases promised with
  | posted binds => exact .posted binds
  | queued retries =>
      rw [queue, List.mem_cons, List.mem_cons] at retries
      refine .queued (retries.imp (·.resolve_left fun own => ?_) (·.resolve_left fun own => ?_))
      · exact retriesNot (.inl own.symm)
      · exact retriesNot (.inr own.symm)
  | debounces debounces =>
      rw [queue] at debounces
      exact .debounces (debounces.of_cons.resolve_left fun own => notDebounce own.1)
  | armed isArmed stays =>
      rw [queue] at stays
      exact .armed isArmed fun later member => stays later (List.mem_cons_of_mem _ member)

/-- `cancel` takes the armed call away, which is not promised while it is queued. -/
theorem GoesOn.cancel (goesOn : s.GoesOn) (queue : s.jobs = .cancel :: rest) :
    GoesOn { s with jobs := rest, generation := s.generation + 1 } := by
  refine goesOn.imp_left fun promised => ?_
  cases promised with
  | posted binds => exact .posted binds
  | queued retries =>
      rw [queue, List.mem_cons, List.mem_cons] at retries
      refine .queued (retries.imp (·.resolve_left fun own => ?_) (·.resolve_left fun own => ?_))
      · cases own
      · cases own
  | debounces debounces =>
      rw [queue] at debounces
      exact .debounces (debounces.of_cons.resolve_left fun own => by cases own.1)
  | armed isArmed stays =>
      rw [queue] at stays
      exact absurd rfl (stays .cancel List.mem_cons_self)

/-- The debounce arms a call of the retry task with the new generation. -/
theorem GoesOn.debounce (goesOn : s.GoesOn) (queue : s.jobs = .debounce :: rest) :
    GoesOn { s with
      jobs := rest, generation := s.generation + 1, calls := s.calls ++ [s.generation + 1] } := by
  have arms : s.generation + 1 ∈ s.calls ++ [s.generation + 1] :=
    List.mem_append_right _ (List.mem_singleton.mpr rfl)
  refine goesOn.imp_left fun promised => ?_
  cases promised with
  | posted binds => exact .posted binds
  | queued retries =>
      rw [queue, List.mem_cons, List.mem_cons] at retries
      refine .queued (retries.imp (·.resolve_left fun own => ?_) (·.resolve_left fun own => ?_))
      · cases own
      · cases own
  | debounces debounces =>
      rw [queue] at debounces
      obtain ⟨-, noCancel⟩ | later := debounces.of_cons
      · exact .armed arms noCancel
      · exact .debounces later
  | armed isArmed stays =>
      rw [queue] at stays
      exact .armed arms fun later member => stays later (List.mem_cons_of_mem _ member)

theorem stopped_scheduleBindRetry (s : StreamServer) :
    s.scheduleBindRetry.stopped = s.stopped := by
  unfold StreamServer.scheduleBindRetry
  split
  · rfl
  · rfl

theorem goesOn_scheduleBindRetry (isStarted : s.stopped = false) :
    s.scheduleBindRetry.GoesOn := by
  unfold StreamServer.scheduleBindRetry
  rw [isStarted]
  exact .inl (.debounces (survives_concat s.jobs rfl))

/-- What a peer signals adds at most a post that closes it. -/
theorem adds_handlePeerSignal (verifyPeer : Nat → Bool) (s : StreamServer) (id : Nat)
    (signal : PeerSignal) :
    s.Adds (s.handlePeerSignal verifyPeer id signal) ∧
      (s.handlePeerSignal verifyPeer id signal).stopped = s.stopped := by
  have signalled (signal : ServerSignal) (exposed : List Nat) :
      s.Adds (StreamServer.signal { s with exposedPeerIds := exposed } signal) :=
    .of_same rfl rfl rfl rfl rfl
  unfold StreamServer.handlePeerSignal
  cases signal with
  | ready =>
      dsimp only
      split
      · exact ⟨signalled _ _, rfl⟩
      · exact ⟨(Adds.refl s).post fun isStop => (by cases isStop), rfl⟩
  | received data =>
      dsimp only
      split
      · exact ⟨signalled _ s.exposedPeerIds, rfl⟩
      · exact ⟨.refl s, rfl⟩
  | requestReceived requestId data =>
      dsimp only
      split
      · exact ⟨signalled _ s.exposedPeerIds, rfl⟩
      · exact ⟨.refl s, rfl⟩
  | errorOccurred error =>
      dsimp only
      split
      · exact ⟨signalled _ s.exposedPeerIds, rfl⟩
      · exact ⟨.refl s, rfl⟩
  | closed =>
      dsimp only
      split
      · exact ⟨signalled _ _, rfl⟩
      · exact ⟨.refl s, rfl⟩
  | responseReceived requestId data => exact ⟨.refl s, rfl⟩
  | healthCheckResponseReceived => exact ⟨.refl s, rfl⟩

/-- The dispatcher does the job that is first, which may stop or start the server. -/
theorem goesOn_perform (goesOn : s.stopped = false → s.GoesOn) (queue : s.jobs = job :: rest)
    (isStarted : ({ s with jobs := rest }.perform verifyPeer job).stopped = false) :
    ({ s with jobs := rest }.perform verifyPeer job).GoesOn := by
  cases job with
  | start => exact goesOn_postBind _
  | stop => cases isStarted
  | debounce => exact (goesOn isStarted).debounce queue
  | cancel => exact (goesOn isStarted).cancel queue
  | bound =>
      have popped := (goesOn isStarted).popJob queue
        (fun retries => retries.elim (fun own => by cases own) fun own => by cases own)
        fun own => by cases own
      exact popped.adds (.of_same rfl rfl rfl rfl rfl)
  | bindFailed =>
      exact goesOn_scheduleBindRetry ((stopped_scheduleBindRetry _).symm.trans isStarted)
  | closed =>
      exact goesOn_scheduleBindRetry ((stopped_scheduleBindRetry _).symm.trans isStarted)
  | peer id signal =>
      obtain ⟨adds, stopped⟩ :=
        adds_handlePeerSignal verifyPeer { s with jobs := rest } id signal
      have popped := (goesOn (stopped.symm.trans isStarted)).popJob queue
        (fun retries => retries.elim (fun own => by cases own) fun own => by cases own)
        fun own => by cases own
      exact popped.adds adds

end Job

/-! ## The runs -/

/-- A signal of a peer adds jobs only, and does not stop the server. -/
theorem adds_peerSignals (s : StreamServer) (id : Nat) (signal : PeerSignal) :
    s.Adds (s.peerSignals id signal) ∧ (s.peerSignals id signal).stopped = s.stopped := by
  unfold StreamServer.peerSignals
  split
  · exact ⟨.refl s, rfl⟩
  · split
    · split
      · exact ⟨.refl s, rfl⟩
      · have readied : s.Adds { s with readyPeerIds := id :: s.readyPeerIds } :=
          .of_same rfl rfl rfl rfl rfl
        exact ⟨readied.enqueue fun isCancel => (by cases isCancel), rfl⟩
    · have posted : s.Adds (s.post (.erasePeer id)) :=
        (Adds.refl s).post fun isStop => by cases isStop
      exact ⟨posted.enqueue fun isCancel => (by cases isCancel), rfl⟩
    · exact ⟨(Adds.refl s).enqueue fun isCancel => (by cases isCancel), rfl⟩

/-! Only the jobs `start` and `stop` start or stop the server. -/

/-- What is posted to the io thread does not stop the server. -/
theorem stopped_run (s : StreamServer) (binds : Bool) (post : ServerPost) :
    (s.run binds post).stopped = s.stopped := by
  cases post with
  | stop => rfl
  | bind =>
      unfold StreamServer.run StreamServer.bind
      dsimp only
      split
      · rfl
      split
      · rfl
      · rfl
  | healthCheck =>
      unfold StreamServer.run StreamServer.healthCheck
      dsimp only
      split
      · rfl
      · rfl
  | closePeer id => rfl
  | erasePeer id => rfl

theorem stopped_accept (s : StreamServer) (succeeded : Bool) :
    (s.accept succeeded).stopped = s.stopped := by
  unfold StreamServer.accept
  split
  · rfl
  split
  · rfl
  · rfl

theorem stopped_healthCheckFails (s : StreamServer) : s.healthCheckFails.stopped = s.stopped := by
  unfold StreamServer.healthCheckFails
  split
  · rfl
  · rfl

theorem stopped_bindRetry (s : StreamServer) (generation : Nat) :
    (s.step verifyPeer (.bindRetry generation)).stopped = s.stopped := by
  unfold StreamServer.step
  dsimp only
  split
  · split
    · rfl
    · rfl
  · rfl

/-- The retry task lets the server go on: it binds, or a later call is armed. -/
theorem GoesOn.bindRetry (goesOn : s.GoesOn) (isStarted : s.stopped = false) (generation : Nat) :
    (s.step verifyPeer (.bindRetry generation)).GoesOn := by
  unfold StreamServer.step
  dsimp only
  split
  · split
    · exact goesOn_postBind _
    · rename_i isOther
      have other : s.generation ≠ generation := fun same => isOther ⟨same, isStarted⟩
      refine goesOn.imp_left fun promised => ?_
      cases promised with
      | posted binds => exact .posted binds
      | queued retries => exact .queued retries
      | debounces debounces => exact .debounces debounces
      | armed isArmed stays => exact .armed ((List.mem_erase_of_ne other).mpr isArmed) stays
  · exact goesOn

/-- Every step lets a server that is not stopped go on. -/
theorem goesOn_step (goesOn : s.stopped = false → s.GoesOn) (action : StreamServerAction)
    (isStarted : (s.step verifyPeer action).stopped = false) :
    (s.step verifyPeer action).GoesOn := by
  cases action with
  | asyncStart =>
      exact (goesOn isStarted).adds ((Adds.refl s).enqueue fun isCancel => by cases isCancel)
  | asyncStop =>
      exact (goesOn isStarted).adds ((Adds.refl s).enqueue fun isCancel => by cases isCancel)
  | asyncClosePeer id =>
      exact (goesOn isStarted).adds ((Adds.refl s).post fun isStop => by cases isStop)
  | work =>
      unfold StreamServer.step at isStarted ⊢
      cases queue : s.jobs with
      | nil =>
          simp only [queue] at isStarted ⊢
          exact goesOn isStarted
      | cons job rest =>
          simp only [queue] at isStarted ⊢
          exact goesOn_perform goesOn queue isStarted
  | bindRetry generation =>
      have wasStarted := (stopped_bindRetry s generation).symm.trans isStarted
      exact (goesOn wasStarted).bindRetry wasStarted generation
  | healthCheckTimer =>
      exact (goesOn isStarted).adds ((Adds.refl s).post fun isStop => by cases isStop)
  | runPost binds =>
      unfold StreamServer.step at isStarted ⊢
      cases queue : s.posts with
      | nil =>
          simp only [queue] at isStarted ⊢
          exact goesOn isStarted
      | cons post rest =>
          simp only [queue] at isStarted ⊢
          have wasStarted := (stopped_run _ binds post).symm.trans isStarted
          exact (goesOn wasStarted).run queue binds wasStarted
  | accept succeeded =>
      exact (goesOn ((stopped_accept s succeeded).symm.trans isStarted)).accept succeeded
  | healthCheckSucceeds => exact (goesOn isStarted).adds (.of_same rfl rfl rfl rfl rfl)
  | healthCheckFails =>
      exact (goesOn ((stopped_healthCheckFails s).symm.trans isStarted)).healthCheckFails
  | peerSignals id signal =>
      obtain ⟨adds, stopped⟩ := adds_peerSignals s id signal
      exact (goesOn (stopped.symm.trans isStarted)).adds adds

theorem goesOn_foldl (verifyPeer : Nat → Bool) (actions : List StreamServerAction) :
    (actions.foldl (StreamServer.step verifyPeer) initial).stopped = false →
      (actions.foldl (StreamServer.step verifyPeer) initial).GoesOn := by
  induction actions using List.reverseRecOn with
  | nil => exact fun isStarted => by cases isStarted
  | append_singleton actions action ih =>
      rw [List.foldl_append]
      exact goesOn_step ih action

/-- A server with nothing to do and no acceptor has its retry armed with the generation it has now.
-/
theorem GoesOn.armed_of_idle (goesOn : s.GoesOn) (noPost : s.posts = []) (noJob : s.jobs = [])
    (noAcceptor : s.acceptor = false) : s.generation ∈ s.calls := by
  obtain promised | ⟨isBound, -⟩ := goesOn
  · cases promised with
    | posted binds =>
        rw [noPost] at binds
        exact absurd binds not_survives_nil
    | queued retries =>
        rw [noJob] at retries
        obtain member | member := retries
        · cases member
        · cases member
    | debounces debounces =>
        rw [noJob] at debounces
        exact absurd debounces not_survives_nil
    | armed isArmed stays => exact isArmed
  · rw [noAcceptor] at isBound
    cases isBound

/-- When the armed call is due and the socket can be bound, the server has an acceptor. -/
theorem binds_of_armed (isStarted : s.stopped = false) (noPost : s.posts = [])
    (noAcceptor : s.acceptor = false) (isArmed : s.generation ∈ s.calls) :
    ((s.step verifyPeer (.bindRetry s.generation)).step verifyPeer (.runPost true)).acceptor =
      true := by
  have due : s.step verifyPeer (.bindRetry s.generation) =
      { s with calls := s.calls.erase s.generation }.post .bind := by
    unfold StreamServer.step
    dsimp only
    rw [if_pos isArmed, if_pos ⟨rfl, isStarted⟩]
  have isPosted : ({ s with calls := s.calls.erase s.generation }.post .bind).posts =
      [.bind] := by
    change s.posts ++ [.bind] = _
    rw [noPost, List.nil_append]
  rw [due]
  unfold StreamServer.step
  simp only [isPosted]
  unfold StreamServer.run StreamServer.bind StreamServer.post StreamServer.enqueue
  simp [isStarted, noAcceptor]

/-! ## The generations and the numbers of the peers -/

/-- A step accepts one peer at most and counts one request for `bind_retry_task_` at most. -/
theorem counters_step (verifyPeer : Nat → Bool) (s : StreamServer) (action : StreamServerAction) :
    (s.step verifyPeer action).generation ≤ s.generation + 1 ∧
      (s.step verifyPeer action).nextPeerId ≤ s.nextPeerId + 1 := by
  cases action with
  | work =>
      unfold step
      cases s.jobs with
      | nil => exact ⟨Nat.le_succ _, Nat.le_succ _⟩
      | cons job rest =>
          cases job with
          | peer id signal =>
              unfold perform handlePeerSignal
              cases signal <;> grind [StreamServer.signal, post]
          | _ =>
              unfold perform
              grind [StreamServer.signal, post, enqueue, scheduleBindRetry]
  | runPost binds =>
      unfold step
      cases s.posts with
      | nil => exact ⟨Nat.le_succ _, Nat.le_succ _⟩
      | cons post rest =>
          cases post <;> grind [run, bind, healthCheck, closeAcceptor, enqueue, closePeer]
  | peerSignals id signal =>
      unfold step peerSignals
      cases signal <;> grind [post, enqueue]
  | _ =>
      unfold step
      grind [post, enqueue, accept, closeAcceptor, healthCheckFails]

/-- In a run of fewer than 2^64 steps neither the generations nor the numbers of the peers wrap
around. -/
theorem counters_le (verifyPeer : Nat → Bool) (actions : List StreamServerAction) :
    let s := actions.foldl (step verifyPeer) initial
    s.generation ≤ actions.length ∧ s.nextPeerId ≤ actions.length := by
  induction actions using List.reverseRecOn with
  | nil => exact ⟨le_rfl, le_rfl⟩
  | append_singleton actions action ih =>
      rw [List.foldl_append, List.length_append]
      obtain ⟨generation, nextPeerId⟩ :=
        counters_step verifyPeer (actions.foldl (step verifyPeer) initial) action
      exact ⟨generation.trans (Nat.succ_le_succ ih.1), nextPeerId.trans (Nat.succ_le_succ ih.2)⟩

/-! ## The runs of a started server -/

/-- In every run, a server that is not stopped goes on: when both threads have nothing to do and it
has no acceptor, `bind_retry_task_` is armed, and its call makes it bind its socket. -/
theorem binds_again (verifyPeer : Nat → Bool) (actions : List StreamServerAction) :
    let s := actions.foldl (StreamServer.step verifyPeer) initial
    (s.stopped = false → s.GoesOn) ∧
      (s.stopped = false → s.posts = [] → s.jobs = [] → s.acceptor = false →
        s.generation ∈ s.calls ∧
          ((s.step verifyPeer (.bindRetry s.generation)).step verifyPeer
            (.runPost true)).acceptor = true) := by
  intro s
  have goesOn : s.stopped = false → s.GoesOn := goesOn_foldl verifyPeer actions
  refine ⟨goesOn, fun isStarted noPost noJob noAcceptor => ?_⟩
  have isArmed := (goesOn isStarted).armed_of_idle noPost noJob noAcceptor
  exact ⟨isArmed, binds_of_armed isStarted noPost noAcceptor isArmed⟩

end StreamServer

end Karabiner

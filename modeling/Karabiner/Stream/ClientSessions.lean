import Karabiner.Foundation.History
import Karabiner.Stream.ClientRequests

/-! # What a client signals

The signals of a client come in sessions: a connection is announced at most once and closed at most
once, never announced after it has been closed, and whatever is received over a connection is
signalled while it is the connection announced last and the client has signalled no end since
(`StreamClient.ordered_signals`). `close_peer` alone signals nothing, so a session may end without a
signal when the client stops or invalidates its connection.
-/

namespace Karabiner

open Foundation.History

/-- The connection that a signal is about. -/
def ClientSignal.about : ClientSignal → Option Nat
  | connected connection | closed connection | errorOccurred connection _ => some connection
  | received connection _ | requestReceived connection _ _ => some connection
  | peerVerificationFailed | connectFailed => none

/-- The connection that is announced and not closed, when a signal has been heard. -/
def ClientSignal.session (before : Option Nat) : ClientSignal → Option Nat
  | connected connection => some connection
  | peerVerificationFailed | connectFailed | closed _ => none
  | received _ _ | requestReceived _ _ _ | errorOccurred _ _ => before

/-- The connection that a post of the io thread is about. -/
def ClientPost.about : ClientPost → Option Nat
  | announce connection | peerSignal connection _ => some connection
  | _ => none

/-- The connection that a post announces. -/
def ClientPost.announces : ClientPost → Option Nat
  | announce connection => some connection
  | _ => none

/-- What a job signals. -/
def StreamClientJob.signalled : StreamClientJob → Option ClientSignal
  | signal signalled => some signalled
  | _ => none

namespace StreamClient

variable {c next : StreamClient}

/-- The connection that is announced and not closed, when signals have been heard. -/
def session (signals : List ClientSignal) : Option Nat := signals.foldl ClientSignal.session none

/-- The signals that may follow some others. -/
def Follows (before : List ClientSignal) : ClientSignal → Prop
  | .connected connection => .connected connection ∉ before ∧ .closed connection ∉ before
  | .closed connection => .closed connection ∉ before
  | .received connection _ | .requestReceived connection _ _ | .errorOccurred connection _ =>
      session before = some connection
  | .peerVerificationFailed | .connectFailed => True

theorem session_concat (signals : List ClientSignal) (signal : ClientSignal) :
    session (signals ++ [signal]) = signal.session (session signals) := by
  unfold session
  rw [List.foldl_append]
  rfl

/-- What has been signalled, and what the jobs are to signal. -/
def told (c : StreamClient) : List ClientSignal :=
  c.signals ++ c.jobs.filterMap StreamClientJob.signalled

/-- A connection is announced before its peer signals anything. -/
def AnnouncedFirst (connection : Nat) (posts : List ClientPost) : Prop :=
  ∃ before after, posts = before ++ .announce connection :: after ∧
    ∀ signal, ClientPost.peerSignal connection signal ∉ before

theorem AnnouncedFirst.append {connection : Nat} {posts : List ClientPost}
    (announced : AnnouncedFirst connection posts) (more : List ClientPost) :
    AnnouncedFirst connection (posts ++ more) := by
  obtain ⟨before, after, rfl, silent⟩ := announced
  exact ⟨before, after ++ more, by simp, silent⟩

/-- The first post announces the connection, or it is no signal of it and the others announce it
before. -/
theorem AnnouncedFirst.of_cons {connection : Nat} {post : ClientPost} {rest : List ClientPost}
    (announced : AnnouncedFirst connection (post :: rest)) :
    post = .announce connection ∨
      (∀ signal, post ≠ .peerSignal connection signal) ∧ AnnouncedFirst connection rest := by
  obtain ⟨before, after, same, silent⟩ := announced
  cases before with
  | nil => exact .inl (List.cons.inj same).1
  | cons first before =>
      obtain ⟨rfl, isRest⟩ := List.cons.inj same
      exact .inr ⟨fun signal isFirst => silent signal (isFirst ▸ List.mem_cons_self),
        before, after, isRest, fun signal member => silent signal (List.mem_cons_of_mem _ member)⟩

/-- The connection of the peer is announced, or going to be announced first. -/
def Announced (c : StreamClient) : Prop :=
  ∀ connection, c.peer = some connection →
    session c.told = some connection ∨ AnnouncedFirst connection c.posts

/-- The invariant of the signals, apart from `Announced`. -/
structure Sessions (c : StreamClient) : Prop where
  ordered : Admitted Follows c.told
  notClosed : ∀ connection, c.peer = some connection → .closed connection ∉ c.told
  once : (c.posts.filterMap ClientPost.announces).Nodup
  unannounced : ∀ connection, ClientPost.announce connection ∈ c.posts →
    .connected connection ∉ c.told
  peers : ∀ connection, c.peer = some connection → connection ∈ c.peers
  posts : ∀ post ∈ c.posts, ∀ connection, post.about = some connection → connection ∈ c.peers
  told : ∀ signal ∈ c.told, ∀ connection, signal.about = some connection → connection ∈ c.peers
  numbers : ∀ connection ∈ c.peers, connection < c.sockets
  connecting : ∀ socket, c.connectingSocket = some socket → socket < c.sockets ∧ socket ∉ c.peers

theorem sessions_initial (invalidate : Bool) : (initial invalidate).Sessions where
  ordered := admitted_nil
  notClosed _ isPeer := by cases isPeer
  once := List.nodup_nil
  unannounced _ member := by cases member
  peers _ isPeer := by cases isPeer
  posts _ member := by cases member
  told _ member := by cases member
  numbers _ member := by cases member
  connecting _ isConnecting := by cases isConnecting

/-! ## What an operation keeps -/

/-- Nothing is signalled or posted, and the peer and the connecting socket stay or are given up. -/
structure Quiet (c next : StreamClient) : Prop where
  told : next.told = c.told
  posts : next.posts = c.posts
  peers : next.peers = c.peers
  sockets : next.sockets = c.sockets
  peer : ∀ connection, next.peer = some connection → c.peer = some connection
  connecting : ∀ socket, next.connectingSocket = some socket → c.connectingSocket = some socket

/-- What is quiet tells no one anything, so that the sessions are kept. -/
theorem Sessions.quiet (sessions : c.Sessions) (quiet : c.Quiet next) : next.Sessions := by
  obtain ⟨told, posts, peers, sockets, peer, connecting⟩ := quiet
  refine ⟨?_, fun connection isPeer => ?_, ?_, ?_, fun connection isPeer => ?_, ?_, ?_, ?_,
    fun socket isConnecting => ?_⟩
  · rw [told]
    exact sessions.ordered
  · rw [told]
    exact sessions.notClosed connection (peer connection isPeer)
  · rw [posts]
    exact sessions.once
  · rw [posts, told]
    exact sessions.unannounced
  · rw [peers]
    exact sessions.peers connection (peer connection isPeer)
  · rw [posts, peers]
    exact sessions.posts
  · rw [told, peers]
    exact sessions.told
  · rw [peers, sockets]
    exact sessions.numbers
  · rw [peers, sockets]
    exact sessions.connecting socket (connecting socket isConnecting)

theorem Announced.quiet (announced : c.Announced) (quiet : c.Quiet next) : next.Announced := by
  intro connection isPeer
  rw [quiet.told, quiet.posts]
  exact announced connection (quiet.peer connection isPeer)

theorem Quiet.trans {last : StreamClient} (first : c.Quiet next) (second : next.Quiet last) :
    c.Quiet last where
  told := second.told.trans first.told
  posts := second.posts.trans first.posts
  peers := second.peers.trans first.peers
  sockets := second.sockets.trans first.sockets
  peer connection isPeer := first.peer connection (second.peer connection isPeer)
  connecting socket isConnecting := first.connecting socket (second.connecting socket isConnecting)

theorem told_of_jobs {more : List StreamClientJob} (signals : next.signals = c.signals)
    (jobs : next.jobs = c.jobs ++ more)
    (silent : more.filterMap StreamClientJob.signalled = []) : next.told = c.told := by
  unfold StreamClient.told
  rw [signals, jobs, List.filterMap_append, silent, List.append_nil]

theorem quiet_enqueue (c : StreamClient) {job : StreamClientJob} (silent : job.signalled = none) :
    c.Quiet (c.enqueue job) :=
  ⟨told_of_jobs rfl rfl (List.filterMap_cons_none silent), rfl, rfl, rfl, fun _ isPeer => isPeer,
    fun _ isConnecting => isConnecting⟩

theorem quiet_completeWhere (c : StreamClient) (isOver : PendingRequest → Bool)
    (result : RequestResult) : c.Quiet (c.completeWhere isOver result) := by
  refine ⟨told_of_jobs rfl rfl ?_, rfl, rfl, rfl, fun _ isPeer => isPeer,
    fun _ isConnecting => isConnecting⟩
  rw [List.filterMap_map]
  exact List.filterMap_eq_nil_iff.mpr fun _ _ => rfl

theorem quiet_closePeer (c : StreamClient) (error : RequestError) :
    c.Quiet (c.closePeer error) := by
  unfold StreamClient.closePeer
  split
  · have quiet := quiet_completeWhere c (fun _ => true) (.error error)
    exact ⟨quiet.told, rfl, rfl, rfl, (fun _ isPeer => by cases isPeer), quiet.connecting⟩
  · exact ⟨rfl, rfl, rfl, rfl, fun _ isPeer => isPeer, fun _ isConnecting => isConnecting⟩

theorem quiet_closeConnectingSocket (c : StreamClient) : c.Quiet c.closeConnectingSocket :=
  ⟨rfl, rfl, rfl, rfl, fun _ isPeer => isPeer, fun _ isConnecting => by cases isConnecting⟩

theorem peer_closePeer (c : StreamClient) (error : RequestError) :
    (c.closePeer error).peer = none := by
  unfold StreamClient.closePeer
  split
  · rfl
  · rename_i noPeer
    exact Option.not_isSome_iff_eq_none.mp noPeer

theorem told_tell (c : StreamClient) (signal : ClientSignal) :
    (c.enqueue (.signal signal)).told = c.told ++ [signal] := by
  unfold StreamClient.told StreamClient.enqueue
  dsimp only
  rw [List.filterMap_append, ← List.append_assoc]
  rfl

/-- A signal is queued that may follow. -/
theorem Sessions.tell (sessions : c.Sessions) {signal : ClientSignal}
    (follows : Follows c.told signal)
    (notClosed : ∀ connection, c.peer = some connection → signal ≠ .closed connection)
    (unannounced : ∀ connection, signal = .connected connection →
      ClientPost.announce connection ∉ c.posts)
    (known : ∀ connection, signal.about = some connection → connection ∈ c.peers) :
    (c.enqueue (.signal signal)).Sessions := by
  refine ⟨?_, fun connection isPeer => ?_, sessions.once, fun connection isPosted => ?_,
    sessions.peers, sessions.posts, fun other member => ?_, sessions.numbers, sessions.connecting⟩
  · rw [told_tell]
    exact sessions.ordered.concat follows
  · rw [told_tell]
    refine fun member => (List.mem_append.mp member).elim (sessions.notClosed connection isPeer)
      fun isNew => ?_
    exact notClosed connection isPeer (List.mem_singleton.mp isNew).symm
  · rw [told_tell]
    refine fun member => (List.mem_append.mp member).elim (sessions.unannounced connection isPosted)
      fun isNew => ?_
    exact unannounced connection (List.mem_singleton.mp isNew).symm isPosted
  · rw [told_tell] at member
    obtain member | isNew := List.mem_append.mp member
    · exact sessions.told other member
    · rw [List.mem_singleton.mp isNew]
      exact known

/-- The end of a session is signalled when the peer has been given up. -/
theorem Sessions.tellEnd (sessions : c.Sessions) (noPeer : c.peer = none) {signal : ClientSignal}
    (follows : Follows c.told signal) (notConnected : ∀ connection, signal ≠ .connected connection)
    (known : ∀ connection, signal.about = some connection → connection ∈ c.peers) :
    (c.enqueue (.signal signal)).Sessions := by
  refine sessions.tell follows (fun connection isPeer => ?_)
    (fun connection isConnected => absurd isConnected (notConnected connection)) known
  rw [noPeer] at isPeer
  cases isPeer

theorem announced_of_noPeer (noPeer : c.peer = none) : c.Announced := by
  intro connection isPeer
  rw [noPeer] at isPeer
  cases isPeer

/-- The invariant of the signals. -/
def Orderly (c : StreamClient) : Prop := c.Sessions ∧ c.Announced

theorem Orderly.quiet (orderly : c.Orderly) (quiet : c.Quiet next) : next.Orderly :=
  ⟨orderly.1.quiet quiet, orderly.2.quiet quiet⟩

/-- A post that announces nothing keeps the order, if it is about a connection that is known. -/
theorem Orderly.post (orderly : c.Orderly) {post : ClientPost} (announces : post.announces = none)
    (known : ∀ connection, post.about = some connection → connection ∈ c.peers) :
    (c.post post).Orderly := by
  obtain ⟨sessions, announced⟩ := orderly
  refine ⟨⟨sessions.ordered, sessions.notClosed, ?_, fun connection isPosted => ?_, sessions.peers,
    fun other member => ?_, sessions.told, sessions.numbers, sessions.connecting⟩,
    fun connection isPeer => (announced connection isPeer).imp_right (·.append [post])⟩
  · change ((c.posts ++ [post]).filterMap ClientPost.announces).Nodup
    rw [List.filterMap_append, List.filterMap_cons_none announces, List.filterMap_nil,
      List.append_nil]
    exact sessions.once
  · obtain member | isNew := List.mem_append.mp isPosted
    · exact sessions.unannounced connection member
    · rw [← List.mem_singleton.mp isNew] at announces
      cases announces
  · obtain member | isNew := List.mem_append.mp member
    · exact sessions.posts other member
    · rw [List.mem_singleton.mp isNew]
      exact known

theorem Orderly.postPlain (orderly : c.Orderly) {post : ClientPost}
    (announces : post.announces = none) (about : post.about = none) : (c.post post).Orderly :=
  orderly.post announces fun connection isAbout => by
    rw [about] at isAbout
    cases isAbout

/-! ## The io thread -/

section Post

variable {post : ClientPost} {rest : List ClientPost}

theorem Sessions.popPost (sessions : c.Sessions) (queue : c.posts = post :: rest) :
    Sessions { c with posts := rest } := by
  have later : rest ⊆ c.posts := fun _ member => queue ▸ List.mem_cons_of_mem _ member
  refine ⟨sessions.ordered, sessions.notClosed, ?_,
    fun connection isPosted => sessions.unannounced connection (later isPosted), sessions.peers,
    fun other member => sessions.posts other (later member), sessions.told, sessions.numbers,
    sessions.connecting⟩
  have once := sessions.once
  rw [queue] at once
  exact once.sublist ((List.sublist_cons_self post rest).filterMap _)

/-- The post that is first announces the connection of the peer or leaves its announcement. -/
theorem Announced.popPost (announced : c.Announced) (queue : c.posts = post :: rest)
    {connection : Nat} (isPeer : c.peer = some connection) :
    session c.told = some connection ∨ post = .announce connection ∨
      (∀ signal, post ≠ .peerSignal connection signal) ∧ AnnouncedFirst connection rest := by
  have first := announced connection isPeer
  rw [queue] at first
  exact first.imp_right AnnouncedFirst.of_cons

theorem Orderly.popPost (orderly : c.Orderly) (queue : c.posts = post :: rest)
    (notAnnounced : ∀ connection, c.peer = some connection → post ≠ .announce connection) :
    Orderly { c with posts := rest } := by
  refine ⟨orderly.1.popPost queue, fun connection isPeer => ?_⟩
  obtain isOpen | isAnnounce | ⟨-, later⟩ := orderly.2.popPost queue isPeer
  · exact .inl isOpen
  · exact absurd isAnnounce (notAnnounced connection isPeer)
  · exact .inr later

theorem Orderly.connect (orderly : c.Orderly) :
    Orderly { c with connectingSocket := some c.sockets, sockets := c.sockets + 1 } := by
  obtain ⟨sessions, announced⟩ := orderly
  refine ⟨⟨sessions.ordered, sessions.notClosed, sessions.once, sessions.unannounced,
    sessions.peers, sessions.posts, sessions.told,
    fun connection member => Nat.lt_succ_of_lt (sessions.numbers connection member),
    fun socket isConnecting => ?_⟩, announced⟩
  obtain rfl := Option.some.inj isConnecting
  exact ⟨Nat.lt_succ_self _, fun member => (sessions.numbers _ member).false⟩

/-- A verified socket becomes the peer, and its announcement is posted. -/
theorem Orderly.connected (orderly : c.Orderly) {socket : Nat}
    (isConnecting : c.connectingSocket = some socket) :
    Orderly ({ c.closeConnectingSocket with peer := some socket, peers := socket :: c.peers }.post
      (.announce socket)) := by
  obtain ⟨sessions, -⟩ := orderly
  obtain ⟨isNumber, isNew⟩ := sessions.connecting socket isConnecting
  refine ⟨⟨sessions.ordered, fun connection isPeer member => ?_, ?_,
    fun connection isPosted member => ?_, fun connection isPeer => ?_,
    fun other member connection isAbout => ?_,
    fun other member connection isAbout =>
      List.mem_cons_of_mem _ (sessions.told other member connection isAbout),
    fun connection member => ?_, fun other isOther => by cases isOther⟩,
    fun connection isPeer => .inr ?_⟩
  · obtain rfl := Option.some.inj isPeer
    exact isNew (sessions.told _ member _ rfl)
  · change ((c.posts ++ [ClientPost.announce socket]).filterMap ClientPost.announces).Nodup
    rw [List.filterMap_append]
    refine List.nodup_append.mpr ⟨sessions.once, List.nodup_singleton _, ?_⟩
    rintro connection isAnnounced other isOther rfl
    obtain ⟨post, isPosted, isAnnounce⟩ := List.mem_filterMap.mp isAnnounced
    obtain rfl := List.mem_singleton.mp isOther
    refine isNew (sessions.posts post isPosted _ ?_)
    cases post with
    | announce connection => exact isAnnounce
    | _ => cases isAnnounce
  · obtain isPosted | isLast := List.mem_append.mp isPosted
    · exact sessions.unannounced connection isPosted member
    · obtain rfl := ClientPost.announce.inj (List.mem_singleton.mp isLast)
      exact isNew (sessions.told _ member _ rfl)
  · obtain rfl := Option.some.inj isPeer
    exact List.mem_cons_self
  · obtain isPosted | isLast := List.mem_append.mp member
    · exact List.mem_cons_of_mem _ (sessions.posts other isPosted connection isAbout)
    · rw [List.mem_singleton.mp isLast] at isAbout
      obtain rfl := Option.some.inj isAbout
      exact List.mem_cons_self
  · obtain rfl | member := List.mem_cons.mp member
    · exact isNumber
    · exact sessions.numbers connection member
  · obtain rfl := Option.some.inj isPeer
    refine ⟨c.posts, [], rfl, fun signal isPosted => ?_⟩
    exact isNew (sessions.posts _ isPosted _ rfl)

/-- A connected socket keeps the order: it becomes the peer and is announced, or is closed. -/
theorem Orderly.handleConnectedSocket (orderly : c.Orderly)
    (fresh : c.connectingSocket.isSome → c.peer = none) (socket : Nat) (verified : Bool) :
    (c.handleConnectedSocket socket verified).Orderly := by
  unfold StreamClient.handleConnectedSocket
  split
  · exact orderly
  · rename_i isCurrent
    have isConnecting := not_not.mp isCurrent
    have noPeer : c.peer = none := fresh (by rw [isConnecting]; rfl)
    have closed := orderly.quiet (quiet_closeConnectingSocket c)
    dsimp only
    split
    · exact closed
    split
    · exact ⟨closed.1.tellEnd noPeer trivial (fun _ isConnected => by cases isConnected)
        (fun _ isAbout => by cases isAbout), announced_of_noPeer noPeer⟩
    · exact orderly.connected isConnecting

/-- The peer signals something that is handed to the owner. -/
theorem Orderly.tell (orderly : c.Orderly) {connection : Nat} (isPeer : c.peer = some connection)
    {signal : ClientSignal} (follows : Follows c.told signal)
    (notClosed : ∀ other, signal ≠ .closed other)
    (unannounced : ∀ other, signal = .connected other → ClientPost.announce other ∉ c.posts)
    (isOwn : signal.about = some connection)
    (opens : signal.session (session c.told) = some connection) :
    (c.enqueue (.signal signal)).Orderly := by
  refine ⟨orderly.1.tell follows (fun other _ => notClosed other) unannounced
    fun other isAbout => ?_, fun other isOther => .inl ?_⟩
  · rw [isOwn] at isAbout
    exact orderly.1.peers other (isPeer.trans isAbout)
  · rw [told_tell, session_concat, opens]
    exact isPeer.symm.trans isOther

/-- A signal of the peer keeps the order, if the session of an open peer has been told. -/
theorem Orderly.handlePeerSignal (orderly : c.Orderly) (connection : Nat) (signal : PeerSignal)
    (isOpen : c.peer = some connection → session c.told = some connection) :
    (c.handlePeerSignal connection signal).Orderly := by
  unfold StreamClient.handlePeerSignal
  split
  · exact orderly
  · rename_i isCurrent
    have isPeer := not_not.mp isCurrent
    have isOpen := isOpen isPeer
    cases signal with
    | ready => exact orderly
    | healthCheckResponseReceived => exact orderly
    | received data =>
        exact orderly.tell isPeer isOpen (fun _ isClosed => by cases isClosed)
          (fun _ isConnected => by cases isConnected) rfl isOpen
    | requestReceived id data =>
        exact orderly.tell isPeer isOpen (fun _ isClosed => by cases isClosed)
          (fun _ isConnected => by cases isConnected) rfl isOpen
    | errorOccurred error =>
        have quiet := quiet_completeWhere c (fun _ => true) (.error (.peer error))
        have stillOpen : session (c.completeAll (.peer error)).told = some connection :=
          quiet.told ▸ isOpen
        exact (orderly.quiet quiet).tell isPeer stillOpen (fun _ isClosed => by cases isClosed)
          (fun _ isConnected => by cases isConnected) rfl stillOpen
    | closed =>
        have quiet := quiet_completeWhere c (fun _ => true) (.error .connectionReset)
        have given : c.Quiet { c.completeAll .connectionReset with peer := none } :=
          ⟨quiet.told, rfl, rfl, rfl, (fun _ isPeer => by cases isPeer), quiet.connecting⟩
        have notClosed := orderly.1.notClosed connection isPeer
        refine ⟨(orderly.quiet given).1.tellEnd rfl ?_ (fun _ isConnected => by cases isConnected)
          fun other isAbout => ?_, announced_of_noPeer rfl⟩
        · unfold Follows
          rw [given.told]
          exact notClosed
        · obtain rfl := Option.some.inj isAbout
          exact orderly.1.peers _ isPeer
    | responseReceived id data => exact orderly.quiet (quiet_completeWhere c _ _)

/-- Announcing a connection begins its session, behind the end of the one before. -/
theorem Orderly.announce {connection : Nat} (orderly : c.Orderly)
    (queue : c.posts = .announce connection :: rest) :
    ({ c with posts := rest }.run (.announce connection)).Orderly := by
  unfold StreamClient.run
  dsimp only
  split
  · rename_i isPeer
    have first : ClientPost.announce connection ∈ c.posts := queue ▸ List.mem_cons_self
    have popped := orderly.1.popPost queue
    have isNew : Follows c.told (.connected connection) :=
      ⟨orderly.1.unannounced connection first, orderly.1.notClosed connection isPeer⟩
    refine ⟨popped.tell isNew (fun _ _ isClosed => by cases isClosed)
      (fun other isOther isPosted => ?_)
      fun other isAbout => ?_, fun other isOther => .inl ?_⟩
    · obtain rfl := ClientSignal.connected.inj isOther
      have own : c.posts.filterMap ClientPost.announces =
          connection :: rest.filterMap ClientPost.announces := by
        rw [queue]
        exact List.filterMap_cons_some rfl
      have once := orderly.1.once
      rw [own] at once
      exact (List.nodup_cons.mp once).1 (List.mem_filterMap.mpr ⟨_, isPosted, rfl⟩)
    · obtain rfl := Option.some.inj isAbout
      exact popped.peers _ isPeer
    · rw [told_tell, session_concat]
      exact isPeer.symm.trans isOther
  · rename_i isOther
    refine orderly.popPost queue fun other isPeer isAnnounce => isOther ?_
    rw [ClientPost.announce.inj isAnnounce]
    exact isPeer

/-- The io thread does the post that is first. -/
theorem Orderly.run (orderly : c.Orderly) (fresh : c.connectingSocket.isSome → c.peer = none)
    (queue : c.posts = post :: rest) : ({ c with posts := rest }.run post).Orderly := by
  cases post with
  | stop =>
      have popped := orderly.popPost queue fun _ _ isAnnounce => by cases isAnnounce
      exact popped.quiet ((quiet_closeConnectingSocket _).trans (quiet_closePeer _ _))
  | invalidate =>
      have popped := orderly.popPost queue fun _ _ isAnnounce => by cases isAnnounce
      exact popped.quiet (((quiet_closeConnectingSocket _).trans (quiet_closePeer _ _)).trans
        (quiet_enqueue _ rfl))
  | connect =>
      have popped := orderly.popPost queue fun _ _ isAnnounce => by cases isAnnounce
      unfold StreamClient.run
      dsimp only
      split
      · exact popped
      · exact popped.connect
  | handleConnectedSocket socket verified =>
      exact (orderly.popPost queue fun _ _ isAnnounce => by cases isAnnounce).handleConnectedSocket
        fresh socket verified
  | announce connection => exact orderly.announce queue
  | request callback =>
      have popped := orderly.popPost queue fun _ _ isAnnounce => by cases isAnnounce
      unfold StreamClient.run
      dsimp only
      split
      · exact popped.quiet ⟨rfl, rfl, rfl, rfl, fun _ isPeer => isPeer,
          fun _ isConnecting => isConnecting⟩
      · exact popped.quiet (quiet_enqueue _ rfl)
  | peerSignal connection signal =>
      refine (orderly.popPost queue fun _ _ isAnnounce => by cases isAnnounce).handlePeerSignal
        connection signal fun isPeer => ?_
      obtain isOpen | isAnnounce | ⟨notSignal, -⟩ := orderly.2.popPost queue isPeer
      · exact isOpen
      · cases isAnnounce
      · exact absurd rfl (notSignal signal)

end Post

/-- The end of a connection attempt keeps the order, with a socket or without. -/
theorem Orderly.connectOver (orderly : c.Orderly)
    (fresh : c.connectingSocket.isSome → c.peer = none) (socket : Nat) (succeeded : Bool) :
    (c.connectOver socket succeeded).Orderly := by
  unfold StreamClient.connectOver
  split
  · exact orderly
  · rename_i isCurrent
    have isConnecting : c.connectingSocket = some socket :=
      not_not.mp (not_or.mp isCurrent).2
    have noPeer : c.peer = none := fresh (by rw [isConnecting]; rfl)
    split
    · exact orderly.quiet (quiet_enqueue c rfl)
    · have closed := orderly.quiet (quiet_closeConnectingSocket c)
      exact ⟨closed.1.tellEnd noPeer trivial (fun _ isConnected => by cases isConnected)
        (fun _ isAbout => by cases isAbout), announced_of_noPeer noPeer⟩

/-- A request that times out keeps the order. -/
theorem Orderly.timeOut (orderly : c.Orderly) (id : UInt64) : (c.timeOut id).Orderly := by
  have completes : c.Quiet (c.complete id (.error .timedOut)) := quiet_completeWhere c _ _
  unfold StreamClient.timeOut
  dsimp only
  split
  · rename_i connection isPeer
    split
    · have closes := completes.trans
        (quiet_closePeer (c.complete id (.error .timedOut)) .connectionReset)
      have noPeer := peer_closePeer (c.complete id (.error .timedOut)) .connectionReset
      refine ⟨(orderly.quiet closes).1.tellEnd noPeer ?_ (fun _ isConnected => by cases isConnected)
        fun other isAbout => ?_, announced_of_noPeer noPeer⟩
      · unfold Follows
        rw [closes.told]
        exact orderly.1.notClosed connection isPeer
      · obtain rfl := Option.some.inj isAbout
        rw [closes.peers]
        exact orderly.1.peers _ isPeer
    · exact orderly.quiet completes
  · exact orderly.quiet completes

/-! ## The dispatcher -/

section Job

variable {job : StreamClientJob} {rest : List StreamClientJob}

/-- The components that have nothing to do with signals. -/
theorem Orderly.popJob (orderly : c.Orderly) (queue : c.jobs = job :: rest)
    (silent : job.signalled = none) (stopped : Bool) (generation : Nat) (calls : List Nat)
    (answers : List (Nat × RequestResult)) :
    Orderly { c with
      jobs := rest, stopped := stopped, generation := generation, calls := calls,
      answers := answers } := by
  refine orderly.quiet ⟨?_, rfl, rfl, rfl, fun _ isPeer => isPeer,
    fun _ isConnecting => isConnecting⟩
  unfold StreamClient.told
  rw [queue, List.filterMap_cons_none silent]

/-- The dispatcher signals what it was told to. -/
theorem Orderly.popSignal (orderly : c.Orderly) {signal : ClientSignal}
    (queue : c.jobs = .signal signal :: rest) :
    Orderly { c with jobs := rest, signals := c.signals ++ [signal] } := by
  refine orderly.quiet ⟨?_, rfl, rfl, rfl, fun _ isPeer => isPeer,
    fun _ isConnecting => isConnecting⟩
  have own : c.jobs.filterMap StreamClientJob.signalled =
      signal :: rest.filterMap StreamClientJob.signalled := by
    rw [queue]
    exact List.filterMap_cons_some rfl
  unfold StreamClient.told
  rw [own]
  exact (List.append_cons _ _ _).symm

theorem Orderly.scheduleReconnect (orderly : c.Orderly) : c.scheduleReconnect.Orderly := by
  unfold StreamClient.scheduleReconnect
  split
  · exact orderly
  · exact orderly.quiet (quiet_enqueue c rfl)

/-- The dispatcher does the job that is first. -/
theorem Orderly.perform (orderly : c.Orderly) (queue : c.jobs = job :: rest) (verified : Bool) :
    ({ c with jobs := rest }.perform verified job).Orderly := by
  cases job with
  | start => exact (orderly.popJob queue rfl false _ _ _).postPlain rfl rfl
  | stop =>
      exact ((orderly.popJob queue rfl true _ _ _).quiet (quiet_enqueue _ rfl)).postPlain rfl rfl
  | invalidate =>
      exact ((orderly.popJob queue rfl _ _ _ _).quiet (quiet_enqueue _ rfl)).postPlain rfl rfl
  | debounce => exact orderly.popJob queue rfl _ _ _ _
  | cancel => exact orderly.popJob queue rfl _ _ _ _
  | scheduleReconnect => exact (orderly.popJob queue rfl _ _ _ _).scheduleReconnect
  | verify socket => exact (orderly.popJob queue rfl _ _ _ _).postPlain rfl rfl
  | signal signal =>
      have signalled := orderly.popSignal queue
      unfold StreamClient.perform
      dsimp only
      split
      · exact signalled.scheduleReconnect
      · exact signalled
  | callback callback result => exact orderly.popJob queue rfl _ _ _ _

end Job

/-! ## The runs -/

/-- A peer may signal at any time, as its signals are told in the order of the posts. -/
theorem Orderly.peerSignals (orderly : c.Orderly) (connection : Nat) (signal : PeerSignal) :
    (c.step (.peerSignals connection signal)).Orderly := by
  unfold StreamClient.step
  dsimp only
  split
  · rename_i isKnown
    have posted : (c.post (.peerSignal connection signal)).Orderly :=
      orderly.post rfl fun other isAbout => Option.some.inj isAbout ▸ isKnown
    split
    · exact posted.quiet ⟨rfl, rfl, rfl, rfl, fun _ isPeer => isPeer,
        fun _ isConnecting => isConnecting⟩
    · exact posted
  · exact orderly

/-- Every step keeps the sessions in order. -/
theorem Orderly.step (orderly : c.Orderly) (fresh : c.connectingSocket.isSome → c.peer = none)
    (action : StreamClientAction) : (c.step action).Orderly := by
  cases action with
  | asyncStart => exact orderly.quiet (quiet_enqueue c rfl)
  | asyncStop => exact orderly.quiet (quiet_enqueue c rfl)
  | asyncInvalidateConnection => exact orderly.quiet (quiet_enqueue c rfl)
  | asyncRequest =>
      have asked : Orderly { c with asked := c.asked + 1 } := orderly.quiet
        ⟨rfl, rfl, rfl, rfl, fun _ isPeer => isPeer, fun _ isConnecting => isConnecting⟩
      exact asked.postPlain rfl rfl
  | work verified =>
      unfold StreamClient.step
      dsimp only
      split
      · rename_i job rest queue
        exact orderly.perform queue verified
      · exact orderly
  | reconnect generation =>
      have called : Orderly { c with calls := c.calls.erase generation } := orderly.quiet
        ⟨rfl, rfl, rfl, rfl, fun _ isPeer => isPeer, fun _ isConnecting => isConnecting⟩
      unfold StreamClient.step
      dsimp only
      split
      · split
        · exact called.postPlain rfl rfl
        · exact called
      · exact orderly
  | runPost =>
      unfold StreamClient.step
      dsimp only
      split
      · rename_i post rest queue
        exact orderly.run fresh queue
      · exact orderly
  | connectOver socket succeeded => exact orderly.connectOver fresh socket succeeded
  | timeOut id => exact orderly.timeOut id
  | peerSignals connection signal => exact orderly.peerSignals connection signal

theorem orderly_foldl (invalidate : Bool) (actions : List StreamClientAction) :
    (actions.foldl StreamClient.step (initial invalidate)).Orderly := by
  induction actions using List.reverseRecOn with
  | nil => exact ⟨sessions_initial invalidate, announced_of_noPeer rfl⟩
  | append_singleton actions action ih =>
      rw [List.foldl_append]
      exact ih.step (kept_foldl invalidate actions).fresh action

/-- In every run, a connection is announced once, and not after its end; its end is signalled once;
and what comes over it is signalled while it is the one announced and not ended. -/
theorem ordered_signals (invalidate : Bool) (actions : List StreamClientAction) :
    Admitted Follows (actions.foldl StreamClient.step (initial invalidate)).signals :=
  (orderly_foldl invalidate actions).1.ordered.of_append

end StreamClient

end Karabiner

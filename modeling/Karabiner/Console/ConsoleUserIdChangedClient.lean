import Karabiner.Console.ConsoleUserIdChangedReceiver

/-! # The console user server of a user

`components_manager` of the console user server tells the daemon through its
`console_user_id_changed_client` whether its user is on the console, and creates its
`core_service_daemon_client` when the daemon reports that the receiver for the user is
bound. The client keeps one request waiting for its answer; a newer value replaces the
pending one and is sent when the answer is there.
-/

namespace Karabiner

/-- `console_user_id_changed_client_state`. -/
structure ConsoleUserIdChangedClientState where
  pendingConsoleUserIdChangedRequest : Option Bool
  pendingCoreServiceDaemonServerBound : Option (Option Uid)
  consoleUserIdChangedRequestInFlight : Bool
  consoleUserIdChangedAccepted : Bool
  connectionReady : Bool
deriving DecidableEq

namespace ConsoleUserIdChangedClientState

def initial : ConsoleUserIdChangedClientState := ⟨none, none, false, false, false⟩

def connected (state : ConsoleUserIdChangedClientState) : ConsoleUserIdChangedClientState :=
  { state with
    connectionReady := true
    consoleUserIdChangedRequestInFlight := false
    consoleUserIdChangedAccepted := false
    pendingCoreServiceDaemonServerBound := none }

/-- `connection_not_ready`. -/
def connectionNotReady (state : ConsoleUserIdChangedClientState) :
    ConsoleUserIdChangedClientState :=
  { state with
    connectionReady := false
    consoleUserIdChangedRequestInFlight := false
    consoleUserIdChangedAccepted := false
    pendingCoreServiceDaemonServerBound := none }

/-- `console_user_id_changed`. -/
def consoleUserIdChanged (state : ConsoleUserIdChangedClientState) (onConsole : Bool) :
    ConsoleUserIdChangedClientState :=
  { state with
    pendingConsoleUserIdChangedRequest := some onConsole
    consoleUserIdChangedAccepted := false
    pendingCoreServiceDaemonServerBound := none }

/-- `take_console_user_id_changed_request`. -/
def takeConsoleUserIdChangedRequest (state : ConsoleUserIdChangedClientState) :
    ConsoleUserIdChangedClientState × Option Bool :=
  if state.connectionReady = false ∨ state.pendingConsoleUserIdChangedRequest = none ∨
      state.consoleUserIdChangedRequestInFlight = true then
    (state, none)
  else
    ({ state with consoleUserIdChangedRequestInFlight := true },
      state.pendingConsoleUserIdChangedRequest)

/-- `console_user_id_changed_request_succeeded`. -/
def consoleUserIdChangedRequestSucceeded (state : ConsoleUserIdChangedClientState)
    (request : Bool) : ConsoleUserIdChangedClientState :=
  let answered := { state with consoleUserIdChangedRequestInFlight := false }
  if answered.pendingConsoleUserIdChangedRequest = some request then
    { answered with
      pendingConsoleUserIdChangedRequest := none
      consoleUserIdChangedAccepted := true }
  else answered

/-- `core_service_daemon_server_bound`. -/
def coreServiceDaemonServerBound (state : ConsoleUserIdChangedClientState) (uid : Option Uid) :
    ConsoleUserIdChangedClientState :=
  { state with pendingCoreServiceDaemonServerBound := some uid }

/-- `take_core_service_daemon_server_bound_action`. -/
def takeCoreServiceDaemonServerBoundAction (state : ConsoleUserIdChangedClientState) :
    ConsoleUserIdChangedClientState × Option (Option Uid) :=
  if state.consoleUserIdChangedAccepted = false ∨
      state.pendingCoreServiceDaemonServerBound = none then
    (state, none)
  else
    ({ state with pendingCoreServiceDaemonServerBound := none },
      state.pendingCoreServiceDaemonServerBound)

end ConsoleUserIdChangedClientState

/-- The jobs of `console_user_id_changed_client`; `connectionNotReady` is the job of
`connect_failed`, `closed`, `error_occurred` and `peer_verification_failed`. -/
inductive ClientJob where
  | connected
  | connectionNotReady
  | received (uid : Option Uid)
  | requestDone (request : Bool) (ok : Bool)
  | consoleUserIdChanged (onConsole : Bool)
deriving DecidableEq

/-- The connection of `client_`: `closing` has failed and is not yet signalled as closed. -/
inductive Connection where
  | up (peerId : PeerId)
  | closing
  | down
deriving DecidableEq

/-- A signal `core_service_daemon_server_bound`, with the values the client was given last
and the daemon acknowledged last on the connection when it was sent. -/
structure BoundSignal where
  uid : Option Uid
  given : Option Bool
  acknowledged : Option Bool
deriving DecidableEq

/-- `components_manager` of a console user server with its
`console_user_id_changed_client`. `waiting` are the requests of `client_` whose callback
has not been called; a callback knows its request. No function reads the last four
fields, which record what was given, acknowledged on the connection, received and
signalled. -/
structure ConsoleUserServer where
  onConsole : Option Bool
  coreServiceDaemonClient : Bool
  state : ConsoleUserIdChangedClientState
  connection : Connection
  waiting : List Bool
  jobs : List ClientJob
  given : Option Bool
  acknowledged : Option Bool
  received : List (Option Uid)
  signalled : List BoundSignal

namespace ConsoleUserServer

def initial : ConsoleUserServer := ⟨none, false, .initial, .down, [], [], none, none, [], []⟩

def push (server : ConsoleUserServer) (job : ClientJob) : ConsoleUserServer :=
  { server with jobs := server.jobs ++ [job] }

/-- The handler of `on_console_changed`. -/
def onConsoleChanged (server : ConsoleUserServer) (onConsole : Bool) : ConsoleUserServer :=
  { server with
    onConsole := some onConsole
    coreServiceDaemonClient := false }.push (.consoleUserIdChanged onConsole)

/-- The handler of `core_service_daemon_server_bound` for the user of the server, with
`start_core_service_daemon_client`. -/
def serverBound (server : ConsoleUserServer) (user : Uid) (uid : Option Uid) :
    ConsoleUserServer :=
  if server.onConsole = some true ∧ uid = some user then
    { server with coreServiceDaemonClient := true }
  else server

/-- `notify_core_service_daemon_server_bound_if_ready`. -/
def notifyCoreServiceDaemonServerBoundIfReady (server : ConsoleUserServer) (user : Uid) :
    ConsoleUserServer :=
  match server.state.takeCoreServiceDaemonServerBoundAction with
  | (_, none) => server
  | (state, some uid) =>
      { server with
        state
        signalled := server.signalled ++ [BoundSignal.mk uid server.given server.acknowledged]
      }.serverBound user uid

/-- `async_deliver_pending_console_user_id_changed`, with the request it sends. -/
def deliverPendingConsoleUserIdChanged (server : ConsoleUserServer) :
    ConsoleUserServer × Option Bool :=
  match server.state.takeConsoleUserIdChangedRequest with
  | (_, none) => (server, none)
  | (state, some request) =>
      ({ server with state, waiting := server.waiting ++ [request] }, some request)

/-- The handler of `connected`. -/
def connected (server : ConsoleUserServer) : ConsoleUserServer :=
  match server.onConsole with
  | none => server
  | some onConsole => server.push (.consoleUserIdChanged onConsole)

/-- A job of the client, with the request it sends. -/
def perform (server : ConsoleUserServer) (user : Uid) :
    ClientJob → ConsoleUserServer × Option Bool
  | .connected =>
      { server with
        state := server.state.connected
        acknowledged := none }.connected.deliverPendingConsoleUserIdChanged
  | .connectionNotReady =>
      ({ server with state := server.state.connectionNotReady, acknowledged := none }, none)
  | .received uid =>
      ({ server with
          state := server.state.coreServiceDaemonServerBound uid
          received := server.received ++ [uid]
        }.notifyCoreServiceDaemonServerBoundIfReady user, none)
  | .requestDone _ false =>
      ({ server with state := server.state.connectionNotReady, acknowledged := none }, none)
  | .requestDone request true =>
      ({ server with
          state := server.state.consoleUserIdChangedRequestSucceeded request
          acknowledged := some request
        }.notifyCoreServiceDaemonServerBoundIfReady user).deliverPendingConsoleUserIdChanged
  | .consoleUserIdChanged onConsole =>
      { server with
        state := server.state.consoleUserIdChanged onConsole
        given := some onConsole }.deliverPendingConsoleUserIdChanged

/-- The first job of the client. -/
def runJob (server : ConsoleUserServer) (user : Uid) : ConsoleUserServer × Option Bool :=
  match server.jobs with
  | [] => (server, none)
  | job :: rest => { server with jobs := rest }.perform user job

/-! ## What `client_` signals -/

/-- A connection is made. `client_` connects anew when the job of `closed` or
`connect_failed` has run and no callback is missing. -/
def canConnect (server : ConsoleUserServer) : Bool :=
  server.connection = .down ∧ server.waiting = [] ∧ .connectionNotReady ∉ server.jobs

def connect (server : ConsoleUserServer) (peerId : PeerId) : ConsoleUserServer :=
  { server with connection := .up peerId }.push .connected

/-- The connection fails; what it has not delivered is lost. -/
def lose (server : ConsoleUserServer) : ConsoleUserServer :=
  { server with connection := .closing }

/-- The signal `closed`. -/
def closed (server : ConsoleUserServer) : ConsoleUserServer :=
  { server with connection := .down }.push .connectionNotReady

/-- The callback of a request is called with an error. -/
def failRequest (server : ConsoleUserServer) : ConsoleUserServer :=
  match server.waiting with
  | [] => server
  | request :: waiting => { server with waiting }.push (.requestDone request false)

/-- A message of the daemon arrives. -/
def receive (server : ConsoleUserServer) : Outgoing Bool → ConsoleUserServer
  | .respond request =>
      if request ∈ server.waiting then
        { server with waiting := server.waiting.erase request }.push (.requestDone request true)
      else server
  | .coreServiceDaemonServerBound uid => server.push (.received uid)
  | .closePeer => server

end ConsoleUserServer

end Karabiner

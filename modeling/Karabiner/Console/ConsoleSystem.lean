import Karabiner.Console.ConsoleUserIdChangedClient
import Karabiner.Console.RegisteredPeers
import Mathlib.Logic.Function.Basic

/-! # The daemon and the console user servers

The daemon with the console user servers of all users. A connection carries the requests
to the daemon, after its beginning and before its end, and the messages to the server,
each in order. A connection that is lost delivers a part of what was underway to the
daemon and nothing more to the server; the server connects anew when it was told of the
loss.
-/

namespace Karabiner

/-- What a connection delivers to the daemon. -/
inductive Incoming where
  | connected (uid : Option Uid)
  | request (onConsole : Bool)
  | closed
deriving DecidableEq

/-- The daemon, the console user servers and what is underway on the connections. -/
structure ConsoleSystem where
  daemon : DaemonComponents
  servers : Uid → ConsoleUserServer
  toDaemon : PeerId → List Incoming
  toServer : PeerId → List (Outgoing Bool)
  nextPeerId : PeerId

/-- What happens in the console user servers, in the daemon and between them. -/
inductive ConsoleAction where
  | onConsoleChanged (user : Uid) (onConsole : Bool)
  | runClientJob (user : Uid)
  | receive (user : Uid)
  | connect (user : Uid) (credentials : Bool)
  | lose (user : Uid) (delivered : Nat)
  | failRequest (user : Uid)
  | closed (user : Uid)
  | notReady (user : Uid)
  | serve (peerId : PeerId)
  | serverBound
  | runDaemonJob

namespace ConsoleSystem

def initial : ConsoleSystem where
  daemon := .initial
  servers := fun _ => .initial
  toDaemon := fun _ => []
  toServer := fun _ => []
  nextPeerId := 0

def setServer (system : ConsoleSystem) (user : Uid) (server : ConsoleUserServer) :
    ConsoleSystem :=
  { system with servers := Function.update system.servers user server }

/-- An event of the daemon, with the messages it sends. -/
def daemonEvent (system : ConsoleSystem) (event : DaemonEvent Bool) : ConsoleSystem :=
  { system with
    daemon := system.daemon.next event
    toServer := fun peerId =>
      system.toServer peerId ++ DaemonComponents.sentTo peerId (system.daemon.step event).2 }

/-- The event of a delivery; a request is known by its value. -/
def eventOf (peerId : PeerId) : Incoming → DaemonEvent Bool
  | .connected uid => .peerConnected peerId uid
  | .request onConsole => .requestReceived peerId onConsole onConsole
  | .closed => .peerClosed peerId

/-- A request that a server sends on its connection. -/
def sendRequest (system : ConsoleSystem) (connection : Connection) (request : Option Bool) :
    ConsoleSystem :=
  match connection, request with
  | .up peerId, some onConsole =>
      { system with
        toDaemon := Function.update system.toDaemon peerId
          (system.toDaemon peerId ++ [.request onConsole]) }
  | _, _ => system

/-- The connection of a user is not up. -/
def notUp (system : ConsoleSystem) (user : Uid) : Bool :=
  match (system.servers user).connection with
  | .up _ => false
  | _ => true

def step (system : ConsoleSystem) : ConsoleAction → ConsoleSystem
  | .onConsoleChanged user onConsole =>
      system.setServer user ((system.servers user).onConsoleChanged onConsole)
  | .runClientJob user =>
      let result := (system.servers user).runJob user
      (system.setServer user result.1).sendRequest (system.servers user).connection result.2
  | .receive user =>
      match (system.servers user).connection with
      | .up peerId =>
          match system.toServer peerId with
          | [] => system
          | message :: rest =>
              { system.setServer user ((system.servers user).receive message) with
                toServer := Function.update system.toServer peerId rest }
      | _ => system
  | .connect user credentials =>
      if (system.servers user).canConnect then
        { system.setServer user ((system.servers user).connect system.nextPeerId) with
          toDaemon := Function.update system.toDaemon system.nextPeerId
            [.connected (if credentials then some user else none)]
          toServer := Function.update system.toServer system.nextPeerId []
          nextPeerId := system.nextPeerId + 1 }
      else system
  | .lose user delivered =>
      match (system.servers user).connection with
      | .up peerId =>
          { system.setServer user (system.servers user).lose with
            toDaemon := Function.update system.toDaemon peerId
              ((system.toDaemon peerId).take delivered ++ [.closed])
            toServer := Function.update system.toServer peerId [] }
      | _ => system
  | .failRequest user =>
      if system.notUp user then system.setServer user (system.servers user).failRequest
      else system
  | .closed user =>
      if (system.servers user).connection = .closing then
        system.setServer user (system.servers user).closed
      else system
  | .notReady user =>
      if system.notUp user then
        system.setServer user ((system.servers user).push .connectionNotReady)
      else system
  | .serve peerId =>
      match system.toDaemon peerId with
      | [] => system
      | incoming :: rest =>
          { system with
            toDaemon := Function.update system.toDaemon peerId rest
          }.daemonEvent (eventOf peerId incoming)
  | .serverBound => system.daemonEvent .serverBound
  | .runDaemonJob => system.daemonEvent .runJob

end ConsoleSystem

end Karabiner

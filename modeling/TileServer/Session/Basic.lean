import TileServer.Server.Publisher
import TileServer.Session.Device
import TileServer.Session.Peer

namespace TileServer

structure Session where
  server : Server
  peers : List Peer := []
  published : EventQueue := {}
  display : Device := {}
  keyboard : Device := {}
  listening : Nat := 1
  deriving Repr

namespace Session

def peer? (session : Session) (name : String) : Option Peer :=
  session.peers.reverse.find? (fun peer => peer.name == name)

def modifyPeer (session : Session) (fd : Nat) (change : Peer → Peer) : Session :=
  { session with
    peers := session.peers.map (fun peer => if peer.fd = fd then change peer else peer) }

def modifySocket (session : Session) (fd : Nat) (change : Socket → Socket) : Session :=
  { session with
    server := { session.server with
      registry := session.server.registry.modify fd (fun client =>
        { client with socket := change client.socket }) } }

def isRegistered (session : Session) (peer : Peer) : Bool :=
  session.server.registry.contains peer.fd

def client? (session : Session) (peer : Peer) : Option Client :=
  (session.server.registry.find? peer.fd).or
    (session.server.registry.departed.find? (fun client => client.fd == peer.fd))

def isDropped (session : Session) (peer : Peer) : Bool :=
  peer.accepted && !session.isRegistered peer

def connect (session : Session) (name : String) (listener : Nat) : Session :=
  { session with
    peers := session.peers ++ [{ name, fd := session.peers.length, listener }] }

/-- Opens a connection and registers it at once. Its socket takes nothing before the server has seen
that it can be written to. -/
def register (session : Session) (name : String) : Session :=
  let fd := session.peers.length
  { session with
    server := { session.server with
      registry := session.server.registry.register fd { outlet := .blocked } }
    peers := session.peers ++ [{ name, fd, accepted := true }] }

def unblock (session : Session) : Session :=
  session.peers.foldl (fun session peer =>
    session.modifySocket peer.fd (fun socket =>
      if socket.outlet = .blocked then { socket with outlet := .unlimited } else socket)) session

def write (session : Session) (name : String) (bytes : Bytes) : Session :=
  match session.peer? name with
  | some peer =>
    if session.isDropped peer then session
    else session.modifyPeer peer.fd (fun peer => peer.write bytes)
  | none => session

def read (session : Session) (fd : Nat) : Session × ReadAnswer :=
  match session.server.registry.find? fd, session.peers.find? (fun peer => peer.fd == fd) with
  | some client, some peer =>
    let limit := client.readLimit
    let answer := peer.readAnswer limit
    let registry := session.server.registry.makeRoom fd
    ({ session.modifyPeer fd (fun peer => peer.wasRead limit) with
      server := { session.server with
        registry := match answer with
          | .bytes bytes => registry.receive fd bytes
          | _ => registry } }, answer)
  | _, _ => (session, .wouldBlock)

def finish (session : Session) (name : String) : Session :=
  match session.peer? name with
  | some peer => session.modifyPeer peer.fd (fun peer => { peer with finished := true })
  | none => session

def close (session : Session) (name : String) : Session :=
  match session.peer? name with
  | some peer =>
    (session.modifyPeer peer.fd (fun peer => { peer with finished := true, gone := true })).modifySocket
      peer.fd (fun socket => { socket with outlet := .broken .brokenPipe })
  | none => session

def setStalled (session : Session) (name : String) (stalled : Bool) : Session :=
  match session.peer? name with
  | some peer => session.modifyPeer peer.fd (fun peer => { peer with stalled })
  | none => session

def receive (session : Session) (peer : Peer) : Session :=
  match session.client? peer with
  | some client =>
    if client.socket.taken.length = peer.received then session
    else
      (session.modifyPeer peer.fd (fun peer => peer.receive client.socket)).modifySocket peer.fd
        (fun socket => match socket.outlet with
          | .buffered _ => { socket with outlet := .buffered .fresh }
          | _ => socket)
  | none => session

def receiveAll (session : Session) : Session :=
  session.peers.foldl (fun session peer =>
    if peer.stalled || peer.gone then session else session.receive peer) session

def delivered (session : Session) : List (String × List Wire.Message) :=
  (session.peers.map (fun peer => (peer.name, peer.news.messages))).filter (fun entry =>
    !entry.2.isEmpty)

def hungUp (session : Session) : List String :=
  ((session.peers.filter (fun peer =>
    !peer.gone && !peer.hungUp && session.isDropped peer)).map Peer.name).mergeSort

def clearNews (session : Session) : Session :=
  { session with
    peers := session.peers.map (fun peer =>
      { peer.clearNews with hungUp := peer.hungUp || session.isDropped peer }) }

end Session

end TileServer

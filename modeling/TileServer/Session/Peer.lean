import TileServer.Server.Loop

namespace TileServer

structure Peer where
  name : String
  fd : Nat
  listener : Nat := 0
  accepted : Bool := false
  waiting : Wire.ByteQueue := .empty
  finished : Bool := false
  gone : Bool := false
  stalled : Bool := false
  /-- How many of the pieces that the server's socket took it has read. -/
  received : Nat := 0
  heard : List Bytes := []
  hungUp : Bool := false
  deriving Repr

namespace Peer

def write (peer : Peer) (bytes : Bytes) : Peer :=
  if peer.finished then peer else { peer with waiting := peer.waiting.push bytes }

def isReadable (peer : Peer) : Bool :=
  !peer.waiting.isEmpty || peer.finished

def readAnswer (peer : Peer) (limit : Nat) : ReadAnswer :=
  if peer.isReadable then .bytes (peer.waiting.take limit) else .wouldBlock

def wasRead (peer : Peer) (limit : Nat) : Peer :=
  { peer with waiting := peer.waiting.drop limit }

def receive (peer : Peer) (socket : Socket) : Peer :=
  let count := socket.taken.length
  { peer with
    received := count
    heard := socket.taken.take (count - peer.received) ++ peer.heard }

def transcript (peer : Peer) : Bytes :=
  peer.heard.reverse.flatten

def news (peer : Peer) : Wire.Frames Bytes :=
  Wire.decodeAll Wire.maxLength peer.transcript

def clearNews (peer : Peer) : Peer :=
  { peer with heard := [peer.news.rest] }

end Peer

end TileServer

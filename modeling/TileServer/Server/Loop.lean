import TileServer.Server.Answer

namespace TileServer

inductive Readiness
  | failed (error : OsError)
  | ready (writable : Bool) (read : Option ReadAnswer)
  deriving Repr, DecidableEq

inductive DeviceEvent
  | publish (event : Event)
  | command (text : List Char)
  | render
  deriving Repr, DecidableEq

inductive Wake
  | device
  | published (event : Event)
  | accepted (connections : List (Nat × Socket))
  | client (fd : Nat) (readiness : Readiness)
  deriving Repr

structure Turn where
  devices : List DeviceEvent
  wake : Wake
  deriving Repr

namespace Server

def start (layout : Layout) (maxMessage maxBacklog : Nat) (socketPath : Option String) : Server :=
  ⟨layout, .new maxMessage maxBacklog, socketPath⟩

def note (server : Server) (deed : Deed) : Server :=
  { server with registry := server.registry.note deed }

def render (server : Server) : Server :=
  { server with layout := server.layout.render }.note .rendered

def renderIf (server : Server) (wanted : Bool) : Server :=
  if wanted then server.render else server

def drop (cause : Cause) (server : Server) (fd : Nat) : Server :=
  { server with registry := server.registry.drop cause fd }

def sendReply (server : Server) (fd : Nat) (reply : Wire.Message) : Server :=
  match server.registry.send fd reply with
  | (registry, none) => { server with registry }
  | (registry, some .unknownClient) => { server with registry }
  | (registry, some _) => { server with registry := registry.drop .unanswerable fd }

def reply (server : Server) (fd : Nat) (message : Wire.Message) : Option Bytes → Server
  | some payload => server.sendReply fd ⟨message.kind, payload⟩
  | none => server

/-- Handles one message that the connection with a serial number sent: answers it, renders if the
answer asks for it, and sends the reply. -/
def handleMessage (server : Server) (fd serial : Nat) (message : Wire.Message) : Server :=
  let answer := (server.note (.request serial message)).dispatch fd message
  ((answer.server.renderIf answer.render).reply fd message answer.payload).note (.finished serial)

/-- Handles the frames that were read from a client one after another, until none is complete or the
client is gone. A client is dropped at what is no frame. -/
def handleFrames (server : Server) (fd serial : Nat) : Nat → Server
  | 0 => server
  | attempts + 1 => match server.registry.next fd with
    | (registry, .ok none) => { server with registry }
    | (registry, .error _) => { server with registry }.drop .malformed fd
    | (registry, .ok (some message)) =>
      let handled := { server with registry }.handleMessage fd serial message
      if handled.registry.contains fd then handled.handleFrames fd serial attempts else handled

/-- Handles every complete frame that was read from a client. There are no more of them than headers
fit what was read, and the last attempt finds none. -/
def handleInbound (server : Server) (fd : Nat) : Server :=
  match server.registry.find? fd with
  | none => server
  | some client =>
    server.handleFrames fd client.serial (client.inbound.size / Wire.headerLength + 1)

def handleRead (server : Server) (fd : Nat) : ReadAnswer → Server
  | .wouldBlock => server
  | .fails _ => server.drop .readFailed fd
  | .bytes [] => server.drop .hungUp fd
  | .bytes bytes =>
    { server with registry := server.registry.receive fd bytes }.handleInbound fd

def serviceRead (server : Server) (fd : Nat) (answer : ReadAnswer) : Server :=
  { server with registry := server.registry.makeRoom fd }.handleRead fd answer

def service (server : Server) (fd : Nat) : Readiness → Server
  | .failed _ => server.drop .failed fd
  | .ready writable read =>
    let (registry, error) :=
      if writable then server.registry.flushClient fd else (server.registry, none)
    match error, read with
    | some _, _ => { server with registry }.drop .writeFailed fd
    | none, none => { server with registry }
    | none, some read => { server with registry }.serviceRead fd read

def handleDevice (server : Server) : DeviceEvent → Server × Bool
  | .publish event => ({ server with registry := server.registry.publish event }, false)
  | .command text =>
    let (after, outcome) := server.runCommand text
    (after, outcome.needsRender)
  | .render => (server, true)

def handleDevices (server : Server) : List DeviceEvent → Server × Bool
  | [] => (server, false)
  | event :: rest =>
    let (after, wanted) := server.handleDevice event
    let (last, more) := after.handleDevices rest
    (last, wanted || more)

/-- Drains the devices, and then renders once if any event asked for it. -/
def drain (server : Server) (devices : List DeviceEvent) : Server :=
  let (after, wanted) := server.handleDevices devices
  after.renderIf wanted

def accept (server : Server) (connections : List (Nat × Socket)) : Server :=
  { server with
    registry := connections.foldl (fun registry connection =>
      registry.register connection.1 connection.2) server.registry }

def handleWake (server : Server) : Wake → Server
  | .device => server
  | .published event =>
    { server with registry := (server.registry.note (.arrived event)).publish event }
  | .accepted connections => server.accept connections
  | .client fd readiness => server.service fd readiness

def prepare (server : Server) : Server :=
  { server with registry := server.registry.flushAll }

def turn (server : Server) (turn : Turn) : Server :=
  (server.drain turn.devices).handleWake turn.wake

def run (server : Server) (turns : List Turn) : Server :=
  turns.foldl (fun server turn => (server.turn turn).prepare) server.prepare

def shutdown (server : Server) : Server :=
  { server with registry := server.registry.shutdown }

end Server

end TileServer

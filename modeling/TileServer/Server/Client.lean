import TileServer.Server.ReadSpace
import TileServer.Server.Socket
import TileServer.Text.Caseless
import TileServer.Wire.Stream

namespace TileServer

/-- A registered connection. Descriptors are used again after a connection has ended, serial numbers
are not. -/
structure Client where
  serial : Nat
  fd : Nat
  socket : Socket
  subscriptions : List String := []
  inbound : Wire.ByteQueue := .empty
  space : ReadSpace := .fresh
  outbound : Wire.ByteQueue := .empty
  deriving Repr

inductive SendError
  | unknownClient
  | backlog (queued limit : Nat)
  | unframed (error : Wire.FrameError)
  | failed (error : OsError)
  deriving Repr, DecidableEq

def SendError.message : SendError → String
  | .unknownClient => "no such client"
  | .backlog queued limit => toString queued ++ " bytes queued, limit is " ++ toString limit
  | .unframed error => "failed to frame message: " ++ error.message
  | .failed error => "write failed: " ++ error.message

namespace Client

def isSubscribed (client : Client) (event : String) : Bool :=
  client.subscriptions.any (fun name => Text.sameFolded name event)

def subscribe (client : Client) (events : List String) : Client :=
  events.foldl (fun client event =>
    if client.isSubscribed event then client
    else { client with subscriptions := client.subscriptions ++ [event] }) client

def pendingOutput (client : Client) : Nat :=
  client.outbound.size

def wantsWrite (client : Client) : Bool :=
  !client.outbound.isEmpty

/-- Writes queued output as far as the socket takes it. -/
def flush (client : Client) : Client × Option OsError :=
  let done := client.socket.flush client.outbound
  ({ client with socket := done.socket, outbound := done.outbound }, done.error)

def append (client : Client) (message : Wire.Message) : Client :=
  { client with outbound := client.outbound.push (Wire.frame message) }

/-- Queues a message and writes what the socket takes right away. Only what is unwritten after that
counts against the limit. -/
def queue (client : Client) (message : Wire.Message) (limit : Nat) : Client × Option SendError :=
  match Wire.encode message with
  | .error error => (client, some (.unframed error))
  | .ok _ => match (client.append message).flush with
    | (client, some error) => (client, some (.failed error))
    | (client, none) =>
      if limit < client.pendingOutput then
        (client, some (.backlog client.pendingOutput limit))
      else (client, none)

def makeRoom (client : Client) : Client :=
  { client with space := client.space.reserve client.inbound.size ReadSpace.chunk }

def readLimit (client : Client) : Nat :=
  client.makeRoom.space.room - client.inbound.size

def receive (client : Client) (bytes : Bytes) : Client :=
  { client with inbound := client.inbound.push bytes }

def keep (client : Client) (rest : Wire.ByteQueue) : Client :=
  { client with inbound := rest, space := client.space.pass (client.inbound.size - rest.size) }

def awaitFrame (client : Client) (maxPayload : Nat) : Client :=
  { client with
    space := client.space.reserve client.inbound.size (Wire.missing maxPayload client.inbound) }

end Client

end TileServer

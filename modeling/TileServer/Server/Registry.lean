import TileServer.Server.Client
import TileServer.Server.Journal

namespace TileServer

structure Registry where
  clients : List Client
  departed : List Client
  accepted : Nat
  journal : List Deed
  maxMessage : Nat
  maxBacklog : Nat
  deriving Repr

namespace Registry

def new (maxMessage maxBacklog : Nat) : Registry :=
  ⟨[], [], 0, [], maxMessage, maxBacklog⟩

def note (registry : Registry) (deed : Deed) : Registry :=
  { registry with journal := deed :: registry.journal }

def register (registry : Registry) (fd : Nat) (socket : Socket) : Registry :=
  let client : Client := { serial := registry.accepted, fd, socket }
  { registry with
    clients := registry.clients ++ [client]
    accepted := registry.accepted + 1
    journal := .accepted client.serial :: registry.journal }

def find? (registry : Registry) (fd : Nat) : Option Client :=
  registry.clients.find? (fun client => client.fd == fd)

def contains (registry : Registry) (fd : Nat) : Bool :=
  (registry.find? fd).isSome

def modify (registry : Registry) (fd : Nat) (change : Client → Client) : Registry :=
  { registry with
    clients := registry.clients.map (fun client => if client.fd = fd then change client else client) }

/-- Drops the client that has a descriptor; nothing happens if there is none. -/
def drop (cause : Cause) (registry : Registry) (fd : Nat) : Registry :=
  match registry.find? fd with
  | none => registry
  | some client =>
    { registry with
      clients := registry.clients.eraseP (fun client => client.fd == fd)
      departed := client :: registry.departed
      journal := .dropped client.serial cause :: registry.journal }

def remove (registry : Registry) (fd : Nat) : Registry :=
  registry.drop .closed fd

def subscribe (registry : Registry) (fd : Nat) (events : List String) : Registry :=
  match registry.find? fd with
  | none => registry
  | some client =>
    (registry.modify fd (fun client => client.subscribe events)).note
      (.subscribed client.serial events)

def makeRoom (registry : Registry) (fd : Nat) : Registry :=
  registry.modify fd Client.makeRoom

def receive (registry : Registry) (fd : Nat) (bytes : Bytes) : Registry :=
  match registry.find? fd with
  | none => registry
  | some client =>
    (registry.modify fd (fun client => client.receive bytes)).note (.read client.serial bytes)

def flushClient (registry : Registry) (fd : Nat) : Registry × Option OsError :=
  match registry.find? fd with
  | none => (registry, none)
  | some client =>
    let (flushed, error) := client.flush
    (registry.modify fd (fun _ => flushed), error)

def next (registry : Registry) (fd : Nat) : Registry × Except Wire.FrameError (Option Wire.Message) :=
  match registry.find? fd with
  | none => (registry, .ok none)
  | some client => match Wire.takeFrame registry.maxMessage client.inbound with
    | .incomplete =>
      (registry.modify fd (fun client => client.awaitFrame registry.maxMessage), .ok none)
    | .failed error => (registry, .error error)
    | .message message rest =>
      (registry.modify fd (fun client => client.keep rest), .ok (some message))

def send (registry : Registry) (fd : Nat) (message : Wire.Message) : Registry × Option SendError :=
  match registry.find? fd with
  | none => (registry, some .unknownClient)
  | some client =>
    let (sent, error) := client.queue message registry.maxBacklog
    let registry := registry.modify fd (fun _ => sent)
    match error with
    | some (.unframed _) => (registry, error)
    | _ => (registry.note (.reply client.serial message), error)

inductive Delivery
  | notMeant
  | queued
  | unframed
  | failed
  | overflowed
  deriving Repr, DecidableEq

def deliver (limit : Nat) (event : Event) (client : Client) : Client × Delivery :=
  if client.isSubscribed event.name then
    match client.queue event.message limit with
    | (client, none) => (client, .queued)
    | (client, some (.backlog _ _)) => (client, .overflowed)
    | (client, some (.unframed _)) => (client, .unframed)
    | (client, some _) => (client, .failed)
  else (client, .notMeant)

/-- Whether an event counts as delivered. A failed write is left for the next use of the client to
find. -/
def Delivery.counts : Delivery → Bool
  | .queued | .unframed | .failed => true
  | _ => false

def Delivery.isQueued : Delivery → Bool
  | .queued | .failed | .overflowed => true
  | _ => false

/-- Sends an event to every subscriber in the order of registration, and then drops those whose
unwritten output is over the limit. Gives the number of clients that it counts as delivered to. -/
def broadcast (registry : Registry) (event : Event) : Registry × Nat :=
  let results := registry.clients.map (deliver registry.maxBacklog event)
  let notified := (results.filter (fun result => result.2.isQueued)).map (fun result =>
    Deed.notified result.1.serial event.message)
  let overflowed := (results.filter (fun result => result.2 == .overflowed)).map (·.1.fd)
  let registry := { registry with
    clients := results.map Prod.fst
    journal := notified.reverse ++ .published event :: registry.journal }
  (overflowed.foldl (drop .overflowed) registry, (results.filter (fun result => result.2.counts)).length)

def flushAll (registry : Registry) : Registry :=
  let results := registry.clients.map Client.flush
  let dead := (results.filter (fun result => result.2.isSome)).map (·.1.fd)
  dead.foldl (drop .writeFailed) { registry with clients := results.map Prod.fst }

def shutdown (registry : Registry) : Registry :=
  (registry.clients.map Client.fd).foldl remove registry

end Registry

end TileServer

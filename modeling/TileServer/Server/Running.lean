import TileServer.Server.Loop
import TileServer.Server.Publisher

namespace TileServer

inductive Caller
  | newcomers (connections : List (Nat × Socket))
  | client (fd : Nat) (readiness : Readiness)
  deriving Repr

def Caller.wake : Caller → Wake
  | newcomers connections => .accepted connections
  | client fd readiness => .client fd readiness

inductive Happening
  | sent (event : Event)
  /-- The loop waits: what the devices have brought, whether one of them signals, and who calls. -/
  | waited (devices : List DeviceEvent) (signalled : Bool) (caller : Option Caller)
  deriving Repr

structure Running where
  server : Server
  events : EventQueue := {}
  deriving Repr

namespace Running

/-- The turn that a wait leads to, and the events that wait on. -/
def wait (running : Running) (devices : List DeviceEvent) (signalled : Bool)
    (caller : Option Caller) : Option (Turn × EventQueue) :=
  match running.events.select signalled caller with
  | none => none
  | some .device => some (⟨devices, .device⟩, running.events)
  | some (.published event rest) => some (⟨devices, .published event⟩, rest)
  | some (.caller caller) => some (⟨devices, caller.wake⟩, running.events)

def step (running : Running) : Happening → Running
  | .sent event => { running with events := (running.events.send event).1 }
  | .waited devices signalled caller => match running.wait devices signalled caller with
    | none => running
    | some (turn, events) => ⟨(running.server.turn turn).prepare, events⟩

def run (running : Running) (happenings : List Happening) : Running :=
  happenings.foldl step running

def start (layout : Layout) (maxMessage maxBacklog : Nat) (socketPath : Option String) : Running :=
  { server := (Server.start layout maxMessage maxBacklog socketPath).prepare }

end Running

end TileServer

import TileServer.Server.Journal

namespace TileServer

structure EventQueue where
  waiting : List Event := []
  isOpen : Bool := true
  deriving Repr, DecidableEq

inductive Selected (α : Type)
  | device
  | published (event : Event) (rest : EventQueue)
  | caller (caller : α)

namespace EventQueue

def send (queue : EventQueue) (event : Event) : EventQueue × Bool :=
  if queue.isOpen then ({ queue with waiting := queue.waiting ++ [event] }, true)
  else (queue, false)

def sendAll (queue : EventQueue) (events : List Event) : EventQueue :=
  if queue.isOpen then { queue with waiting := queue.waiting ++ events } else queue

def take? (queue : EventQueue) : Option (Event × EventQueue) :=
  match queue.waiting with
  | [] => none
  | event :: rest => some (event, { queue with waiting := rest })

/-- What a wait ends with: a device before an event, and an event before anyone who calls. -/
def select (queue : EventQueue) (signalled : Bool) (caller : Option α) : Option (Selected α) :=
  if signalled then some .device
  else match queue.take? with
    | some (event, rest) => some (.published event rest)
    | none => caller.map .caller

def close (_ : EventQueue) : EventQueue := ⟨[], false⟩

end EventQueue

end TileServer

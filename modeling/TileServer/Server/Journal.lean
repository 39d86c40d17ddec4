import TileServer.Wire.Frame

namespace TileServer

structure Event where
  name : String
  code : UInt32
  payload : Bytes
  deriving Repr, DecidableEq

def Event.message (event : Event) : Wire.Message :=
  ⟨event.code, event.payload⟩

inductive Cause
  | failed
  | hungUp
  | readFailed
  | writeFailed
  | malformed
  | overflowed
  | unanswerable
  | closed
  deriving Repr, DecidableEq

/-- One deed, with the serial number of the client that it concerns. -/
inductive Deed
  | accepted (serial : Nat)
  | read (serial : Nat) (bytes : Bytes)
  | request (serial : Nat) (message : Wire.Message)
  | subscribed (serial : Nat) (events : List String)
  | reply (serial : Nat) (message : Wire.Message)
  | finished (serial : Nat)
  | arrived (event : Event)
  | published (event : Event)
  | notified (serial : Nat) (message : Wire.Message)
  | rendered
  | dropped (serial : Nat) (cause : Cause)
  deriving Repr, DecidableEq

end TileServer

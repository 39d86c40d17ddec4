import TileServer.Os.Error
import TileServer.Text.Utf8

namespace TileServer

/-- How a socket answers an attempt to read. No bytes at all mean that the peer writes no more. -/
inductive ReadAnswer
  | bytes (bytes : Bytes)
  | wouldBlock
  | fails (error : OsError)
  deriving Repr, DecidableEq

def ReadAnswer.size : ReadAnswer → Nat
  | .bytes content => content.length
  | .wouldBlock => 0
  | .fails _ => 0

def ReadAnswer.content : ReadAnswer → Bytes
  | .bytes read => read
  | .wouldBlock => []
  | .fails _ => []

inductive WriteAnswer
  | takes (more : Nat)
  | takesNothing
  | wouldBlock
  | interrupted
  | fails (error : OsError)
  deriving Repr, DecidableEq

end TileServer

import TileServer.Os.Transfer
import TileServer.Wire.ByteQueue

namespace TileServer

/-- The system's buffer between a socket and its peer. What is written is cut into parts, each part
is charged for the memory that holds it, and a part is taken as long as less than `size` is in use
before it. -/
structure SendBuffer where
  used : Nat
  size : Nat
  deriving Repr, DecidableEq

namespace SendBuffer

def fresh : SendBuffer := ⟨0, 212992⟩

def page : Nat := 4096

def inPages (count : Nat) : Nat :=
  (count + (page - 1)) / page * page

def margin : Nat := 320

def block (count : Nat) : Nat :=
  let need := count + margin
  if need ≤ 512 then 512
  else if need ≤ 1024 then 1024
  else if need ≤ 2048 then 2048
  else page

def inBlock : Nat := page - margin

def longest : Nat := inBlock + 8 * page

def paged (count : Nat) : Nat :=
  min count (inPages (count - inBlock))

def charge (count : Nat) : Nat :=
  block (count - paged count) + 256 + inPages (paged count)

def absorbFrom (taken : Nat) (buffer : SendBuffer) : Nat → Nat → Nat × SendBuffer
  | 0, _ => (taken, buffer)
  | parts + 1, offered =>
    if offered = 0 || buffer.size ≤ buffer.used then (taken, buffer)
    else
      let count := min offered longest
      absorbFrom (taken + count) { buffer with used := buffer.used + charge count } parts
        (offered - count)

def absorb (buffer : SendBuffer) (offered : Nat) : Nat × SendBuffer :=
  absorbFrom 0 buffer (offered / longest + 1) offered

end SendBuffer

inductive Outlet
  | unlimited
  | blocked
  | buffered (buffer : SendBuffer)
  | broken (error : OsError)
  deriving Repr, DecidableEq

/-- A socket as its writers know it: the answers to the coming attempts, the answers after these, what
it has taken, latest first, and its answer to the latest attempt. -/
structure Socket where
  answers : List WriteAnswer := []
  outlet : Outlet := .unlimited
  taken : List Bytes := []
  latest : Option WriteAnswer := none
  deriving Repr

structure Flush where
  socket : Socket
  outbound : Wire.ByteQueue
  error : Option OsError
  deriving Repr

namespace Socket

def accepted (socket : Socket) : Bytes :=
  socket.taken.reverse.flatten

def say (socket : Socket) (answer : WriteAnswer) : Socket :=
  { socket with latest := some answer }

def take (socket : Socket) (outbound : Wire.ByteQueue) (count : Nat) : Socket :=
  { socket with taken := outbound.take count :: socket.taken }.say (.takes (count - 1))

def flushOutlet (socket : Socket) (outbound : Wire.ByteQueue) : Flush :=
  if outbound.isEmpty then ⟨socket, outbound, none⟩
  else match socket.outlet with
    | .unlimited => ⟨socket.take outbound outbound.size, .empty, none⟩
    | .blocked => ⟨socket.say .wouldBlock, outbound, none⟩
    | .broken error => ⟨socket.say (.fails error), outbound, some error⟩
    | .buffered buffer =>
      let (count, buffer) := buffer.absorb outbound.size
      if count = 0 then ⟨socket.say .wouldBlock, outbound, none⟩
      else
        let socket := { socket.take outbound count with outlet := .buffered buffer }
        -- What the buffer has no room for is offered again.
        ⟨if count < outbound.size then socket.say .wouldBlock else socket, outbound.drop count, none⟩

/-- Writes queued output until it is gone, the socket would block, or a write fails. An interrupted
attempt is made again. -/
def flushWith (socket : Socket) (outbound : Wire.ByteQueue) : List WriteAnswer → Flush
  | [] => { socket with answers := [] }.flushOutlet outbound
  | answer :: rest =>
    if outbound.isEmpty then ⟨{ socket with answers := answer :: rest }, outbound, none⟩
    else match answer with
      | .takes more => (socket.take outbound (more + 1)).flushWith (outbound.drop (more + 1)) rest
      | .interrupted => (socket.say .interrupted).flushWith outbound rest
      | .wouldBlock => ⟨{ socket with answers := rest }.say .wouldBlock, outbound, none⟩
      | .takesNothing =>
        ⟨{ socket with answers := rest }.say .takesNothing, outbound, some .tookNothing⟩
      | .fails error => ⟨{ socket with answers := rest }.say (.fails error), outbound, some error⟩

def flush (socket : Socket) (outbound : Wire.ByteQueue) : Flush :=
  socket.flushWith outbound socket.answers

end Socket

end TileServer

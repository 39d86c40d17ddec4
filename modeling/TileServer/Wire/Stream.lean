import TileServer.Wire.ByteQueue
import TileServer.Wire.Frame

namespace TileServer.Wire

def Decoded.map {Buffer Other : Type} (view : Buffer → Other) : Decoded Buffer → Decoded Other
  | .incomplete => .incomplete
  | .message taken rest => .message taken (view rest)
  | .failed error => .failed error

def Frames.map {Buffer Other : Type} (view : Buffer → Other) (frames : Frames Buffer) :
    Frames Other :=
  ⟨frames.messages, view frames.rest, frames.error⟩

def headerOf (maxPayload : Nat) (queue : ByteQueue) : Header :=
  readHeader maxPayload (queue.take headerLength)

def missing (maxPayload : Nat) (queue : ByteQueue) : Nat :=
  if queue.isEmpty then 0
  else match headerOf maxPayload queue with
    | .incomplete => headerLength - queue.size
    | .failed _ => 0
    | .opens _ length => headerLength + length - queue.size

def takeFrame (maxPayload : Nat) (queue : ByteQueue) : Decoded ByteQueue :=
  match headerOf maxPayload queue with
  | .incomplete => .incomplete
  | .failed error => .failed error
  | .opens kind length =>
    if queue.size < headerLength + length then .incomplete
    else .message ⟨kind, (queue.drop headerLength).take length⟩ (queue.drop (headerLength + length))

def takeFrames (maxPayload : Nat) (queue : ByteQueue) : Frames ByteQueue :=
  match headerOf maxPayload queue with
  | .incomplete => ⟨[], queue, none⟩
  | .failed error => ⟨[], queue, some error⟩
  | .opens _ length =>
    if queue.size < headerLength + length then ⟨[], queue, none⟩
    else (decodeAll maxPayload queue.bytes).map ByteQueue.ofBytes

theorem headerOf_eq (maxPayload : Nat) (queue : ByteQueue) :
    headerOf maxPayload queue = readHeader maxPayload queue.bytes := by
  rw [headerOf, ByteQueue.take_eq, readHeader_take]

theorem map_takeFrame (maxPayload : Nat) (queue : ByteQueue) :
    (takeFrame maxPayload queue).map ByteQueue.bytes = decode maxPayload queue.bytes := by
  unfold takeFrame decode
  rw [headerOf_eq]
  have size := queue.length_bytes
  cases read : readHeader maxPayload queue.bytes with
  | incomplete => rfl
  | failed error => rfl
  | opens kind length =>
    have header := headerLength_le read
    by_cases short : queue.size < headerLength + length
    · have lacks : splitExactly? length (queue.bytes.drop headerLength) = none :=
        splitExactly?_of_lt (by rw [List.length_drop]; omega)
      simp [short, lacks, Decoded.map]
    · have enough : length ≤ (queue.bytes.drop headerLength).length := by
        rw [List.length_drop]
        omega
      have splits := splitExactly?_of_le enough
      simp [short, splits, Decoded.map, List.drop_drop]

theorem size_rest_lt {maxPayload : Nat} {queue rest : ByteQueue} {message : Message}
    (taken : takeFrame maxPayload queue = .message message rest) : rest.size < queue.size := by
  have decoded := map_takeFrame maxPayload queue
  rw [taken] at decoded
  have shorter := length_rest_lt decoded.symm
  rw [ByteQueue.length_bytes, ByteQueue.length_bytes] at shorter
  exact shorter

theorem map_takeFrames (maxPayload : Nat) (queue : ByteQueue) :
    (takeFrames maxPayload queue).map ByteQueue.bytes = decodeAll maxPayload queue.bytes := by
  unfold takeFrames
  rw [headerOf_eq]
  have size := queue.length_bytes
  cases read : readHeader maxPayload queue.bytes with
  | incomplete => simp [Frames.map, decodeAll, decodeUpTo, decode, read]
  | failed error => simp [Frames.map, decodeAll, decodeUpTo, decode, read]
  | opens kind length =>
    have header := headerLength_le read
    by_cases short : queue.size < headerLength + length
    · have lacks : splitExactly? length (queue.bytes.drop headerLength) = none :=
        splitExactly?_of_lt (by rw [List.length_drop]; omega)
      simp [short, lacks, Frames.map, decodeAll, decodeUpTo, decode, read]
    · simp [short, Frames.map]

end TileServer.Wire

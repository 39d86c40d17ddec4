import TileServer.Text.Utf8

namespace TileServer.Wire

/-- Waiting bytes in pieces: the older ones in order, and the newer ones latest first. -/
structure ByteQueue where
  front : List Bytes
  back : List Bytes
  size : Nat
  size_eq : size = (front ++ back.reverse).flatten.length

namespace ByteQueue

def bytes (queue : ByteQueue) : Bytes :=
  (queue.front ++ queue.back.reverse).flatten

theorem length_bytes (queue : ByteQueue) : queue.bytes.length = queue.size :=
  queue.size_eq.symm

instance : Repr ByteQueue := ⟨fun queue level => reprPrec queue.bytes level⟩

def empty : ByteQueue := ⟨[], [], 0, rfl⟩

def ofBytes (bytes : Bytes) : ByteQueue :=
  ⟨[bytes], [], bytes.length, by simp⟩

def isEmpty (queue : ByteQueue) : Bool := queue.size == 0

def push (queue : ByteQueue) (bytes : Bytes) : ByteQueue :=
  ⟨queue.front, bytes :: queue.back, queue.size + bytes.length, by
    simp [queue.size_eq]; omega⟩

def takePieces : Nat → List Bytes → List Bytes
  | _, [] => []
  | 0, _ => []
  | count + 1, piece :: rest =>
    let part := piece.take (count + 1)
    part :: takePieces (count + 1 - part.length) rest

def dropPieces : Nat → List Bytes → List Bytes
  | _, [] => []
  | count, piece :: rest => match piece.drop count with
    | [] => dropPieces (count - piece.length) rest
    | byte :: left => (byte :: left) :: rest

theorem flatten_takePieces (count : Nat) (pieces : List Bytes) :
    (takePieces count pieces).flatten = pieces.flatten.take count := by
  fun_induction takePieces count pieces with
  | case1 | case2 => simp
  | case3 count piece rest part ih =>
    rw [List.flatten_cons, ih, List.flatten_cons, List.take_append]
    rcases Nat.le_total (count + 1) piece.length with short | long
    · rw [List.length_take_of_le short, Nat.sub_self, Nat.sub_eq_zero_of_le short]
    · rw [show part = piece from List.take_of_length_le long, List.take_of_length_le long]

theorem flatten_dropPieces (count : Nat) (pieces : List Bytes) :
    (dropPieces count pieces).flatten = pieces.flatten.drop count := by
  fun_induction dropPieces count pieces with
  | case1 => simp
  | case2 count piece rest spent ih =>
    rw [ih, List.flatten_cons, List.drop_append, spent, List.nil_append]
  | case3 count piece rest byte left behind =>
    have short : count - piece.length = 0 := by
      have long := congrArg List.length behind
      simp only [List.length_drop, List.length_cons] at long
      omega
    rw [List.flatten_cons, List.flatten_cons, List.drop_append, behind, short, List.drop_zero]

def take (queue : ByteQueue) (count : Nat) : Bytes :=
  (takePieces count (queue.front ++ queue.back.reverse)).flatten

def drop (queue : ByteQueue) (count : Nat) : ByteQueue :=
  if queue.size ≤ count then empty
  else if count = 0 then queue
  else ⟨dropPieces count (queue.front ++ queue.back.reverse), [], queue.size - count, by
    rw [List.reverse_nil, List.append_nil, flatten_dropPieces, List.length_drop, ← queue.size_eq]⟩

@[simp] theorem bytes_empty : empty.bytes = [] := rfl

@[simp] theorem bytes_ofBytes (bytes : Bytes) : (ofBytes bytes).bytes = bytes := by
  simp [ofBytes, ByteQueue.bytes]

@[simp] theorem bytes_push (queue : ByteQueue) (bytes : Bytes) :
    (queue.push bytes).bytes = queue.bytes ++ bytes := by
  simp [push, ByteQueue.bytes]

@[simp] theorem take_eq (queue : ByteQueue) (count : Nat) :
    queue.take count = queue.bytes.take count :=
  flatten_takePieces count _

@[simp] theorem bytes_drop (queue : ByteQueue) (count : Nat) :
    (queue.drop count).bytes = queue.bytes.drop count := by
  unfold drop
  split
  · rename_i all
    rw [bytes_empty, List.drop_of_length_le]
    rw [length_bytes]
    exact all
  · split
    · rename_i none
      simp [none]
    · simp [ByteQueue.bytes, flatten_dropPieces]

end ByteQueue

end TileServer.Wire

import TileServer.Text.Utf8

namespace TileServer.Wire

structure Message where
  kind : UInt32
  payload : Bytes
  deriving Repr, DecidableEq

def magic : Bytes := [0x69, 0x33, 0x2d, 0x69, 0x70, 0x63]

def headerLength : Nat := 14

def defaultMaxPayload : Nat := 64 * 1024 * 1024

def maxLength : Nat := 4294967295

inductive FrameError
  | badMagic
  | tooLarge (length max : Nat)
  deriving Repr, DecidableEq

def FrameError.message : FrameError → String
  | .badMagic => "Invalid message header: expected \"i3-ipc\" magic"
  | .tooLarge length max =>
    "Message payload of " ++ toString length ++ " bytes exceeds the limit of " ++ toString max ++
      " bytes"

def littleEndian (word : UInt32) : Bytes :=
  [word.toUInt8, (word >>> 8).toUInt8, (word >>> 16).toUInt8, (word >>> 24).toUInt8]

def ofLittleEndian (b0 b1 b2 b3 : UInt8) : UInt32 :=
  b0.toUInt32 ||| (b1.toUInt32 <<< 8) ||| (b2.toUInt32 <<< 16) ||| (b3.toUInt32 <<< 24)

def frame (message : Message) : Bytes :=
  magic ++ littleEndian (UInt32.ofNat message.payload.length) ++ littleEndian message.kind ++
    message.payload

def encode (message : Message) : Except FrameError Bytes :=
  if maxLength < message.payload.length then
    .error (.tooLarge message.payload.length maxLength)
  else .ok (frame message)

def Message.frameLength (message : Message) : Nat :=
  headerLength + message.payload.length

def splitExactly? (count : Nat) (items : List α) : Option (List α × List α) :=
  let (front, rest) := items.splitAt count
  if front.length = count then some (front, rest) else none

inductive Decoded (Buffer : Type)
  | incomplete
  | message (message : Message) (rest : Buffer)
  | failed (error : FrameError)
  deriving Repr, DecidableEq

inductive Header
  | incomplete
  | failed (error : FrameError)
  | opens (kind : UInt32) (length : Nat)
  deriving Repr, DecidableEq

/-- Reads the header at the front of a buffer. A wrong magic is seen on the first byte that differs;
the announced length is judged as soon as the header is complete. -/
def readHeader (maxPayload : Nat) (buffer : Bytes) : Header :=
  if !(magic.isPrefixOf buffer || buffer.isPrefixOf magic) then .failed .badMagic
  else match buffer.drop magic.length with
    | l0 :: l1 :: l2 :: l3 :: k0 :: k1 :: k2 :: k3 :: _ =>
      let length := (ofLittleEndian l0 l1 l2 l3).toNat
      if maxPayload < length then .failed (.tooLarge length maxPayload)
      else .opens (ofLittleEndian k0 k1 k2 k3) length
    | _ => .incomplete

def decode (maxPayload : Nat) (buffer : Bytes) : Decoded Bytes :=
  match readHeader maxPayload buffer with
  | .incomplete => .incomplete
  | .failed error => .failed error
  | .opens kind length => match splitExactly? length (buffer.drop headerLength) with
    | some (payload, rest) => .message ⟨kind, payload⟩ rest
    | none => .incomplete

theorem splitExactly?_eq_some {count : Nat} {items front rest : List α}
    (split : splitExactly? count items = some (front, rest)) :
    items = front ++ rest ∧ front.length = count := by
  unfold splitExactly? at split
  simp only [List.splitAt_eq] at split
  split at split
  · rename_i exactly
    cases split
    exact ⟨(List.take_append_drop count items).symm, exactly⟩
  · cases split

theorem splitExactly?_of_le {count : Nat} {items : List α} (enough : count ≤ items.length) :
    splitExactly? count items = some (items.take count, items.drop count) := by
  simp [splitExactly?, Nat.min_eq_left enough]

theorem splitExactly?_of_lt {count : Nat} {items : List α} (few : items.length < count) :
    splitExactly? count items = none := by
  have short : min count items.length ≠ count := by omega
  simp [splitExactly?, short]

theorem readHeader_take (maxPayload : Nat) (buffer : Bytes) :
    readHeader maxPayload (buffer.take headerLength) = readHeader maxPayload buffer := by
  rcases buffer with _ | ⟨_, _ | ⟨_, _ | ⟨_, _ | ⟨_, _ | ⟨_, _ | ⟨_, _ | ⟨_, _ | ⟨_, _ | ⟨_, _ |
    ⟨_, _ | ⟨_, _ | ⟨_, _ | ⟨_, _ | ⟨_, _⟩⟩⟩⟩⟩⟩⟩⟩⟩⟩⟩⟩⟩⟩ <;> rfl

theorem headerLength_le {maxPayload : Nat} {buffer : Bytes} {kind : UInt32} {length : Nat}
    (read : readHeader maxPayload buffer = .opens kind length) : headerLength ≤ buffer.length := by
  unfold readHeader at read
  split at read
  · cases read
  · split at read
    · rename_i header
      have dropped := congrArg List.length header
      simp only [List.length_drop, List.length_cons] at dropped
      simp only [magic, List.length_cons, List.length_nil] at dropped
      simp only [headerLength]
      omega
    · cases read

theorem length_decode {maxPayload : Nat} {buffer rest : Bytes} {message : Message}
    (decoded : decode maxPayload buffer = .message message rest) :
    buffer.length = message.frameLength + rest.length := by
  unfold decode at decoded
  split at decoded
  · cases decoded
  · cases decoded
  · rename_i kind length read
    have header := headerLength_le read
    split at decoded
    · rename_i split
      cases decoded
      have joined := congrArg List.length (splitExactly?_eq_some split).1
      rw [List.length_drop, List.length_append] at joined
      simp only [Message.frameLength]
      omega
    · cases decoded

theorem length_rest_lt {maxPayload : Nat} {buffer rest : Bytes} {message : Message}
    (decoded : decode maxPayload buffer = .message message rest) : rest.length < buffer.length := by
  have joined := length_decode decoded
  simp only [Message.frameLength, headerLength] at joined
  omega

/-- All frames at the front of a buffer, what is left behind them, and the error that stopped the
reading, if one did. -/
structure Frames (Buffer : Type) where
  messages : List Message
  rest : Buffer
  error : Option FrameError
  deriving Repr, DecidableEq

def decodeUpTo (maxPayload : Nat) : Nat → List Message → Bytes → Frames Bytes
  | 0, done, buffer => ⟨done.reverse, buffer, none⟩
  | attempts + 1, done, buffer => match decode maxPayload buffer with
    | .incomplete => ⟨done.reverse, buffer, none⟩
    | .failed error => ⟨done.reverse, buffer, some error⟩
    | .message message rest => decodeUpTo maxPayload attempts (message :: done) rest

def decodeAll (maxPayload : Nat) (buffer : Bytes) : Frames Bytes :=
  decodeUpTo maxPayload (buffer.length / headerLength + 1) [] buffer

end TileServer.Wire

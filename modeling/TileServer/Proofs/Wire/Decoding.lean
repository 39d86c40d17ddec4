import Mathlib.Data.List.Induction
import TileServer.Wire.Stream

namespace TileServer.Wire

def Agrees (buffer : Bytes) : Prop := magic <+: buffer ∨ buffer <+: magic

theorem agrees_of_append {buffer more : Bytes} (agrees : Agrees (buffer ++ more)) :
    Agrees buffer := by
  rcases agrees with starts | short
  · exact List.prefix_or_prefix_of_prefix starts (List.prefix_append buffer more)
  · exact Or.inr ((List.prefix_append buffer more).trans short)

theorem agrees_iff (buffer : Bytes) :
    (magic.isPrefixOf buffer || buffer.isPrefixOf magic) = true ↔ Agrees buffer := by
  rw [Bool.or_eq_true, List.isPrefixOf_iff_prefix, List.isPrefixOf_iff_prefix, Agrees]

theorem readHeader_of_not_agrees (maxPayload : Nat) {buffer : Bytes} (differs : ¬ Agrees buffer) :
    readHeader maxPayload buffer = .failed .badMagic := by
  rw [← agrees_iff, Bool.not_eq_true] at differs
  simp only [readHeader, differs, Bool.not_false, if_true]

theorem differs_or_complete {maxPayload : Nat} {buffer : Bytes} {error : FrameError}
    (read : readHeader maxPayload buffer = .failed error) :
    (¬ Agrees buffer ∧ error = .badMagic) ∨ headerLength ≤ buffer.length := by
  unfold readHeader at read
  split at read
  · rename_i differs
    cases read
    left
    rw [Bool.not_eq_true', ← Bool.not_eq_true, agrees_iff] at differs
    exact ⟨differs, rfl⟩
  · split at read
    · rename_i header
      right
      have dropped := congrArg List.length header
      simp only [List.length_drop, List.length_cons] at dropped
      simp only [magic, List.length_cons, List.length_nil] at dropped
      simp only [headerLength]
      omega
    · cases read

theorem readHeader_append_of_le (maxPayload : Nat) {buffer : Bytes} (more : Bytes)
    (complete : headerLength ≤ buffer.length) :
    readHeader maxPayload (buffer ++ more) = readHeader maxPayload buffer := by
  rw [← readHeader_take, List.take_append_of_le_length complete, readHeader_take]

theorem readHeader_append_of_failed {maxPayload : Nat} {buffer : Bytes} {error : FrameError}
    (more : Bytes) (read : readHeader maxPayload buffer = .failed error) :
    readHeader maxPayload (buffer ++ more) = .failed error := by
  rcases differs_or_complete read with ⟨differs, rfl⟩ | complete
  · exact readHeader_of_not_agrees maxPayload (fun agrees => differs (agrees_of_append agrees))
  · rw [readHeader_append_of_le maxPayload more complete, read]

theorem decode_append_of_failed {maxPayload : Nat} {buffer : Bytes} {error : FrameError}
    (more : Bytes) (failed : decode maxPayload buffer = .failed error) :
    decode maxPayload (buffer ++ more) = .failed error := by
  unfold decode at failed
  split at failed
  · cases failed
  · rename_i read
    cases failed
    simp only [decode, readHeader_append_of_failed more read]
  · split at failed <;> cases failed

theorem decode_append_of_message {maxPayload : Nat} {buffer rest : Bytes} {message : Message}
    (more : Bytes) (taken : decode maxPayload buffer = .message message rest) :
    decode maxPayload (buffer ++ more) = .message message (rest ++ more) := by
  unfold decode at taken
  split at taken
  · cases taken
  · cases taken
  · rename_i kind length read
    have header := headerLength_le read
    split at taken
    · rename_i payload left split
      cases taken
      obtain ⟨joined, exactly⟩ := splitExactly?_eq_some split
      have longer : (buffer ++ more).drop headerLength = payload ++ (rest ++ more) := by
        rw [List.drop_append_of_le_length header, joined, List.append_assoc]
      have splits : splitExactly? length ((buffer ++ more).drop headerLength) =
          some (payload, rest ++ more) := by
        rw [longer, splitExactly?_of_le (by rw [List.length_append]; omega)]
        simp [← exactly]
      simp only [decode, readHeader_append_of_le maxPayload more header, read, splits]
    · cases taken

def Frames.behind {Buffer : Type} (front : List Message) (frames : Frames Buffer) : Frames Buffer :=
  ⟨front ++ frames.messages, frames.rest, frames.error⟩

@[simp] theorem Frames.behind_nil {Buffer : Type} (frames : Frames Buffer) :
    frames.behind [] = frames := rfl

@[simp] theorem Frames.behind_behind {Buffer : Type} (first second : List Message)
    (frames : Frames Buffer) :
    (frames.behind second).behind first = frames.behind (first ++ second) := by
  simp [Frames.behind]

def Frames.stop {Buffer : Type} (frames : Frames Buffer) : Decoded Buffer :=
  match frames.error with
  | none => .incomplete
  | some error => .failed error

theorem decodeUpTo_eq_behind (maxPayload attempts : Nat) (done : List Message) (buffer : Bytes) :
    decodeUpTo maxPayload attempts done buffer =
      (decodeUpTo maxPayload attempts [] buffer).behind done.reverse := by
  induction attempts generalizing done buffer with
  | zero => simp [decodeUpTo, Frames.behind]
  | succ attempts ih =>
    simp only [decodeUpTo]
    cases decode maxPayload buffer with
    | incomplete => simp [Frames.behind]
    | failed error => simp [Frames.behind]
    | message message rest =>
      simp only
      rw [ih (message :: done), ih [message]]
      simp

theorem attempts_rest_lt {maxPayload attempts : Nat} {buffer rest : Bytes} {message : Message}
    (taken : decode maxPayload buffer = .message message rest)
    (enough : buffer.length / headerLength < attempts + 1) :
    rest.length / headerLength < attempts := by
  have joined := length_decode taken
  simp only [Message.frameLength, headerLength] at joined enough ⊢
  omega

theorem decodeUpTo_of_enough {maxPayload attempts more : Nat} {buffer : Bytes}
    (enough : buffer.length / headerLength < attempts)
    (enoughToo : buffer.length / headerLength < more) :
    decodeUpTo maxPayload attempts [] buffer = decodeUpTo maxPayload more [] buffer := by
  induction attempts generalizing more buffer with
  | zero => exact absurd enough (Nat.not_lt_zero _)
  | succ attempts ih =>
    obtain ⟨others, rfl⟩ := Nat.exists_eq_succ_of_ne_zero (Nat.ne_zero_of_lt enoughToo)
    simp only [decodeUpTo]
    cases taken : decode maxPayload buffer with
    | incomplete => rfl
    | failed error => rfl
    | message message rest =>
      simp only
      rw [decodeUpTo_eq_behind, decodeUpTo_eq_behind maxPayload others,
        ih (attempts_rest_lt taken enough) (attempts_rest_lt taken enoughToo)]

theorem decodeAll_of_incomplete {maxPayload : Nat} {buffer : Bytes}
    (incomplete : decode maxPayload buffer = .incomplete) :
    decodeAll maxPayload buffer = ⟨[], buffer, none⟩ := by
  simp [decodeAll, decodeUpTo, incomplete]

theorem decodeAll_of_failed {maxPayload : Nat} {buffer : Bytes} {error : FrameError}
    (failed : decode maxPayload buffer = .failed error) :
    decodeAll maxPayload buffer = ⟨[], buffer, some error⟩ := by
  simp [decodeAll, decodeUpTo, failed]

theorem decodeAll_of_message {maxPayload : Nat} {buffer rest : Bytes} {message : Message}
    (taken : decode maxPayload buffer = .message message rest) :
    decodeAll maxPayload buffer = (decodeAll maxPayload rest).behind [message] := by
  have enough : rest.length / headerLength < buffer.length / headerLength :=
    attempts_rest_lt taken (Nat.lt_succ_self _)
  rw [decodeAll, decodeUpTo, taken]
  simp only
  rw [decodeUpTo_eq_behind, decodeUpTo_of_enough enough (Nat.lt_succ_self _)]
  rfl

theorem decode_rest (maxPayload : Nat) (buffer : Bytes) :
    decode maxPayload (decodeAll maxPayload buffer).rest = (decodeAll maxPayload buffer).stop := by
  induction size : buffer.length using Nat.strongRecOn generalizing buffer with
  | _ size ih =>
    cases taken : decode maxPayload buffer with
    | incomplete => rw [decodeAll_of_incomplete taken]; exact taken
    | failed error => rw [decodeAll_of_failed taken]; exact taken
    | message message rest =>
      rw [decodeAll_of_message taken]
      exact ih rest.length (size ▸ length_rest_lt taken) rest rfl

theorem decodeAll_append (maxPayload : Nat) (buffer more : Bytes) :
    decodeAll maxPayload (buffer ++ more) =
      (decodeAll maxPayload ((decodeAll maxPayload buffer).rest ++ more)).behind
        (decodeAll maxPayload buffer).messages := by
  -- A frame of the front is a frame of the whole, and what is left behind it is shorter.
  induction size : buffer.length using Nat.strongRecOn generalizing buffer with
  | _ size ih =>
    cases taken : decode maxPayload buffer with
    | incomplete => rw [decodeAll_of_incomplete taken, Frames.behind_nil]
    | failed error => rw [decodeAll_of_failed taken, Frames.behind_nil]
    | message message rest =>
      rw [decodeAll_of_message taken, decodeAll_of_message (decode_append_of_message more taken),
        ih rest.length (size ▸ length_rest_lt taken) rest rfl, Frames.behind_behind]
      rfl

theorem decodeAll_append_behind {maxPayload : Nat} {whole left : Bytes} {front : List Message}
    (more : Bytes) (known : decodeAll maxPayload whole = (decodeAll maxPayload left).behind front) :
    decodeAll maxPayload (whole ++ more) =
      (decodeAll maxPayload (left ++ more)).behind front := by
  rw [decodeAll_append, known, decodeAll_append maxPayload left, Frames.behind_behind]
  rfl

theorem messages_prefix_append (maxPayload : Nat) (buffer more : Bytes) :
    (decodeAll maxPayload buffer).messages <+: (decodeAll maxPayload (buffer ++ more)).messages := by
  rw [decodeAll_append]
  exact List.prefix_append _ _

def Frames.feed (maxPayload : Nat) (sofar : Frames ByteQueue) (chunk : Bytes) : Frames ByteQueue :=
  (takeFrames maxPayload (sofar.rest.push chunk)).behind sofar.messages

/-- Reads a stream that comes in chunks, each as soon as it is there. -/
def readChunks (maxPayload : Nat) (chunks : List Bytes) : Frames ByteQueue :=
  chunks.foldl (Frames.feed maxPayload) ⟨[], .empty, none⟩

theorem map_feed (maxPayload : Nat) (sofar : Frames ByteQueue) (chunk : Bytes) :
    (sofar.feed maxPayload chunk).map ByteQueue.bytes =
      (decodeAll maxPayload (sofar.rest.bytes ++ chunk)).behind sofar.messages := by
  rw [← ByteQueue.bytes_push, ← map_takeFrames]
  rfl

theorem map_readChunks (maxPayload : Nat) (chunks : List Bytes) :
    (readChunks maxPayload chunks).map ByteQueue.bytes = decodeAll maxPayload chunks.flatten := by
  induction chunks using List.reverseRecOn with
  | nil => rfl
  | append_singleton chunks chunk ih =>
    have fed : readChunks maxPayload (chunks ++ [chunk]) =
        (readChunks maxPayload chunks).feed maxPayload chunk := by
      simp [readChunks]
    have rest := congrArg Frames.rest ih
    have messages := congrArg Frames.messages ih
    simp only [Frames.map] at rest messages
    rw [fed, map_feed, rest, messages, List.flatten_append, List.flatten_singleton,
      ← decodeAll_append]

/-- However a stream is cut, reading it chunk by chunk gives the messages, the bytes left and the end
that reading it in one piece gives; reading stops there only because no complete frame is left or
because what follows is no frame; and both a failure and a message stand whatever follows. -/
theorem chunking_independence (maxPayload : Nat) :
    (∀ chunks : List Bytes,
      (readChunks maxPayload chunks).map ByteQueue.bytes = decodeAll maxPayload chunks.flatten) ∧
    (∀ buffer, decode maxPayload (decodeAll maxPayload buffer).rest =
      (decodeAll maxPayload buffer).stop) ∧
    (∀ buffer error more, decode maxPayload buffer = .failed error →
      decode maxPayload (buffer ++ more) = .failed error ∧
        decodeAll maxPayload (buffer ++ more) = ⟨[], buffer ++ more, some error⟩) ∧
    (∀ buffer message rest more, decode maxPayload buffer = .message message rest →
      decode maxPayload (buffer ++ more) = .message message (rest ++ more)) := by
  refine ⟨map_readChunks maxPayload, decode_rest maxPayload, ?_, ?_⟩
  · intro buffer error more failed
    have again := decode_append_of_failed more failed
    exact ⟨again, decodeAll_of_failed again⟩
  · intro buffer message rest more taken
    exact decode_append_of_message more taken

/-- A wrong first byte is refused whatever follows it, and a frame is read whatever follows it. -/
theorem verdicts_stand :
    decode 16 [0x47] = .failed .badMagic ∧ decode 16 ([0x47] ++ magic) = .failed .badMagic ∧
      decode 16 (frame ⟨7, []⟩) = .message ⟨7, []⟩ [] ∧
      decode 16 (frame ⟨7, []⟩ ++ [0x47]) = .message ⟨7, []⟩ ([] ++ [0x47]) :=
  ⟨by decide, ((chunking_independence 16).2.2.1 [0x47] _ magic (by decide)).1, by decide,
    (chunking_independence 16).2.2.2 (frame ⟨7, []⟩) _ _ [0x47] (by decide)⟩

end TileServer.Wire

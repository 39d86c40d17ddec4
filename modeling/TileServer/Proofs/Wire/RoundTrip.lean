import Mathlib.Data.Nat.Bitwise
import TileServer.Proofs.Wire.Decoding

namespace TileServer.Wire

theorem or_shiftLeft {low : Nat} (places high : Nat) (bound : low < 2 ^ places) :
    low ||| high <<< places = low + 2 ^ places * high := by
  have disjoint := Nat.shiftLeft_add_eq_or_of_lt bound high
  rw [Nat.shiftLeft_eq, Nat.mul_comm] at disjoint
  rw [Nat.shiftLeft_eq, Nat.mul_comm high, Nat.or_comm, ← disjoint, Nat.add_comm]

theorem toNat_byte_shiftLeft (byte : UInt8) {places : UInt32} (few : places.toNat ≤ 24) :
    (byte.toUInt32 <<< places).toNat = byte.toNat <<< places.toNat := by
  have width : places.toNat % 32 = places.toNat := Nat.mod_eq_of_lt (by omega)
  have fits : byte.toNat * 2 ^ places.toNat < 2 ^ 32 := by
    calc byte.toNat * 2 ^ places.toNat < 2 ^ 8 * 2 ^ places.toNat :=
          Nat.mul_lt_mul_of_pos_right byte.toNat_lt (Nat.two_pow_pos _)
      _ ≤ 2 ^ 8 * 2 ^ 24 := Nat.mul_le_mul_left _ (Nat.pow_le_pow_right (by decide) few)
      _ = 2 ^ 32 := by decide
  rw [UInt32.toNat_shiftLeft, UInt8.toNat_toUInt32, width, Nat.mod_eq_of_lt]
  rw [Nat.shiftLeft_eq]
  exact fits

theorem toNat_ofLittleEndian (b0 b1 b2 b3 : UInt8) :
    (ofLittleEndian b0 b1 b2 b3).toNat =
      b0.toNat + 2 ^ 8 * b1.toNat + 2 ^ 16 * b2.toNat + 2 ^ 24 * b3.toNat := by
  have bound0 := b0.toNat_lt
  have bound1 := b1.toNat_lt
  have bound2 := b2.toNat_lt
  simp only [ofLittleEndian, UInt32.toNat_or]
  rw [toNat_byte_shiftLeft b1 (by decide), toNat_byte_shiftLeft b2 (by decide),
    toNat_byte_shiftLeft b3 (by decide), UInt8.toNat_toUInt32]
  change b0.toNat ||| b1.toNat <<< 8 ||| b2.toNat <<< 16 ||| b3.toNat <<< 24 = _
  rw [or_shiftLeft 8 _ bound0, or_shiftLeft 16 _ (by omega), or_shiftLeft 24 _ (by omega)]

theorem toNat_littleEndian (word : UInt32) :
    word.toUInt8.toNat = word.toNat % 2 ^ 8 ∧
      (word >>> 8).toUInt8.toNat = word.toNat / 2 ^ 8 % 2 ^ 8 ∧
      (word >>> 16).toUInt8.toNat = word.toNat / 2 ^ 16 % 2 ^ 8 ∧
      (word >>> 24).toUInt8.toNat = word.toNat / 2 ^ 24 % 2 ^ 8 := by
  simp [UInt32.toNat_shiftRight, Nat.shiftRight_eq_div_pow]

theorem ofLittleEndian_littleEndian (word : UInt32) :
    ofLittleEndian word.toUInt8 (word >>> 8).toUInt8 (word >>> 16).toUInt8 (word >>> 24).toUInt8 =
      word := by
  obtain ⟨first, second, third, fourth⟩ := toNat_littleEndian word
  have bound := word.toNat_lt
  apply UInt32.toNat_inj.1
  rw [toNat_ofLittleEndian, first, second, third, fourth]
  omega

theorem littleEndian_ofLittleEndian (b0 b1 b2 b3 : UInt8) :
    littleEndian (ofLittleEndian b0 b1 b2 b3) = [b0, b1, b2, b3] := by
  obtain ⟨first, second, third, fourth⟩ := toNat_littleEndian (ofLittleEndian b0 b1 b2 b3)
  rw [toNat_ofLittleEndian] at first second third fourth
  have bound0 := b0.toNat_lt
  have bound1 := b1.toNat_lt
  have bound2 := b2.toNat_lt
  have bound3 := b3.toNat_lt
  have same0 : (ofLittleEndian b0 b1 b2 b3).toUInt8 = b0 := UInt8.toNat_inj.1 (by omega)
  have same1 : (ofLittleEndian b0 b1 b2 b3 >>> 8).toUInt8 = b1 := UInt8.toNat_inj.1 (by omega)
  have same2 : (ofLittleEndian b0 b1 b2 b3 >>> 16).toUInt8 = b2 := UInt8.toNat_inj.1 (by omega)
  have same3 : (ofLittleEndian b0 b1 b2 b3 >>> 24).toUInt8 = b3 := UInt8.toNat_inj.1 (by omega)
  rw [littleEndian, same0, same1, same2, same3]

def header (length kind : UInt32) : Bytes := magic ++ littleEndian length ++ littleEndian kind

theorem length_header (length kind : UInt32) : (header length kind).length = headerLength := rfl

theorem readHeader_header (maxPayload : Nat) (length kind : UInt32) (tail : Bytes) :
    readHeader maxPayload (header length kind ++ tail) =
      if maxPayload < length.toNat then .failed (.tooLarge length.toNat maxPayload)
      else .opens kind length.toNat := by
  have agrees : Agrees (header length kind ++ tail) :=
    Or.inl ⟨littleEndian length ++ littleEndian kind ++ tail, by simp [header]⟩
  rw [← agrees_iff] at agrees
  unfold readHeader
  rw [agrees]
  change (if maxPayload < (ofLittleEndian _ _ _ _).toNat then _ else Header.opens _ _) = _
  rw [ofLittleEndian_littleEndian, ofLittleEndian_littleEndian]

theorem eq_header_of_opens {maxPayload length : Nat} {buffer : Bytes} {kind : UInt32}
    (read : readHeader maxPayload buffer = .opens kind length) :
    ∃ word tail, buffer = header word kind ++ tail ∧ word.toNat = length ∧ length ≤ maxPayload := by
  have complete := headerLength_le read
  unfold readHeader at read
  split at read
  · cases read
  · rename_i agrees
    rw [Bool.not_eq_true, Bool.not_eq_false', agrees_iff] at agrees
    have starts : magic <+: buffer := by
      rcases agrees with starts | short
      · exact starts
      · have bound := short.length_le
        simp only [magic, List.length_cons, List.length_nil] at bound
        simp only [headerLength] at complete
        omega
    obtain ⟨body, rfl⟩ := starts
    rw [List.drop_left] at read
    split at read
    · rename_i l0 l1 l2 l3 k0 k1 k2 k3 tail
      simp only at read
      split at read
      · cases read
      · rename_i fits
        cases read
        refine ⟨ofLittleEndian l0 l1 l2 l3, tail, ?_, rfl, Nat.le_of_not_lt fits⟩
        rw [header, littleEndian_ofLittleEndian, littleEndian_ofLittleEndian]
        simp
    · cases read

theorem toNat_length {message : Message} (fits : message.payload.length ≤ maxLength) :
    (UInt32.ofNat message.payload.length).toNat = message.payload.length :=
  UInt32.toNat_ofNat_of_lt' (by simp only [maxLength] at fits; simp only [UInt32.size]; omega)

theorem frame_eq (message : Message) :
    frame message =
      header (UInt32.ofNat message.payload.length) message.kind ++ message.payload := rfl

theorem encode_of_le {message : Message} (fits : message.payload.length ≤ maxLength) :
    encode message = .ok (frame message) := by
  simp only [encode, Nat.not_lt.2 fits, if_false]

theorem encode_eq_ok {message : Message} {bytes : Bytes} (encoded : encode message = .ok bytes) :
    message.payload.length ≤ maxLength ∧ bytes = frame message := by
  unfold encode at encoded
  split at encoded
  · cases encoded
  · rename_i fits
    cases encoded
    exact ⟨Nat.le_of_not_lt fits, rfl⟩

theorem decode_frame {maxPayload : Nat} {message : Message} (rest : Bytes)
    (small : message.payload.length ≤ maxPayload) (fits : message.payload.length ≤ maxLength) :
    decode maxPayload (frame message ++ rest) = .message message rest := by
  have body : (frame message ++ rest).drop headerLength = message.payload ++ rest := by
    rw [frame_eq, List.append_assoc,
      ← length_header (UInt32.ofNat message.payload.length) message.kind, List.drop_left]
  have splits : splitExactly? message.payload.length (message.payload ++ rest) =
      some (message.payload, rest) := by
    rw [splitExactly?_of_le (by rw [List.length_append]; omega), List.take_left, List.drop_left]
  unfold decode
  rw [body, frame_eq, List.append_assoc, readHeader_header, toNat_length fits,
    if_neg (Nat.not_lt.2 small)]
  simp only [splits]

theorem eq_frame_of_decode {maxPayload : Nat} {buffer rest : Bytes} {message : Message}
    (taken : decode maxPayload buffer = .message message rest) :
    buffer = frame message ++ rest ∧ message.payload.length ≤ maxPayload ∧
      message.payload.length ≤ maxLength := by
  unfold decode at taken
  split at taken
  · cases taken
  · cases taken
  · rename_i kind length read
    obtain ⟨word, tail, rfl, rfl, small⟩ := eq_header_of_opens read
    rw [← length_header word kind, List.drop_left] at taken
    split at taken
    · rename_i payload left split
      cases taken
      obtain ⟨rfl, exactly⟩ := splitExactly?_eq_some split
      have fits := word.toNat_lt
      refine ⟨?_, by rw [exactly]; exact small, by rw [exactly, maxLength]; omega⟩
      rw [frame_eq]
      simp only [exactly, UInt32.ofNat_toNat, List.append_assoc]
    · cases taken

theorem eq_frame_of_takeFrame {maxPayload : Nat} {queue rest : ByteQueue} {message : Message}
    (taken : takeFrame maxPayload queue = .message message rest) :
    queue.bytes = frame message ++ rest.bytes ∧ message.payload.length ≤ maxLength := by
  have decoded := map_takeFrame maxPayload queue
  rw [taken] at decoded
  obtain ⟨joined, _, fits⟩ := eq_frame_of_decode decoded.symm
  exact ⟨joined, fits⟩

def encodeAll : List Message → Except FrameError Bytes
  | [] => .ok []
  | message :: rest => do
    let front ← encode message
    let back ← encodeAll rest
    return front ++ back

theorem encodeAll_cons {message : Message} {messages : List Message} {back : Bytes}
    (fits : message.payload.length ≤ maxLength) (encoded : encodeAll messages = .ok back) :
    encodeAll (message :: messages) = .ok (frame message ++ back) := by
  rw [encodeAll, encode_of_le fits, encoded]
  rfl

theorem encodeAll_of_le {messages : List Message}
    (fits : ∀ message ∈ messages, message.payload.length ≤ maxLength) :
    encodeAll messages = .ok (messages.flatMap frame) := by
  induction messages with
  | nil => rfl
  | cons message messages ih =>
    obtain ⟨first, others⟩ := List.forall_mem_cons.1 fits
    rw [encodeAll_cons first (ih others), List.flatMap_cons]

theorem encodeAll_cons_eq_ok {message : Message} {messages : List Message} {bytes : Bytes}
    (encoded : encodeAll (message :: messages) = .ok bytes) :
    ∃ back, message.payload.length ≤ maxLength ∧ encodeAll messages = .ok back ∧
      bytes = frame message ++ back := by
  rw [encodeAll] at encoded
  cases front : encode message with
  | error error => rw [front] at encoded; cases encoded
  | ok first =>
    cases behind : encodeAll messages with
    | error error => rw [front, behind] at encoded; cases encoded
    | ok back =>
      rw [front, behind] at encoded
      cases encoded
      obtain ⟨fits, rfl⟩ := encode_eq_ok front
      exact ⟨back, fits, rfl, rfl⟩

theorem decodeAll_encodeAll {maxPayload : Nat} {messages : List Message} (rest : Bytes)
    (fits : ∀ message ∈ messages,
      message.payload.length ≤ maxPayload ∧ message.payload.length ≤ maxLength) :
    ∃ encoded, encodeAll messages = .ok encoded ∧
      decodeAll maxPayload (encoded ++ rest) = (decodeAll maxPayload rest).behind messages := by
  induction messages with
  | nil => exact ⟨[], rfl, rfl⟩
  | cons message messages ih =>
    obtain ⟨small, short⟩ := fits message List.mem_cons_self
    obtain ⟨back, encoded, read⟩ := ih (fun other member => fits other (List.mem_cons_of_mem _ member))
    refine ⟨frame message ++ back, encodeAll_cons short encoded, ?_⟩
    rw [List.append_assoc, decodeAll_of_message (decode_frame _ small short), read,
      Frames.behind_behind]
    rfl

theorem encodeAll_decodeUpTo (maxPayload attempts : Nat) (buffer : Bytes) :
    ∃ encoded, encodeAll (decodeUpTo maxPayload attempts [] buffer).messages = .ok encoded ∧
      buffer = encoded ++ (decodeUpTo maxPayload attempts [] buffer).rest ∧
      ∀ message ∈ (decodeUpTo maxPayload attempts [] buffer).messages,
        message.payload.length ≤ maxPayload := by
  induction attempts generalizing buffer with
  | zero => exact ⟨[], rfl, rfl, by simp [decodeUpTo]⟩
  | succ attempts ih =>
    simp only [decodeUpTo]
    cases taken : decode maxPayload buffer with
    | incomplete => exact ⟨[], rfl, rfl, by simp⟩
    | failed error => exact ⟨[], rfl, rfl, by simp⟩
    | message message rest =>
      simp only
      rw [decodeUpTo_eq_behind]
      obtain ⟨back, encoded, joined, small⟩ := ih rest
      obtain ⟨front, bound, fits⟩ := eq_frame_of_decode taken
      refine ⟨frame message ++ back, encodeAll_cons fits encoded, ?_, ?_⟩
      · rw [List.append_assoc, Frames.behind, ← joined]
        exact front
      · intro other member
        rcases List.mem_cons.1 member with rfl | member
        · exact bound
        · exact small other member

theorem encodeAll_injective {first second : List Message} {encoded : Bytes}
    (one : encodeAll first = .ok encoded) (other : encodeAll second = .ok encoded) :
    first = second := by
  have readBack : ∀ {messages : List Message} {bytes : Bytes}, encodeAll messages = .ok bytes →
      decodeAll maxLength bytes = ⟨messages, [], none⟩ := by
    intro messages
    induction messages with
    | nil =>
      intro bytes encoded
      cases encoded
      rfl
    | cons message messages ih =>
      intro bytes encoded
      obtain ⟨back, fits, behind, rfl⟩ := encodeAll_cons_eq_ok encoded
      rw [decodeAll_of_message (decode_frame _ fits fits), ih behind]
      rfl
  have same := (readBack one).symm.trans (readBack other)
  exact congrArg Frames.messages same

theorem encodeAll_eq_ok {messages : List Message} {bytes : Bytes}
    (encoded : encodeAll messages = .ok bytes) :
    (∀ message ∈ messages, message.payload.length ≤ maxLength) ∧ bytes = messages.flatMap frame := by
  induction messages generalizing bytes with
  | nil =>
    cases encoded
    exact ⟨by simp, rfl⟩
  | cons message messages ih =>
    obtain ⟨back, fits, behind, rfl⟩ := encodeAll_cons_eq_ok encoded
    obtain ⟨others, rfl⟩ := ih behind
    exact ⟨List.forall_mem_cons.2 ⟨fits, others⟩, rfl⟩

theorem decodeAll_frames {messages : List Message} (rest : Bytes)
    (fits : ∀ message ∈ messages, message.payload.length ≤ maxLength) :
    decodeAll maxLength (messages.flatMap frame ++ rest) =
      (decodeAll maxLength rest).behind messages := by
  obtain ⟨encoded, same, read⟩ := decodeAll_encodeAll rest (fun message member =>
    ⟨fits message member, fits message member⟩)
  rw [encodeAll_of_le fits] at same
  cases same
  exact read

theorem prefix_of_frames {first second : List Message} {rest : Bytes}
    (fits : ∀ message ∈ first, message.payload.length ≤ maxLength)
    (others : ∀ message ∈ second, message.payload.length ≤ maxLength)
    (starts : first.flatMap frame ++ rest <+: second.flatMap frame) : first <+: second := by
  obtain ⟨more, joined⟩ := starts
  have whole := decodeAll_frames [] others
  rw [List.append_nil, ← joined, List.append_assoc, decodeAll_frames _ fits] at whole
  have same := congrArg Frames.messages whole
  simp only [Frames.behind] at same
  exact ⟨_, same.trans (List.append_nil _)⟩

theorem messages_prefix_of_frames (maxPayload : Nat) {messages : List Message} {bytes : Bytes}
    (fits : ∀ message ∈ messages, message.payload.length ≤ maxLength)
    (starts : bytes <+: messages.flatMap frame) :
    (decodeAll maxPayload bytes).messages <+: messages := by
  obtain ⟨encoded, same, split, _⟩ :=
    encodeAll_decodeUpTo maxPayload (bytes.length / headerLength + 1) bytes
  obtain ⟨short, rfl⟩ := encodeAll_eq_ok same
  rw [split] at starts
  exact prefix_of_frames short fits starts

theorem frames_prefix_of_messages {maxPayload : Nat} {messages : List Message} {bytes : Bytes}
    (starts : messages <+: (decodeAll maxPayload bytes).messages) :
    messages.flatMap frame <+: bytes := by
  obtain ⟨encoded, same, split, _⟩ :=
    encodeAll_decodeUpTo maxPayload (bytes.length / headerLength + 1) bytes
  obtain ⟨_, rfl⟩ := encodeAll_eq_ok same
  obtain ⟨more, joined⟩ := starts
  have read : (decodeUpTo maxPayload (bytes.length / headerLength + 1) [] bytes).messages =
      messages ++ more :=
    joined.symm
  rw [read, List.flatMap_append, List.append_assoc] at split
  exact ⟨_, split.symm⟩

/-- Messages whose payloads fit are encoded, and reading the encodings gives them in order and then
goes on as it would without them; what reading takes off a stream, be it one frame or all, has
payloads within the bound and is encoded just as it stood there; and no two sequences of messages
share an encoding. -/
theorem encode_decode_inverse (maxPayload : Nat) :
    (∀ messages rest,
      (∀ message ∈ messages,
        message.payload.length ≤ maxPayload ∧ message.payload.length ≤ maxLength) →
      ∃ encoded, encodeAll messages = .ok encoded ∧
        decodeAll maxPayload (encoded ++ rest) = (decodeAll maxPayload rest).behind messages) ∧
    (∀ attempts buffer, ∃ encoded,
      encodeAll (decodeUpTo maxPayload attempts [] buffer).messages = .ok encoded ∧
        buffer = encoded ++ (decodeUpTo maxPayload attempts [] buffer).rest ∧
        ∀ message ∈ (decodeUpTo maxPayload attempts [] buffer).messages,
          message.payload.length ≤ maxPayload) ∧
    (∀ first second encoded, encodeAll first = .ok encoded → encodeAll second = .ok encoded →
      first = second) :=
  ⟨fun _ rest fits => decodeAll_encodeAll rest fits, encodeAll_decodeUpTo maxPayload,
    fun _ _ _ one other => encodeAll_injective one other⟩

theorem encode_decode_magic :
    (∃ encoded, encodeAll [⟨9, magic⟩, ⟨0, []⟩] = .ok encoded ∧
      decodeAll 6 (encoded ++ [0x69]) = (decodeAll 6 [0x69]).behind [⟨9, magic⟩, ⟨0, []⟩]) ∧
    encodeAll [⟨9, magic⟩] = .ok (frame ⟨9, magic⟩) ∧
    ∀ others, encodeAll others = .ok (frame ⟨9, magic⟩) → [⟨9, magic⟩] = others :=
  have alone : encodeAll [⟨9, magic⟩] = .ok (frame ⟨9, magic⟩) := by decide
  ⟨(encode_decode_inverse 6).1 [⟨9, magic⟩, ⟨0, []⟩] [0x69] (by decide), alone,
    fun others same => (encode_decode_inverse 6).2.2 [⟨9, magic⟩] others _ alone same⟩

end TileServer.Wire

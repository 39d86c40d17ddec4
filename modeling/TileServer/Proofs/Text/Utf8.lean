import TileServer.Text.Utf8

namespace TileServer.Utf8

theorem toNat_valid (c : Char) : c.toNat < 0xd800 ∨ 0xdfff < c.toNat ∧ c.toNat < 0x110000 :=
  c.valid

theorem toNat_byte {n : Nat} (small : n < 0x100) : (UInt8.ofNat n).toNat = n :=
  UInt8.toNat_ofNat_of_lt' small

@[simp] theorem encode_nil : encode [] = [] :=
  rfl

@[simp] theorem encode_cons (c : Char) (text : List Char) :
    encode (c :: text) = encodeChar c ++ encode text :=
  List.flatMap_cons

@[simp] theorem encode_append (first second : List Char) :
    encode (first ++ second) = encode first ++ encode second :=
  List.flatMap_append

theorem encodeChar_of_ascii {c : Char} (ascii : c.toNat < 0x80) :
    encodeChar c = [UInt8.ofNat c.toNat] := by
  unfold encodeChar
  simp only [if_pos ascii]

theorem le_of_mem_encodeChar {c : Char} (wide : ¬ c.toNat < 0x80) {byte : UInt8}
    (member : byte ∈ encodeChar c) : 0x80 ≤ byte.toNat := by
  have valid := toNat_valid c
  have lead {n : Nat} (low : 0x80 ≤ n) (high : n < 0x100) : 0x80 ≤ (UInt8.ofNat n).toNat := by
    rw [toNat_byte high]
    exact low
  unfold encodeChar at member
  simp only [if_neg wide] at member
  split at member
  · simp only [List.mem_cons, List.not_mem_nil, or_false] at member
    rcases member with rfl | rfl <;> exact lead (by omega) (by omega)
  · split at member
    · simp only [List.mem_cons, List.not_mem_nil, or_false] at member
      rcases member with rfl | rfl | rfl <;> exact lead (by omega) (by omega)
    · simp only [List.mem_cons, List.not_mem_nil, or_false] at member
      rcases member with rfl | rfl | rfl | rfl <;> exact lead (by omega) (by omega)

section Inside

variable {low high : UInt8} {part : Nat} (few : part < 0x40) (least : low.toNat ≤ 0x80 + part)
  (most : 0x80 + part ≤ high.toNat)

include few least most

theorem within_of_le :
    (UInt8.ofNat (0x80 + part)).toNat - 0x80 = part ∧
      (low ≤ UInt8.ofNat (0x80 + part) && UInt8.ofNat (0x80 + part) ≤ high) = true := by
  have byte : (UInt8.ofNat (0x80 + part)).toNat = 0x80 + part := toNat_byte (by omega)
  refine ⟨by rw [byte, Nat.add_sub_cancel_left], ?_⟩
  simp only [Bool.and_eq_true, decide_eq_true_eq, UInt8.le_iff_toNat_le, byte]
  exact ⟨least, most⟩

theorem decodeFrom_last (value seen valid : Nat) (done : List Char) (rest : Bytes) :
    decodeFrom (.inside 0 low high value seen) valid done (UInt8.ofNat (0x80 + part) :: rest) =
      decodeFrom .start (valid + seen + 1) (Char.ofNat (value * 0x40 + part) :: done) rest := by
  obtain ⟨same, within⟩ := within_of_le few least most
  simp only [decodeFrom, State.step, within, if_true, same, State.seen]

theorem decodeFrom_more (more value seen valid : Nat) (done : List Char) (rest : Bytes) :
    decodeFrom (.inside (more + 1) low high value seen) valid done
        (UInt8.ofNat (0x80 + part) :: rest) =
      decodeFrom (.inside more 0x80 0xbf (value * 0x40 + part) (seen + 1)) valid done rest := by
  obtain ⟨same, within⟩ := within_of_le few least most
  simp only [decodeFrom, State.step, within, if_true, same]

end Inside

theorem decodeFrom_lead {byte : UInt8} {next : State} (leads : first byte = .wait next) (valid : Nat)
    (done : List Char) (rest : Bytes) :
    decodeFrom .start valid done (byte :: rest) = decodeFrom next valid done rest := by
  simp only [decodeFrom, State.step, leads]

theorem first_of_two {lead : Nat} (least : 2 ≤ lead) (few : lead < 0x20) :
    first (UInt8.ofNat (0xc0 + lead)) = .wait (.inside 0 0x80 0xbf lead 1) := by
  have byte : (UInt8.ofNat (0xc0 + lead)).toNat = 0xc0 + lead := toNat_byte (by omega)
  unfold first
  simp only [byte]
  rw [if_neg (by omega), if_neg (by omega), if_pos (by omega), Nat.add_sub_cancel_left]

theorem first_of_three {lead : Nat} (few : lead < 0x10) :
    first (UInt8.ofNat (0xe0 + lead)) = .wait (.inside 1 (if lead = 0 then 0xa0 else 0x80)
      (if lead = 0xd then 0x9f else 0xbf) lead 1) := by
  have byte : (UInt8.ofNat (0xe0 + lead)).toNat = 0xe0 + lead := toNat_byte (by omega)
  have least : 0xe0 + lead = 0xe0 ↔ lead = 0 := by omega
  have most : 0xe0 + lead = 0xed ↔ lead = 0xd := by omega
  unfold first
  simp only [byte, least, most]
  rw [if_neg (by omega), if_neg (by omega), if_neg (by omega), if_pos (by omega),
    Nat.add_sub_cancel_left]

theorem first_of_four {lead : Nat} (few : lead < 5) :
    first (UInt8.ofNat (0xf0 + lead)) = .wait (.inside 2 (if lead = 0 then 0x90 else 0x80)
      (if lead = 4 then 0x8f else 0xbf) lead 1) := by
  have byte : (UInt8.ofNat (0xf0 + lead)).toNat = 0xf0 + lead := toNat_byte (by omega)
  have least : 0xf0 + lead = 0xf0 ↔ lead = 0 := by omega
  have most : 0xf0 + lead = 0xf4 ↔ lead = 4 := by omega
  unfold first
  simp only [byte, least, most]
  rw [if_neg (by omega), if_neg (by omega), if_neg (by omega), if_neg (by omega), if_pos (by omega),
    Nat.add_sub_cancel_left]

theorem decodeFrom_encodeChar (c : Char) (valid : Nat) (done : List Char) (rest : Bytes) :
    decodeFrom .start valid done (encodeChar c ++ rest) =
      decodeFrom .start (valid + (encodeChar c).length) (c :: done) rest := by
  have range := toNat_valid c
  have same := Char.ofNat_toNat c
  unfold encodeChar
  generalize c.toNat = n at range same
  simp only
  split
  · rename_i one
    have byte : (UInt8.ofNat n).toNat = n := toNat_byte (by omega)
    simp only [List.cons_append, List.nil_append, decodeFrom, State.step, first, byte, if_pos one,
      State.seen, same, List.length_singleton, Nat.add_zero]
  · split
    · have value : n / 0x40 * 0x40 + n % 0x40 = n := by omega
      rw [List.cons_append, decodeFrom_lead (first_of_two (by omega) (by omega)), List.cons_append,
        decodeFrom_last (by omega) (by simp) (by simp; omega), value, same]
      rfl
    · split
      · have value : (n / 0x1000 * 0x40 + n / 0x40 % 0x40) * 0x40 + n % 0x40 = n := by omega
        rw [List.cons_append, decodeFrom_lead (first_of_three (by omega)), List.cons_append,
          decodeFrom_more (by omega) (by split <;> simp; omega) (by split <;> simp <;> omega),
          List.cons_append, decodeFrom_last (by omega) (by simp) (by simp; omega), value, same]
        rfl
      · have value : ((n / 0x40000 * 0x40 + n / 0x1000 % 0x40) * 0x40 + n / 0x40 % 0x40) * 0x40 +
            n % 0x40 = n := by omega
        rw [List.cons_append, decodeFrom_lead (first_of_four (by omega)), List.cons_append,
          decodeFrom_more (by omega) (by split <;> simp; omega) (by split <;> simp <;> omega),
          List.cons_append, decodeFrom_more (by omega) (by simp) (by simp; omega),
          List.cons_append, decodeFrom_last (by omega) (by simp) (by simp; omega), value, same]
        rfl

theorem decode_encode (text : List Char) : decode (encode text) = .ok text := by
  have reads (valid : Nat) (done : List Char) :
      decodeFrom .start valid done (encode text) = .ok (done.reverse ++ text) := by
    induction text generalizing valid done with
    | nil => simp [decodeFrom]
    | cons c text ih =>
      rw [encode_cons, decodeFrom_encodeChar, ih]
      simp
  exact reads 0 []

theorem repairFrom_of_decodeFrom {state : State} {valid : Nat} {done text : List Char} {bytes : Bytes}
    (decoded : decodeFrom state valid done bytes = .ok text) : repairFrom state done bytes = text := by
  induction bytes generalizing state valid done with
  | nil =>
    cases state with
    | start => exact Except.ok.inj decoded
    | inside => cases decoded
  | cons byte bytes ih =>
    unfold decodeFrom at decoded
    unfold repairFrom
    cases step : state.step byte with
    | char c =>
      rw [step] at decoded
      exact ih decoded
    | wait next =>
      rw [step] at decoded
      exact ih decoded
    | fault =>
      rw [step] at decoded
      cases decoded

theorem repair_of_decode {bytes : Bytes} {text : List Char} (decoded : decode bytes = .ok text) :
    repair bytes = text :=
  repairFrom_of_decodeFrom decoded

theorem decodeString?_encode (text : String) : decodeString? (encode text.toList) = some text := by
  simp [decodeString?, decode_encode]

end TileServer.Utf8

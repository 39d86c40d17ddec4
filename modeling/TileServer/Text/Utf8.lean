namespace TileServer

abbrev Bytes := List UInt8

namespace Utf8

def encodeChar (c : Char) : Bytes :=
  let n := c.toNat
  if n < 0x80 then [UInt8.ofNat n]
  else if n < 0x800 then [UInt8.ofNat (0xc0 + n / 0x40), UInt8.ofNat (0x80 + n % 0x40)]
  else if n < 0x10000 then
    [UInt8.ofNat (0xe0 + n / 0x1000), UInt8.ofNat (0x80 + n / 0x40 % 0x40),
      UInt8.ofNat (0x80 + n % 0x40)]
  else
    [UInt8.ofNat (0xf0 + n / 0x40000), UInt8.ofNat (0x80 + n / 0x1000 % 0x40),
      UInt8.ofNat (0x80 + n / 0x40 % 0x40), UInt8.ofNat (0x80 + n % 0x40)]

def encode (text : List Char) : Bytes :=
  text.flatMap encodeChar

/-- A place in a byte sequence: between characters, or inside one, where `more + 1` bytes are still
missing, the next of them from `low` to `high`, and `value` is what the `seen` bytes before it say. -/
inductive State
  | start
  | inside (more : Nat) (low high : UInt8) (value seen : Nat)
  deriving Repr, DecidableEq

inductive Step
  | wait (next : State)
  | char (c : Char)
  | fault
  deriving Repr, DecidableEq

/-- The first byte of a character fixes its length, and for some the range of the second byte: that
range keeps out the forms that are longer than needed, the surrogates and what lies above U+10FFFF. -/
def first (byte : UInt8) : Step :=
  let n := byte.toNat
  if n < 0x80 then .char (Char.ofNat n)
  else if n < 0xc2 then .fault
  else if n < 0xe0 then .wait (.inside 0 0x80 0xbf (n - 0xc0) 1)
  else if n < 0xf0 then
    .wait (.inside 1 (if n = 0xe0 then 0xa0 else 0x80) (if n = 0xed then 0x9f else 0xbf) (n - 0xe0) 1)
  else if n < 0xf5 then
    .wait (.inside 2 (if n = 0xf0 then 0x90 else 0x80) (if n = 0xf4 then 0x8f else 0xbf) (n - 0xf0) 1)
  else .fault

def State.step (byte : UInt8) : State → Step
  | .start => first byte
  | .inside more low high value seen =>
    if low ≤ byte && byte ≤ high then
      let value := value * 0x40 + (byte.toNat - 0x80)
      match more with
      | 0 => .char (Char.ofNat value)
      | more + 1 => .wait (.inside more 0x80 0xbf value (seen + 1))
    else .fault

def State.seen : State → Nat
  | .start => 0
  | .inside _ _ _ _ seen => seen

/-- The first fault of a byte sequence: how many bytes before it are whole characters, and how many
bytes are at fault, which is unknown where the sequence ends inside a character. -/
structure Fault where
  validUpTo : Nat
  length : Option Nat
  deriving Repr, DecidableEq

def decodeFrom (state : State) (valid : Nat) (done : List Char) : Bytes → Except Fault (List Char)
  | [] => match state with
    | .start => .ok done.reverse
    | .inside .. => .error ⟨valid, none⟩
  | byte :: rest => match state.step byte with
    | .char c => decodeFrom .start (valid + state.seen + 1) (c :: done) rest
    | .wait next => decodeFrom next valid done rest
    | .fault => .error ⟨valid, some (max 1 state.seen)⟩

def decode (bytes : Bytes) : Except Fault (List Char) :=
  decodeFrom .start 0 [] bytes

def decodeString? (bytes : Bytes) : Option String :=
  match decode bytes with
  | .ok text => some (String.ofList text)
  | .error _ => none

def replacement : Char := Char.ofNat 0xfffd

/-- Reads on from `state` and writes one replacement character for each fault. A byte that cannot
continue a character is read again as a first byte. -/
def repairFrom (state : State) (done : List Char) : Bytes → List Char
  | [] => match state with
    | .start => done.reverse
    | .inside .. => (replacement :: done).reverse
  | byte :: rest => match state.step byte with
    | .char c => repairFrom .start (c :: done) rest
    | .wait next => repairFrom next done rest
    | .fault => match state with
      | .start => repairFrom .start (replacement :: done) rest
      | .inside .. => match first byte with
        | .char c => repairFrom .start (c :: replacement :: done) rest
        | .wait next => repairFrom next (replacement :: done) rest
        | .fault => repairFrom .start (replacement :: replacement :: done) rest

def repair (bytes : Bytes) : List Char :=
  repairFrom .start [] bytes

def Fault.message : Fault → String
  | ⟨valid, some length⟩ =>
    "invalid utf-8 sequence of " ++ toString length ++ " bytes from index " ++ toString valid
  | ⟨valid, none⟩ => "incomplete utf-8 byte sequence from index " ++ toString valid

def encodeString (text : String) : Bytes :=
  encode text.toList

end Utf8

end TileServer

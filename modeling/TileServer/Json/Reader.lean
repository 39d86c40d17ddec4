import TileServer.Json.Basic

namespace TileServer.Json

/-- An array or object whose end has not been read, with its parts latest first. An object is legible
as long as all its keys are Unicode text. -/
inductive Open
  | array (items : List Json)
  | object (fields : List (String × Json)) (legible : Bool) (key : String)
  deriving Repr

inductive NumberPhase
  | sign
  | zero
  | digits
  | point
  | fraction
  | exponent
  | exponentSign
  | exponentDigits
  deriving Repr, DecidableEq

inductive StringPhase
  | plain
  | escape
  | hex (left value : Nat)
  deriving Repr, DecidableEq

/-- A string whose end has not been read: its bytes so far (latest first), whether they can still be
text, and the first half of a surrogate pair whose second half must follow. -/
structure Opened where
  phase : StringPhase
  bytes : Bytes
  legible : Bool
  high : Option Nat
  deriving Repr

inductive Place
  | value
  | firstItem
  | firstKey
  | key
  | colon
  | next
  | done (value : Json)
  | word (rest : Bytes) (value : Json)
  | number (phase : NumberPhase) (negative : Bool) (magnitude : Nat)
  | string (isKey : Bool) (opened : Opened)
  deriving Repr

structure State where
  stack : List Open
  place : Place
  deriving Repr

def byteOf (c : Char) : UInt8 := UInt8.ofNat c.toNat

def isSpace (byte : UInt8) : Bool :=
  byte == 0x20 || byte == 0x09 || byte == 0x0a || byte == 0x0d

def digitValue? (byte : UInt8) : Option Nat :=
  if 0x30 ≤ byte && byte ≤ 0x39 then some (byte.toNat - 0x30) else none

def hexValue? (byte : UInt8) : Option Nat :=
  if 0x30 ≤ byte && byte ≤ 0x39 then some (byte.toNat - 0x30)
  else if 0x61 ≤ byte && byte ≤ 0x66 then some (byte.toNat - 0x61 + 10)
  else if 0x41 ≤ byte && byte ≤ 0x46 then some (byte.toNat - 0x41 + 10)
  else none

def settle (stack : List Open) (value : Json) : State :=
  match stack with
  | [] => ⟨[], .done value⟩
  | .array items :: rest => ⟨.array (value :: items) :: rest, .next⟩
  | .object fields legible key :: rest =>
    ⟨.object ((key, value) :: fields) legible key :: rest, .next⟩

def closeArray (items : List Json) : Json := .arr items.reverse

def closeObject (fields : List (String × Json)) (legible : Bool) : Json :=
  if legible then .obj fields.reverse else .other

def stepNext (state : State) (byte : UInt8) : Option State :=
  if isSpace byte then some state
  else match state.place, state.stack with
    | .next, .array items :: rest =>
      if byte == byteOf ',' then some ⟨state.stack, .value⟩
      else if byte == byteOf ']' then some (settle rest (closeArray items))
      else none
    | .next, .object fields legible _ :: rest =>
      if byte == byteOf ',' then some ⟨state.stack, .key⟩
      else if byte == byteOf '\x7d' then some (settle rest (closeObject fields legible))
      else none
    | _, _ => none

def openString (stack : List Open) (isKey : Bool) : State :=
  ⟨stack, .string isKey ⟨.plain, [], true, none⟩⟩

def stepValue (stack : List Open) (byte : UInt8) : Option State :=
  if byte == byteOf '"' then some (openString stack false)
  else if byte == byteOf '[' then some ⟨.array [] :: stack, .firstItem⟩
  else if byte == byteOf '\x7b' then some ⟨.object [] true "" :: stack, .firstKey⟩
  else if byte == byteOf '-' then some ⟨stack, .number .sign true 0⟩
  else if byte == byteOf '0' then some ⟨stack, .number .zero false 0⟩
  else if byte == byteOf 'n' then some ⟨stack, .word [0x75, 0x6c, 0x6c] .null⟩
  else if byte == byteOf 't' then some ⟨stack, .word [0x72, 0x75, 0x65] (.bool true)⟩
  else if byte == byteOf 'f' then some ⟨stack, .word [0x61, 0x6c, 0x73, 0x65] (.bool false)⟩
  else match digitValue? byte with
    | some d => some ⟨stack, .number .digits false d⟩
    | none => none

def maxMagnitude : Nat := 18446744073709551615

def numberValue? (phase : NumberPhase) (negative : Bool) (magnitude : Nat) : Option Json :=
  match phase with
  | .zero => some (if negative then .other else .int 0)
  | .digits =>
    some (if maxMagnitude < magnitude then .other
      else .int (if negative then -magnitude else magnitude))
  | .fraction | .exponentDigits => some .other
  | _ => none

def isExponentMark (byte : UInt8) : Bool :=
  byte == byteOf 'e' || byte == byteOf 'E'

def growNumber (phase : NumberPhase) (negative : Bool) (magnitude : Nat) (byte : UInt8) :
    Option Place :=
  match phase, digitValue? byte with
  | .sign, some 0 => some (.number .zero negative 0)
  | .sign, some d => some (.number .digits negative d)
  | .digits, some d =>
    some (.number .digits negative (Numeral.addDigit maxMagnitude 10 magnitude d))
  | .point, some _ | .fraction, some _ => some (.number .fraction negative magnitude)
  | .exponent, some _ | .exponentSign, some _ | .exponentDigits, some _ =>
    some (.number .exponentDigits negative magnitude)
  | .zero, none | .digits, none =>
    if byte == byteOf '.' then some (.number .point negative magnitude)
    else if isExponentMark byte then some (.number .exponent negative magnitude)
    else none
  | .fraction, none =>
    if isExponentMark byte then some (.number .exponent negative magnitude) else none
  | .exponent, none =>
    if byte == byteOf '+' || byte == byteOf '-' then some (.number .exponentSign negative magnitude)
    else none
  | _, _ => none

def Opened.push (opened : Opened) (c : Char) : Opened :=
  { opened with phase := .plain, bytes := (Utf8.encodeChar c).reverse ++ opened.bytes }

def Opened.spoil (opened : Opened) : Opened :=
  { opened with legible := false, high := none }

def Opened.overdue (opened : Opened) : Opened :=
  match opened.high with
  | some _ => opened.spoil
  | none => opened

def Opened.pushUnit (opened : Opened) (unit : Nat) : Opened :=
  let opened := { opened with phase := .plain }
  match opened.high with
  | some high =>
    if 0xdc00 ≤ unit && unit < 0xe000 then
      { opened with high := none }.push
        (Char.ofNat (0x10000 + (high - 0xd800) * 0x400 + (unit - 0xdc00)))
    else opened.spoil
  | none =>
    if 0xd800 ≤ unit && unit < 0xdc00 then { opened with high := some unit }
    else if 0xdc00 ≤ unit && unit < 0xe000 then opened.spoil
    else opened.push (Char.ofNat unit)

def escaped? (byte : UInt8) : Option Char :=
  if byte == byteOf '"' then some '"'
  else if byte == byteOf '\\' then some '\\'
  else if byte == byteOf '/' then some '/'
  else if byte == byteOf 'b' then some (Char.ofNat 0x08)
  else if byte == byteOf 'f' then some (Char.ofNat 0x0c)
  else if byte == byteOf 'n' then some '\n'
  else if byte == byteOf 'r' then some '\r'
  else if byte == byteOf 't' then some '\t'
  else none

def growString (opened : Opened) (byte : UInt8) : Option Opened :=
  match opened.phase with
  | .plain =>
    if byte < 0x20 then none
    else if byte == byteOf '\\' then some { opened with phase := .escape }
    else
      let opened := opened.overdue
      some { opened with bytes := byte :: opened.bytes }
  | .escape =>
    if byte == byteOf 'u' then some { opened with phase := .hex 3 0 }
    else match escaped? byte with
      | some c => some (opened.overdue.push c)
      | none => none
  | .hex left value => match hexValue? byte with
    | none => none
    | some d => match left with
      | 0 => some (opened.pushUnit (value * 16 + d))
      | left + 1 => some { opened with phase := .hex left (value * 16 + d) }

def Opened.content? (opened : Opened) : Option String :=
  let opened := opened.overdue
  if opened.legible then Utf8.decodeString? opened.bytes.reverse else none

def closeString (stack : List Open) (isKey : Bool) (opened : Opened) : Option State :=
  match isKey, stack with
  | true, .object fields legible _ :: rest => match opened.content? with
    | some key => some ⟨.object fields legible key :: rest, .colon⟩
    | none => some ⟨.object fields false "" :: rest, .colon⟩
  | true, _ => none
  | false, _ => match opened.content? with
    | some text => some (settle stack (.str text))
    | none => some (settle stack .other)

def stepKey (stack : List Open) (byte : UInt8) : Option State :=
  if byte == byteOf '"' then some (openString stack true) else none

def step (state : State) (byte : UInt8) : Option State :=
  let stack := state.stack
  match state.place with
  | .value => if isSpace byte then some state else stepValue stack byte
  | .firstItem =>
    if isSpace byte then some state
    else match stack with
      | .array items :: rest =>
        if byte == byteOf ']' then some (settle rest (closeArray items)) else stepValue stack byte
      | _ => none
  | .firstKey =>
    if isSpace byte then some state
    else match stack with
      | .object fields legible _ :: rest =>
        if byte == byteOf '\x7d' then some (settle rest (closeObject fields legible))
        else stepKey stack byte
      | _ => none
  | .key => if isSpace byte then some state else stepKey stack byte
  | .colon =>
    if isSpace byte then some state
    else if byte == byteOf ':' then some ⟨stack, .value⟩
    else none
  | .next | .done _ => stepNext state byte
  | .word (expected :: rest) value =>
    if byte == expected then
      match rest with
      | [] => some (settle stack value)
      | _ => some ⟨stack, .word rest value⟩
    else none
  | .word [] _ => none
  | .number phase negative magnitude =>
    match growNumber phase negative magnitude byte with
    | some place => some ⟨stack, place⟩
    | none => match numberValue? phase negative magnitude with
      | some value => stepNext (settle stack value) byte
      | none => none
  | .string isKey opened =>
    if opened.phase = .plain && byte == byteOf '"' then closeString stack isKey opened
    else match growString opened byte with
      | some opened => some ⟨stack, .string isKey opened⟩
      | none => none

def run (state : State) : Bytes → Option State
  | [] => some state
  | byte :: rest => match step state byte with
    | some next => run next rest
    | none => none

def State.result? (state : State) : Option Json :=
  match state.place, state.stack with
  | .done value, [] => some value
  | .number phase negative magnitude, [] => numberValue? phase negative magnitude
  | _, _ => none

def read? (bytes : Bytes) : Option Json :=
  match run ⟨[], .value⟩ bytes with
  | some state => state.result?
  | none => none

end TileServer.Json

import TileServer.Text.Numeral
import TileServer.Text.Utf8

namespace TileServer

inductive Json
  | null
  | bool (value : Bool)
  | int (value : Int)
  | str (value : String)
  | arr (items : List Json)
  | obj (fields : List (String × Json))
  /-- A value that stands for nothing a reply holds: a number with a fraction or an exponent, minus
  zero, an integer of more than 64 bits, a string that is no Unicode text, an object with such
  a key. -/
  | other
  deriving Repr, Inhabited

namespace Json

def hexDigit (n : Nat) : Char :=
  if n < 10 then Char.ofNat ('0'.toNat + n) else Char.ofNat ('a'.toNat + (n - 10))

def escapeChar (c : Char) : List Char :=
  if c = '"' then ['\\', '"']
  else if c = '\\' then ['\\', '\\']
  else if c = '\n' then ['\\', 'n']
  else if c = '\r' then ['\\', 'r']
  else if c = '\t' then ['\\', 't']
  else if c.toNat = 0x08 then ['\\', 'b']
  else if c.toNat = 0x0c then ['\\', 'f']
  else if c.toNat < 0x20 then
    ['\\', 'u', '0', '0', hexDigit (c.toNat / 16), hexDigit (c.toNat % 16)]
  else [c]

def writeString (text : String) : List Char :=
  '"' :: text.toList.flatMap escapeChar ++ ['"']

mutual

/-- The compact text of a value. A value without a meaning is written as minus zero, which reads back
as such a value. -/
def write : Json → List Char
  | .null => ['n', 'u', 'l', 'l']
  | .bool true => ['t', 'r', 'u', 'e']
  | .bool false => ['f', 'a', 'l', 's', 'e']
  | .int value => Numeral.ofInt value
  | .str value => writeString value
  | .arr items => '[' :: writeItems items ++ [']']
  | .obj fields => '\x7b' :: writeFields fields ++ ['\x7d']
  | .other => ['-', '0']

def writeItems : List Json → List Char
  | [] => []
  | [item] => write item
  | item :: next :: rest => write item ++ ',' :: writeItems (next :: rest)

def writeFields : List (String × Json) → List Char
  | [] => []
  | [(key, value)] => writeString key ++ ':' :: write value
  | (key, value) :: next :: rest =>
    writeString key ++ ':' :: write value ++ ',' :: writeFields (next :: rest)

end

def bytes (value : Json) : Bytes :=
  Utf8.encode value.write

def text (value : Json) : String :=
  String.ofList (write value)

end Json

end TileServer

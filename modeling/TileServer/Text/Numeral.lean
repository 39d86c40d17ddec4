namespace TileServer.Numeral

def digit? (c : Char) : Option Nat :=
  if c.isDigit then some (c.toNat - '0'.toNat) else none

def addDigit (bound base value digit : Nat) : Nat :=
  min (value * base + digit) (bound + 1)

inductive Fault
  | empty
  | badDigit
  | tooLarge
  deriving Repr, DecidableEq

/-- Reads digits after `value`. The first fault from the left is reported, and at one place a bad
digit before a value above the bound. -/
def digitsFrom (bound value : Nat) : List Char → Except Fault Nat
  | [] => .ok value
  | c :: rest => match digit? c with
    | none => .error .badDigit
    | some d =>
      if bound < value * 10 + d then .error .tooLarge else digitsFrom bound (value * 10 + d) rest

def natural (bound : Nat) : List Char → Except Fault Nat
  | [] => .error .empty
  | '+' :: [] => .error .badDigit
  | '+' :: rest => digitsFrom bound 0 rest
  | text => digitsFrom bound 0 text

def Fault.message : Fault → String
  | .empty => "cannot parse integer from empty string"
  | .badDigit => "invalid digit found in string"
  | .tooLarge => "number too large to fit in target type"

def ofNat (n : Nat) : List Char :=
  Nat.toDigits 10 n

def ofInt : Int → List Char
  | .ofNat n => ofNat n
  | .negSucc n => '-' :: ofNat (n + 1)

end TileServer.Numeral

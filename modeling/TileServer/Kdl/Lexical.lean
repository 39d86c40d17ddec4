import TileServer.Text.Numeral
import TileServer.Text.Numeric
import TileServer.Kdl.Basic

namespace TileServer.Kdl

/-- What reading a part of a document at the front of a text comes to. A mismatch lets the reader try
another part at the same place; a broken text is no document at all. -/
inductive Outcome (α : Type)
  | found (value : α) (rest : List Char)
  | mismatch
  | broken
  deriving Repr

namespace Outcome

def map (f : α → β) : Outcome α → Outcome β
  | found value rest => found (f value) rest
  | mismatch => mismatch
  | broken => broken

def orElse (first : Outcome α) (second : Unit → Outcome α) : Outcome α :=
  match first with
  | mismatch => second ()
  | _ => first

def demand : Outcome α → Outcome α
  | mismatch => broken
  | outcome => outcome

def ofOption : Option (α × List Char) → Outcome α
  | some (value, rest) => found value rest
  | none => mismatch

end Outcome

def isSpace (c : Char) : Bool :=
  let n := c.toNat
  n == 0x09 || n == 0x20 || n == 0xfeff || n == 0xa0 || n == 0x1680 || (0x2000 ≤ n && n ≤ 0x200a) ||
    n == 0x202f || n == 0x205f || n == 0x3000

def isNewline (c : Char) : Bool :=
  let n := c.toNat
  n == 0x0d || n == 0x0a || n == 0x85 || n == 0x0c || n == 0x2028 || n == 0x2029

def newline? : List Char → Option (List Char)
  | '\r' :: '\n' :: rest => some rest
  | c :: rest => if isNewline c then some rest else none
  | [] => none

def afterLine : List Char → List Char
  | [] => []
  | '\r' :: '\n' :: rest => rest
  | c :: rest => if isNewline c then rest else afterLine rest

def lineComment? : List Char → Option (List Char)
  | '/' :: '/' :: rest => some (afterLine rest)
  | _ => none

def afterBlock (depth : Nat) : List Char → Option (List Char)
  | '*' :: '/' :: rest => match depth with
    | 0 => some rest
    | depth + 1 => afterBlock depth rest
  | '/' :: '*' :: rest => afterBlock (depth + 1) rest
  | _ :: rest => afterBlock depth rest
  | [] => none

def blockComment : List Char → Outcome Unit
  | '/' :: '*' :: rest => match afterBlock 0 rest with
    | some rest => .found () rest
    | none => .broken
  | _ => .mismatch

def reserved : List Char :=
  ['\\', '/', '(', ')', '\x7b', '\x7d', '<', '>', ';', '[', ']', '=', ',', '"']

def isIdentifierChar (c : Char) : Bool :=
  0x20 ≤ c.toNat && !reserved.contains c && !isNewline c && !isSpace c

def keywords : List (List Char) :=
  ["true".toList, "false".toList, "null".toList]

/-- An identifier without quotes. It starts with no number, and the keywords are none. -/
def plainIdentifier? : List Char → Option (String × List Char)
  | [] => none
  | c :: rest =>
    if isIdentifierChar c && !Text.isNumeric c then
      let (name, rest) := rest.span isIdentifierChar
      if keywords.contains (c :: name) then none else some (String.ofList (c :: name), rest)
    else none

def hexDigit? (c : Char) : Option Nat :=
  if c.isDigit then some (c.toNat - '0'.toNat)
  else if 'a' ≤ c && c ≤ 'f' then some (c.toNat - 'a'.toNat + 10)
  else if 'A' ≤ c && c ≤ 'F' then some (c.toNat - 'A'.toNat + 10)
  else none

def scalar? (value : Nat) : Option Char :=
  if value < 0xd800 || (0xdfff < value && value < 0x110000) then some (Char.ofNat value) else none

inductive EscapePhase
  | plain
  | escape
  | unicode
  | digits (count value : Nat)
  deriving Repr, DecidableEq

def escaped? : Char → Option Char
  | '"' => some '"'
  | '\\' => some '\\'
  | '/' => some '/'
  | 'b' => some (Char.ofNat 0x08)
  | 'f' => some (Char.ofNat 0x0c)
  | 'n' => some '\n'
  | 'r' => some '\r'
  | 't' => some '\t'
  | _ => none

def stringFrom (phase : EscapePhase) (done : List Char) : List Char → Outcome String
  | [] => .broken
  | c :: rest => match phase with
    | .plain =>
      if c = '"' then .found (String.ofList done.reverse) rest
      else if c = '\\' then stringFrom .escape done rest
      else stringFrom .plain (c :: done) rest
    | .escape =>
      if c = 'u' then stringFrom .unicode done rest
      else match escaped? c with
        | some c => stringFrom .plain (c :: done) rest
        | none => .broken
    | .unicode => if c = '\x7b' then stringFrom (.digits 0 0) done rest else .broken
    | .digits count value => match hexDigit? c with
      | some d => if count < 6 then stringFrom (.digits (count + 1) (value * 16 + d)) done rest else .broken
      | none =>
        if c = '\x7d' && 0 < count then
          match scalar? value with
          | some c => stringFrom .plain (c :: done) rest
          | none => .broken
        else .broken

def quotedString : List Char → Outcome String
  | '"' :: rest => stringFrom .plain [] rest
  | _ => .mismatch

def rawFrom (hashes : List Char) (done : List Char) : List Char → Option (String × List Char)
  | [] => none
  | c :: rest =>
    if c = '"' && hashes.isPrefixOf rest then
      some (String.ofList done.reverse, rest.drop hashes.length)
    else rawFrom hashes (c :: done) rest

def rawString? : List Char → Option (String × List Char)
  | 'r' :: rest =>
    let (hashes, rest) := rest.span (· == '#')
    match rest with
    | '"' :: rest => rawFrom hashes [] rest
    | _ => none
  | _ => none

def identifier (text : List Char) : Outcome String :=
  (quotedString text).orElse fun _ =>
    (Outcome.ofOption (rawString? text)).orElse fun _ => .ofOption (plainIdentifier? text)

def maxInteger : Nat := 9223372036854775807

def sign : List Char → Bool × Bool × List Char
  | '+' :: rest => (false, true, rest)
  | '-' :: rest => (true, true, rest)
  | text => (false, false, text)

/-- Digits of a base and underscores after a first digit, and their value. Values above the largest
magnitude are not told apart. -/
def magnitude? (digit : Char → Option Nat) (base : Nat) : List Char → Option (Nat × List Char)
  | [] => none
  | c :: rest => match digit c with
    | none => none
    | some first =>
      let (run, rest) := rest.span (fun c => c == '_' || (digit c).isSome)
      some (run.foldl (fun value c => match digit c with
        | some d => Numeral.addDigit maxInteger base value d
        | none => value) first, rest)

def digitBelow? (base : Nat) (c : Char) : Option Nat :=
  match hexDigit? c with
  | some d => if d < base then some d else none
  | none => none

def signed (negative : Bool) (magnitude : Nat) : Int :=
  if negative then -magnitude else magnitude

def integer? (text : List Char) : Option ((Int × Bool) × List Char) :=
  let (negative, hasSign, rest) := sign text
  match magnitude? (digitBelow? 10) 10 rest with
  | some (value, rest) =>
    if value ≤ maxInteger then some ((signed negative value, hasSign), rest) else none
  | none => none

def radix (base : Nat) (lower upper : Char) (text : List Char) : Outcome Value :=
  let (negative, _, rest) := sign text
  match rest with
  | '0' :: letter :: rest =>
    if letter = lower || letter = upper then
      match magnitude? (digitBelow? base) base rest with
      | some (value, rest) =>
        if value ≤ maxInteger then .found (.int (signed negative value)) rest else .mismatch
      | none => .broken
    else .mismatch
  | _ => .mismatch

def exponent (wellFormed : Bool) (text : List Char) : Outcome Value :=
  let (_, hasSign, rest) := sign text
  match integer? rest with
  | some ((_, second), rest) =>
    if wellFormed && !(hasSign && second) then .found .float rest else .mismatch
  | none => .broken

def exponentLetter? : List Char → Option (List Char)
  | 'e' :: rest => some rest
  | 'E' :: rest => some rest
  | _ => none

def float (text : List Char) : Outcome Value :=
  match integer? text with
  | none => .mismatch
  | some (_, rest) => match rest with
    | '.' :: rest => match integer? rest with
      | none => .broken
      | some ((_, hasSign), rest) => match exponentLetter? rest with
        | some rest => exponent (!hasSign) rest
        | none => if hasSign then .mismatch else .found .float rest
    | _ => match exponentLetter? rest with
      | some rest => exponent true rest
      | none => .mismatch

def keyword (word : String) (value : Value) (text : List Char) : Outcome Value :=
  if word.toList.isPrefixOf text then .found value (text.drop word.toList.length) else .mismatch

def value (text : List Char) : Outcome Value :=
  (keyword "null" .null text).orElse fun _ =>
  (keyword "true" (.bool true) text).orElse fun _ =>
  (keyword "false" (.bool false) text).orElse fun _ =>
  ((quotedString text).map Value.str).orElse fun _ =>
  ((Outcome.ofOption (rawString? text)).map Value.str).orElse fun _ =>
  (radix 16 'x' 'X' text).orElse fun _ =>
  (radix 8 'o' 'O' text).orElse fun _ =>
  (radix 2 'b' 'B' text).orElse fun _ =>
  (float text).orElse fun _ =>
  (Outcome.ofOption (integer? text)).map (fun found => .int found.1)

def annotation : List Char → Outcome Unit
  | '(' :: rest => match identifier rest with
    | .found _ (')' :: rest) => .found () rest
    | _ => .broken
  | _ => .mismatch

def annotatedValue (text : List Char) : Outcome Value :=
  match annotation text with
  | .found _ rest => (value rest).demand
  | .mismatch => (value text).demand
  | .broken => .broken

def property (text : List Char) : Outcome Entry :=
  match identifier text with
  | .found name ('=' :: rest) => (annotatedValue rest).map (fun value => ⟨some name, value⟩)
  | .found _ _ => .mismatch
  | .mismatch => .mismatch
  | .broken => .broken

def argument (text : List Char) : Outcome Entry :=
  (match annotation text with
  | .found _ rest => (value rest).demand
  | .mismatch => value text
  | .broken => .broken).map (fun value => ⟨none, value⟩)

/-- An entry. A property is tried first, since its name may look like a value. -/
def entry (text : List Char) : Outcome Entry :=
  (property text).orElse fun _ => argument text

end TileServer.Kdl

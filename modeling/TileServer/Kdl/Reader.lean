import TileServer.Kdl.Lexical

namespace TileServer.Kdl

def lineEnd? (text : List Char) : Option (List Char) :=
  match newline? text with
  | some rest => some rest
  | none => match lineComment? text with
    | some rest => some rest
    | none => if text.isEmpty then some [] else none

/-- The end of a node. Behind a semicolon one blank, line break or comment belongs to it. -/
def terminator? : List Char → Option (List Char)
  | ';' :: rest => match lineEnd? rest with
    | some rest => some rest
    | none => match rest with
      | c :: after => if isSpace c then some after else some rest
      | [] => some []
  | text => lineEnd? text

def inlineBlanks : Nat → List Char → Outcome Unit
  | 0, _ => .broken
  | fuel + 1, text => match text with
    | c :: rest =>
      if isSpace c then inlineBlanks fuel rest
      else match blockComment text with
        | .found _ rest => inlineBlanks fuel rest
        | .mismatch => .found () text
        | .broken => .broken
    | [] => .found () []

mutual

def blanks : Nat → List Char → Outcome Unit
  | 0, _ => .broken
  | fuel + 1, text => match text with
    | '/' :: '-' :: rest => match blanks fuel rest with
      | .found _ rest => match node fuel rest with
        | .found _ rest => blanks fuel rest
        | _ => .broken
      | _ => .broken
    | '/' :: '/' :: rest => blanks fuel (afterLine rest)
    | '/' :: '*' :: _ => match blockComment text with
      | .found _ rest => blanks fuel rest
      | _ => .broken
    | c :: rest => if isSpace c || isNewline c then blanks fuel rest else .found () text
    | [] => .found () []

/-- Everything that may stand between two entries of a node, with whether there was anything: spaces,
block comments, a line break behind a backslash, and an entry or a children block commented out. -/
def nodeBlanks (any : Bool) : Nat → List Char → Outcome Bool
  | 0, _ => .broken
  | fuel + 1, text => match text with
    | '/' :: '-' :: rest => match nodeBlanks false fuel rest with
      | .found _ behind => match entry behind with
        | .found _ rest => nodeBlanks true fuel rest
        | .mismatch => match childBlock fuel behind with
          | .found _ rest => nodeBlanks true fuel rest
          | _ => .broken
        | .broken => .broken
      | _ => .broken
    | '\\' :: rest => match inlineBlanks fuel rest with
      | .found _ rest => match newline? rest with
        | some rest => nodeBlanks true fuel rest
        | none => match lineComment? rest with
          | some rest => nodeBlanks true fuel rest
          | none => .broken
      | _ => .broken
    | '/' :: '*' :: _ => match blockComment text with
      | .found _ rest => nodeBlanks true fuel rest
      | _ => .broken
    | c :: rest => if isSpace c then nodeBlanks true fuel rest else .found any text
    | [] => .found any []

def childBlock : Nat → List Char → Outcome (List Node)
  | 0, _ => .broken
  | fuel + 1, text => match text with
    | '\x7b' :: rest => match nodes [] fuel rest with
      | .found children ('\x7d' :: rest) => .found children rest
      | _ => .broken
    | _ => .mismatch

def nodeRest (name : String) (done : List Entry) : Nat → List Char → Outcome Node
  | 0, _ => .broken
  | fuel + 1, text => match nodeBlanks false fuel text with
    | .found any rest => match if any then entry rest else .mismatch with
      | .found next rest => nodeRest name (next :: done) fuel rest
      | .broken => .broken
      | .mismatch =>
        if any && (plainIdentifier? rest).isSome then .broken
        else match childBlock fuel rest with
          | .found children rest => match nodeBlanks false fuel rest with
            | .found _ rest => match terminator? rest with
              | some rest => .found (.mk name done.reverse children) rest
              | none => .broken
            | _ => .broken
          | .mismatch => match terminator? rest with
            | some rest => .found (.mk name done.reverse []) rest
            | none => .broken
          | .broken => .broken
    | _ => .broken

def node : Nat → List Char → Outcome Node
  | 0, _ => .broken
  | fuel + 1, text => match annotation text with
    | .broken => .broken
    | .found _ rest => named fuel rest
    | .mismatch => named fuel text

def named : Nat → List Char → Outcome Node
  | 0, _ => .broken
  | fuel + 1, text => match identifier text with
    | .found name rest => nodeRest name [] fuel rest
    | .mismatch => .mismatch
    | .broken => .broken

def nodes (done : List Node) : Nat → List Char → Outcome (List Node)
  | 0, _ => .broken
  | fuel + 1, text => match blanks fuel text with
    | .found _ rest => match node fuel rest with
      | .found next rest => nodes (next :: done) fuel rest
      | .mismatch => .found done.reverse rest
      | .broken => .broken
    | _ => .broken

end

/-- A document, if the whole text is one. Every call above either takes a character off the text or
is one of a few in a row that do not, so the steps are bounded by a multiple of the length. -/
def read? (text : List Char) : Option (List Node) :=
  match nodes [] (8 * text.length + 16) text with
  | .found nodes [] => some nodes
  | _ => none

end TileServer.Kdl

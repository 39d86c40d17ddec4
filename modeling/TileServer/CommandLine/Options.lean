namespace TileServer.CommandLine

inductive Role
  | flag
  | value
  | version
  | help
  deriving Repr, DecidableEq

structure OptionSpec where
  long : String
  short : Option Char
  role : Role
  deriving Repr, DecidableEq

/-- The options of a command line, and whether words may follow them. -/
structure Grammar where
  options : List OptionSpec
  takesWords : Bool
  deriving Repr, DecidableEq

structure Given where
  options : List (String × String)
  words : List String
  deriving Repr, DecidableEq

def Given.has (given : Given) (name : String) : Bool :=
  (given.options.lookup name).isSome

def Given.value? (given : Given) (name : String) : Option String :=
  given.options.lookup name

inductive Reading
  | given (given : Given)
  | version
  | help
  | rejected
  deriving Repr, DecidableEq

inductive Shape
  | ending
  | long (name : String) (attached : Option String)
  | cluster (letters : List Char)
  | plain
  deriving Repr, DecidableEq

def longShape (text : List Char) : Shape :=
  let name := text.takeWhile (fun c => c != '=')
  match text.dropWhile (fun c => c != '=') with
  | [] => .long (String.ofList name) none
  | _ :: value => .long (String.ofList name) (some (String.ofList value))

def shape (argument : String) : Shape :=
  match argument.toList with
  | ['-', '-'] => .ending
  | '-' :: '-' :: text => longShape text
  | ['-'] => .plain
  | '-' :: letters => .cluster letters
  | _ => .plain

namespace Grammar

def long? (grammar : Grammar) (name : String) : Option OptionSpec :=
  grammar.options.find? (fun option => option.long == name)

def short? (grammar : Grammar) (letter : Char) : Option OptionSpec :=
  grammar.options.find? (fun option => option.short == some letter)

/-- Whether an argument is a word though it starts with a hyphen. Where words are taken, unknown
options are such words. -/
def isWordLike (grammar : Grammar) : Shape → Bool
  | .plain => true
  | .ending => false
  | .long name _ => grammar.takesWords && (grammar.long? name).isNone
  | .cluster letters => grammar.takesWords && letters.any (fun c => (grammar.short? c).isNone)

inductive Progress
  | going (options : List (String × String))
  | awaiting (option : OptionSpec) (options : List (String × String))
  | ended (reading : Reading)
  deriving Repr, DecidableEq

def record (options : List (String × String)) (name value : String) : Progress :=
  if (options.lookup name).isSome then .ended .rejected else .going (options ++ [(name, value)])

def occur (options : List (String × String)) (option : OptionSpec) : Progress :=
  match option.role with
  | .flag => record options option.long ""
  | .value => .awaiting option options
  | .version => .ended .version
  | .help => .ended .help

def attached? : List Char → Option String
  | [] => none
  | '=' :: letters => some (String.ofList letters)
  | letters => some (String.ofList letters)

def readCluster (grammar : Grammar) (options : List (String × String)) : List Char → Progress
  | [] => .going options
  | letter :: rest => match grammar.short? letter with
    | none => .ended .rejected
    | some option =>
      if option.role = .value then
        match attached? rest with
        | some value => record options option.long value
        | none => .awaiting option options
      else match occur options option with
        | .going options => grammar.readCluster options rest
        | progress => progress

def readLong (grammar : Grammar) (options : List (String × String)) (name : String)
    (attached : Option String) : Progress :=
  match grammar.long? name, attached with
  | none, _ => .ended .rejected
  | some option, none => occur options option
  | some option, some value =>
    if option.role = .value then record options option.long value else .ended .rejected

def finish (grammar : Grammar) (options : List (String × String)) (words : List String) : Reading :=
  if grammar.takesWords || words.isEmpty then .given ⟨options, words⟩ else .rejected

def readFrom (grammar : Grammar) (progress : Progress) : List String → Reading
  | [] => match progress with
    | .going options => grammar.finish options []
    | .awaiting _ _ => .rejected
    | .ended reading => reading
  | argument :: rest => match progress, shape argument with
    | .ended reading, _ => reading
    | .awaiting option options, form =>
      if grammar.isWordLike form then grammar.readFrom (record options option.long argument) rest
      else .rejected
    | .going options, .ending => grammar.finish options rest
    | .going options, .long name attached =>
      if grammar.isWordLike (.long name attached) then grammar.finish options (argument :: rest)
      else grammar.readFrom (grammar.readLong options name attached) rest
    | .going options, .cluster letters =>
      if grammar.isWordLike (.cluster letters) then grammar.finish options (argument :: rest)
      else grammar.readFrom (grammar.readCluster options letters) rest
    | .going options, .plain => grammar.finish options (argument :: rest)

def read (grammar : Grammar) (arguments : List String) : Reading :=
  grammar.readFrom (.going []) arguments

end Grammar

end TileServer.CommandLine

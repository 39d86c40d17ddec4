import TileServer.Config.Keyword
import TileServer.Os.Error

namespace TileServer

inductive Fault
  | logLevel (text : String)
  | notPositive (setting : String) (value : Int)
  | rectShape (output : String)
  | coordinate (output : String) (value : Int)
  | extent (output : String) (value : Int)
  | keyword (bar : String) (title : String) (text : String)
  | duplicateBar (id : String)
  | unknownOutput (workspace output : String)
  deriving Repr, DecidableEq

def Fault.message : Fault → String
  | .logLevel text => LogLevel.refusal text
  | .notPositive setting value =>
    setting ++ " must be a positive integer, got " ++ toString value
  | .rectShape output => "output '" ++ output ++ "': rect needs four integers (x y width height)"
  | .coordinate output value =>
    "output '" ++ output ++ "': coordinate " ++ toString value ++ " out of range"
  | .extent output value => "output '" ++ output ++ "': size " ++ toString value ++ " must be positive"
  | .keyword bar title text => "bar '" ++ bar ++ "': " ++ Keyword.refusal title text
  | .duplicateBar id => "Duplicate bar id: " ++ id
  | .unknownOutput workspace output =>
    "Workspace '" ++ workspace ++ "' is assigned to unknown output '" ++ output ++ "'"

inductive Required
  | outputName
  | workspaceName
  | setting (name : String)
  | barSetting (bar : String) (name : String)
  deriving Repr, DecidableEq

def Required.message : Required → String
  | .outputName => "output name"
  | .workspaceName => "workspace name"
  | .setting name => name
  | .barSetting bar name => "bar '" ++ bar ++ "': " ++ name

inductive ConfigError
  | notKdl
  | invalid (fault : Fault)
  | missing (part : Required)
  | unreadable (error : OsError)
  deriving Repr, DecidableEq

def ConfigError.message : ConfigError → String
  | .notKdl => "Failed to parse KDL"
  | .invalid fault => "Invalid configuration: " ++ fault.message
  | .missing part => "Missing required field: " ++ part.message
  | .unreadable error => "IO error: " ++ error.message

inductive Warning
  | topLevel (name : String)
  | globalOption (name : String)
  | outputOption (name : String)
  | workspaceOption (name : String)
  | barOption (name : String)
  | barColor (key bar : String)
  | noFile (path : String)
  deriving Repr, DecidableEq

def Warning.message : Warning → String
  | .topLevel name => "Unknown top-level node: " ++ name
  | .globalOption name => "Unknown global config option: " ++ name
  | .outputOption name => "Unknown output option: " ++ name
  | .workspaceOption name => "Unknown workspace option: " ++ name
  | .barOption name => "Unknown bar option: " ++ name
  | .barColor key bar => "Unknown bar color '" ++ key ++ "' in bar '" ++ bar ++ "'"
  | .noFile path => "Configuration file " ++ path ++ " not found, using defaults"

/-- The outcome of reading a configuration, or a part of one, with the warnings given on the way. -/
structure Reading (α : Type) where
  warnings : List Warning
  result : Except ConfigError α

namespace Reading

protected def pure (value : α) : Reading α := ⟨[], .ok value⟩

protected def map (change : α → β) (reading : Reading α) : Reading β :=
  ⟨reading.warnings, reading.result.map change⟩

protected def bind (first : Reading α) (second : α → Reading β) : Reading β :=
  match first.result with
  | .ok value =>
    let next := second value
    ⟨first.warnings ++ next.warnings, next.result⟩
  | .error error => ⟨first.warnings, .error error⟩

instance : Monad Reading where
  map := Reading.map
  pure := Reading.pure
  bind := Reading.bind

def fail (error : ConfigError) : Reading α := ⟨[], .error error⟩

def warn (warning : Warning) (value : α) : Reading α := ⟨[warning], .ok value⟩

def require (part : Required) : Option α → Reading α
  | some value => .pure value
  | none => .fail (.missing part)

def check (fault : Fault) : Option α → Reading α
  | some value => .pure value
  | none => .fail (.invalid fault)

end Reading

end TileServer

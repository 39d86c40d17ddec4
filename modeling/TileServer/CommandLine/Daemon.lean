import TileServer.CommandLine.Options
import TileServer.CommandLine.Report
import TileServer.Config.OfFile
import TileServer.Endpoint.SocketPath

namespace TileServer.CommandLine.Daemon

def grammar : Grammar where
  options := [⟨"config", some 'c', .value⟩, ⟨"socket", some 's', .value⟩,
    ⟨"get-socketpath", none, .flag⟩, ⟨"validate", none, .flag⟩, ⟨"help", some 'h', .help⟩,
    ⟨"version", some 'V', .version⟩]
  takesWords := false

def versionLine : String := "tilewm 0.1.0"

def usualConfig : String := "~/.config/tilewm/config.kdl"

def configPath (environment : Environment) (given : Given) : String :=
  Path.expandTilde environment.home? ((given.value? "config").getD usualConfig)

inductive Start
  | ends (report : Report)
  | serves (config : Config) (socketPath : String)
  deriving Repr

def startWith (environment : Environment) (user : String) (given : Given)
    (content : Except OsError Bytes) : Start :=
  let path := configPath environment given
  match (Config.load environment.home? path content).result with
  | .error _ => .ends (.fatal ("Invalid configuration in " ++ path))
  | .ok config =>
    let socketPath := SocketPath.forServer environment user (given.value? "socket")
      config.global.socketPath
    if given.has "get-socketpath" then .ends (.line socketPath)
    else if given.has "validate" then .ends (.line ("Configuration OK: " ++ path))
    else .serves config socketPath

def start (environment : Environment) (user : String) (files : String → Except OsError Bytes)
    (arguments : List String) : Start :=
  match grammar.read arguments with
  | .rejected => .ends .rejected
  | .help => .ends {}
  | .version => .ends (.line versionLine)
  | .given given =>
    startWith environment user given (files (configPath environment given))

end TileServer.CommandLine.Daemon

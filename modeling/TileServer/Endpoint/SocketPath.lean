import TileServer.Os.Environment
import TileServer.Os.Path

namespace TileServer.SocketPath

def socketVariable : String := "TILEWM_SOCK"

def directoryVariable : String := "XDG_RUNTIME_DIR"

def fileName : String := "ipc.sock"

def usual (environment : Environment) (user : String) : String :=
  match environment.filled? directoryVariable with
  | some directory => Path.join (Path.join directory "tilewm") fileName
  | none => Path.join ("/tmp/tilewm-" ++ user) fileName

def ofEnvironment? (environment : Environment) : Option String :=
  environment.filled? socketVariable

/-- The socket that a server creates: of the option, else of the configuration, else the usual. -/
def forServer (environment : Environment) (user : String) (flag configured : Option String) : String :=
  match flag.or configured with
  | some path => Path.expandTilde environment.home? path
  | none => usual environment user

/-- The socket that a message is sent to: of the option, else of the environment, else the usual. -/
def forMessage (environment : Environment) (user : String) (flag : Option String) : String :=
  match flag with
  | some path => Path.expandTilde environment.home? path
  | none => (ofEnvironment? environment).getD (usual environment user)

end TileServer.SocketPath

import TileServer.CommandLine.Daemon
import TileServer.CommandLine.Sender
import TileServer.Layout.Start
import TileServer.Server.Loop

namespace TileServer.Program

def namesRead : List String := ["HOME", "XDG_RUNTIME_DIR", "TILEWM_SOCK", "UID"]

def readEnvironment : IO Environment := do
  let values ← namesRead.filterMapM (fun name => do
    return (← IO.getEnv name).map (fun value => (name, value)))
  return ⟨values⟩

def userOf (environment : Environment) : String :=
  (environment.get? "UID").getD "0"

def osErrorOf : IO.Error → OsError
  | .noFileOrDirectory .. => .noEntry
  | .inappropriateType .. => .isDirectory
  | _ => .denied

def readFile (path : String) : IO (Except OsError Bytes) := do
  try
    return .ok (← IO.FS.readBinFile path).toList
  catch error =>
    return .error (osErrorOf error)

def write (stream : IO.FS.Stream) (bytes : Bytes) : IO Unit := do
  stream.write (ByteArray.mk bytes.toArray)
  stream.flush

def finish (output : IO.FS.Stream) (report : CommandLine.Report) : IO UInt32 := do
  output.putStr report.outputText
  let errors ← IO.getStderr
  errors.putStr report.errorText
  match report.ending with
  | .fatal text => errors.putStrLn text
  | .rejected => errors.putStrLn "the command line was rejected"
  | _ => pure ()
  return UInt32.ofNat report.ending.status

def onlyClient : Nat := 0

def takeOutput (server : Server) : Bytes × Server :=
  let bytes := match server.registry.find? onlyClient with
    | some client => client.socket.accepted
    | none => []
  (bytes, { server with
    registry := server.registry.modify onlyClient (fun client =>
      { client with socket := { client.socket with taken := [] } }) })

/-- Serves the only client until it writes no more or is dropped. -/
partial def serveFrom (server : Server) : IO Unit := do
  let chunk ← (← IO.getStdin).read 8192
  let readiness : Readiness := .ready false (some (.bytes chunk.toList))
  let (bytes, served) := takeOutput (server.turn ⟨[], .client onlyClient readiness⟩).prepare
  write (← IO.getStdout) bytes
  if served.registry.contains onlyClient then serveFrom served

def serve (config : Config) (socketPath : String) : IO UInt32 := do
  let server := Server.start (Layout.ofConfig config) config.global.maxMessageSize
    config.global.maxClientBacklog (some socketPath)
  serveFrom (server.accept [(onlyClient, {})])
  return 0

def runServer (arguments : List String) : IO UInt32 := do
  let environment ← readEnvironment
  let user := userOf environment
  let content ← match CommandLine.Daemon.grammar.read arguments with
    | .given given => readFile (CommandLine.Daemon.configPath environment given)
    | _ => pure (.error .noEntry)
  match CommandLine.Daemon.start environment user (fun _ => content) arguments with
  | .ends report => finish (← IO.getStdout) report
  | .serves config socketPath => serve config socketPath

def runSender (arguments : List String) : IO UInt32 := do
  let environment ← readEnvironment
  match CommandLine.Sender.plan environment (userOf environment) (fun _ => none) arguments with
  | .ends report => finish (← IO.getStdout) report
  | .sends order =>
    write (← IO.getStdout) (Wire.frame order.message.wire)
    let reply ← (← IO.getStdin).readBinToEnd
    finish (← IO.getStderr) (order.run { reads := [.bytes reply.toList] })

end TileServer.Program

def main (arguments : List String) : IO UInt32 :=
  match arguments with
  | "msg" :: rest => TileServer.Program.runSender rest
  | _ => TileServer.Program.runServer arguments

import TileServer.Connection.Call
import TileServer.Server.Running

namespace TileServer

structure Talk where
  running : Running
  connection : Connection
  calling : Option Call := none
  asked : List Wire.Message := []
  heard : Bytes := []
  ended : Bool := false

namespace Talk

inductive Step
  | served (happening : Happening)
  | stopped
  | begins (call : Call)
  | hears (answer : ReadAnswer)
  /-- The call returns. Its message could not be written if there is a fault. -/
  | returns (fault : Option OsError)

def outcome (talk : Talk) (call : Call) (fault : Option OsError) :
    Connection × Except ProtocolError call.Result :=
  call.perform { talk.connection with writeFault := fault }

def step (talk : Talk) : Step → Talk
  | .served happening => { talk with running := talk.running.step happening }
  | .stopped =>
    { talk with running := { talk.running with server := talk.running.server.shutdown } }
  | .begins call =>
    { talk with calling := some call, asked := talk.asked ++ call.message?.toList }
  | .hears answer =>
    { talk with
      connection := { talk.connection with reads := talk.connection.reads ++ [answer] }
      heard := talk.heard ++ answer.content
      ended := talk.ended || answer.content.isEmpty }
  | .returns fault => match talk.calling with
    | none => talk
    | some call => { talk with connection := (talk.outcome call fault).1, calling := none }

def run (talk : Talk) (steps : List Step) : Talk :=
  steps.foldl step talk

def start (layout : Layout) (maxMessage maxBacklog : Nat) (socketPath : Option String) : Talk :=
  { running := .start layout maxMessage maxBacklog socketPath, connection := { reads := [] } }

end Talk

end TileServer

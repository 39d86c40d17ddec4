import TileServer.Json.Reader
import TileServer.Layout.Command
import TileServer.Layout.Query
import TileServer.Server.Registry
import TileServer.Wire.Kind

namespace TileServer

def Change.toEvent (change : Change) : Event :=
  ⟨change.event, Wire.eventCode change.event, change.toJson.bytes⟩

namespace Registry

def publish (registry : Registry) (event : Event) : Registry :=
  (registry.broadcast event).1

def publishChanges (registry : Registry) (changes : List Change) : Registry :=
  changes.foldl (fun registry change => registry.publish change.toEvent) registry

end Registry

structure Server where
  layout : Layout
  registry : Registry
  socketPath : Option String
  deriving Repr

structure Answer where
  server : Server
  payload : Option Bytes
  render : Bool
  deriving Repr

def version : VersionReply := ⟨0, 1, 0, "tilewm 0.1.0"⟩

namespace Server

/-- Runs a command text: publishes its changes and asks for a render if the focus moved. -/
def runCommand (server : Server) (text : List Char) : Server × Layout.Outcome :=
  let outcome := server.layout.run text
  ({ server with
      layout := outcome.layout
      registry := server.registry.publishChanges outcome.changes }, outcome)

def subscription? (payload : Bytes) : Option (List String) :=
  (Json.read? payload).bind stringsOfJson?

def barReply (server : Server) (id : String) : Json :=
  match server.layout.bar? id with
  | some bar =>
    { bar with socketPath := bar.socketPath.or server.socketPath }.toJson
  | none => .obj [("id", .null)]

def subscribe (server : Server) (fd : Nat) (payload : Bytes) : Server × SuccessReply :=
  match subscription? payload with
  | some events =>
    if server.registry.contains fd then
      ({ server with registry := server.registry.subscribe fd events }, ⟨true⟩)
    else (server, ⟨false⟩)
  | none => (server, ⟨false⟩)

def answer (server : Server) (fd : Nat) (payload : Bytes) : Wire.RequestKind → Answer
  | .runCommand =>
    let (after, outcome) := server.runCommand (Utf8.repair payload)
    ⟨after, some (Json.arr (outcome.results.map CommandReply.toJson)).bytes, outcome.needsRender⟩
  | .getWorkspaces =>
    ⟨server, some (Json.arr (server.layout.workspaceReplies.map WorkspaceReply.toJson)).bytes, false⟩
  | .subscribe =>
    let (after, reply) := server.subscribe fd payload
    ⟨after, some reply.toJson.bytes, false⟩
  | .getOutputs =>
    ⟨server, some (Json.arr (server.layout.outputReplies.map OutputReply.toJson)).bytes, false⟩
  | .getTree => ⟨server, some server.layout.tree.toJson.bytes, false⟩
  | .getMarks => ⟨server, some (stringsJson server.layout.marks).bytes, false⟩
  | .getBarConfig =>
    if payload.isEmpty then ⟨server, some (stringsJson server.layout.barIds).bytes, false⟩
    else ⟨server, some (server.barReply (String.ofList (Utf8.repair payload))).bytes, false⟩
  | .getVersion => ⟨server, some version.toJson.bytes, false⟩

/-- Answers a message of a client; a message whose type code is no request's gets no reply. -/
def dispatch (server : Server) (fd : Nat) (message : Wire.Message) : Answer :=
  match Wire.RequestKind.ofCode? message.kind with
  | some kind => server.answer fd message.payload kind
  | none => ⟨server, none, false⟩

end Server

end TileServer

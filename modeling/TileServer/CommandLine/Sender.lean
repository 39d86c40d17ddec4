import TileServer.CommandLine.Options
import TileServer.CommandLine.Report
import TileServer.Connection.Basic
import TileServer.Endpoint.SocketPath

namespace TileServer.CommandLine.Sender

def grammar : Grammar where
  options := [⟨"socket", some 's', .value⟩, ⟨"type", some 't', .value⟩,
    ⟨"monitor", some 'm', .flag⟩, ⟨"quiet", some 'q', .flag⟩, ⟨"help", some 'h', .help⟩,
    ⟨"version", some 'V', .version⟩]
  takesWords := true

def versionLine : String := "tilewm-msg 0.1.0"

inductive Message
  | request (kind : Wire.RequestKind) (payload : Bytes)
  | subscribe (events : List String)
  deriving Repr, DecidableEq

def Message.wire : Message → Wire.Message
  | .request kind payload => ⟨kind.code, payload⟩
  | .subscribe events => ⟨Wire.RequestKind.subscribe.code, (stringsJson events).bytes⟩

structure Order where
  message : Message
  quiet : Bool
  monitor : Bool
  deriving Repr, DecidableEq

inductive Plan
  | ends (report : Report)
  | sends (order : Order)
  deriving Repr, DecidableEq

def message? (kind : Wire.RequestKind) (text : String) : Option Message :=
  let payload := Utf8.encodeString text
  if kind = .subscribe then ((Json.read? payload).bind stringsOfJson?).map .subscribe
  else some (.request kind payload)

def planWith (environment : Environment) (user : String) (reach : String → Option OsError)
    (given : Given) : Plan :=
  let name := (given.value? "type").getD "command"
  match Wire.RequestKind.ofName? name with
  | none => .ends (.fatal (Wire.unknownKind name))
  | some kind =>
    let path := SocketPath.forMessage environment user (given.value? "socket")
    match reach path with
    | some error => .ends (.fatal (ProtocolError.connectionFailed path error).message)
    | none => match message? kind (" ".intercalate given.words) with
      | none => .ends (.fatal "subscribe expects a JSON array of event names")
      | some message => .sends ⟨message, given.has "quiet", given.has "monitor"⟩

def plan (environment : Environment) (user : String) (reach : String → Option OsError)
    (arguments : List String) : Plan :=
  match grammar.read arguments with
  | .rejected => .ends .rejected
  | .help => .ends {}
  | .version => .ends (.line versionLine)
  | .given given => planWith environment user reach given

def failures (reply : Bytes) : List String :=
  match (Json.read? reply).bind (Json.asList? CommandReply.ofJson?) with
  | some results => (results.filter (fun result => !result.success)).map (fun result =>
      result.error.getD "command failed")
  | none => []

/-- Prints a reply. Failed commands are listed, and tell in the exit status, too. -/
def reportReply (isCommand quiet : Bool) (text : String) : Report :=
  let failed := if isCommand then failures (Utf8.encodeString text) else []
  { output := if quiet then [] else [text]
    errors := if quiet then [] else failed
    ending := if failed.isEmpty then .success else .commandsFailed }

def watch (connection : Connection) (quiet : Bool) : List String × ProtocolError :=
  match _ : connection.nextEvent with
  | (_, .error error) => ([], error)
  | (after, .ok event) =>
    if quiet then watch after quiet
    else match event.text with
      | .error error => ([], error)
      | .ok text =>
        let (lines, error) := watch after quiet
        (text :: lines, error)
termination_by connection.unread + connection.pending.length
decreasing_by all_goals exact Connection.nextEvent_lt ‹_›

def subscribe (order : Order) (events : List String) (connection : Connection) : Report :=
  match connection.subscribe events with
  | (_, .error error) => .fatal error.message
  | (after, .ok reply) =>
    let report := reportReply false order.quiet reply.toJson.text
    if order.monitor then
      let (lines, error) := watch after order.quiet
      { report with output := report.output ++ lines, ending := .fatal error.message }
    else report

def request (order : Order) (kind : Wire.RequestKind) (payload : Bytes) (connection : Connection) :
    Report :=
  match connection.request kind payload with
  | (_, .error error) => .fatal error.message
  | (_, .ok reply) => match reply.text with
    | .error error => .fatal error.message
    | .ok text => reportReply (kind = .runCommand) order.quiet text

def Order.run (order : Order) (connection : Connection) : Report :=
  match order.message with
  | .subscribe events => subscribe order events connection
  | .request kind payload => request order kind payload connection

end TileServer.CommandLine.Sender

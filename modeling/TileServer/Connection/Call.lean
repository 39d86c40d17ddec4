import TileServer.Connection.Basic

namespace TileServer

inductive Call : Type 1
  | request (kind : Wire.RequestKind) (payload : Bytes)
  | requestJson {α : Type} (kind : Wire.RequestKind) (payload : Bytes) (read : Json → Option α)
  | subscribe (events : List String)
  | nextEvent

namespace Call

def Result : Call → Type
  | request _ _ => Wire.Message
  | @requestJson α _ _ _ => α
  | subscribe _ => SuccessReply
  | nextEvent => Wire.Message

def perform (connection : Connection) :
    (call : Call) → Connection × Except ProtocolError call.Result
  | request kind payload => connection.request kind payload
  | requestJson kind payload read => connection.requestJson kind payload read
  | subscribe events => connection.subscribe events
  | nextEvent => connection.nextEvent

def asks? : Call → Option (Wire.RequestKind × Bytes)
  | request kind payload => some (kind, payload)
  | requestJson kind payload _ => some (kind, payload)
  | subscribe events => some (.subscribe, (stringsJson events).bytes)
  | nextEvent => none

def message? (call : Call) : Option Wire.Message :=
  match call.asks? with
  | some (kind, payload) =>
    if payload.length ≤ Wire.maxLength then some ⟨kind.code, payload⟩ else none
  | none => none

/-- Whether a result is what a call makes of a reply. -/
def Makes : (call : Call) → Wire.Message → call.Result → Prop
  | request _ _, reply, result => result = reply
  | requestJson _ _ read, reply, result => (Json.read? reply.payload).bind read = some result
  | subscribe _, reply, result =>
    (Json.read? reply.payload).bind SuccessReply.ofJson? = some result
  | nextEvent, _, _ => False

def events : (call : Call) → Except ProtocolError call.Result → List Wire.Message
  | nextEvent, .ok event => [event]
  | _, _ => []

end Call

end TileServer

import TileServer.Connection.Error
import TileServer.Json.Reader
import TileServer.Os.Transfer
import TileServer.Reply.Format
import TileServer.Wire.Kind
import TileServer.Wire.Stream

namespace TileServer

/-- A connection. `reads` are the answers to the coming attempts to read; after them the peer writes no
more. -/
structure Connection where
  reads : List ReadAnswer
  buffer : Wire.ByteQueue := .empty
  pending : List Wire.Message := []
  writeFault : Option OsError := none
  sent : List Wire.Message := []
  arrived : List Wire.Message := []
  deriving Repr

namespace Connection

def unreadOf (buffer : Wire.ByteQueue) (reads : List ReadAnswer) : Nat :=
  buffer.size + reads.foldr (fun answer size => answer.size + size) 0

def unread (connection : Connection) : Nat :=
  unreadOf connection.buffer connection.reads

structure Arrival where
  result : Except ProtocolError Wire.Message
  buffer : Wire.ByteQueue
  reads : List ReadAnswer

def arrival (buffer : Wire.ByteQueue) (reads : List ReadAnswer) : Arrival :=
  match Wire.takeFrame Wire.defaultMaxPayload buffer with
  | .message message rest => ⟨.ok message, rest, reads⟩
  | .failed error => ⟨.error (.frame error), buffer, reads⟩
  | .incomplete => match reads with
    | [] => ⟨.error .connectionClosed, buffer, []⟩
    | .wouldBlock :: later => ⟨.error (.io .wouldBlock), buffer, later⟩
    | .fails error :: later => ⟨.error (.io error), buffer, later⟩
    | .bytes [] :: later => ⟨.error .connectionClosed, buffer, later⟩
    | .bytes (byte :: bytes) :: later => arrival (buffer.push (byte :: bytes)) later

theorem unreadOf_arrival_lt {buffer : Wire.ByteQueue} {reads : List ReadAnswer} {message : Wire.Message}
    (taken : (arrival buffer reads).result = .ok message) :
    unreadOf (arrival buffer reads).buffer (arrival buffer reads).reads < unreadOf buffer reads := by
  fun_induction arrival buffer reads with
  | case1 buffer reads message rest whole =>
    have shorter := Wire.size_rest_lt whole
    simp only [unreadOf]
    omega
  | case2 | case3 | case4 | case5 | case6 => simp at taken
  | case7 buffer _ byte bytes later ih =>
    have := ih taken
    simp only [unreadOf, List.foldr_cons, ReadAnswer.size, Wire.ByteQueue.push] at this ⊢
    omega

def receive (connection : Connection) : Connection × Except ProtocolError Wire.Message :=
  let next := arrival connection.buffer connection.reads
  let after := { connection with buffer := next.buffer, reads := next.reads }
  match next.result with
  | .ok message => ({ after with arrived := message :: connection.arrived }, .ok message)
  | .error error => (after, .error error)

theorem unread_receive_lt {connection after : Connection} {message : Wire.Message}
    (received : connection.receive = (after, .ok message)) : after.unread < connection.unread := by
  unfold receive at received
  simp only at received
  split at received
  · rename_i result
    have shorter := unreadOf_arrival_lt result
    cases received
    exact shorter
  · cases received

def send (connection : Connection) (message : Wire.Message) :
    Connection × Except ProtocolError Unit :=
  match Wire.encode message with
  | .error error => (connection, .error (.frame error))
  | .ok _ => match connection.writeFault with
    | some error => (connection, .error (.io error))
    | none => ({ connection with sent := message :: connection.sent }, .ok ())

def keep (connection : Connection) (events : List Wire.Message) : Connection :=
  { connection with pending := connection.pending ++ events }

/-- Waits for the reply to a request. The events `kept` (latest first) have arrived since it was sent;
they and those that arrive before the reply are kept for later. -/
def awaitReplyAfter (kept : List Wire.Message) (connection : Connection) (kind : Wire.RequestKind) :
    Connection × Except ProtocolError Wire.Message :=
  match _ : connection.receive with
  | (after, .error error) => (after.keep kept.reverse, .error error)
  | (after, .ok message) =>
    if Wire.isEvent message.kind then awaitReplyAfter (message :: kept) after kind
    else if message.kind = kind.code then (after.keep kept.reverse, .ok message)
    else (after.keep kept.reverse, .error (.unexpectedReply kind.code message.kind))
termination_by connection.unread
decreasing_by exact unread_receive_lt ‹_›

def awaitReply (connection : Connection) (kind : Wire.RequestKind) :
    Connection × Except ProtocolError Wire.Message :=
  awaitReplyAfter [] connection kind

def request (connection : Connection) (kind : Wire.RequestKind) (payload : Bytes) :
    Connection × Except ProtocolError Wire.Message :=
  match connection.send ⟨kind.code, payload⟩ with
  | (after, .error error) => (after, .error error)
  | (after, .ok ()) => after.awaitReply kind

def requestJson (connection : Connection) (kind : Wire.RequestKind) (payload : Bytes)
    (read : Json → Option α) : Connection × Except ProtocolError α :=
  match connection.request kind payload with
  | (after, .error error) => (after, .error error)
  | (after, .ok reply) => match (Json.read? reply.payload).bind read with
    | some value => (after, .ok value)
    | none => (after, .error .notJson)

def subscribe (connection : Connection) (events : List String) :
    Connection × Except ProtocolError SuccessReply :=
  connection.requestJson .subscribe (stringsJson events).bytes SuccessReply.ofJson?

/-- Waits for an event; replies that nobody awaits are skipped. -/
def awaitEvent (connection : Connection) : Connection × Except ProtocolError Wire.Message :=
  match _ : connection.receive with
  | (after, .error error) => (after, .error error)
  | (after, .ok message) =>
    if Wire.isEvent message.kind then (after, .ok message) else after.awaitEvent
termination_by connection.unread
decreasing_by exact unread_receive_lt ‹_›

def nextEvent (connection : Connection) : Connection × Except ProtocolError Wire.Message :=
  match connection.pending with
  | event :: later => ({ connection with pending := later }, .ok event)
  | [] => connection.awaitEvent

theorem pending_receive {connection after : Connection}
    {result : Except ProtocolError Wire.Message} (received : connection.receive = (after, result)) :
    after.pending = connection.pending := by
  unfold receive at received
  simp only at received
  split at received <;> cases received <;> rfl

theorem awaitEvent_lt {connection after : Connection} {event : Wire.Message}
    (given : connection.awaitEvent = (after, .ok event)) :
    after.unread + after.pending.length < connection.unread + connection.pending.length := by
  fun_induction awaitEvent connection with
  | case1 => cases given
  | case2 connection next message received =>
    cases given
    have shorter := unread_receive_lt received
    rw [pending_receive received]
    omega
  | case3 connection next message received _ ih =>
    have shorter := unread_receive_lt received
    have rest := ih given
    rw [pending_receive received] at rest
    omega

theorem nextEvent_lt {connection after : Connection} {event : Wire.Message}
    (given : connection.nextEvent = (after, .ok event)) :
    after.unread + after.pending.length < connection.unread + connection.pending.length := by
  unfold nextEvent at given
  split at given
  · rename_i kept
    cases given
    simp only [unread, kept, List.length_cons]
    omega
  · exact awaitEvent_lt given

end Connection

end TileServer

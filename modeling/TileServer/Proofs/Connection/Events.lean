import TileServer.Connection.Call
import TileServer.Proofs.Wire.Kinds
import TileServer.Proofs.Wire.RoundTrip

namespace TileServer

namespace Connection

/-- A connection that has taken some messages off its stream, and has read as far as was needed. -/
structure Draws (messages : List Wire.Message) (before after : Connection) : Prop where
  arrived : after.arrived = messages.reverse ++ before.arrived
  bytes : ∃ used, before.reads = used ++ after.reads ∧
    before.buffer.bytes ++ used.flatMap ReadAnswer.content =
      messages.flatMap Wire.frame ++ after.buffer.bytes
  fits : ∀ message ∈ messages, message.payload.length ≤ Wire.maxLength

variable {connection before after : Connection}

theorem Draws.of_same (arrived : after.arrived = before.arrived)
    (reads : after.reads = before.reads) (buffer : after.buffer = before.buffer) :
    before.Draws [] after :=
  ⟨arrived, ⟨[], reads.symm, by simp [buffer]⟩, by simp⟩

theorem Draws.trans {first second : List Wire.Message} {middle : Connection}
    (one : before.Draws first middle) (other : middle.Draws second after) :
    before.Draws (first ++ second) after := by
  obtain ⟨used, reads, bytes⟩ := one.bytes
  obtain ⟨more, reads', bytes'⟩ := other.bytes
  refine ⟨?_, ⟨used ++ more, by rw [reads, reads', List.append_assoc], ?_⟩, ?_⟩
  · rw [other.arrived, one.arrived, List.reverse_append, List.append_assoc]
  · calc before.buffer.bytes ++ (used ++ more).flatMap ReadAnswer.content
        = (before.buffer.bytes ++ used.flatMap ReadAnswer.content) ++
            more.flatMap ReadAnswer.content := by rw [List.flatMap_append, List.append_assoc]
      _ = first.flatMap Wire.frame ++
            (middle.buffer.bytes ++ more.flatMap ReadAnswer.content) := by
          rw [bytes, List.append_assoc]
      _ = (first ++ second).flatMap Wire.frame ++ after.buffer.bytes := by
          rw [bytes', List.flatMap_append, List.append_assoc]
  · intro message member
    rcases List.mem_append.1 member with member | member
    · exact one.fits message member
    · exact other.fits message member

theorem Draws.keep {messages : List Wire.Message} (draws : before.Draws messages after)
    (events : List Wire.Message) : before.Draws messages (after.keep events) :=
  ⟨draws.arrived, draws.bytes, draws.fits⟩

def framed : Except ProtocolError Wire.Message → Bytes
  | .ok message => Wire.frame message
  | .error _ => []

theorem arrival_bytes (buffer : Wire.ByteQueue) (reads : List ReadAnswer) :
    ∃ used, reads = used ++ (arrival buffer reads).reads ∧
      buffer.bytes ++ used.flatMap ReadAnswer.content =
        framed (arrival buffer reads).result ++ (arrival buffer reads).buffer.bytes := by
  fun_induction arrival buffer reads with
  | case1 buffer reads message rest whole =>
    exact ⟨[], rfl, by simp [framed, (Wire.eq_frame_of_takeFrame whole).1]⟩
  | case2 => exact ⟨[], rfl, by simp [framed]⟩
  | case3 => exact ⟨[], rfl, by simp [framed]⟩
  | case4 _ _ later => exact ⟨[.wouldBlock], rfl, by simp [framed, ReadAnswer.content]⟩
  | case5 _ _ error later => exact ⟨[.fails error], rfl, by simp [framed, ReadAnswer.content]⟩
  | case6 _ _ later => exact ⟨[.bytes []], rfl, by simp [framed, ReadAnswer.content]⟩
  | case7 buffer _ byte bytes later ih =>
    obtain ⟨used, reads, joined⟩ := ih
    refine ⟨.bytes (byte :: bytes) :: used, by rw [List.cons_append, ← reads], ?_⟩
    rw [← joined, List.flatMap_cons, Wire.ByteQueue.bytes_push, List.append_assoc]
    rfl

theorem fits_arrival {buffer : Wire.ByteQueue} {reads : List ReadAnswer} {message : Wire.Message}
    (taken : (arrival buffer reads).result = .ok message) :
    message.payload.length ≤ Wire.maxLength := by
  fun_induction arrival buffer reads with
  | case1 buffer reads other rest whole =>
    cases taken
    exact (Wire.eq_frame_of_takeFrame whole).2
  | case2 | case3 | case4 | case5 | case6 => cases taken
  | case7 _ _ _ _ _ ih => exact ih taken

structure Received (connection after : Connection) (result : Except ProtocolError Wire.Message) :
    Prop where
  came : (arrival connection.buffer connection.reads).result = result
  buffer : after.buffer = (arrival connection.buffer connection.reads).buffer
  reads : after.reads = (arrival connection.buffer connection.reads).reads
  arrived : after.arrived = result.toOption.toList ++ connection.arrived

theorem received_of_eq {result : Except ProtocolError Wire.Message}
    (received : connection.receive = (after, result)) : Received connection after result := by
  unfold receive at received
  simp only at received
  split at received <;> rename_i taken <;> cases received <;> exact ⟨taken, rfl, rfl, rfl⟩

theorem receive_draws {result : Except ProtocolError Wire.Message}
    (received : connection.receive = (after, result)) :
    connection.Draws result.toOption.toList after := by
  obtain ⟨came, buffer, reads, arrived⟩ := received_of_eq received
  obtain ⟨used, split, joined⟩ := arrival_bytes connection.buffer connection.reads
  rw [← buffer, came] at joined
  rw [← reads] at split
  cases result with
  | error error => exact ⟨arrived, ⟨used, split, joined⟩, by simp [Except.toOption]⟩
  | ok message =>
    refine ⟨arrived, ⟨used, split, joined.trans (by simp [framed, Except.toOption])⟩, ?_⟩
    rintro _ (_ | ⟨_, ⟨⟩⟩)
    exact fits_arrival came

inductive Takes : List Wire.Message → Connection → Connection → Prop
  | nil (connection : Connection) : Takes [] connection connection
  | cons {messages : List Wire.Message} {message : Wire.Message} {before middle after : Connection}
      (received : before.receive = (middle, .ok message)) (others : Takes messages middle after) :
      Takes (message :: messages) before after

theorem Takes.draws {messages : List Wire.Message} (takes : Takes messages before after) :
    before.Draws messages after := by
  induction takes with
  | nil => exact .of_same rfl rfl rfl
  | cons received _ ih => exact (receive_draws received).trans ih

theorem Takes.snoc {messages : List Wire.Message} {message : Wire.Message} {last : Connection}
    (takes : Takes messages before last) (received : last.receive = (after, .ok message)) :
    Takes (messages ++ [message]) before after := by
  induction takes with
  | nil => exact .cons received (.nil after)
  | cons first _ ih => exact .cons first (ih received)

theorem Takes.pending {messages : List Wire.Message} (takes : Takes messages before after) :
    after.pending = before.pending := by
  induction takes with
  | nil => rfl
  | cons received _ ih => exact ih.trans (pending_receive received)

inductive Ends (kind : Wire.RequestKind) (kept : List Wire.Message) (connection : Connection) :
    Connection × Except ProtocolError Wire.Message → Prop
  | failed {after : Connection} {error : ProtocolError}
      (received : connection.receive = (after, .error error)) :
      Ends kind kept connection (after.keep kept, .error error)
  | replied {after : Connection} {reply : Wire.Message}
      (received : connection.receive = (after, .ok reply)) (plain : ¬ reply.IsEvent)
      (same : reply.kind = kind.code) : Ends kind kept connection (after.keep kept, .ok reply)
  | mismatched {after : Connection} {reply : Wire.Message}
      (received : connection.receive = (after, .ok reply)) (plain : ¬ reply.IsEvent)
      (different : reply.kind ≠ kind.code) :
      Ends kind kept connection
        (after.keep kept, .error (.unexpectedReply kind.code reply.kind))

theorem awaitReplyAfter_ends (kept : List Wire.Message) (connection : Connection)
    (kind : Wire.RequestKind) :
    ∃ events last, Takes events connection last ∧ (∀ event ∈ events, event.IsEvent) ∧
      last.Ends kind (kept.reverse ++ events) (connection.awaitReplyAfter kept kind) := by
  fun_induction awaitReplyAfter kept connection kind with
  | case1 kept connection after error received =>
    refine ⟨[], connection, .nil connection, by simp, ?_⟩
    rw [List.append_nil]
    exact .failed received
  | case2 kept connection after event received isEvent ih =>
    obtain ⟨events, last, takes, all, ends⟩ := ih
    refine ⟨event :: events, last, .cons received takes, List.forall_mem_cons.2 ⟨isEvent, all⟩, ?_⟩
    rw [List.reverse_cons, List.append_assoc] at ends
    exact ends
  | case3 kept connection after reply received plain same =>
    refine ⟨[], connection, .nil connection, by simp, ?_⟩
    rw [List.append_nil]
    exact .replied received plain same
  | case4 kept connection after reply received plain different =>
    refine ⟨[], connection, .nil connection, by simp, ?_⟩
    rw [List.append_nil]
    exact .mismatched received plain different

inductive EndsEvent (connection : Connection) :
    Connection × Except ProtocolError Wire.Message → Prop
  | failed {after : Connection} {error : ProtocolError}
      (received : connection.receive = (after, .error error)) :
      EndsEvent connection (after, .error error)
  | given {after : Connection} {event : Wire.Message}
      (received : connection.receive = (after, .ok event)) (isEvent : event.IsEvent) :
      EndsEvent connection (after, .ok event)

theorem awaitEvent_ends (connection : Connection) :
    ∃ replies last, Takes replies connection last ∧ (∀ reply ∈ replies, ¬ reply.IsEvent) ∧
      last.EndsEvent connection.awaitEvent := by
  fun_induction awaitEvent connection with
  | case1 connection after error received =>
    exact ⟨[], connection, .nil connection, by simp, .failed received⟩
  | case2 connection after event received isEvent =>
    exact ⟨[], connection, .nil connection, by simp, .given received isEvent⟩
  | case3 connection after reply received plain ih =>
    obtain ⟨replies, last, takes, all, ends⟩ := ih
    exact ⟨reply :: replies, last, .cons received takes, List.forall_mem_cons.2 ⟨plain, all⟩, ends⟩

theorem Ends.draws {kind : Wire.RequestKind} {kept : List Wire.Message}
    {outcome : Connection × Except ProtocolError Wire.Message}
    (ends : connection.Ends kind kept outcome) :
    ∃ replies, connection.Draws replies outcome.1 ∧ (∀ reply ∈ replies, ¬ reply.IsEvent) ∧
      outcome.1.pending = connection.pending ++ kept := by
  have keeps {after : Connection} {result : Except ProtocolError Wire.Message}
      (received : connection.receive = (after, result)) :
      (after.keep kept).pending = connection.pending ++ kept := by
    rw [keep, pending_receive received]
  cases ends with
  | failed received =>
    exact ⟨_, (receive_draws received).keep kept, by simp [Except.toOption], keeps received⟩
  | replied received plain | mismatched received plain =>
    exact ⟨_, (receive_draws received).keep kept, by simpa [Except.toOption] using plain,
      keeps received⟩

theorem request_cases (connection : Connection) (kind : Wire.RequestKind) (payload : Bytes) :
    (Wire.maxLength < payload.length ∧
      ∃ error, connection.request kind payload = (connection, .error (.frame error))) ∨
    payload.length ≤ Wire.maxLength ∧
      ((∃ fault, connection.writeFault = some fault ∧
          connection.request kind payload = (connection, .error (.io fault))) ∨
        connection.request kind payload =
          awaitReply { connection with sent := ⟨kind.code, payload⟩ :: connection.sent } kind) := by
  unfold request send
  by_cases long : Wire.maxLength < payload.length
  · simp [Wire.encode, long]
  · rw [Wire.encode_of_le (Nat.le_of_not_lt long)]
    cases connection.writeFault with
    | none => exact .inr ⟨Nat.le_of_not_lt long, .inr rfl⟩
    | some fault => exact .inr ⟨Nat.le_of_not_lt long, .inl ⟨fault, rfl, rfl⟩⟩

@[simp] theorem requestJson_fst {α : Type} (connection : Connection) (kind : Wire.RequestKind)
    (payload : Bytes) (read : Json → Option α) :
    (connection.requestJson kind payload read).1 = (connection.request kind payload).1 := by
  unfold requestJson
  split
  · simp [*]
  · split <;> simp [*]

theorem sent_receive {result : Except ProtocolError Wire.Message}
    (received : connection.receive = (after, result)) : after.sent = connection.sent := by
  unfold receive at received
  simp only at received
  split at received <;> cases received <;> rfl

theorem sent_awaitReplyAfter (kept : List Wire.Message) (connection : Connection)
    (kind : Wire.RequestKind) : (awaitReplyAfter kept connection kind).1.sent = connection.sent := by
  fun_induction awaitReplyAfter kept connection kind with
  | case1 kept connection after error received =>
    have same : after.sent = connection.sent := sent_receive received
    exact same
  | case2 kept connection after message received isEvent ih => exact ih.trans (sent_receive received)
  | case3 kept connection after message received =>
    have same : after.sent = connection.sent := sent_receive received
    exact same
  | case4 kept connection after message received =>
    have same : after.sent = connection.sent := sent_receive received
    exact same

theorem sent_request (connection : Connection) (kind : Wire.RequestKind) (payload : Bytes) :
    (connection.request kind payload).1.sent =
      if payload.length ≤ Wire.maxLength ∧ connection.writeFault = none then
        ⟨kind.code, payload⟩ :: connection.sent
      else connection.sent := by
  unfold request send
  by_cases fits : payload.length ≤ Wire.maxLength
  · rw [Wire.encode_of_le fits]
    cases connection.writeFault with
    | none =>
      rw [if_pos ⟨fits, rfl⟩]
      exact sent_awaitReplyAfter [] _ kind
    | some error =>
      rw [if_neg (fun both => nomatch both.2)]
  · rw [if_neg (fun both => fits both.1)]
    simp [Wire.encode, Nat.lt_of_not_le fits]

theorem request_draws (connection : Connection) (kind : Wire.RequestKind) (payload : Bytes) :
    ∃ messages, connection.Draws messages (connection.request kind payload).1 ∧
      (connection.request kind payload).1.pending = connection.pending ++ Wire.eventsIn messages := by
  rcases connection.request_cases kind payload with ⟨_, _, failed⟩ | ⟨_, ⟨_, _, failed⟩ | awaits⟩
  · rw [failed]
    exact ⟨[], .of_same rfl rfl rfl, by simp [Wire.eventsIn]⟩
  · rw [failed]
    exact ⟨[], .of_same rfl rfl rfl, by simp [Wire.eventsIn]⟩
  · rw [awaits]
    obtain ⟨events, last, takes, all, ends⟩ := awaitReplyAfter_ends []
      { connection with sent := ⟨kind.code, payload⟩ :: connection.sent } kind
    obtain ⟨replies, more, plain, kept⟩ := ends.draws
    have whole := takes.draws.trans more
    refine ⟨events ++ replies, ⟨whole.arrived, whole.bytes, whole.fits⟩, ?_⟩
    rw [Wire.eventsIn_append, Wire.eventsIn_of_all all, Wire.eventsIn_of_none plain, List.append_nil]
    exact kept.trans (by rw [takes.pending]; rfl)

theorem nextEvent_draws (connection : Connection) :
    ∃ messages, connection.Draws messages connection.nextEvent.1 ∧
      Call.nextEvent.events connection.nextEvent.2 ++ connection.nextEvent.1.pending =
        connection.pending ++ Wire.eventsIn messages := by
  unfold nextEvent
  split
  · rename_i event later pending
    exact ⟨[], .of_same rfl rfl rfl, by simp [Call.events, pending, Wire.eventsIn]⟩
  · rename_i pending
    obtain ⟨replies, last, takes, plain, ends⟩ := connection.awaitEvent_ends
    have eventless := Wire.eventsIn_of_none plain
    generalize connection.awaitEvent = outcome at ends ⊢
    cases ends with
    | failed received =>
      refine ⟨_, takes.draws.trans (receive_draws received), ?_⟩
      rw [pending_receive received, takes.pending, pending, Wire.eventsIn_append, eventless]
      rfl
    | @given _ event received isEvent =>
      refine ⟨_, takes.draws.trans (receive_draws received), ?_⟩
      have whole : Wire.eventsIn [event] = [event] := Wire.eventsIn_of_all (by simpa using isEvent)
      rw [pending_receive received, takes.pending, pending, Wire.eventsIn_append, eventless]
      exact whole.symm

theorem perform_fst {call : Call} {kind : Wire.RequestKind} {payload : Bytes}
    (asks : call.asks? = some (kind, payload)) (connection : Connection) :
    (call.perform connection).1 = (connection.request kind payload).1 := by
  cases call with
  | request => cases asks; rfl
  | requestJson => cases asks; exact connection.requestJson_fst _ _ _
  | subscribe => cases asks; exact connection.requestJson_fst _ _ _
  | nextEvent => cases asks

inductive Follows {α : Type} (makes : Wire.Message → α → Prop) :
    Except ProtocolError Wire.Message → Except ProtocolError α → Prop
  | failed (error : ProtocolError) : Follows makes (.error error) (.error error)
  | notJson (reply : Wire.Message) : Follows makes (.ok reply) (.error .notJson)
  | made {reply : Wire.Message} {result : α} (fits : makes reply result) :
      Follows makes (.ok reply) (.ok result)

theorem Follows.error {α : Type} {makes : Wire.Message → α → Prop} {error : ProtocolError}
    {result : Except ProtocolError α} (follows : Follows makes (.error error) result) :
    result = .error error := by
  cases follows
  rfl

theorem Follows.ok {α : Type} {makes : Wire.Message → α → Prop} {value : α}
    {outcome : Except ProtocolError Wire.Message} (follows : Follows makes outcome (.ok value)) :
    ∃ reply, outcome = .ok reply ∧ makes reply value := by
  cases follows with
  | made fits => exact ⟨_, rfl, fits⟩

theorem Follows.unexpected {α : Type} {makes : Wire.Message → α → Prop} {expected actual : UInt32}
    {outcome : Except ProtocolError Wire.Message}
    (follows : Follows makes outcome (.error (.unexpectedReply expected actual))) :
    outcome = .error (.unexpectedReply expected actual) := by
  cases follows
  rfl

theorem requestJson_snd {α : Type} (connection : Connection) (kind : Wire.RequestKind)
    (payload : Bytes) (read : Json → Option α) :
    Follows (fun reply result => (Json.read? reply.payload).bind read = some result)
      (connection.request kind payload).2 (connection.requestJson kind payload read).2 := by
  unfold requestJson
  split
  · rename_i error failed
    rw [failed]
    exact .failed error
  · rename_i reply replied
    rw [replied]
    split
    · rename_i result made
      exact .made made
    · exact .notJson reply

theorem perform_snd {call : Call} {kind : Wire.RequestKind} {payload : Bytes}
    (asks : call.asks? = some (kind, payload)) (connection : Connection) :
    Follows call.Makes (connection.request kind payload).2 (call.perform connection).2 := by
  cases call with
  | request =>
    cases asks
    rw [Call.perform]
    cases (connection.request kind payload).2 with
    | error error => exact .failed error
    | ok reply => exact .made rfl
  | requestJson => cases asks; exact connection.requestJson_snd _ _ _
  | subscribe => cases asks; exact connection.requestJson_snd _ _ _
  | nextEvent => cases asks

theorem events_of_asks {call : Call} {asked : Wire.RequestKind × Bytes}
    (asks : call.asks? = some asked) (result : Except ProtocolError call.Result) :
    call.events result = [] := by
  cases call with
  | request | requestJson | subscribe => rfl
  | nextEvent => cases asks

theorem perform_draws (connection : Connection) (call : Call) :
    ∃ messages, connection.Draws messages (call.perform connection).1 ∧
      call.events (call.perform connection).2 ++ (call.perform connection).1.pending =
        connection.pending ++ Wire.eventsIn messages := by
  cases asks : call.asks? with
  | some asked =>
    rw [events_of_asks asks, perform_fst asks]
    exact connection.request_draws _ _
  | none => cases call with
    | request | requestJson | subscribe => cases asks
    | nextEvent => exact connection.nextEvent_draws

end Connection

/-- A connection in use, with the events that it has given its client. -/
structure Usage where
  connection : Connection
  given : List Wire.Message := []

namespace Usage

def call (usage : Usage) (call : Call) (fault : Option OsError) : Usage :=
  let done := call.perform { usage.connection with writeFault := fault }
  ⟨done.1, usage.given ++ call.events done.2⟩

def run (usage : Usage) (calls : List (Call × Option OsError)) : Usage :=
  calls.foldl (fun usage call => usage.call call.1 call.2) usage

/-- The events that were given and those that are kept are those that arrived, and the messages that
arrived are what was read of `reads`, but for the bytes that are not yet understood. -/
structure Kept (reads : List ReadAnswer) (usage : Usage) : Prop where
  events : usage.given ++ usage.connection.pending =
    Wire.eventsIn usage.connection.arrived.reverse
  draws : Connection.Draws usage.connection.arrived.reverse { reads } usage.connection

theorem Kept.call {reads : List ReadAnswer} {usage : Usage} (kept : usage.Kept reads)
    (call : Call) (fault : Option OsError) : (usage.call call fault).Kept reads := by
  obtain ⟨messages, draws, events⟩ :=
    Connection.perform_draws { usage.connection with writeFault := fault } call
  have arrived : (usage.call call fault).connection.arrived.reverse =
      usage.connection.arrived.reverse ++ messages := by
    rw [← List.reverse_reverse messages, ← List.reverse_append]
    exact congrArg List.reverse draws.arrived
  constructor
  · rw [arrived, Wire.eventsIn_append, ← kept.events]
    simp only [Usage.call, List.append_assoc]
    rw [events]
  · rw [arrived]
    exact kept.draws.trans ⟨draws.arrived, draws.bytes, draws.fits⟩

theorem Kept.run {reads : List ReadAnswer} {usage : Usage} (kept : usage.Kept reads)
    (calls : List (Call × Option OsError)) : (usage.run calls).Kept reads := by
  induction calls generalizing usage with
  | nil => exact kept
  | cons call calls ih => exact ih (kept.call call.1 call.2)

theorem kept_of_new (reads : List ReadAnswer) : Usage.Kept reads { connection := { reads } } :=
  ⟨rfl, .of_same rfl rfl rfl⟩

/-- Whatever the peer sends, in whatever pieces, and however the calls on a connection end: the events
that it has given, followed by those that it keeps, are the events among the messages that arrived, and
those messages are the frames that were read, in their order. -/
theorem events_kept (reads : List ReadAnswer) (calls : List (Call × Option OsError)) :
    let usage := Usage.run { connection := { reads } } calls
    let arrived := usage.connection.arrived.reverse
    usage.given ++ usage.connection.pending =
        arrived.filter (fun message => Wire.isEvent message.kind) ∧
      ∃ used encoded, reads = used ++ usage.connection.reads ∧
        Wire.encodeAll arrived = .ok encoded ∧
        used.flatMap ReadAnswer.content = encoded ++ usage.connection.buffer.bytes := by
  intro usage arrived
  have kept : usage.Kept reads := (kept_of_new reads).run calls
  obtain ⟨used, split, bytes⟩ := kept.draws.bytes
  exact ⟨kept.events, used, _, split, Wire.encodeAll_of_le kept.draws.fits, bytes⟩

end Usage

end TileServer

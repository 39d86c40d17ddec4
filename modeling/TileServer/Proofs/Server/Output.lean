import TileServer.Proofs.Server.Standing
import TileServer.Proofs.Wire.RoundTrip

namespace TileServer

/-- What a message adds to a stream: its frame, or nothing if it cannot be framed. -/
def Wire.encoding (message : Wire.Message) : Bytes :=
  match Wire.encode message with
  | .ok bytes => bytes
  | .error _ => []

namespace Socket

theorem accepted_take (socket : Socket) (outbound : Wire.ByteQueue) (count : Nat) :
    (socket.take outbound count).accepted = socket.accepted ++ outbound.bytes.take count := by
  simp [take, say, accepted]

theorem accepted_take_drop (socket : Socket) (outbound : Wire.ByteQueue) (count : Nat) :
    (socket.take outbound count).accepted ++ (outbound.drop count).bytes =
      socket.accepted ++ outbound.bytes := by
  rw [accepted_take, Wire.ByteQueue.bytes_drop, List.append_assoc, List.take_append_drop]

theorem flushOutlet_stream (socket : Socket) (outbound : Wire.ByteQueue) :
    (socket.flushOutlet outbound).socket.accepted ++ (socket.flushOutlet outbound).outbound.bytes =
      socket.accepted ++ outbound.bytes := by
  unfold flushOutlet
  split
  · rfl
  · split
    · have all : outbound.bytes.take outbound.size = outbound.bytes :=
        List.take_of_length_le outbound.length_bytes.le
      simp only [accepted_take, all, Wire.ByteQueue.bytes_empty, List.append_nil]
    · rfl
    · rfl
    · simp only
      split
      · rfl
      · split <;> exact socket.accepted_take_drop outbound _

theorem flushWith_stream (socket : Socket) (outbound : Wire.ByteQueue) (answers : List WriteAnswer) :
    (socket.flushWith outbound answers).socket.accepted ++
        (socket.flushWith outbound answers).outbound.bytes =
      socket.accepted ++ outbound.bytes := by
  induction answers generalizing socket outbound with
  | nil => exact flushOutlet_stream _ outbound
  | cons answer answers ih =>
    unfold flushWith
    split
    · rfl
    · cases answer with
      | takes more => exact (ih _ _).trans (socket.accepted_take_drop outbound _)
      | interrupted => exact ih (socket.say .interrupted) outbound
      | takesNothing | wouldBlock | fails => rfl

end Socket

namespace Client

/-- What a client's socket has taken, and behind it what waits to be written. -/
def stream (client : Client) : Bytes :=
  client.socket.accepted ++ client.outbound.bytes

theorem stream_flush (client : Client) : client.flush.1.stream = client.stream :=
  client.socket.flushWith_stream client.outbound client.socket.answers

theorem stream_append (client : Client) (message : Wire.Message) :
    (client.append message).stream = client.stream ++ Wire.frame message := by
  simp [stream, append, List.append_assoc]

theorem stream_queue (client : Client) (message : Wire.Message) (limit : Nat) :
    (client.queue message limit).1.stream = client.stream ++ Wire.encoding message := by
  have flushed := (client.append message).stream_flush
  rw [stream_append] at flushed
  unfold queue Wire.encoding
  cases encoded : Wire.encode message with
  | error error => exact (List.append_nil _).symm
  | ok bytes =>
    obtain ⟨_, rfl⟩ := Wire.encode_eq_ok encoded
    simp only
    generalize (client.append message).flush = result at flushed ⊢
    obtain ⟨after, error⟩ := result
    cases error with
    | some error => exact flushed
    | none =>
      simp only
      split <;> exact flushed

end Client

namespace Registry

theorem stream_deliver (limit : Nat) (event : Event) (client : Client) :
    (deliver limit event client).1.stream = client.stream ++
      (if client.isSubscribed event.name then [event.message] else []).flatMap Wire.encoding := by
  have queued := client.stream_queue event.message limit
  unfold deliver
  split
  · rw [List.flatMap_singleton, ← queued]
    split <;> rename_i result <;> rw [result]
  · exact (List.append_nil _).symm

inductive Operation
  | register (fd : Nat) (socket : Socket)
  | drop (cause : Cause) (fd : Nat)
  | subscribe (fd : Nat) (events : List String)
  | makeRoom (fd : Nat)
  | receive (fd : Nat) (bytes : Bytes)
  | next (fd : Nat)
  | send (fd : Nat) (message : Wire.Message)
  | broadcast (event : Event)
  | flush (fd : Nat)
  | flushAll
  | shutdown
  | note (deed : Deed)

def Operation.fd? : Operation → Option Nat
  | drop _ fd | subscribe fd _ | makeRoom fd | receive fd _ | next fd | send fd _ | flush fd => some fd
  | register _ _ | broadcast _ | flushAll | shutdown | note _ => none

def perform (registry : Registry) : Operation → Registry
  | .register fd socket => registry.register fd socket
  | .drop cause fd => registry.drop cause fd
  | .subscribe fd events => registry.subscribe fd events
  | .makeRoom fd => registry.makeRoom fd
  | .receive fd bytes => registry.receive fd bytes
  | .next fd => (registry.next fd).1
  | .send fd message => (registry.send fd message).1
  | .broadcast event => (registry.broadcast event).1
  | .flush fd => (registry.flushClient fd).1
  | .flushAll => registry.flushAll
  | .shutdown => registry.shutdown
  | .note deed => registry.note deed

def Permits (registry : Registry) : Operation → Prop
  | .register fd socket => registry.contains fd = false ∧ socket.accepted = []
  | _ => True

/-- What an operation wants to queue for a client. -/
def Operation.offers (operation : Operation) (client : Client) : List Wire.Message :=
  match operation with
  | send fd message => if client.fd = fd then [message] else []
  | broadcast event => if client.isSubscribed event.name then [event.message] else []
  | _ => []

/-- What an operation wants to queue for the client with a serial number, if it is registered. -/
def offered (registry : Registry) (serial : Nat) (offers : Client → List Wire.Message) :
    List Wire.Message :=
  (registry.clients.filter (fun client => client.serial == serial)).flatMap offers

/-- A registry in which each client's output is what a ledger says was queued for it. -/
structure Streams (ledger : Nat → List Wire.Message) (registry : Registry) : Prop where
  fds : (registry.clients.map Client.fd).Nodup
  serials : ((registry.clients ++ registry.departed).map Client.serial).Nodup
  known : ∀ client ∈ registry.clients ++ registry.departed, client.serial < registry.accepted
  blank : ∀ serial, registry.accepted ≤ serial → ledger serial = []
  streams : ∀ client ∈ registry.clients ++ registry.departed,
    client.stream = (ledger client.serial).flatMap Wire.encoding

variable {registry : Registry} {ledger : Nat → List Wire.Message}

theorem streams_new (maxMessage maxBacklog : Nat) :
    (new maxMessage maxBacklog).Streams (fun _ => []) where
  fds := List.nodup_nil
  serials := List.nodup_nil
  known := by simp [new]
  blank := fun _ _ => rfl
  streams := by simp [new]

theorem Streams.of_same {other : Registry} (streams : registry.Streams ledger)
    (clients : other.clients = registry.clients) (departed : other.departed = registry.departed)
    (accepted : other.accepted = registry.accepted) : other.Streams ledger := by
  obtain ⟨fds, serials, known, blank, streams⟩ := streams
  rw [← clients] at fds
  rw [← clients, ← departed] at serials known streams
  rw [← accepted] at known blank
  exact ⟨fds, serials, known, blank, streams⟩

theorem filter_serial {clients : List Client} {client : Client}
    (nodup : (clients.map Client.serial).Nodup) (member : client ∈ clients) :
    clients.filter (fun other => other.serial == client.serial) = [client] := by
  obtain ⟨front, back, rfl⟩ := List.append_of_mem member
  have elsewhere := not_mem_map_middle nodup
  have others : (front ++ back).filter (fun other => other.serial == client.serial) = [] := by
    refine List.filter_eq_nil_iff.2 (fun other there same => elsewhere ?_)
    exact List.mem_map.2 ⟨other, there, beq_iff_eq.1 same⟩
  rw [List.filter_append, List.append_eq_nil_iff] at others
  simp [others.1, others.2]

theorem Streams.offered_of_mem (streams : registry.Streams ledger) {client : Client}
    (member : client ∈ registry.clients) (offers : Client → List Wire.Message) :
    registry.offered client.serial offers = offers client := by
  have nodup := streams.serials
  rw [List.map_append] at nodup
  rw [offered, filter_serial nodup.of_append_left member, List.flatMap_singleton]

theorem offered_of_missing {serial : Nat}
    (missing : ∀ client ∈ registry.clients, client.serial ≠ serial)
    (offers : Client → List Wire.Message) : registry.offered serial offers = [] := by
  rw [offered, List.filter_eq_nil_iff.2 (by simpa using missing), List.flatMap_nil]

theorem Streams.offered_of_departed (streams : registry.Streams ledger) {client : Client}
    (member : client ∈ registry.departed) (offers : Client → List Wire.Message) :
    registry.offered client.serial offers = [] := by
  refine offered_of_missing (fun other there same => ?_) offers
  have nodup := streams.serials
  rw [List.map_append] at nodup
  exact List.disjoint_of_nodup_append nodup (List.mem_map_of_mem there)
    (same ▸ List.mem_map_of_mem member)

structure Queues (offers : List Wire.Message) (before after : Client) : Prop where
  serial : after.serial = before.serial
  fd : after.fd = before.fd
  stream : after.stream = before.stream ++ offers.flatMap Wire.encoding

theorem Queues.of_same {before after : Client} (serial : after.serial = before.serial)
    (fd : after.fd = before.fd) (socket : after.socket = before.socket)
    (outbound : after.outbound = before.outbound) : Queues [] before after :=
  ⟨serial, fd, by simp [Client.stream, socket, outbound]⟩

theorem queues_flush (client : Client) : Queues [] client client.flush.1 :=
  ⟨rfl, rfl, client.stream_flush.trans (List.append_nil _).symm⟩

theorem queues_queue (client : Client) (message : Wire.Message) (limit : Nat) :
    Queues [message] client (client.queue message limit).1 := by
  have kept := client.standing_queue message limit
  refine ⟨congrArg Standing.serial kept, congrArg Standing.fd kept, ?_⟩
  rw [List.flatMap_singleton]
  exact client.stream_queue message limit

theorem queues_deliver (limit : Nat) (event : Event) (client : Client) :
    Queues (if client.isSubscribed event.name then [event.message] else []) client
      (deliver limit event client).1 := by
  have kept := standing_deliver limit event client
  exact ⟨congrArg Standing.serial kept, congrArg Standing.fd kept, stream_deliver limit event client⟩

theorem Streams.change (streams : registry.Streams ledger) {change : Client → Client}
    {offers : Client → List Wire.Message}
    (queues : ∀ client ∈ registry.clients, Queues (offers client) client (change client))
    (journal : List Deed) :
    Streams (fun serial => ledger serial ++ registry.offered serial offers)
      { registry with clients := registry.clients.map change, journal } := by
  have serials : (registry.clients.map change).map Client.serial =
      registry.clients.map Client.serial := by
    rw [List.map_map]
    exact List.map_congr_left (fun client member => (queues client member).serial)
  have fds : (registry.clients.map change).map Client.fd = registry.clients.map Client.fd := by
    rw [List.map_map]
    exact List.map_congr_left (fun client member => (queues client member).fd)
  have known : ∀ client ∈ registry.clients.map change ++ registry.departed,
      client.serial < registry.accepted := by
    intro client member
    rcases List.mem_append.1 member with changed | gone
    · obtain ⟨earlier, before, rfl⟩ := List.mem_map.1 changed
      rw [(queues earlier before).serial]
      exact streams.known earlier (List.mem_append_left _ before)
    · exact streams.known client (List.mem_append_right _ gone)
  refine ⟨?_, ?_, known, ?_, ?_⟩
  · rw [fds]
    exact streams.fds
  · rw [List.map_append, serials, ← List.map_append]
    exact streams.serials
  -- A number that was not given yet is no client's, so that nothing is queued for it.
  · intro serial later
    rw [streams.blank serial later, List.nil_append]
    refine offered_of_missing (fun client member same => ?_) offers
    have earlier := streams.known client (List.mem_append_left _ member)
    have later : registry.accepted ≤ serial := later
    omega
  · intro client member
    rw [List.flatMap_append]
    rcases List.mem_append.1 member with changed | gone
    · obtain ⟨earlier, before, rfl⟩ := List.mem_map.1 changed
      obtain ⟨serial, _, stream⟩ := queues earlier before
      rw [serial, streams.offered_of_mem before, stream,
        streams.streams earlier (List.mem_append_left _ before)]
    · rw [streams.offered_of_departed gone, streams.streams client (List.mem_append_right _ gone)]
      exact (List.append_nil _).symm

@[simp] theorem offered_nil (registry : Registry) (serial : Nat) :
    registry.offered serial (fun _ => []) = [] :=
  List.flatMap_eq_nil_iff.2 (fun _ _ => rfl)

theorem Streams.modify (streams : registry.Streams ledger) (fd : Nat) {change : Client → Client}
    {message : List Wire.Message}
    (queues : ∀ client ∈ registry.clients, client.fd = fd → Queues message client (change client)) :
    Streams (fun serial => ledger serial ++
        registry.offered serial (fun client => if client.fd = fd then message else []))
      (registry.modify fd change) := by
  refine streams.change (fun client member => ?_) registry.journal
  by_cases same : client.fd = fd
  · rw [if_pos same, if_pos same]
    exact queues client member same
  · rw [if_neg same, if_neg same]
    exact ⟨rfl, rfl, (List.append_nil _).symm⟩

theorem Streams.keep (streams : registry.Streams ledger) (fd : Nat) {change : Client → Client}
    (queues : ∀ client ∈ registry.clients, client.fd = fd → Queues [] client (change client)) :
    (registry.modify fd change).Streams ledger := by
  have kept := streams.modify fd queues
  simp only [ite_self, offered_nil, List.append_nil] at kept
  exact kept

theorem Streams.drop (streams : registry.Streams ledger) (cause : Cause) (fd : Nat) :
    (registry.drop cause fd).Streams ledger := by
  cases found : registry.find? fd with
  | none =>
    rw [drop_of_missing found]
    exact streams
  | some client =>
    obtain ⟨front, back, split, dropped⟩ := drop_of_found cause found
    -- The same clients are there as before, one of them at another place.
    have moved : ((front ++ back) ++ client :: registry.departed).Perm
        (registry.clients ++ registry.departed) := by
      rw [split, List.append_assoc, List.append_assoc, List.cons_append]
      exact List.perm_middle.append_left front
    have less : (front ++ back).Sublist registry.clients := by
      rw [split]
      exact (List.sublist_cons_self client back).append_left front
    rw [dropped]
    refine ⟨streams.fds.sublist (less.map _), ?_, ?_, streams.blank, ?_⟩
    · exact (moved.map Client.serial).nodup_iff.2 streams.serials
    · exact fun other member => streams.known other (moved.subset member)
    · exact fun other member => streams.streams other (moved.subset member)

theorem Streams.dropAll (streams : registry.Streams ledger) (cause : Cause) (fds : List Nat) :
    (fds.foldl (Registry.drop cause) registry).Streams ledger := by
  induction fds generalizing registry with
  | nil => exact streams
  | cons fd fds ih => exact ih (streams.drop cause fd)

theorem Streams.register (streams : registry.Streams ledger) {fd : Nat} {socket : Socket}
    (unused : registry.contains fd = false) (fresh : socket.accepted = []) :
    (registry.register fd socket).Streams ledger := by
  let client : Client := { serial := registry.accepted, fd, socket }
  have moved : (registry.clients ++ [client] ++ registry.departed).Perm
      (client :: (registry.clients ++ registry.departed)) := by
    rw [List.append_assoc]
    exact List.perm_middle
  have cases : ∀ other ∈ registry.clients ++ [client] ++ registry.departed,
      other = client ∨ other ∈ registry.clients ++ registry.departed :=
    fun other member => List.mem_cons.1 (moved.subset member)
  refine ⟨Distinct.register streams.fds socket unused, ?_, ?_,
    fun serial later => streams.blank serial (Nat.le_of_succ_le later), ?_⟩
  · refine (moved.map Client.serial).nodup_iff.2 (List.nodup_cons.2 ⟨?_, streams.serials⟩)
    intro member
    obtain ⟨other, there, same⟩ := List.mem_map.1 member
    have earlier := streams.known other there
    have equal : other.serial = registry.accepted := same
    omega
  · intro other member
    rcases cases other member with rfl | before
    · exact Nat.lt_succ_self _
    · exact Nat.lt_succ_of_lt (streams.known other before)
  · intro other member
    rcases cases other member with rfl | before
    · rw [streams.blank client.serial (Nat.le_refl _)]
      exact (List.append_nil _).trans fresh
    · exact streams.streams other before

theorem Streams.subscribe (streams : registry.Streams ledger) (fd : Nat) (events : List String) :
    (registry.subscribe fd events).Streams ledger := by
  unfold Registry.subscribe
  split
  · exact streams
  · have kept : (registry.modify fd (fun client => client.subscribe events)).Streams ledger := by
      refine streams.keep fd (fun client _ _ => ?_)
      rw [client.subscribe_eq]
      exact .of_same rfl rfl rfl rfl
    exact kept.of_same rfl rfl rfl

theorem Streams.receive (streams : registry.Streams ledger) (fd : Nat) (bytes : Bytes) :
    (registry.receive fd bytes).Streams ledger := by
  unfold Registry.receive
  split
  · exact streams
  · have kept : (registry.modify fd (fun client => client.receive bytes)).Streams ledger :=
      streams.keep fd (fun _ _ _ => .of_same rfl rfl rfl rfl)
    exact kept.of_same rfl rfl rfl

theorem Streams.next (streams : registry.Streams ledger) (fd : Nat) :
    (registry.next fd).1.Streams ledger := by
  unfold Registry.next
  split
  · exact streams
  · split
    · exact streams.keep fd (fun _ _ _ => .of_same rfl rfl rfl rfl)
    · exact streams
    · exact streams.keep fd (fun _ _ _ => .of_same rfl rfl rfl rfl)

theorem Streams.flushClient (streams : registry.Streams ledger) (fd : Nat) :
    (registry.flushClient fd).1.Streams ledger := by
  unfold Registry.flushClient
  split
  · exact streams
  · rename_i client found
    refine streams.keep fd (fun other member same => ?_)
    rw [Distinct.eq_of_find? streams.fds found member same]
    exact queues_flush client

theorem Streams.flushAll (streams : registry.Streams ledger) : registry.flushAll.Streams ledger := by
  have queues : ∀ client ∈ registry.clients, Queues [] client client.flush.1 :=
    fun client _ => queues_flush client
  have flushed := streams.change queues registry.journal
  simp only [offered_nil, List.append_nil] at flushed
  unfold Registry.flushAll
  simp only [List.map_map]
  exact flushed.dropAll .writeFailed _

theorem offered_send_of_missing {fd : Nat} (missing : registry.find? fd = none)
    (message : Wire.Message) (serial : Nat) :
    registry.offered serial (fun client => if client.fd = fd then [message] else []) = [] := by
  refine List.flatMap_eq_nil_iff.2 (fun client member => if_neg (fun same => ?_))
  exact List.find?_eq_none.1 missing client (List.mem_filter.1 member).1 (beq_iff_eq.2 same)

theorem Streams.send (streams : registry.Streams ledger) (fd : Nat) (message : Wire.Message) :
    Streams (fun serial => ledger serial ++
        registry.offered serial (fun client => if client.fd = fd then [message] else []))
      (registry.send fd message).1 := by
  unfold Registry.send
  split
  · rename_i missing
    simp only [offered_send_of_missing missing, List.append_nil]
    exact streams
  · rename_i client found
    have sent : Streams (fun serial => ledger serial ++ registry.offered serial
        (fun client => if client.fd = fd then [message] else []))
        (registry.modify fd (fun _ => (client.queue message registry.maxBacklog).1)) := by
      refine streams.modify fd (fun other member same => ?_)
      rw [Distinct.eq_of_find? streams.fds found member same]
      exact queues_queue client message registry.maxBacklog
    simp only
    split
    · exact sent
    · exact sent.of_same rfl rfl rfl

theorem Streams.broadcast (streams : registry.Streams ledger) (event : Event) :
    Streams (fun serial => ledger serial ++ registry.offered serial (fun client =>
        if client.isSubscribed event.name then [event.message] else []))
      (registry.broadcast event).1 := by
  unfold Registry.broadcast
  simp only [List.map_map]
  refine Streams.dropAll (streams.change (fun client _ => ?_) _) .overflowed _
  exact queues_deliver registry.maxBacklog event client

theorem Streams.perform (streams : registry.Streams ledger) {operation : Operation}
    (permitted : registry.Permits operation) :
    Streams (fun serial => ledger serial ++ registry.offered serial operation.offers)
      (registry.perform operation) := by
  have nothing {after : Registry} (kept : after.Streams ledger) :
      Streams (fun serial => ledger serial ++ registry.offered serial (fun _ => [])) after := by
    simp only [offered_nil, List.append_nil]
    exact kept
  cases operation with
  | send fd message => exact streams.send fd message
  | broadcast event => exact streams.broadcast event
  | register fd socket => exact nothing (streams.register permitted.1 permitted.2)
  | drop cause fd => exact nothing (streams.drop cause fd)
  | subscribe fd events => exact nothing (streams.subscribe fd events)
  | makeRoom fd => exact nothing (streams.keep fd (fun _ _ _ => .of_same rfl rfl rfl rfl))
  | receive fd bytes => exact nothing (streams.receive fd bytes)
  | next fd => exact nothing (streams.next fd)
  | flush fd => exact nothing (streams.flushClient fd)
  | flushAll => exact nothing streams.flushAll
  | shutdown => exact nothing (streams.dropAll .closed _)
  | note deed => exact nothing (streams.of_same rfl rfl rfl)

/-- A registry that another one becomes by operations, each of which meets a condition on the registry
that it is performed on. -/
inductive Reaches (meets : Registry → Operation → Prop) (before : Registry) : Registry → Prop
  | refl : Reaches meets before before
  | step {middle : Registry} (reaches : Reaches meets before middle) {operation : Operation}
      (met : meets middle operation) : Reaches meets before (middle.perform operation)

theorem Reaches.trans {meets : Registry → Operation → Prop} {before middle after : Registry}
    (one : before.Reaches meets middle) (other : middle.Reaches meets after) :
    before.Reaches meets after := by
  induction other with
  | refl => exact one
  | step _ met ih => exact ih.step met

theorem Reaches.mono {meets suits : Registry → Operation → Prop} {before after : Registry}
    (reaches : before.Reaches meets after)
    (weaker : ∀ registry operation, meets registry operation → suits registry operation) :
    before.Reaches suits after := by
  induction reaches with
  | refl => exact .refl
  | step _ met ih => exact ih.step (weaker _ _ met)

theorem reaches_perform {meets : Registry → Operation → Prop} (operation : Operation)
    (met : meets registry operation) : registry.Reaches meets (registry.perform operation) :=
  Reaches.refl.step met

def PermitsAll : Registry → List Operation → Prop
  | _, [] => True
  | registry, operation :: rest =>
    registry.Permits operation ∧ (registry.perform operation).PermitsAll rest

def performAll (registry : Registry) (operations : List Operation) : Registry :=
  operations.foldl perform registry

def queued (serial : Nat) : Registry → List Operation → List Wire.Message
  | _, [] => []
  | registry, operation :: rest =>
    registry.offered serial operation.offers ++ queued serial (registry.perform operation) rest

theorem Streams.performAll (streams : registry.Streams ledger) {operations : List Operation}
    (permitted : registry.PermitsAll operations) :
    Streams (fun serial => ledger serial ++ queued serial registry operations)
      (registry.performAll operations) := by
  induction operations generalizing registry ledger with
  | nil =>
    simp only [queued, List.append_nil]
    exact streams
  | cons operation operations ih =>
    obtain ⟨first, others⟩ := permitted
    have last := ih (streams.perform first) others
    simp only [List.append_assoc] at last
    exact last

/-- Whatever is done to a registry, and however the sockets of its clients answer, the bytes that a
client's socket has taken and those that wait for it are the frames of what was queued for the client, as
far as it could be framed, in the order in which it was queued. A client that is gone keeps what it
had. -/
theorem output_kept (maxMessage maxBacklog : Nat) (operations : List Operation)
    (permitted : (new maxMessage maxBacklog).PermitsAll operations) :
    ∀ client ∈ ((new maxMessage maxBacklog).performAll operations).clients ++
        ((new maxMessage maxBacklog).performAll operations).departed,
      client.socket.accepted ++ client.outbound.bytes =
        (queued client.serial (new maxMessage maxBacklog) operations).flatMap Wire.encoding :=
  ((streams_new maxMessage maxBacklog).performAll permitted).streams

def stutter : List Operation :=
  [.register 7 { answers := [.takes 8, .wouldBlock, .fails .brokenPipe, .interrupted, .takes 1] },
    .subscribe 7 ["Mode"], .send 7 ⟨7, [1, 2]⟩, .broadcast ⟨"mode", 0x80000002, [3]⟩]

theorem output_kept_of_stutter :
    (new 64 4096).PermitsAll stutter ∧
      ∀ client ∈ ((new 64 4096).performAll stutter).clients,
        client.socket.accepted ++ client.outbound.bytes =
          Wire.frame ⟨7, [1, 2]⟩ ++ Wire.frame ⟨0x80000002, [3]⟩ := by
  have permitted : (new 64 4096).PermitsAll stutter :=
    ⟨⟨rfl, rfl⟩, True.intro, True.intro, True.intro, True.intro⟩
  refine ⟨permitted, fun client member => ?_⟩
  have first : ∀ client ∈ ((new 64 4096).performAll stutter).clients, client.serial = 0 := by decide
  have kept := output_kept 64 4096 stutter permitted client (List.mem_append_left _ member)
  rw [first client member] at kept
  exact kept.trans (by decide)

example : ((new 64 4096).performAll stutter).clients.map (fun client => client.outbound.size) =
    [22] := by
  decide

end Registry

end TileServer

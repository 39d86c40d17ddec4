import TileServer.Proofs.Server.Exchange
import TileServer.Proofs.Server.Handling

namespace TileServer

/-- Whether connections come with descriptors that no registered client has. -/
def Registry.Admits : Registry → List (Nat × Socket) → Prop
  | _, [] => True
  | registry, connection :: rest =>
    registry.contains connection.1 = false ∧
      (registry.register connection.1 connection.2).Admits rest

def Wake.arrivals : Wake → List Event
  | .published event => [event]
  | _ => []

namespace Server

open Registry

/-- Whether the connections that a turn accepts come with descriptors that are not in use. -/
def Admits (server : Server) (turn : Turn) : Prop :=
  match turn.wake with
  | .accepted connections => (server.drain turn.devices).registry.Admits connections
  | _ => True

def AdmitsAll (server : Server) : List Turn → Prop
  | [] => True
  | turn :: rest => server.Admits turn ∧ (server.turn turn).prepare.AdmitsAll rest

variable {server : Server} {limit : Nat} {arrived : List Event}

theorem publishes_idle : Publishes .idle where
  free := isFree_idle
  plain := by
    intro serial message handled
    cases handled

theorem handleDevice_resting (resting : server.registry.Resting limit arrived) (event : DeviceEvent) :
    (server.handleDevice event).1.registry.Resting limit arrived := by
  have publishes : Publishes (phase server.registry.journal) := by
    rw [resting.idle]
    exact publishes_idle
  cases event with
  | publish event =>
    exact resting.of_leads (resting.coherent.publishOne publishes event)
  | command text =>
    exact resting.of_leads
      (resting.coherent.publishChanges publishes (server.layout.run text).changes)
  | render => exact resting

theorem handleDevices_resting (resting : server.registry.Resting limit arrived)
    (events : List DeviceEvent) :
    (server.handleDevices events).1.registry.Resting limit arrived := by
  induction events generalizing server with
  | nil => exact resting
  | cons event events ih => exact ih (handleDevice_resting resting event)

theorem drain_resting (resting : server.registry.Resting limit arrived) (devices : List DeviceEvent) :
    (server.drain devices).registry.Resting limit arrived := by
  have handled := handleDevices_resting resting devices
  exact handled.of_leads (renderIf_leads (server.handleDevices devices).2 handled.coherent
    (by rw [handled.idle]; exact isFree_idle))

theorem handleRead_resting (resting : server.registry.Resting limit arrived) (fd : Nat)
    (answer : ReadAnswer) :
    (server.handleRead fd answer).registry.Resting limit arrived := by
  cases answer with
  | wouldBlock => exact resting
  | fails error => exact resting.drop .readFailed fd
  | bytes bytes =>
    cases bytes with
    | nil => exact resting.drop .hungUp fd
    | cons byte bytes =>
      unfold handleRead handleInbound
      cases found : server.registry.find? fd with
      | none =>
        have same : server.registry.receive fd (byte :: bytes) = server.registry := by
          rw [receive, found]
        simp only [same, found]
        exact resting
      | some client =>
        have attending := resting.receive found (byte :: bytes)
        have again : (server.registry.receive fd (byte :: bytes)).find? fd =
            some (client.receive (byte :: bytes)) := by
          rw [receive, found]
          exact find?_modify found (fun _ own => own)
        simp only [again]
        refine handleFrames_resting attending ?_
        intro standing member same
        obtain ⟨_, there, place⟩ := find?_standing again
        rw [attending.coherent.eq_of_fd member there (same.trans place.symm)]
        refine ⟨rfl, ?_⟩
        rw [← Wire.ByteQueue.length_bytes]
        exact Nat.lt_succ_self _

theorem service_resting (resting : server.registry.Resting limit arrived) (fd : Nat)
    (readiness : Readiness) :
    (server.service fd readiness).registry.Resting limit arrived := by
  cases readiness with
  | failed error => exact resting.drop .failed fd
  | ready writable read =>
    have flushed : (if writable then server.registry.flushClient fd
        else (server.registry, none)).1.Resting limit arrived := by
      cases writable with
      | false => exact resting
      | true => exact resting.of_leads (resting.coherent.flushClient fd)
    unfold service
    simp only
    generalize (if writable then server.registry.flushClient fd
      else (server.registry, none)) = result at flushed ⊢
    obtain ⟨registry, error⟩ := result
    cases error with
    | some error => exact Resting.drop flushed .writeFailed fd
    | none =>
      cases read with
      | none => exact flushed
      | some answer =>
        have roomy : ({ server with registry := registry.makeRoom fd } : Server).registry.Resting
            limit arrived :=
          flushed.of_leads (flushed.coherent.makeRoom fd)
        exact handleRead_resting roomy fd answer

theorem register_resting {registry : Registry} (resting : registry.Resting limit arrived)
    {connections : List (Nat × Socket)} (admitted : registry.Admits connections) :
    (connections.foldl (fun registry connection =>
      registry.register connection.1 connection.2) registry).Resting limit arrived := by
  induction connections generalizing registry with
  | nil => exact resting
  | cons connection connections ih =>
    obtain ⟨unused, others⟩ := admitted
    exact ih (resting.register connection.2 unused) others

theorem arrive_resting {registry : Registry} (resting : registry.Resting limit arrived)
    (event : Event) :
    ((registry.note (.arrived event)).publish event).Resting limit (arrived ++ [event]) := by
  obtain ⟨bound, history, coherent, idle, quiet⟩ := resting
  have outward : (Deed.arrived event).IsOutward := True.intro
  have heralded := coherent.note outward (by simp [Deed.serial?]) (.arrived idle)
  have heralds : phase (registry.note (.arrived event)).journal = .heralding event := rfl
  have published := heralded.publish event
    (by rw [heralds]; rintro _ ⟨⟩; rfl) (by rw [heralds]; rintro _ _ ⟨⟩)
  have heard : tell Deed.arrivals (registry.note (.arrived event)).journal = arrived ++ [event] := by
    rw [← history]
    exact tell_cons _ _ _
  have still : (registry.note (.arrived event)).Quiet := quiet
  exact ⟨published.narrowed.max.trans bound, published.narrowed.arrivals.trans heard,
    published.coherent, published.phase, still.of_narrowed published.narrowed⟩

theorem turn_resting (resting : server.registry.Resting limit arrived) {turn : Turn}
    (admitted : server.Admits turn) :
    (server.turn turn).registry.Resting limit (arrived ++ turn.wake.arrivals) := by
  have drained := drain_resting resting turn.devices
  obtain ⟨devices, wake⟩ := turn
  cases wake with
  | device =>
    rw [Wake.arrivals, List.append_nil]
    · exact drained
    · simp
  | published event => exact arrive_resting drained event
  | accepted connections =>
    rw [Wake.arrivals, List.append_nil]
    · exact register_resting drained admitted
    · simp
  | client fd readiness =>
    rw [Wake.arrivals, List.append_nil]
    · exact service_resting drained fd readiness
    · simp

theorem turns_resting (resting : server.registry.Resting limit arrived) {turns : List Turn}
    (admitted : server.AdmitsAll turns) :
    (turns.foldl (fun server turn => (server.turn turn).prepare) server).registry.Resting limit
      (arrived ++ turns.flatMap (fun turn => turn.wake.arrivals)) := by
  induction turns generalizing server arrived with
  | nil => simpa using resting
  | cons turn turns ih =>
    obtain ⟨first, others⟩ := admitted
    have next := ih (turn_resting resting first).flushAll others
    rw [List.append_assoc] at next
    exact next

theorem run_resting (resting : server.registry.Resting limit arrived) {turns : List Turn}
    (admitted : server.prepare.AdmitsAll turns) :
    (server.run turns).registry.Resting limit
      (arrived ++ turns.flatMap (fun turn => turn.wake.arrivals)) :=
  turns_resting resting.flushAll admitted

theorem shutdown_resting (resting : server.registry.Resting limit arrived) :
    server.shutdown.registry.Resting limit arrived :=
  resting.dropAll .closed _

end Server

/-- A client that was served as it should be by a server that reads payloads up to a limit. -/
structure Registry.Serves (limit serial : Nat) (registry : Registry) : Prop where
  /-- Its messages are handled in the order in which it sent them, each once. -/
  inOrder : tell (Deed.requestsOf serial) registry.journal <+:
    (Wire.decodeAll limit (tell (Deed.bytesOf serial) registry.journal)).messages
  /-- None is left while it is registered. -/
  current : (∃ client ∈ registry.clients, client.serial = serial) →
    Settled limit serial registry.journal
  /-- None is left if it was dropped for anything but output that it did not take. -/
  complete : ∀ cause, Deed.dropped serial cause ∈ registry.journal → ¬ cause.IsSudden →
    Settled limit serial registry.journal
  /-- Each request has its reply, except for a last one that the client did not outlast. -/
  answered : Answered serial (tell (Deed.exchangeOf serial) registry.journal) ∨
    CutShort serial registry.journal
  /-- Nothing is handled for it after it was dropped. -/
  final : ∀ later past cause, registry.journal = later ++ .dropped serial cause :: past →
    (∀ client ∈ registry.clients, client.serial ≠ serial) ∧
      ∀ message, Deed.request serial message ∉ later

theorem Lawful.final {maxPayload : Nat} {later past : List Deed} {serial : Nat} {cause : Cause}
    (lawful : Lawful maxPayload (later ++ .dropped serial cause :: past))
    (message : Wire.Message) : Deed.request serial message ∉ later := by
  refine lawful.not_mem_of_dropped List.mem_cons_self (by simp) (by simp) ?_
  rintro _ ⟨⟩
  assumption

theorem Registry.Resting.serves {limit : Nat} {arrived : List Event} {registry : Registry}
    (resting : registry.Resting limit arrived) (serial : Nat) : registry.Serves limit serial := by
  obtain ⟨rfl, _, coherent, idle, quiet⟩ := resting
  refine ⟨coherent.lawful.requests_prefix serial, ?_, ?_, ?_, ?_⟩
  · rintro ⟨client, member, rfl⟩
    exact coherent.settled_of_quiet quiet (List.mem_map_of_mem member)
  · intro cause dropped calm
    exact coherent.lawful.settled_of_dropped dropped calm
  · exact (coherent.lawful.inOrder serial).otherwise (by simp [idle])
  · intro later past cause split
    have lawful := coherent.lawful
    refine ⟨?_, ?_⟩
    · rintro client member rfl
      have registered : client.serial ∈ live registry.journal :=
        (coherent.live_iff client.serial).2 ⟨client.standing, List.mem_map_of_mem member, rfl⟩
      exact lawful.once.2 client.serial cause (by rw [split]; simp) registered
    · rw [split] at lawful
      exact lawful.final

/-- In every run, each client's requests are handled and answered once and in their order, and nothing
is handled for a client that is gone; and so it is when the server has closed all connections at
last. -/
theorem Server.requests_served (layout : Layout) (maxMessage maxBacklog : Nat)
    (socketPath : Option String) (turns : List Turn)
    (admitted : (start layout maxMessage maxBacklog socketPath).prepare.AdmitsAll turns)
    (serial : Nat) :
    ((start layout maxMessage maxBacklog socketPath).run turns).registry.Serves maxMessage serial ∧
      ((start layout maxMessage maxBacklog socketPath).run turns).shutdown.registry.Serves
        maxMessage serial := by
  have resting : ((start layout maxMessage maxBacklog socketPath).run turns).registry.Resting
      maxMessage _ :=
    run_resting (Registry.resting_new maxMessage maxBacklog) admitted
  exact ⟨resting.serves serial, (shutdown_resting resting).serves serial⟩

def visits : List Turn :=
  [⟨[], .accepted [(7, {})]⟩,
    ⟨[], .client 7 (.ready false (some (.bytes (Wire.frame ⟨7, []⟩))))⟩,
    ⟨[], .client 7 (.ready false (some (.bytes [])))⟩,
    ⟨[], .accepted [(7, {})]⟩]

def bare : Layout := ⟨[], [], none, [], "default", [], 0⟩

theorem requests_served_of_visits :
    (Server.start bare 64 4096 none).prepare.AdmitsAll visits ∧
      ((Server.start bare 64 4096 none).run visits).registry.Serves 64 0 :=
  have admitted : (Server.start bare 64 4096 none).prepare.AdmitsAll visits :=
    ⟨⟨rfl, True.intro⟩, True.intro, True.intro, ⟨rfl, True.intro⟩, True.intro⟩
  ⟨admitted, (Server.requests_served bare 64 4096 none visits admitted 0).1⟩

example : tell (Deed.exchangeOf 0) ((Server.start bare 64 4096 none).run visits).registry.journal =
    [.request 0 ⟨7, []⟩, .reply 0 ⟨7, version.toJson.bytes⟩] := by
  decide

end TileServer

import TileServer.Proofs.Server.Running
import TileServer.Proofs.Server.Serving

namespace TileServer

def DeviceEvent.IsNamed : DeviceEvent → Prop
  | .publish event => event.IsNamed
  | _ => True

/-- A wake that brings events with the codes of their names, and sockets that nothing was written to. -/
def Wake.IsProper : Wake → Prop
  | .published event => event.IsNamed
  | .accepted connections => ∀ connection ∈ connections, connection.2.accepted = []
  | _ => True

structure Turn.IsProper (turn : Turn) : Prop where
  devices : ∀ event ∈ turn.devices, event.IsNamed
  wake : turn.wake.IsProper

def Turn.Brings (turn : Turn) (event : Event) : Prop :=
  .publish event ∈ turn.devices ∨ turn.wake = .published event

open Registry

/-- Whether an operation is one that a turn may come to at a registry. Only a turn that is about a
client deals with one, and only by the descriptor that the turn has for it. -/
def Turn.Does (turn : Turn) (registry : Registry) : Operation → Prop
  | .register fd socket => registry.contains fd = false ∧
    ∃ connections, turn.wake = .accepted connections ∧ (fd, socket) ∈ connections
  | .broadcast event => event.IsNamed ∨ turn.Brings event
  | .note deed => deed.IsRemark
  | operation => operation.IsProper ∧
    ∃ fd readiness, turn.wake = .client fd readiness ∧ operation.fd? = some fd

theorem Turn.Does.allows {turn : Turn} {registry : Registry} {operation : Operation}
    (does : turn.Does registry operation) (proper : turn.IsProper) : registry.Allows operation := by
  cases operation with
  | register fd socket =>
    obtain ⟨unused, connections, wake, member⟩ := does
    have fresh := proper.wake
    rw [wake] at fresh
    exact ⟨⟨unused, fresh _ member⟩, True.intro⟩
  | broadcast event =>
    refine ⟨True.intro, ?_⟩
    rcases does with named | device | wake
    · exact named
    · exact proper.devices _ device
    · have named := proper.wake
      rw [wake] at named
      exact named
  | note deed => exact ⟨True.intro, does.isMute⟩
  | _ => exact ⟨True.intro, does.1⟩

theorem Registry.Operation.Serves.does {turn : Turn} {fd : Nat} {readiness : Readiness}
    {operation : Operation} {commands : Prop} (serves : operation.Serves fd commands)
    (wake : turn.wake = .client fd readiness) (registry : Registry) :
    turn.Does registry operation := by
  obtain ⟨proper, serves⟩ := serves
  cases operation with
  | register | flushAll | shutdown => cases serves
  | broadcast event => exact Or.inl proper
  | note deed => exact serves
  | _ => exact ⟨proper, fd, readiness, wake, serves⟩

namespace Server

variable {server : Server}

theorem handleDevices_reaches (server : Server) (turn : Turn) {events : List DeviceEvent}
    (brought : ∀ event ∈ events, event ∈ turn.devices) :
    server.registry.Reaches turn.Does (server.handleDevices events).1.registry := by
  induction events generalizing server with
  | nil => exact .refl
  | cons event events ih =>
    obtain ⟨first, others⟩ := List.forall_mem_cons.1 brought
    have handled : server.registry.Reaches turn.Does (server.handleDevice event).1.registry := by
      cases event with
      | publish event => exact reaches_perform (.broadcast event) (Or.inr (Or.inl first))
      | command text =>
        exact publishChanges_reaches server.registry (fun _ change => Or.inl rfl) _
      | render => exact .refl
    exact handled.trans (ih _ others)

theorem drain_reaches (server : Server) (turn : Turn) :
    server.registry.Reaches turn.Does (server.drain turn.devices).registry := by
  have handled := server.handleDevices_reaches turn (fun _ member => member)
  unfold drain
  simp only
  generalize server.handleDevices turn.devices = result at handled ⊢
  obtain ⟨after, wanted⟩ := result
  cases wanted with
  | false => exact handled
  | true => exact handled.trans (reaches_perform (.note .rendered) True.intro)

theorem accept_reaches {turn : Turn} {connections coming : List (Nat × Socket)}
    (wake : turn.wake = .accepted connections) (among : ∀ connection ∈ coming, connection ∈ connections)
    {registry : Registry} (admitted : registry.Admits coming) :
    registry.Reaches turn.Does (coming.foldl (fun registry connection =>
      registry.register connection.1 connection.2) registry) := by
  induction coming generalizing registry with
  | nil => exact .refl
  | cons connection coming ih =>
    obtain ⟨unused, admitted⟩ := admitted
    obtain ⟨first, others⟩ := List.forall_mem_cons.1 among
    have registered : registry.Reaches turn.Does
        (registry.register connection.1 connection.2) :=
      reaches_perform (.register connection.1 connection.2) ⟨unused, connections, wake, first⟩
    exact registered.trans (ih others admitted)

theorem turn_reaches {turn : Turn} (admitted : server.Admits turn) :
    server.registry.Reaches turn.Does (server.turn turn).registry := by
  have drained := server.drain_reaches turn
  have handled : (server.drain turn.devices).registry.Reaches turn.Does
      (server.turn turn).registry := by
    unfold Server.turn
    cases wake : turn.wake with
    | device => exact .refl
    | published event =>
      exact (reaches_perform (.note (.arrived event)) True.intro).trans
        (reaches_perform (.broadcast event) (Or.inr (Or.inr wake)))
    | accepted connections =>
      rw [Admits, wake] at admitted
      exact accept_reaches wake (fun _ member => member) admitted
    | client fd readiness =>
      have served := (server.drain turn.devices).service_becomes fd readiness (Or.inl True.intro)
      exact served.registry.mono (fun registry _ serves => serves.does wake registry)
  exact drained.trans handled

end Server

end TileServer

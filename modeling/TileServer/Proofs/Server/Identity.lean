import TileServer.Proofs.Server.Isolation
import TileServer.Proofs.Server.Reaches

namespace TileServer

/-- The connection that a deed is done to because of its bytes or its socket. -/
def Deed.subject? : Deed → Option Nat
  | .read serial _ | .subscribed serial _ | .reply serial _ => some serial
  | .dropped serial cause => if cause = .overflowed then none else some serial
  | _ => none

theorem Deed.serial?_of_subject? {deed : Deed} {serial : Nat} (subject : deed.subject? = some serial) :
    deed.serial? = some serial := by
  cases deed with
  | dropped other cause =>
    rw [subject?, Option.ite_none_left_eq_some] at subject
    exact subject.2
  | read | subscribed | reply => exact subject
  | _ => cases subject

namespace Registry

/-- A registry whose clients are in the order in which they were accepted, each with a descriptor of its
own. -/
structure Orderly (registry : Registry) : Prop where
  distinct : (registry.clients.map Client.fd).Nodup
  ascending : (registry.clients.map Client.serial).Pairwise (· < ·)
  known : ∀ client ∈ registry.clients, client.serial < registry.accepted

variable {registry after : Registry} {operation : Operation} {fd : Nat}

theorem orderly_new (maxMessage maxBacklog : Nat) : (new maxMessage maxBacklog).Orderly where
  distinct := List.nodup_nil
  ascending := List.Pairwise.nil
  known := by simp [new]

theorem Orderly.of_identities (orderly : registry.Orderly)
    (less : after.identities.Sublist registry.identities)
    (accepted : after.accepted = registry.accepted) : after.Orderly := by
  have serials : (after.clients.map Client.serial).Sublist (registry.clients.map Client.serial) := by
    have fewer := less.map Prod.fst
    rw [identities, identities, List.map_map, List.map_map] at fewer
    exact fewer
  refine ⟨Distinct.of_identities orderly.distinct less, orderly.ascending.sublist serials, ?_⟩
  intro client member
  obtain ⟨earlier, before, same⟩ := List.mem_map.1 (serials.subset (List.mem_map_of_mem member))
  rw [accepted, ← same]
  exact orderly.known earlier before

theorem Orderly.perform (orderly : registry.Orderly) (inner : ¬ operation.IsRegistration) :
    (registry.perform operation).Orderly := by
  obtain ⟨change, alters⟩ := Distinct.alters orderly.distinct inner
  exact orderly.of_identities alters.identities alters.alike.accepted

theorem Orderly.register (orderly : registry.Orderly) (socket : Socket)
    (unused : registry.contains fd = false) : (registry.register fd socket).Orderly := by
  refine ⟨Distinct.register orderly.distinct socket unused, ?_, ?_⟩
  · rw [Registry.register, List.map_append, List.map_singleton]
    refine List.pairwise_append.2 ⟨orderly.ascending, List.pairwise_singleton _ _, ?_⟩
    intro serial member last new
    obtain ⟨other, there, rfl⟩ := List.mem_map.1 member
    rw [List.mem_singleton.1 new]
    exact orderly.known other there
  · intro other member
    rcases List.mem_append.1 member with old | new
    · exact Nat.lt_succ_of_lt (orderly.known other old)
    · rw [List.mem_singleton.1 new]
      exact Nat.lt_succ_self _

theorem Distinct.find?_of_identity (distinct : registry.Distinct) {serial : Nat}
    (member : (serial, fd) ∈ registry.identities) :
    ∃ owner, registry.find? fd = some owner ∧ owner.serial = serial := by
  obtain ⟨owner, there, same⟩ := List.mem_map.1 member
  cases same
  exact ⟨owner, distinct.find?_of_mem there, rfl⟩

end Registry

/-- Whether a turn is about the connection with a serial number: it had the descriptor that the wait
told of. -/
def Turn.IsAbout (turn : Turn) (waited : Registry) (serial : Nat) : Prop :=
  ∃ fd readiness owner, turn.wake = .client fd readiness ∧ waited.find? fd = some owner ∧
    owner.serial = serial

open Registry

/-- What an operation of a turn does at a registry, where another one was there at the wait before the
turn. -/
def Turn.Concerns (turn : Turn) (waited registry : Registry) (operation : Operation) : Prop :=
  match operation with
  -- An entry is new, with an unused descriptor, and blank.
  | .register fd socket => registry.contains fd = false ∧
    (registry.perform operation).clients =
      registry.clients ++ [⟨registry.accepted, fd, socket, [], .empty, .fresh, .empty⟩]
  -- Every client hears an event, and those are dropped that it leaves with too much output.
  | .broadcast event =>
    (registry.perform operation).clients =
      registry.clients.filterMap (Client.hear registry.maxBacklog event)
  | .note deed => deed.IsRemark ∧ (registry.perform operation).clients = registry.clients
  -- A client that is found by its descriptor is the connection that the turn is about.
  | _ => ∃ fd readiness, turn.wake = .client fd readiness ∧ operation.fd? = some fd ∧
    (∀ client ∈ registry.clients, client.fd = fd → turn.IsAbout waited client.serial) ∧
    (registry.perform operation).others fd = registry.others fd ∧
    (registry.perform operation).identities.Sublist registry.identities

variable {turn : Turn} {waited registry after : Registry} {operation : Operation}

theorem Turn.Does.perform_orderly (does : turn.Does registry operation) (orderly : registry.Orderly) :
    (registry.perform operation).Orderly := by
  cases operation with
  | register fd socket => exact orderly.register socket does.1
  | _ => exact orderly.perform id

def Turn.Narrows (turn : Turn) (waited registry : Registry) : Prop :=
  ∀ fd readiness, turn.wake = .client fd readiness → registry.identities.Sublist waited.identities

theorem Turn.Narrows.isAbout (narrows : turn.Narrows waited registry) (distinct : waited.Distinct)
    {fd : Nat} {readiness : Readiness} (wake : turn.wake = .client fd readiness) {client : Client}
    (member : client ∈ registry.clients) (own : client.fd = fd) :
    turn.IsAbout waited client.serial := by
  have known := (narrows fd readiness wake).subset (List.mem_map_of_mem member)
  rw [Client.identity, own] at known
  obtain ⟨owner, found, same⟩ := distinct.find?_of_identity known
  exact ⟨fd, readiness, owner, wake, found, same⟩

theorem Turn.Does.narrows (does : turn.Does registry operation) (orderly : registry.Orderly)
    (narrows : turn.Narrows waited registry) : turn.Narrows waited (registry.perform operation) := by
  intro fd readiness wake
  have inner : ¬ operation.IsRegistration := by
    intro registers
    cases operation with
    | register other socket =>
      obtain ⟨_, connections, accepted, _⟩ := does
      rw [wake] at accepted
      cases accepted
    | _ => exact registers
  obtain ⟨change, alters⟩ := Distinct.alters orderly.distinct inner
  exact alters.identities.trans (narrows fd readiness wake)

theorem Turn.Does.concerns (does : turn.Does registry operation) (orderly : registry.Orderly)
    (distinct : waited.Distinct) (narrows : turn.Narrows waited registry) :
    turn.Concerns waited registry operation := by
  cases operation with
  | register fd socket => exact ⟨does.1, rfl⟩
  | broadcast event => exact Distinct.clients_broadcast orderly.distinct event
  | note deed => exact ⟨does, rfl⟩
  | flushAll | shutdown =>
    obtain ⟨_, _, _, _, deals⟩ := does
    cases deals
  | _ =>
    obtain ⟨_, fd, readiness, wake, deals⟩ := does
    obtain ⟨change, alters⟩ := Distinct.alters orderly.distinct (Operation.inner_of_fd? deals)
    exact ⟨fd, readiness, wake, deals, fun client => narrows.isAbout distinct wake,
      Distinct.others_perform orderly.distinct deals, alters.identities⟩

/-- A deed that is done to no client because of its bytes or its socket, or to the one that the turn is
about. -/
def Turn.AccountsFor (turn : Turn) (waited : Registry) (deed : Deed) : Prop :=
  ∀ serial, deed.subject? = some serial → turn.IsAbout waited serial

theorem Turn.Concerns.continues (concerns : turn.Concerns waited registry operation) :
    registry.Continues (turn.AccountsFor waited) (registry.perform operation) := by
  have silent {deed : Deed} (mute : deed.subject? = none) : turn.AccountsFor waited deed :=
    fun serial subject => by simp [mute] at subject
  cases operation with
  | register fd socket =>
    have accepted : turn.AccountsFor waited (.accepted registry.accepted) := silent rfl
    exact continues_cons accepted rfl
  | broadcast event =>
    exact registry.continues_broadcast event (silent rfl) (fun _ => silent rfl) (fun _ => silent rfl)
  | note deed =>
    refine continues_cons (silent ?_) rfl
    cases deed <;> first | rfl | exact concerns.1.elim
  | _ =>
    obtain ⟨fd, _, _, deals, about, _⟩ := concerns
    refine continues_perform deals (fun client found deed noted serial subject => ?_)
    obtain ⟨there, _, own⟩ := find?_standing found
    have same := Deed.serial?_of_subject? subject
    cases noted <;> cases same <;> exact about client there own

/-- What is so at the wait before a turn, all through the turn, and up to the next wait. -/
structure Server.Identifies (server : Server) (turn : Turn) : Prop where
  waited : server.registry.Orderly
  /-- The turn is made of operations on orderly registries, each of which concerns whom it should. -/
  passes : server.registry.Reaches (fun registry operation =>
    registry.Orderly ∧ turn.Concerns server.registry registry operation) (server.turn turn).registry
  /-- Nothing is noted to be done to a client because of what came from another one. -/
  accounts : server.registry.Continues (turn.AccountsFor server.registry) (server.turn turn).registry
  /-- A client that is gone since the wait is not dealt with, and neither is another one in its place. -/
  gone : ∀ fd readiness, turn.wake = .client fd readiness →
    (server.drain turn.devices).registry.find? fd = none →
      server.turn turn = server.drain turn.devices
  /-- A client that is still there is the one that the wait told of, and the others only hear events. -/
  found : ∀ fd readiness client, turn.wake = .client fd readiness →
    (server.drain turn.devices).registry.find? fd = some client →
      turn.IsAbout server.registry client.serial ∧ ∃ events : List Event,
        (server.turn turn).registry.others fd =
          ((server.drain turn.devices).registry.others fd).filterMap
            (Client.hearAll (server.drain turn.devices).registry.maxBacklog events)
  turned : (server.turn turn).registry.Orderly
  written : (server.turn turn).prepare.registry.clients =
    (server.turn turn).registry.clients.filterMap Client.flushed?

theorem Registry.Reaches.concerns (reaches : waited.Reaches turn.Does after)
    (orderly : waited.Orderly) :
    after.Orderly ∧ turn.Narrows waited after ∧ waited.Continues (turn.AccountsFor waited) after ∧
      waited.Reaches (fun registry operation =>
        registry.Orderly ∧ turn.Concerns waited registry operation) after := by
  induction reaches with
  | refl => exact ⟨orderly, fun _ _ _ => .refl _, continues_of_same rfl, .refl⟩
  | step _ does ih =>
    obtain ⟨still, narrows, continues, passes⟩ := ih
    have concerns := does.concerns still orderly.distinct narrows
    exact ⟨does.perform_orderly still, does.narrows still narrows,
      continues.trans concerns.continues, passes.step ⟨still, concerns⟩⟩

namespace Server

variable {server : Server}

theorem service_of_missing {fd : Nat} (missing : server.registry.find? fd = none)
    (readiness : Readiness) : server.service fd readiness = server := by
  have dropped (cause : Cause) : server.drop cause fd = server := by
    rw [Server.drop, drop_of_missing missing]
  have roomy : server.registry.makeRoom fd = server.registry := modify_of_missing missing _
  have nothing : server.registry.flushClient fd = (server.registry, none) := by
    rw [flushClient, missing]
  have unheard (answer : ReadAnswer) : server.handleRead fd answer = server := by
    unfold handleRead
    split
    · rfl
    · exact dropped .readFailed
    · exact dropped .hungUp
    · rename_i bytes _
      have same : server.registry.receive fd bytes = server.registry := by rw [receive, missing]
      rw [same, handleInbound, missing]
  cases readiness with
  | failed error => exact dropped .failed
  | ready writable read =>
    unfold service
    simp only [nothing, ite_self]
    cases read with
    | none => rfl
    | some answer =>
      simp only [serviceRead, roomy]
      exact unheard answer

theorem identifies (orderly : server.registry.Orderly) (admitted : server.Admits turn) :
    server.Identifies turn := by
  obtain ⟨turned, _, accounts, passes⟩ := (turn_reaches admitted).concerns orderly
  obtain ⟨drained, narrows, _, _⟩ := (server.drain_reaches turn).concerns orderly
  refine ⟨orderly, passes, accounts, ?_, ?_, turned, Distinct.clients_flushAll turned.distinct⟩
  · intro fd readiness wake missing
    rw [Server.turn, wake]
    exact service_of_missing missing readiness
  · intro fd readiness client wake found
    obtain ⟨there, _, own⟩ := find?_standing found
    have served := (server.drain turn.devices).service_becomes fd readiness (Or.inl True.intro)
    obtain ⟨_, _, events, _, others⟩ := served.registry.others drained.distinct
    refine ⟨narrows.isAbout orderly.distinct wake there own, events, ?_⟩
    rw [Server.turn, wake]
    exact others

theorem orderly_prepare (orderly : server.registry.Orderly) : server.prepare.registry.Orderly :=
  have inner : ¬ Operation.flushAll.IsRegistration := id
  orderly.perform inner

theorem orderly_run (orderly : server.registry.Orderly) {turns : List Turn}
    (admitted : server.AdmitsAll turns) :
    (turns.foldl (fun server turn => (server.turn turn).prepare) server).registry.Orderly := by
  induction turns generalizing server with
  | nil => exact orderly
  | cons turn turns ih =>
    obtain ⟨first, others⟩ := admitted
    exact ih (orderly_prepare (identifies orderly first).turned) others

/-- However descriptors are used again in a run, no two clients have one, clients are in the order in
which they were accepted, and each turn deals with the very connection that the wait told of, if it is
still there. -/
theorem identity_kept (layout : Layout) (maxMessage maxBacklog : Nat) (socketPath : Option String)
    (turns : List Turn) (turn : Turn)
    (admitted : (start layout maxMessage maxBacklog socketPath).prepare.AdmitsAll turns)
    (next : ((start layout maxMessage maxBacklog socketPath).run turns).Admits turn) :
    ((start layout maxMessage maxBacklog socketPath).run turns).Identifies turn := by
  have fresh : (start layout maxMessage maxBacklog socketPath).registry.Orderly :=
    orderly_new maxMessage maxBacklog
  exact identifies (orderly_run (orderly_prepare fresh) admitted) next

end Server

def departure : Turn := ⟨[], .client 7 (.ready false (some (.bytes [])))⟩

theorem identity_kept_of_visits :
    (Server.start bare 64 4096 none).prepare.AdmitsAll visits ∧
      ((Server.start bare 64 4096 none).run visits).Admits departure ∧
        ((Server.start bare 64 4096 none).run visits).Identifies departure :=
  have admitted : (Server.start bare 64 4096 none).prepare.AdmitsAll visits :=
    ⟨⟨rfl, True.intro⟩, True.intro, True.intro, ⟨rfl, True.intro⟩, True.intro⟩
  have next : ((Server.start bare 64 4096 none).run visits).Admits departure := True.intro
  ⟨admitted, next, Server.identity_kept bare 64 4096 none visits departure admitted next⟩

example : ((Server.start bare 64 4096 none).run visits).registry.identities = [(1, 7)] := by
  decide

end TileServer

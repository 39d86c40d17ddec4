import TileServer.Proofs.Server.Serving

namespace TileServer

namespace Registry

variable {before after : Registry} {fd : Nat} {commands : Prop}

theorem Reaches.others
    (reaches : before.Reaches (fun _ operation => operation.Serves fd commands) after)
    (distinct : before.Distinct) :
    after.Distinct ∧ after.maxBacklog = before.maxBacklog ∧
      ∃ events : List Event, (∀ event ∈ events, commands ∧ event.IsChange) ∧
        after.others fd =
          (before.others fd).filterMap (Client.hearAll before.maxBacklog events) := by
  induction reaches with
  | refl => exact ⟨distinct, rfl, [], by simp, (List.filterMap_some).symm⟩
  | @step middle _ operation serves ih =>
    obtain ⟨distinct, limit, events, changes, heard⟩ := ih
    have inner := serves.inner
    obtain ⟨change, alters⟩ := distinct.alters inner
    refine ⟨distinct.perform inner, alters.alike.maxBacklog.trans limit, ?_⟩
    obtain ⟨_, serves⟩ := serves
    cases operation with
    | register | flushAll | shutdown => cases serves
    | note deed => exact ⟨events, changes, heard⟩
    | broadcast event =>
      have last := (distinct.alters_broadcast event).others_eq fd
      refine ⟨events ++ [event], ?_, ?_⟩
      · intro other member
        rcases List.mem_append.1 member with earlier | new
        · exact changes other earlier
        · rw [List.mem_singleton.1 new]
          exact serves
      · rw [limit, heard, List.filterMap_filterMap] at last
        refine last.trans (List.filterMap_congr (fun client _ => ?_))
        rw [Client.hearAll_append, Client.hearAll_singleton]
    | _ => exact ⟨events, changes, (distinct.others_perform serves).trans heard⟩

end Registry

/-- Whether a client subscribed to nothing that changes of the layout are published by. -/
def Client.isDeaf (client : Client) : Bool :=
  !client.isSubscribed "workspace" && !client.isSubscribed "mode"

namespace Server

def heard (server : Server) (fd : Nat) (readiness : Readiness) : List Wire.Message :=
  match server.registry.find? fd with
  | some client => client.heard server.registry.maxMessage readiness
  | none => []

/-- What serving the client with a descriptor leaves alone, when some messages are heard from it. -/
structure Isolates (fd : Nat) (heard : List Wire.Message) (before after : Server) : Prop where
  /-- Without a command, nothing is changed or rendered, and all of the others are as they were. -/
  plain : (∀ message ∈ heard, ¬ message.IsCommand) →
    after.layout = before.layout ∧ after.registry.others fd = before.registry.others fd
  /-- Who stays is the same but for the writing side, and at the same place among the others. -/
  unsent : ((after.registry.others fd).map Client.unsent).Sublist
    ((before.registry.others fd).map Client.unsent)
  deaf : (after.registry.others fd).filter Client.isDeaf =
    (before.registry.others fd).filter Client.isDeaf

theorem isDeaf_of_unsent {client other : Client} (same : other.unsent = client.unsent) :
    other.isDeaf = client.isDeaf := by
  have kept := congrArg Client.isDeaf same
  exact kept

theorem hearAll_of_isDeaf {limit : Nat} {events : List Event} {client : Client}
    (deaf : client.isDeaf = true) (changes : ∀ event ∈ events, event.IsChange) :
    client.hearAll limit events = some client := by
  rw [Client.isDeaf, Bool.and_eq_true, Bool.not_eq_true', Bool.not_eq_true'] at deaf
  refine Client.hearAll_of_deaf (fun event member => ?_)
  rcases changes event member with name | name <;> rw [name]
  · exact deaf.1
  · exact deaf.2

/-- However a client's socket is ready, and whatever it sends, using it isolates the client from the
others. -/
theorem clients_isolated (server : Server) (fd : Nat) (readiness : Readiness)
    (distinct : (server.registry.clients.map Client.fd).Nodup) :
    server.Isolates fd (server.heard fd readiness) (server.service fd readiness) := by
  let commands := ∃ message ∈ server.heard fd readiness, message.IsCommand
  have plain : commands ∨ server.registry.Distinct ∧
      ∀ client, server.registry.find? fd = some client →
        ∀ message ∈ client.heard server.registry.maxMessage readiness, ¬ message.IsCommand := by
    by_cases run : commands
    · exact Or.inl run
    · refine Or.inr ⟨distinct, fun client found message member command => run ⟨message, ?_, command⟩⟩
      rw [Server.heard, found]
      exact member
  obtain ⟨reaches, layout⟩ := server.service_becomes fd readiness plain
  obtain ⟨_, _, events, changes, others⟩ := reaches.others distinct
  refine ⟨fun silent => ?_, ?_, ?_⟩
  · have calm : ¬ commands := fun ⟨message, member, command⟩ => silent message member command
    have eventless : events = [] := List.eq_nil_iff_forall_not_mem.2
      (fun event member => calm (changes event member).1)
    refine ⟨layout.resolve_left calm, ?_⟩
    rw [others, eventless]
    exact List.filterMap_some
  · rw [others]
    exact Registry.map_filterMap_sublist (fun _ _ _ hears => Client.unsent_hearAll hears)
  · rw [others, Registry.filter_filterMap
      (fun _ _ _ hears => isDeaf_of_unsent (Client.unsent_hearAll hears))]
    refine Eq.trans (List.filterMap_congr (fun client member => ?_)) List.filterMap_some
    exact hearAll_of_isDeaf (List.mem_filter.1 member).2 (fun event there => (changes event there).2)

def gathering : Server :=
  ⟨⟨[], [], none, [], "default", [], 0⟩,
    ((((Registry.new 64 4096).register 3 {}).register 4 {}).register 5 {}).subscribe 4 ["Mode"], none⟩

def announces : Readiness :=
  .ready false (some (.bytes (Wire.frame ⟨0, [109, 111, 100, 101, 32, 97]⟩)))

theorem clients_isolated_of_gathering :
    (gathering.registry.clients.map Client.fd).Nodup ∧
      gathering.Isolates 3 (gathering.heard 3 announces) (gathering.service 3 announces) :=
  have distinct : (gathering.registry.clients.map Client.fd).Nodup := by decide
  ⟨distinct, gathering.clients_isolated 3 announces distinct⟩

example : (gathering.service 3 announces).registry.clients.map
    (fun client => (client.fd, client.socket.taken.length)) = [(3, 1), (4, 1), (5, 0)] := by
  decide +kernel

end Server

end TileServer

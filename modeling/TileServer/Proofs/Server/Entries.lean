import TileServer.Proofs.Server.Output

namespace TileServer

namespace Client

/-- A client after an event, if it is not left with too much output. -/
def hear (limit : Nat) (event : Event) (client : Client) : Option Client :=
  if (Registry.deliver limit event client).2 = .overflowed then none
  else some (Registry.deliver limit event client).1

def hearAll (limit : Nat) (events : List Event) (client : Client) : Option Client :=
  events.foldlM (fun client event => client.hear limit event) client

def flushed? (client : Client) : Option Client :=
  if client.flush.2.isSome then none else some client.flush.1

def unsent (client : Client) : Client :=
  { client with socket := {}, outbound := .empty }

def identity (client : Client) : Nat × Nat :=
  (client.serial, client.fd)

variable {limit : Nat} {client heard : Client} {event : Event} {events : List Event}

theorem identity_of_unsent {other : Client} (same : other.unsent = client.unsent) :
    other.identity = client.identity := by
  have kept := congrArg identity same
  exact kept

theorem inbound_of_unsent {other : Client} (same : other.unsent = client.unsent) :
    other.inbound = client.inbound := by
  have kept := congrArg inbound same
  exact kept

theorem unsent_deliver (limit : Nat) (event : Event) (client : Client) :
    (Registry.deliver limit event client).1.unsent = client.unsent := by
  rw [Registry.deliver_eq limit event client]
  rfl

theorem unsent_hear (hears : client.hear limit event = some heard) :
    heard.unsent = client.unsent := by
  unfold hear at hears
  split at hears
  · cases hears
  · cases hears
    exact unsent_deliver limit event client

theorem unsent_flushed? (flushed : client.flushed? = some heard) : heard.unsent = client.unsent := by
  unfold flushed? at flushed
  split at flushed
  · cases flushed
  · cases flushed
    rfl

theorem hear_of_deaf (deaf : client.isSubscribed event.name = false) :
    client.hear limit event = some client := by
  simp [hear, Registry.deliver, deaf]

theorem hearAll_cons (limit : Nat) (event : Event) (events : List Event) (client : Client) :
    client.hearAll limit (event :: events) =
      (client.hear limit event).bind (hearAll limit events) :=
  rfl

theorem hearAll_append (limit : Nat) (events later : List Event) (client : Client) :
    client.hearAll limit (events ++ later) =
      (client.hearAll limit events).bind (hearAll limit later) :=
  List.foldlM_append

theorem hearAll_singleton (limit : Nat) (event : Event) : hearAll limit [event] = hear limit event := by
  funext client
  exact Option.bind_fun_some _

theorem unsent_hearAll (hears : client.hearAll limit events = some heard) :
    heard.unsent = client.unsent := by
  induction events generalizing client with
  | nil =>
    cases hears
    rfl
  | cons event events ih =>
    rw [hearAll_cons, Option.bind_eq_some_iff] at hears
    obtain ⟨first, hears, later⟩ := hears
    exact (ih later).trans (unsent_hear hears)

theorem hearAll_of_deaf (deaf : ∀ event ∈ events, client.isSubscribed event.name = false) :
    client.hearAll limit events = some client := by
  induction events with
  | nil => rfl
  | cons event events ih =>
    obtain ⟨first, others⟩ := List.forall_mem_cons.1 deaf
    rw [hearAll_cons, hear_of_deaf first]
    exact ih others

end Client

namespace Registry

variable {registry : Registry} {fd : Nat}

def others (fd : Nat) (registry : Registry) : List Client :=
  registry.clients.filter (fun client => client.fd != fd)

def identities (registry : Registry) : List (Nat × Nat) :=
  registry.clients.map Client.identity

structure Alike (before after : Registry) : Prop where
  maxMessage : after.maxMessage = before.maxMessage
  maxBacklog : after.maxBacklog = before.maxBacklog
  accepted : after.accepted = before.accepted

theorem Alike.trans {before middle after : Registry} (one : before.Alike middle)
    (other : middle.Alike after) : before.Alike after :=
  ⟨other.maxMessage.trans one.maxMessage, other.maxBacklog.trans one.maxBacklog,
    other.accepted.trans one.accepted⟩

theorem map_fd_identities (registry : Registry) :
    registry.identities.map Prod.snd = registry.clients.map Client.fd := by
  rw [identities, List.map_map]
  rfl

theorem Distinct.of_identities {after : Registry} (distinct : registry.Distinct)
    (less : after.identities.Sublist registry.identities) : after.Distinct := by
  rw [Distinct, ← map_fd_identities] at distinct ⊢
  exact distinct.sublist (less.map _)

theorem Distinct.clients_drop (distinct : registry.Distinct) (cause : Cause) (fd : Nat) :
    (registry.drop cause fd).clients = registry.clients.filter (fun client => client.fd != fd) := by
  cases found : registry.find? fd with
  | none =>
    rw [drop_of_missing found]
    refine (List.filter_eq_self.2 (fun client member => ?_)).symm
    simpa using List.find?_eq_none.1 found client member
  | some client =>
    obtain ⟨front, back, split, dropped⟩ := drop_of_found cause found
    have own := (find?_standing found).2.2
    rw [Distinct, split] at distinct
    have elsewhere := not_mem_map_middle distinct
    have rest : (front ++ back).filter (fun other => other.fd != fd) = front ++ back := by
      refine List.filter_eq_self.2 (fun other member => ?_)
      rw [bne_iff_ne, ← own]
      exact fun equal => elsewhere (equal ▸ List.mem_map_of_mem member)
    rw [dropped, split, List.filter_append, List.filter_cons_of_neg (by simp [own]),
      ← List.filter_append, rest]

theorem Distinct.drop (distinct : registry.Distinct) (cause : Cause) (fd : Nat) :
    (registry.drop cause fd).Distinct := by
  rw [Distinct, distinct.clients_drop]
  exact distinct.sublist (List.filter_sublist.map _)

theorem Distinct.clients_dropAll (distinct : registry.Distinct) (cause : Cause) (fds : List Nat) :
    (fds.foldl (Registry.drop cause) registry).clients =
      registry.clients.filter (fun client => !fds.contains client.fd) := by
  induction fds generalizing registry with
  | nil => simp
  | cons fd fds ih =>
    rw [List.foldl_cons, ih (distinct.drop cause fd), distinct.clients_drop, List.filter_filter]
    refine List.filter_congr (fun client _ => ?_)
    rw [List.contains_cons, Bool.not_or, Bool.and_comm]
    rfl

theorem Distinct.clients_sweep {act : Client → Client × α} (distinct : registry.Distinct)
    (same : ∀ client, (act client).1.fd = client.fd) (isBad : α → Bool) (cause : Cause)
    (journal : List Deed) :
    ((((registry.clients.map act).filter (fun result => isBad result.2)).map (·.1.fd)).foldl
        (Registry.drop cause)
        { registry with clients := (registry.clients.map act).map Prod.fst, journal }).clients =
      registry.clients.filterMap (fun client =>
        if isBad (act client).2 then none else some (act client).1) := by
  have still : Distinct { registry with
      clients := (registry.clients.map act).map Prod.fst, journal } := by
    have fds : registry.clients.map ((Client.fd ∘ Prod.fst) ∘ act) =
        registry.clients.map Client.fd :=
      List.map_congr_left (fun client _ => same client)
    unfold Distinct
    rw [List.map_map, List.map_map, fds]
    exact distinct
  have bad : ∀ client ∈ registry.clients,
      (((registry.clients.map act).filter (fun result => isBad result.2)).map (·.1.fd)).contains
        (act client).1.fd = isBad (act client).2 := by
    intro client member
    rw [Bool.eq_iff_iff, List.contains_iff_mem, List.mem_map]
    constructor
    · rintro ⟨result, swept, equal⟩
      obtain ⟨among, worse⟩ := List.mem_filter.1 swept
      obtain ⟨other, there, rfl⟩ := List.mem_map.1 among
      rw [same, same] at equal
      rw [← List.inj_on_of_nodup_map distinct there member equal]
      exact worse
    · exact fun worse => ⟨act client, List.mem_filter.2 ⟨List.mem_map_of_mem member, worse⟩, rfl⟩
  rw [still.clients_dropAll, List.map_map, List.filter_map, ← List.filterMap_eq_map,
    List.filterMap_filter]
  refine List.filterMap_congr (fun client member => ?_)
  simp only [Function.comp_apply, bad client member]
  cases isBad (act client).2 <;> rfl

theorem Distinct.clients_broadcast (distinct : registry.Distinct) (event : Event) :
    (registry.broadcast event).1.clients =
      registry.clients.filterMap (Client.hear registry.maxBacklog event) := by
  have same : ∀ client, (deliver registry.maxBacklog event client).1.fd = client.fd :=
    fun client => congrArg Standing.fd (standing_deliver registry.maxBacklog event client)
  refine (distinct.clients_sweep same (· == .overflowed) .overflowed _).trans ?_
  refine List.filterMap_congr (fun client _ => ?_)
  simp only [Client.hear, beq_iff_eq]

theorem Distinct.clients_flushAll (distinct : registry.Distinct) :
    registry.flushAll.clients = registry.clients.filterMap Client.flushed? :=
  distinct.clients_sweep (fun _ => rfl) Option.isSome .writeFailed registry.journal

namespace Operation

def IsIntake : Operation → Prop
  | receive _ _ | next _ => True
  | _ => False

def IsRegistration : Operation → Prop
  | register _ _ => True
  | _ => False

/-- How an operation changes a registry: each client as a function says, if that leaves it, and in the
order in which they were. -/
structure Alters (operation : Operation) (change : Client → Option Client)
    (before after : Registry) : Prop where
  clients : after.clients = before.clients.filterMap change
  alike : before.Alike after
  identity : ∀ client ∈ before.clients, ∀ changed ∈ change client, changed.identity = client.identity
  inbound : ¬ operation.IsIntake → ∀ client ∈ before.clients, ∀ changed ∈ change client,
    changed.inbound = client.inbound
  others : ∀ fd, operation.fd? = some fd → ∀ client ∈ before.clients, client.fd ≠ fd →
    change client = some client

end Operation

variable {operation : Operation} {before after : Registry} {change : Client → Option Client}

theorem Operation.inner_of_fd? (deals : operation.fd? = some fd) : ¬ operation.IsRegistration := by
  cases operation with
  | register => cases deals
  | _ => exact id

theorem alters_of_same (clients : after.clients = before.clients) (alike : before.Alike after) :
    operation.Alters some before after where
  clients := by rw [clients, List.filterMap_some]
  alike := alike
  identity := by rintro client _ _ ⟨⟩; rfl
  inbound := by rintro _ client _ _ ⟨⟩; rfl
  others := fun _ _ _ _ _ => rfl

theorem alters_modify {act : Client → Client} (deals : operation.fd? = some fd)
    (clients : after.clients = (before.modify fd act).clients) (alike : before.Alike after)
    (identity : ∀ client ∈ before.clients, client.fd = fd → (act client).identity = client.identity)
    (inbound : ¬ operation.IsIntake → ∀ client ∈ before.clients, client.fd = fd →
      (act client).inbound = client.inbound) :
    operation.Alters (fun client => some (if client.fd = fd then act client else client))
      before after where
  clients := by rw [clients, List.filterMap_eq_map']; rfl
  alike := alike
  identity := by
    rintro client member _ ⟨⟩
    split
    · exact identity client member ‹_›
    · rfl
  inbound := by
    rintro quiet client member _ ⟨⟩
    split
    · exact inbound quiet client member ‹_›
    · rfl
  others := by
    intro other same client _ different
    rw [deals, Option.some.injEq] at same
    rw [if_neg (same ▸ different)]

theorem Distinct.alters_modify_found {act : Client → Client} {client : Client}
    (distinct : before.Distinct) (found : before.find? fd = some client)
    (deals : operation.fd? = some fd)
    (clients : after.clients = (before.modify fd act).clients) (alike : before.Alike after)
    (identity : (act client).identity = client.identity)
    (inbound : ¬ operation.IsIntake → (act client).inbound = client.inbound) :
    ∃ change, operation.Alters change before after := by
  refine ⟨_, alters_modify deals clients alike ?_ ?_⟩
  · intro other member same
    rw [distinct.eq_of_find? found member same]
    exact identity
  · intro quiet other member same
    rw [distinct.eq_of_find? found member same]
    exact inbound quiet

theorem alike_drop (registry : Registry) (cause : Cause) (fd : Nat) :
    registry.Alike (registry.drop cause fd) := by
  unfold drop
  split <;> exact ⟨rfl, rfl, rfl⟩

theorem alike_dropAll (registry : Registry) (cause : Cause) (fds : List Nat) :
    registry.Alike (fds.foldl (Registry.drop cause) registry) := by
  induction fds generalizing registry with
  | nil => exact ⟨rfl, rfl, rfl⟩
  | cons fd fds ih => exact (registry.alike_drop cause fd).trans (ih _)

theorem alters_filter {keeps : Client → Bool} (clients : after.clients = before.clients.filter keeps)
    (alike : before.Alike after)
    (others : ∀ fd, operation.fd? = some fd → ∀ client ∈ before.clients, client.fd ≠ fd →
      keeps client = true) :
    operation.Alters (Option.guard keeps) before after where
  clients := by rw [clients, List.filterMap_eq_filter]
  alike := alike
  identity := by
    rintro client _ changed kept
    rw [(Option.guard_eq_some_iff.1 kept).1]
  inbound := by
    rintro _ client _ changed kept
    rw [(Option.guard_eq_some_iff.1 kept).1]
  others := fun fd deals client member different =>
    Option.guard_eq_some_iff.2 ⟨rfl, others fd deals client member different⟩

theorem Distinct.alters_send (distinct : registry.Distinct) (fd : Nat) (message : Wire.Message) :
    ∃ change, (Operation.send fd message).Alters change registry (registry.send fd message).1 := by
  unfold send
  split
  · exact ⟨_, alters_of_same rfl ⟨rfl, rfl, rfl⟩⟩
  · rename_i client found
    have kept := client.queue_eq message registry.maxBacklog
    have identity := congrArg Client.identity kept
    have inbound := congrArg Client.inbound kept
    simp only
    split
    · exact distinct.alters_modify_found found rfl rfl ⟨rfl, rfl, rfl⟩ identity (fun _ => inbound)
    · exact distinct.alters_modify_found found rfl rfl ⟨rfl, rfl, rfl⟩ identity (fun _ => inbound)

theorem Distinct.alters_next (distinct : registry.Distinct) (fd : Nat) :
    ∃ change, (Operation.next fd).Alters change registry (registry.next fd).1 := by
  have intake : (Operation.next fd).IsIntake := True.intro
  unfold next
  split
  · exact ⟨_, alters_of_same rfl ⟨rfl, rfl, rfl⟩⟩
  · rename_i client found
    split
    · exact distinct.alters_modify_found found rfl rfl ⟨rfl, rfl, rfl⟩ rfl (absurd intake)
    · exact ⟨_, alters_of_same rfl ⟨rfl, rfl, rfl⟩⟩
    · exact distinct.alters_modify_found found rfl rfl ⟨rfl, rfl, rfl⟩ rfl (absurd intake)

theorem Distinct.alters_subscribe (distinct : registry.Distinct) (fd : Nat) (events : List String) :
    ∃ change, (Operation.subscribe fd events).Alters change registry
      (registry.subscribe fd events) := by
  unfold subscribe
  split
  · exact ⟨_, alters_of_same rfl ⟨rfl, rfl, rfl⟩⟩
  · rename_i client found
    have kept := client.subscribe_eq events
    have identity : (client.subscribe events).identity = client.identity := by rw [kept]; rfl
    have inbound : (client.subscribe events).inbound = client.inbound := by rw [kept]
    exact distinct.alters_modify_found found rfl rfl ⟨rfl, rfl, rfl⟩ identity (fun _ => inbound)

theorem Distinct.alters_broadcast (distinct : registry.Distinct) (event : Event) :
    (Operation.broadcast event).Alters (Client.hear registry.maxBacklog event) registry
      (registry.broadcast event).1 where
  clients := distinct.clients_broadcast event
  alike := by
    unfold Registry.broadcast
    refine Alike.trans ?_ (alike_dropAll _ .overflowed _)
    exact ⟨rfl, rfl, rfl⟩
  identity := fun _ _ _ hears => Client.identity_of_unsent (Client.unsent_hear hears)
  inbound := fun _ _ _ _ hears => Client.inbound_of_unsent (Client.unsent_hear hears)
  others := by rintro _ ⟨⟩

theorem Distinct.alters_flushAll (distinct : registry.Distinct) :
    Operation.flushAll.Alters Client.flushed? registry registry.flushAll where
  clients := distinct.clients_flushAll
  alike := by
    unfold Registry.flushAll
    refine Alike.trans ?_ (alike_dropAll _ .writeFailed _)
    exact ⟨rfl, rfl, rfl⟩
  identity := fun _ _ _ flushed => Client.identity_of_unsent (Client.unsent_flushed? flushed)
  inbound := fun _ _ _ _ flushed => Client.inbound_of_unsent (Client.unsent_flushed? flushed)
  others := by rintro _ ⟨⟩

theorem Distinct.alters (distinct : registry.Distinct) (inner : ¬ operation.IsRegistration) :
    ∃ change, operation.Alters change registry (registry.perform operation) := by
  cases operation with
  | register => exact absurd True.intro inner
  | drop cause fd =>
    refine ⟨_, alters_filter (distinct.clients_drop cause fd) (registry.alike_drop cause fd) ?_⟩
    rintro _ ⟨⟩ client _ different
    exact bne_iff_ne.2 different
  | subscribe fd events => exact distinct.alters_subscribe fd events
  | makeRoom fd => exact ⟨_, alters_modify rfl rfl ⟨rfl, rfl, rfl⟩ (fun _ _ _ => rfl) (fun _ _ _ _ => rfl)⟩
  | receive fd bytes =>
    unfold perform receive
    simp only
    split
    · exact ⟨_, alters_of_same rfl ⟨rfl, rfl, rfl⟩⟩
    · rename_i client found
      exact distinct.alters_modify_found found rfl rfl ⟨rfl, rfl, rfl⟩ rfl (absurd True.intro)
  | next fd => exact distinct.alters_next fd
  | send fd message => exact distinct.alters_send fd message
  | broadcast event => exact ⟨_, distinct.alters_broadcast event⟩
  | flush fd =>
    unfold perform flushClient
    simp only
    split
    · exact ⟨_, alters_of_same rfl ⟨rfl, rfl, rfl⟩⟩
    · rename_i client found
      exact distinct.alters_modify_found found rfl rfl ⟨rfl, rfl, rfl⟩ rfl (fun _ => rfl)
  | flushAll => exact ⟨_, distinct.alters_flushAll⟩
  | shutdown =>
    refine ⟨_, alters_filter (distinct.clients_dropAll .closed _) (registry.alike_dropAll .closed _) ?_⟩
    rintro _ ⟨⟩
  | note deed => exact ⟨_, alters_of_same rfl ⟨rfl, rfl, rfl⟩⟩

theorem map_filterMap_sublist {clients : List Client} {key : Client → α}
    (same : ∀ client ∈ clients, ∀ changed ∈ change client, key changed = key client) :
    ((clients.filterMap change).map key).Sublist (clients.map key) := by
  induction clients with
  | nil => exact .slnil
  | cons client clients ih =>
    obtain ⟨own, rest⟩ := List.forall_mem_cons.1 same
    cases changed : change client with
    | none =>
      rw [List.filterMap_cons_none changed]
      exact (ih rest).cons _
    | some other =>
      rw [List.filterMap_cons_some changed, List.map_cons, List.map_cons, own other changed]
      exact (ih rest).cons_cons _

theorem filter_filterMap {clients : List Client} {keeps : Client → Bool}
    (same : ∀ client ∈ clients, ∀ changed ∈ change client, keeps changed = keeps client) :
    (clients.filterMap change).filter keeps = (clients.filter keeps).filterMap change := by
  induction clients with
  | nil => rfl
  | cons client clients ih =>
    obtain ⟨own, rest⟩ := List.forall_mem_cons.1 same
    cases changed : change client with
    | none =>
      rw [List.filterMap_cons_none changed, ih rest, List.filter_cons]
      split
      · rw [List.filterMap_cons_none changed]
      · rfl
    | some other =>
      rw [List.filterMap_cons_some changed, List.filter_cons, List.filter_cons, ih rest,
        own other changed]
      split
      · rw [List.filterMap_cons_some changed]
      · rfl

theorem Operation.Alters.identities (alters : operation.Alters change before after) :
    after.identities.Sublist before.identities := by
  rw [Registry.identities, alters.clients]
  exact map_filterMap_sublist alters.identity

theorem Operation.Alters.others_eq (alters : operation.Alters change before after) (fd : Nat) :
    after.others fd = (before.others fd).filterMap change := by
  rw [Registry.others, alters.clients]
  refine filter_filterMap (fun client member changed becomes => ?_)
  have place : changed.fd = client.fd :=
    congrArg Prod.snd (alters.identity client member changed becomes)
  rw [place]

theorem Distinct.perform (distinct : registry.Distinct) (inner : ¬ operation.IsRegistration) :
    (registry.perform operation).Distinct := by
  obtain ⟨change, alters⟩ := distinct.alters inner
  exact distinct.of_identities alters.identities

theorem Distinct.others_perform (distinct : registry.Distinct) (deals : operation.fd? = some fd) :
    (registry.perform operation).others fd = registry.others fd := by
  obtain ⟨change, alters⟩ := distinct.alters (Operation.inner_of_fd? deals)
  have kept : (registry.others fd).filterMap change = (registry.others fd).filterMap some := by
    refine List.filterMap_congr (fun client member => ?_)
    obtain ⟨there, different⟩ := List.mem_filter.1 member
    exact alters.others fd deals client there (bne_iff_ne.1 different)
  rw [alters.others_eq fd, kept, List.filterMap_some]

end Registry

end TileServer

import TileServer.Proofs.Server.Entries

namespace TileServer

namespace Client

/-- A client after an event: to one that follows it the frame is sent, as far as its socket takes it. -/
def told (event : Event) (client : Client) : Client :=
  if client.isSubscribed event.name then (client.append event.message).flush.1 else client

/-- Whether an event leaves a client with more unwritten output than is kept, after a write that did
not fail. -/
def isOverrun (limit : Nat) (event : Event) (client : Client) : Bool :=
  client.isSubscribed event.name && (client.append event.message).flush.2.isNone &&
    decide (limit < (client.append event.message).flush.1.pendingOutput)

theorem unsent_told (event : Event) (client : Client) :
    (client.told event).unsent = client.unsent := by
  unfold told
  split <;> rfl

theorem identity_told (event : Event) (client : Client) :
    (client.told event).identity = client.identity :=
  identity_of_unsent (client.unsent_told event)

theorem fd_told (event : Event) (client : Client) : (client.told event).fd = client.fd :=
  congrArg Prod.snd (client.identity_told event)

theorem map_fd_told (event : Event) (clients : List Client) :
    (clients.map (told event)).map fd = clients.map fd := by
  rw [List.map_map]
  exact List.map_congr_left (fun client _ => client.fd_told event)

theorem serial_told (event : Event) (client : Client) : (client.told event).serial = client.serial :=
  congrArg Prod.fst (client.identity_told event)

theorem isSubscribed_told (event : Event) (client : Client) (name : String) :
    (client.told event).isSubscribed name = client.isSubscribed name := by
  have kept := congrArg (fun other => isSubscribed other name) (client.unsent_told event)
  exact kept

theorem stream_told (event : Event) (client : Client) :
    (client.told event).stream =
      client.stream ++ if client.isSubscribed event.name then Wire.frame event.message else [] := by
  unfold told
  split
  · rw [stream_flush, stream_append]
  · exact (List.append_nil _).symm

end Client

namespace Registry

variable {registry : Registry} {event : Event}

/-- How an event goes for a client, if its payload can be sent. -/
def outcome (limit : Nat) (event : Event) (client : Client) : Delivery :=
  if client.isSubscribed event.name then
    if client.isOverrun limit event then .overflowed
    else if (client.append event.message).flush.2.isNone then .queued else .failed
  else .notMeant

theorem deliver_of_fits (fits : event.payload.length ≤ Wire.maxLength) (limit : Nat)
    (client : Client) : deliver limit event client = (client.told event, outcome limit event client) := by
  have encoded : Wire.encode event.message = .ok (Wire.frame event.message) := Wire.encode_of_le fits
  unfold deliver outcome Client.told Client.isOverrun Client.queue
  rw [encoded]
  cases subscribed : client.isSubscribed event.name with
  | false => rfl
  | true =>
    simp only [if_true, Bool.true_and]
    obtain ⟨written, error⟩ := (client.append event.message).flush
    cases error with
    | some error => rfl
    | none => by_cases left : limit < written.pendingOutput <;> simp [left]

theorem counts_outcome (limit : Nat) (event : Event) (client : Client) :
    (outcome limit event client).counts =
      (client.isSubscribed event.name && !client.isOverrun limit event) := by
  unfold outcome
  cases client.isSubscribed event.name with
  | false => rfl
  | true =>
    cases client.isOverrun limit event with
    | true => rfl
    | false => cases (client.append event.message).flush.2.isNone <;> rfl

theorem isQueued_outcome (limit : Nat) (event : Event) (client : Client) :
    (outcome limit event client).isQueued = client.isSubscribed event.name := by
  unfold outcome
  cases client.isSubscribed event.name with
  | false => rfl
  | true =>
    cases client.isOverrun limit event with
    | true => rfl
    | false => cases (client.append event.message).flush.2.isNone <;> rfl

theorem outcome_eq_overflowed (limit : Nat) (event : Event) (client : Client) :
    (outcome limit event client == .overflowed) = client.isOverrun limit event := by
  unfold outcome Client.isOverrun
  cases client.isSubscribed event.name with
  | false => rfl
  | true =>
    cases (client.append event.message).flush.2.isNone with
    | false => rfl
    | true => cases decide (limit < (client.append event.message).flush.1.pendingOutput) <;> rfl

theorem Distinct.drop_eq (distinct : registry.Distinct) (cause : Cause) {client : Client}
    (member : client ∈ registry.clients) :
    registry.drop cause client.fd = { registry with
      clients := registry.clients.filter (fun other => other.fd != client.fd)
      departed := client :: registry.departed
      journal := .dropped client.serial cause :: registry.journal } := by
  obtain ⟨front, back, _, dropped⟩ := drop_of_found cause (distinct.find?_of_mem member)
  rw [← distinct.clients_drop cause, dropped]

theorem Distinct.dropAll (distinct : registry.Distinct) (cause : Cause) {gone : List Client}
    (registered : gone.Sublist registry.clients) :
    (gone.map Client.fd).foldl (Registry.drop cause) registry = { registry with
      clients := registry.clients.filter (fun client => !(gone.map Client.fd).contains client.fd)
      departed := gone.reverse ++ registry.departed
      journal := (gone.map (fun client => Deed.dropped client.serial cause)).reverse ++
        registry.journal } := by
  rw [← distinct.clients_dropAll cause]
  induction gone generalizing registry with
  | nil => rfl
  | cons client gone ih =>
    have member : client ∈ registry.clients := registered.subset List.mem_cons_self
    have apart : (gone.map Client.fd).Nodup ∧ client.fd ∉ gone.map Client.fd := by
      have nodup := distinct.sublist (registered.map Client.fd)
      rw [List.map_cons, List.nodup_cons] at nodup
      exact nodup.symm
    have left : gone.Sublist (registry.drop cause client.fd).clients := by
      have others : gone.filter (fun other => other.fd != client.fd) = gone := by
        refine List.filter_eq_self.2 (fun other there => bne_iff_ne.2 fun same => apart.2 ?_)
        exact same ▸ List.mem_map_of_mem there
      rw [distinct.clients_drop, ← others]
      exact ((List.sublist_cons_self client gone).trans registered).filter _
    rw [List.map_cons, List.foldl_cons, ih (distinct.drop cause client.fd) left]
    have dropped := distinct.drop_eq cause member
    rw [dropped]
    simp only [List.map_cons, List.reverse_cons, List.append_assoc, List.singleton_append]

/-- What comes of sending an event: every subscriber is sent its one frame, in the order of
registration; the subscribers that are left with too much output are dropped, and no one else; and the
subscribers that stay are counted. -/
structure Broadcast (before : Registry) (event : Event) (after : Registry) (count : Nat) : Prop where
  encoded : Wire.encode event.message = .ok (Wire.frame event.message)
  clients : after.clients = (before.clients.filter (fun client =>
    !client.isOverrun before.maxBacklog event)).map (Client.told event)
  departed : after.departed = ((before.clients.filter (Client.isOverrun before.maxBacklog event)).map
    (Client.told event)).reverse ++ before.departed
  journal : after.journal =
    ((before.clients.filter (Client.isOverrun before.maxBacklog event)).map (fun client =>
      Deed.dropped client.serial .overflowed)).reverse ++
    ((before.clients.filter (Client.isSubscribed · event.name)).map (fun client =>
      Deed.notified client.serial event.message)).reverse ++
    .published event :: before.journal
  count : count = (after.clients.filter (Client.isSubscribed · event.name)).length
  alike : before.Alike after

theorem hear_of_fits (fits : event.payload.length ≤ Wire.maxLength) (limit : Nat)
    (client : Client) :
    client.hear limit event = if client.isOverrun limit event then none else some (client.told event) := by
  have same := outcome_eq_overflowed limit event client
  rw [Client.hear, deliver_of_fits fits, ← same]
  simp only [beq_iff_eq]

def notify (event : Event) (registry : Registry) : Registry :=
  { registry with
    clients := registry.clients.map (Client.told event)
    journal := ((registry.clients.filter (Client.isSubscribed · event.name)).map (fun client =>
      Deed.notified client.serial event.message)).reverse ++ .published event :: registry.journal }

theorem distinct_notify (distinct : registry.Distinct) : (registry.notify event).Distinct := by
  rw [Distinct, notify, Client.map_fd_told]
  exact distinct

theorem broadcast_of_fits (fits : event.payload.length ≤ Wire.maxLength) (registry : Registry) :
    registry.broadcast event =
      ((((registry.clients.filter (Client.isOverrun registry.maxBacklog event)).map
          (Client.told event)).map Client.fd).foldl (Registry.drop .overflowed) (registry.notify event),
        (registry.clients.filter (fun client => client.isSubscribed event.name &&
          !client.isOverrun registry.maxBacklog event)).length) := by
  have results : registry.clients.map (deliver registry.maxBacklog event) = registry.clients.map
      (fun client => (client.told event, outcome registry.maxBacklog event client)) :=
    List.map_congr_left (fun client _ => deliver_of_fits fits registry.maxBacklog client)
  unfold Registry.broadcast notify
  rw [results]
  simp only [List.filter_map, List.map_map, List.length_map, Function.comp_def, counts_outcome,
    isQueued_outcome, outcome_eq_overflowed, Client.serial_told]

theorem Distinct.broadcast (distinct : registry.Distinct)
    (fits : event.payload.length ≤ Wire.maxLength) :
    registry.Broadcast event (registry.broadcast event).1 (registry.broadcast event).2 := by
  have registered : ((registry.clients.filter (Client.isOverrun registry.maxBacklog event)).map
      (Client.told event)).Sublist (registry.notify event).clients := List.filter_sublist.map _
  have swept := (distinct_notify distinct).dropAll .overflowed registered
  have clients : (registry.broadcast event).1.clients = (registry.clients.filter (fun client =>
      !client.isOverrun registry.maxBacklog event)).map (Client.told event) := by
    rw [distinct.clients_broadcast, ← List.filterMap_eq_map, List.filterMap_filter]
    refine List.filterMap_congr (fun client _ => ?_)
    rw [hear_of_fits fits]
    cases client.isOverrun registry.maxBacklog event <;> rfl
  refine ⟨Wire.encode_of_le fits, clients, ?_, ?_, ?_, (distinct.alters_broadcast event).alike⟩
  · rw [broadcast_of_fits fits, swept]
    rfl
  · rw [broadcast_of_fits fits, swept]
    simp only [notify, List.map_map, Function.comp_def, Client.serial_told, List.append_assoc]
  · rw [clients, broadcast_of_fits fits, List.filter_map, List.length_map, List.filter_filter]
    simp only [Function.comp_apply, Client.isSubscribed_told]

/-- The client that had a descriptor last, as it is or as it left, and whether it is registered. -/
def fate (registry : Registry) (fd : Nat) : Option (Client × Bool) :=
  match registry.find? fd with
  | some client => some (client, true)
  | none => (registry.departed.find? (fun client => client.fd == fd)).map (fun client => (client, false))

/-- What an event does to one client, among whichever others it is. -/
structure Treats (event : Event) (before after : Registry) (client : Client) : Prop where
  fate : after.fate client.fd =
    some (client.told event, !client.isOverrun before.maxBacklog event)
  stream : client.isSubscribed event.name = true →
    (client.told event).stream = client.stream ++ Wire.frame event.message
  unsent : (client.told event).unsent = client.unsent
  untouched : client.isSubscribed event.name = false → client.told event = client

theorem Broadcast.distinct {before after : Registry} {count : Nat}
    (broadcast : before.Broadcast event after count) (distinct : before.Distinct) : after.Distinct := by
  rw [Distinct, broadcast.clients, Client.map_fd_told]
  exact distinct.sublist (List.filter_sublist.map _)

theorem Broadcast.treats {before after : Registry} {count : Nat}
    (broadcast : before.Broadcast event after count) (distinct : before.Distinct) {client : Client}
    (member : client ∈ before.clients) : Treats event before after client := by
  refine ⟨?_, fun subscribed => ?_, client.unsent_told event, fun deaf => ?_⟩
  · unfold Registry.fate
    cases overrun : client.isOverrun before.maxBacklog event with
    | false =>
      have stays : client.told event ∈ after.clients := by
        rw [broadcast.clients]
        exact List.mem_map_of_mem (List.mem_filter.2 ⟨member, by rw [overrun]; rfl⟩)
      have found := (broadcast.distinct distinct).find?_of_mem stays
      rw [client.fd_told event] at found
      rw [found]
      rfl
    | true =>
      have missing : after.find? client.fd = none := by
        refine List.find?_eq_none.2 (fun other there same => ?_)
        rw [broadcast.clients] at there
        obtain ⟨earlier, kept, rfl⟩ := List.mem_map.1 there
        obtain ⟨among, calm⟩ := List.mem_filter.1 kept
        rw [beq_iff_eq, earlier.fd_told event] at same
        rw [List.inj_on_of_nodup_map distinct among member same, overrun] at calm
        cases calm
      have gone : client.told event ∈ ((before.clients.filter
          (Client.isOverrun before.maxBacklog event)).map (Client.told event)).reverse :=
        List.mem_reverse.2 (List.mem_map_of_mem (List.mem_filter.2 ⟨member, overrun⟩))
      have apart : (((before.clients.filter (Client.isOverrun before.maxBacklog event)).map
          (Client.told event)).reverse.map Client.fd).Nodup := by
        rw [List.map_reverse, List.nodup_reverse, Client.map_fd_told]
        exact distinct.sublist (List.filter_sublist.map _)
      have found := find?_of_nodup apart gone
      rw [client.fd_told event] at found
      rw [missing, broadcast.departed, List.find?_append, found]
      rfl
  · rw [client.stream_told event, if_pos subscribed]
  · rw [Client.told, deaf]
    rfl

/-- An event with a payload that can be sent goes to its subscribers and to no one else. What becomes of
a client is the same in any other registry that it is in, whoever else is there and whatever the other
sockets do; the limit only decides whether it is dropped. -/
theorem broadcast_independent (registry : Registry) (distinct : registry.Distinct) (event : Event)
    (fits : event.payload.length ≤ Wire.maxLength) :
    registry.Broadcast event (registry.broadcast event).1 (registry.broadcast event).2 ∧
    ∀ client ∈ registry.clients, Treats event registry (registry.broadcast event).1 client ∧
      ∀ other : Registry, other.Distinct → client ∈ other.clients →
        ((other.broadcast event).1.fate client.fd).map Prod.fst =
          ((registry.broadcast event).1.fate client.fd).map Prod.fst ∧
        (other.maxBacklog = registry.maxBacklog →
          (other.broadcast event).1.fate client.fd = (registry.broadcast event).1.fate client.fd) := by
  have broadcast := distinct.broadcast fits
  refine ⟨broadcast, fun client member => ?_⟩
  have treats := broadcast.treats distinct member
  refine ⟨treats, fun other distinct' member' => ?_⟩
  have treats' := (distinct'.broadcast fits).treats distinct' member'
  rw [treats.fate, treats'.fate]
  exact ⟨rfl, fun same => by rw [same]⟩

def listeners : Registry :=
  ((((((((new 64 16).register 3 { outlet := .blocked }).register 4 {}).register 5
    { outlet := .broken .tookNothing }).register 6 {}).subscribe 3 ["MODE"]).subscribe 4
      ["mode"]).subscribe 5 ["Mode", "window"]).subscribe 6 ["window"]

def listener : Registry :=
  ((new 64 4096).register 3 { outlet := .blocked }).subscribe 3 ["MODE"]

def modeChanged : Event :=
  ⟨"mode", 0x80000002, [123, 125, 10]⟩

theorem broadcast_independent_of_listeners :
    listeners.Distinct ∧ modeChanged.payload.length ≤ Wire.maxLength ∧
      listeners.Broadcast modeChanged (listeners.broadcast modeChanged).1
        (listeners.broadcast modeChanged).2 ∧
      listener.Distinct ∧ ∃ client ∈ listeners.clients, client ∈ listener.clients ∧
        ((listener.broadcast modeChanged).1.fate client.fd).map Prod.fst =
          ((listeners.broadcast modeChanged).1.fate client.fd).map Prod.fst := by
  have distinct : (listeners.clients.map Client.fd).Nodup := by decide
  have alone : (listener.clients.map Client.fd).Nodup := by decide
  have fits : modeChanged.payload.length ≤ Wire.maxLength := by decide
  obtain ⟨broadcast, each⟩ := broadcast_independent listeners distinct modeChanged fits
  have member : listeners.clients[0] ∈ listeners.clients := List.getElem_mem _
  have there : listeners.clients[0] ∈ listener.clients := List.mem_singleton.2 rfl
  exact ⟨distinct, fits, broadcast, alone, _, member, there,
    ((each _ member).2 listener alone there).1⟩

example : ((listeners.broadcast modeChanged).1.clients.map Client.fd,
    (listeners.broadcast modeChanged).1.departed.map Client.fd, (listeners.broadcast modeChanged).2) =
      ([4, 5, 6], [3], 2) := by
  decide +kernel

end Registry

end TileServer

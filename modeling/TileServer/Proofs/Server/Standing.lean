import TileServer.Proofs.Server.Lawful
import TileServer.Server.Loop

namespace TileServer

structure Standing where
  serial : Nat
  fd : Nat
  subscriptions : List String
  inbound : Bytes

def Client.standing (client : Client) : Standing :=
  ⟨client.serial, client.fd, client.subscriptions, client.inbound.bytes⟩

def Registry.standings (registry : Registry) : List Standing :=
  registry.clients.map Client.standing

theorem Client.subscribe_eq (client : Client) (events : List String) :
    client.subscribe events =
      { client with subscriptions := (client.subscribe events).subscriptions } := by
  induction events generalizing client with
  | nil => rfl
  | cons event events ih =>
    rw [subscribe, List.foldl_cons]
    split
    · exact ih client
    · exact ih _

theorem Client.queue_eq (client : Client) (message : Wire.Message) (limit : Nat) :
    (client.queue message limit).1 = { client with
      socket := (client.queue message limit).1.socket
      outbound := (client.queue message limit).1.outbound } := by
  unfold Client.queue
  split
  · rfl
  · split
    · rename_i flushed
      obtain rfl := congrArg Prod.fst flushed
      rfl
    · rename_i flushed
      obtain rfl := congrArg Prod.fst flushed
      split <;> rfl

theorem Client.standing_queue (client : Client) (message : Wire.Message) (limit : Nat) :
    (client.queue message limit).1.standing = client.standing := by
  rw [client.queue_eq message limit]
  rfl

theorem Client.queue_unframed_iff (client : Client) (message : Wire.Message) (limit : Nat) :
    (∃ error, (client.queue message limit).2 = some (.unframed error)) ↔
      Wire.maxLength < message.payload.length := by
  unfold Client.queue Wire.encode
  by_cases long : Wire.maxLength < message.payload.length
  · simp [long]
  · simp only [long, if_false, iff_false, not_exists]
    intro error
    split
    · simp
    · split <;> simp

theorem Registry.deliver_eq (limit : Nat) (event : Event) (client : Client) :
    (deliver limit event client).1 = { client with
      socket := (deliver limit event client).1.socket
      outbound := (deliver limit event client).1.outbound } := by
  have kept := client.queue_eq event.message limit
  unfold deliver
  split
  · split <;> rename_i queued <;> rw [queued] at kept <;> exact kept
  · rfl

theorem Registry.standing_deliver (limit : Nat) (event : Event) (client : Client) :
    (deliver limit event client).1.standing = client.standing := by
  rw [deliver_eq limit event client]
  rfl

theorem Registry.isQueued_deliver (limit : Nat) (event : Event) (client : Client) :
    (deliver limit event client).2.isQueued =
      (client.isSubscribed event.name && decide (event.payload.length ≤ Wire.maxLength)) := by
  have unframed := client.queue_unframed_iff event.message limit
  rw [Event.message] at unframed
  unfold deliver
  by_cases subscribed : client.isSubscribed event.name
  · rw [if_pos subscribed, subscribed, Bool.true_and]
    split <;> rename_i queued <;> rw [Event.message] at queued <;> rw [queued] at unframed
    · have fits : event.payload.length ≤ Wire.maxLength := by simpa using unframed
      simp [Delivery.isQueued, fits]
    · have fits : event.payload.length ≤ Wire.maxLength := by simpa using unframed
      simp [Delivery.isQueued, fits]
    · have long : Wire.maxLength < event.payload.length := by simpa using unframed
      simp [Delivery.isQueued, long]
    · rename_i other notUnframed
      have fits : event.payload.length ≤ Wire.maxLength := by
        refine Nat.le_of_not_lt (fun long => ?_)
        obtain ⟨error, same⟩ := unframed.2 long
        exact notUnframed error (Option.some.inj same)
      simp [Delivery.isQueued, fits]
  · simp [subscribed, Delivery.isQueued]

/-- A standing that is what the journal says of the client. -/
structure Standing.Agrees (maxPayload : Nat) (journal : List Deed) (standing : Standing) : Prop where
  inbound : Wire.decodeAll maxPayload (tell (Deed.bytesOf standing.serial) journal) =
    (Wire.decodeAll maxPayload standing.inbound).behind
      (tell (Deed.requestsOf standing.serial) journal)
  subscriptions : ∀ name,
    standing.subscriptions.any (fun wanted => Text.sameFolded wanted name) =
      follows standing.serial name journal

theorem Standing.Agrees.append {maxPayload : Nat} {journal later : List Deed} {standing : Standing}
    (agrees : standing.Agrees maxPayload journal)
    (silent : ∀ deed ∈ later, deed.IsSilent standing.serial) :
    standing.Agrees maxPayload (later ++ journal) := by
  refine ⟨?_, ?_⟩
  · rw [tell_of_silent journal (fun deed member => (silent deed member).bytes),
      tell_of_silent journal (fun deed member => (silent deed member).requests)]
    exact agrees.inbound
  · intro name
    rw [follows, tell_of_silent journal (fun deed member => (silent deed member).names)]
    exact agrees.subscriptions name

theorem Standing.Agrees.cons {maxPayload : Nat} {journal : List Deed} {standing : Standing}
    {deed : Deed} (agrees : standing.Agrees maxPayload journal)
    (silent : deed.IsSilent standing.serial) : standing.Agrees maxPayload (deed :: journal) := by
  rw [← List.singleton_append]
  exact agrees.append (by simpa using silent)

/-- A registry whose clients are what its lawful journal says, each with a descriptor of its own. -/
structure Registry.Coherent (registry : Registry) : Prop where
  lawful : Lawful registry.maxMessage registry.journal
  serials : registry.standings.map Standing.serial = live registry.journal
  fds : (registry.standings.map Standing.fd).Nodup
  fresh : ∀ deed ∈ registry.journal, ∀ serial, deed.serial? = some serial →
    serial < registry.accepted
  agrees : ∀ standing ∈ registry.standings, standing.Agrees registry.maxMessage registry.journal

namespace Registry

variable {registry : Registry}

theorem Coherent.of_same {other : Registry} (coherent : registry.Coherent)
    (standings : other.standings = registry.standings) (journal : other.journal = registry.journal)
    (max : other.maxMessage = registry.maxMessage)
    (accepted : other.accepted = registry.accepted) : other.Coherent := by
  obtain ⟨lawful, serials, fds, fresh, agrees⟩ := coherent
  refine ⟨?_, ?_, ?_, ?_, ?_⟩
  · rw [max, journal]
    exact lawful
  · rw [standings, journal]
    exact serials
  · rw [standings]
    exact fds
  · rw [journal, accepted]
    exact fresh
  · rw [standings, max, journal]
    exact agrees

theorem coherent_new (maxMessage maxBacklog : Nat) : (new maxMessage maxBacklog).Coherent where
  lawful := .start
  serials := rfl
  fds := List.nodup_nil
  fresh := by simp [new]
  agrees := by simp [new, standings]

theorem find?_standing {fd : Nat} {client : Client} (found : registry.find? fd = some client) :
    client ∈ registry.clients ∧ client.standing ∈ registry.standings ∧ client.fd = fd := by
  have member := List.mem_of_find?_eq_some found
  have same := List.find?_some found
  exact ⟨member, List.mem_map_of_mem member, beq_iff_eq.1 same⟩

theorem find?_none {fd : Nat} (missing : registry.find? fd = none) :
    ∀ standing ∈ registry.standings, standing.fd ≠ fd := by
  intro standing member
  obtain ⟨client, clients, rfl⟩ := List.mem_map.1 member
  have different := List.find?_eq_none.1 missing client clients
  rw [beq_iff_eq] at different
  exact different

theorem find?_of_unused {fd : Nat} (unused : registry.contains fd = false) :
    registry.find? fd = none := by
  rw [contains, Option.isSome_eq_false_iff, Option.isNone_iff_eq_none] at unused
  exact unused

theorem modify_of_missing {fd : Nat} (missing : registry.find? fd = none)
    (change : Client → Client) : registry.modify fd change = registry := by
  have same : registry.clients.map (fun client => if client.fd = fd then change client else client) =
      registry.clients := by
    refine (List.map_congr_left (fun client member => if_neg ?_)).trans (List.map_id _)
    simpa using List.find?_eq_none.1 missing client member
  rw [modify, same]

theorem not_mem_map_middle {key : α → β} {front back : List α} {item : α}
    (nodup : ((front ++ item :: back).map key).Nodup) : key item ∉ (front ++ back).map key := by
  rw [List.map_append, List.map_cons] at nodup
  have elsewhere := (List.nodup_middle.1 nodup).notMem
  rwa [← List.map_append] at elsewhere

theorem drop_of_missing {cause : Cause} {fd : Nat} (missing : registry.find? fd = none) :
    registry.drop cause fd = registry := by
  unfold drop
  rw [missing]

theorem drop_of_found (cause : Cause) {fd : Nat} {client : Client}
    (found : registry.find? fd = some client) :
    ∃ front back, registry.clients = front ++ client :: back ∧
      registry.drop cause fd = { registry with
        clients := front ++ back
        departed := client :: registry.departed
        journal := .dropped client.serial cause :: registry.journal } := by
  obtain ⟨same, front, back, split, others⟩ := List.find?_eq_some_iff_append.1 found
  refine ⟨front, back, split, ?_⟩
  have erased : registry.clients.eraseP (fun client => client.fd == fd) = front ++ back := by
    rw [split, List.eraseP_append_right _ (by simpa using others),
      List.eraseP_cons_of_pos (p := fun client : Client => client.fd == fd) same]
  unfold drop
  rw [found]
  simp only [erased]

/-- Whether no two clients have one descriptor. -/
def Distinct (registry : Registry) : Prop :=
  (registry.clients.map Client.fd).Nodup

theorem Distinct.eq_of_find? (distinct : registry.Distinct) {fd : Nat} {client other : Client}
    (found : registry.find? fd = some client) (member : other ∈ registry.clients)
    (same : other.fd = fd) : other = client := by
  obtain ⟨there, _, own⟩ := find?_standing found
  exact List.inj_on_of_nodup_map distinct member there (same.trans own.symm)

theorem find?_of_nodup {clients : List Client} (nodup : (clients.map Client.fd).Nodup)
    {client : Client} (member : client ∈ clients) :
    clients.find? (fun other => other.fd == client.fd) = some client := by
  cases found : clients.find? (fun other => other.fd == client.fd) with
  | none => exact absurd (beq_self_eq_true client.fd) (List.find?_eq_none.1 found client member)
  | some other =>
    have same := List.find?_some found
    rw [beq_iff_eq] at same
    rw [List.inj_on_of_nodup_map nodup (List.mem_of_find?_eq_some found) member same]

theorem Distinct.find?_of_mem (distinct : registry.Distinct) {client : Client}
    (member : client ∈ registry.clients) : registry.find? client.fd = some client :=
  find?_of_nodup distinct member

theorem Distinct.register (distinct : registry.Distinct) {fd : Nat} (socket : Socket)
    (unused : registry.contains fd = false) : (registry.register fd socket).Distinct := by
  rw [Distinct, Registry.register, List.map_append, List.map_singleton]
  refine List.Nodup.append distinct (List.nodup_singleton _) ?_
  rw [List.disjoint_singleton]
  intro member
  obtain ⟨other, there, same⟩ := List.mem_map.1 member
  exact List.find?_eq_none.1 (find?_of_unused unused) other there (beq_iff_eq.2 same)

theorem map_fd_standings (registry : Registry) :
    registry.standings.map Standing.fd = registry.clients.map Client.fd := by
  rw [standings, List.map_map]
  rfl

theorem Coherent.distinct (coherent : registry.Coherent) : registry.Distinct := by
  rw [Distinct, ← map_fd_standings]
  exact coherent.fds

theorem Coherent.serials_nodup (coherent : registry.Coherent) :
    (registry.standings.map Standing.serial).Nodup := by
  rw [coherent.serials]
  exact coherent.lawful.once.1

theorem Coherent.eq_of_fd (coherent : registry.Coherent) {first second : Standing}
    (one : first ∈ registry.standings) (other : second ∈ registry.standings)
    (same : first.fd = second.fd) : first = second :=
  List.inj_on_of_nodup_map coherent.fds one other same

theorem Coherent.eq_of_serial (coherent : registry.Coherent) {first second : Standing}
    (one : first ∈ registry.standings) (other : second ∈ registry.standings)
    (same : first.serial = second.serial) : first = second :=
  List.inj_on_of_nodup_map coherent.serials_nodup one other same

theorem Coherent.live_iff (coherent : registry.Coherent) (serial : Nat) :
    serial ∈ live registry.journal ↔ ∃ standing ∈ registry.standings, standing.serial = serial := by
  rw [← coherent.serials, List.mem_map]

theorem Coherent.live_of_find? (coherent : registry.Coherent) {fd : Nat} {client : Client}
    (found : registry.find? fd = some client) : client.serial ∈ live registry.journal :=
  (coherent.live_iff client.serial).2 ⟨client.standing, (find?_standing found).2.1, rfl⟩

theorem Coherent.live_lt (coherent : registry.Coherent) {serial : Nat}
    (registered : serial ∈ live registry.journal) : serial < registry.accepted :=
  coherent.fresh _ (accepted_of_live registered) serial rfl

/-- A registry that came from another one without taking in a client, what a client sent, or an
event from outside. -/
structure Narrowed (before after : Registry) : Prop where
  max : after.maxMessage = before.maxMessage
  accepted : after.accepted = before.accepted
  arrivals : tell Deed.arrivals after.journal = tell Deed.arrivals before.journal
  standings : ∀ standing ∈ after.standings, ∃ earlier ∈ before.standings,
    standing.serial = earlier.serial ∧ standing.fd = earlier.fd ∧
      standing.inbound = earlier.inbound

theorem Narrowed.refl (registry : Registry) : registry.Narrowed registry :=
  ⟨rfl, rfl, rfl, fun standing member => ⟨standing, member, rfl, rfl, rfl⟩⟩

theorem Narrowed.trans {first second third : Registry} (one : first.Narrowed second)
    (other : second.Narrowed third) : first.Narrowed third := by
  refine ⟨other.max.trans one.max, other.accepted.trans one.accepted,
    other.arrivals.trans one.arrivals, ?_⟩
  intro standing member
  obtain ⟨middle, between, serial, fd, inbound⟩ := other.standings standing member
  obtain ⟨earlier, before, serial', fd', inbound'⟩ := one.standings middle between
  exact ⟨earlier, before, serial.trans serial', fd.trans fd', inbound.trans inbound'⟩

theorem Narrowed.of_same {before after : Registry}
    (standings : after.standings = before.standings) (max : after.maxMessage = before.maxMessage)
    (accepted : after.accepted = before.accepted)
    (arrivals : tell Deed.arrivals after.journal = tell Deed.arrivals before.journal) :
    before.Narrowed after := by
  refine ⟨max, accepted, arrivals, ?_⟩
  intro standing member
  rw [standings] at member
  exact ⟨standing, member, rfl, rfl, rfl⟩

structure Leads (before : Registry) (now : Phase) (after : Registry) : Prop where
  coherent : after.Coherent
  phase : phase after.journal = now
  narrowed : before.Narrowed after

theorem Coherent.leads_refl (coherent : registry.Coherent) :
    registry.Leads (TileServer.phase registry.journal) registry :=
  ⟨coherent, rfl, .refl registry⟩

theorem Coherent.leads_of_same {other : Registry} (coherent : registry.Coherent)
    (standings : other.standings = registry.standings) (journal : other.journal = registry.journal)
    (max : other.maxMessage = registry.maxMessage)
    (accepted : other.accepted = registry.accepted) :
    registry.Leads (TileServer.phase registry.journal) other :=
  ⟨coherent.of_same standings journal max accepted, by rw [journal],
    .of_same standings max accepted (by rw [journal])⟩

theorem Leads.trans {first second third : Registry} {one other : Phase}
    (here : first.Leads one second) (there : second.Leads other third) : first.Leads other third :=
  ⟨there.coherent, there.phase, here.narrowed.trans there.narrowed⟩

end Registry

end TileServer

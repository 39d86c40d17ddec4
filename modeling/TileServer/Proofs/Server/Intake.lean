import TileServer.Proofs.Server.Deeds

namespace TileServer

namespace Registry

variable {registry : Registry} {limit fd : Nat} {arrived : List Event}

def QuietBut (fd : Nat) (registry : Registry) : Prop :=
  ∀ standing ∈ registry.standings, standing.fd ≠ fd →
    Wire.decode registry.maxMessage standing.inbound = .incomplete

/-- A registry that reads payloads up to a limit, between two turns of the loop, after some events
have arrived from outside. -/
structure Resting (limit : Nat) (arrived : List Event) (registry : Registry) : Prop where
  bound : registry.maxMessage = limit
  history : tell Deed.arrivals registry.journal = arrived
  coherent : registry.Coherent
  idle : phase registry.journal = .idle
  quiet : registry.Quiet

structure Attending (limit : Nat) (arrived : List Event) (fd : Nat) (registry : Registry) :
    Prop where
  bound : registry.maxMessage = limit
  history : tell Deed.arrivals registry.journal = arrived
  coherent : registry.Coherent
  idle : phase registry.journal = .idle
  others : registry.QuietBut fd

theorem resting_new (maxMessage maxBacklog : Nat) :
    (new maxMessage maxBacklog).Resting maxMessage [] where
  bound := rfl
  history := rfl
  coherent := coherent_new maxMessage maxBacklog
  idle := rfl
  quiet := by simp [Quiet, new, standings]

theorem Resting.of_leads {other : Registry} (resting : registry.Resting limit arrived)
    (leads : registry.Leads (phase registry.journal) other) : other.Resting limit arrived :=
  ⟨leads.narrowed.max.trans resting.bound, leads.narrowed.arrivals.trans resting.history,
    leads.coherent, leads.phase.trans resting.idle, resting.quiet.of_narrowed leads.narrowed⟩

theorem Quiet.but (quiet : registry.Quiet) (fd : Nat) : registry.QuietBut fd :=
  fun standing member _ => quiet standing member

theorem QuietBut.of_narrowed {other : Registry} (others : registry.QuietBut fd)
    (narrowed : registry.Narrowed other) : other.QuietBut fd := by
  intro standing member different
  obtain ⟨earlier, before, _, same, inbound⟩ := narrowed.standings standing member
  rw [narrowed.max, inbound]
  exact others earlier before (same ▸ different)

theorem QuietBut.quiet (others : registry.QuietBut fd)
    (own : ∀ standing ∈ registry.standings, standing.fd = fd →
      Wire.decode registry.maxMessage standing.inbound = .incomplete) : registry.Quiet := by
  intro standing member
  by_cases same : standing.fd = fd
  · exact own standing member same
  · exact others standing member same

theorem Attending.of_leads {other : Registry} (attending : registry.Attending limit arrived fd)
    (leads : registry.Leads (phase registry.journal) other) : other.Attending limit arrived fd :=
  ⟨leads.narrowed.max.trans attending.bound, leads.narrowed.arrivals.trans attending.history,
    leads.coherent, leads.phase.trans attending.idle, attending.others.of_narrowed leads.narrowed⟩

theorem Attending.resting (attending : registry.Attending limit arrived fd)
    (own : ∀ standing ∈ registry.standings, standing.fd = fd →
      Wire.decode registry.maxMessage standing.inbound = .incomplete) : registry.Resting limit arrived :=
  ⟨attending.bound, attending.history, attending.coherent, attending.idle,
    attending.others.quiet own⟩

theorem Attending.resting_of_gone (attending : registry.Attending limit arrived fd)
    (gone : ∀ standing ∈ registry.standings, standing.fd ≠ fd) : registry.Resting limit arrived :=
  attending.resting (fun standing member same => absurd same (gone standing member))

theorem decode_nil (maxPayload : Nat) : Wire.decode maxPayload [] = .incomplete := rfl

theorem agrees_of_unheard {maxPayload serial : Nat} {journal : List Deed}
    (unheard : ∀ deed ∈ journal, deed.serial? ≠ some serial) :
    Standing.Agrees maxPayload journal ⟨serial, fd, [], []⟩ := by
  refine ⟨?_, ?_⟩
  · rw [tell_eq_nil (fun deed member => (Deed.isSilent_of_other (unheard deed member)).bytes),
      tell_eq_nil (fun deed member => (Deed.isSilent_of_other (unheard deed member)).requests),
      Wire.Frames.behind_nil]
  · intro name
    rw [follows, tell_eq_nil (fun deed member =>
      (Deed.isSilent_of_other (unheard deed member)).names)]

theorem Resting.register (resting : registry.Resting limit arrived) (socket : Socket)
    (unused : registry.contains fd = false) : (registry.register fd socket).Resting limit arrived := by
  obtain ⟨bound, history, coherent, idle, quiet⟩ := resting
  let entry : Standing := ⟨registry.accepted, fd, [], []⟩
  have standings : (registry.register fd socket).standings = registry.standings ++ [entry] := by
    simp only [Registry.register, Registry.standings, List.map_append]
    rfl
  have unheard : ∀ deed ∈ registry.journal, deed.serial? ≠ some registry.accepted := by
    intro deed member concerns
    exact Nat.lt_irrefl _ (coherent.fresh deed member _ concerns)
  have still : tell Deed.arrivals (registry.register fd socket).journal = arrived :=
    history ▸ (tell_cons _ _ _).trans (List.append_nil _)
  refine ⟨bound, still, ⟨coherent.lawful.step (.accepted idle unheard), ?_, ?_, ?_, ?_⟩, idle, ?_⟩
  · rw [standings, List.map_append, coherent.serials]
    rfl
  · rw [map_fd_standings]
    exact coherent.distinct.register socket unused
  · intro deed member serial concerns
    rcases List.mem_cons.1 member with rfl | member
    · cases concerns
      exact Nat.lt_succ_self _
    · exact Nat.lt_succ_of_lt (coherent.fresh deed member serial concerns)
  · intro standing member
    rw [standings] at member
    rcases List.mem_append.1 member with old | new
    · exact (coherent.agrees standing old).cons (Deed.isSilent_accepted _ _)
    · rw [List.mem_singleton.1 new]
      exact (agrees_of_unheard unheard).cons (Deed.isSilent_accepted _ _)
  · intro standing member
    rw [standings] at member
    rcases List.mem_append.1 member with old | new
    · exact quiet standing old
    · rw [List.mem_singleton.1 new]
      exact decode_nil _

theorem Coherent.alter (coherent : registry.Coherent) {client : Client} {change : Client → Client}
    {deed : Deed} (found : registry.find? fd = some client)
    (serial : (change client).serial = client.serial) (same : (change client).fd = client.fd)
    (allowed : Allowed registry.maxMessage registry.journal deed)
    (concerns : deed.serial? = some client.serial)
    (lives : live (deed :: registry.journal) = live registry.journal)
    (agrees : (change client).standing.Agrees registry.maxMessage (deed :: registry.journal)) :
    ((registry.modify fd change).note deed).Coherent := by
  obtain ⟨_, there, own⟩ := find?_standing found
  have serials := coherent.map_modify found Standing.serial serial
  have fds := coherent.map_modify found Standing.fd same
  have registered := coherent.live_of_find? found
  refine ⟨coherent.lawful.step allowed, ?_, ?_, ?_, ?_⟩
  · exact serials.trans (coherent.serials.trans lives.symm)
  · exact fds.symm ▸ coherent.fds
  · intro other member number about
    rcases List.mem_cons.1 member with rfl | member
    · rw [concerns] at about
      cases about
      exact coherent.live_lt registered
    · exact coherent.fresh other member number about
  · intro standing member
    change standing ∈ (registry.modify fd change).standings at member
    rw [coherent.standings_modify found] at member
    obtain ⟨earlier, before, rfl⟩ := List.mem_map.1 member
    by_cases equal : earlier.fd = fd
    · rw [if_pos equal]
      exact agrees
    · rw [if_neg equal]
      have other : deed.serial? ≠ some earlier.serial := by
        rw [concerns]
        intro numbers
        have one := coherent.eq_of_serial before there (Option.some.inj numbers).symm
        exact equal (one ▸ own)
      exact (coherent.agrees earlier before).cons (Deed.isSilent_of_other other)

theorem Coherent.quietBut_modify (coherent : registry.Coherent) {client : Client}
    {change : Client → Client} (found : registry.find? fd = some client)
    (same : (change client).fd = client.fd) (others : registry.QuietBut fd) :
    (registry.modify fd change).QuietBut fd := by
  obtain ⟨_, _, own⟩ := find?_standing found
  intro standing member different
  rw [coherent.standings_modify found change] at member
  obtain ⟨earlier, before, rfl⟩ := List.mem_map.1 member
  by_cases equal : earlier.fd = fd
  · rw [if_pos equal] at different
    exact absurd (same.trans own) different
  · rw [if_neg equal] at different ⊢
    exact others earlier before different

theorem Resting.receive (resting : registry.Resting limit arrived) {client : Client}
    (found : registry.find? fd = some client) (bytes : Bytes) :
    (registry.receive fd bytes).Attending limit arrived fd := by
  obtain ⟨bound, history, coherent, idle, quiet⟩ := resting
  obtain ⟨_, there, _⟩ := find?_standing found
  have registered := coherent.live_of_find? found
  have same : registry.receive fd bytes =
      (registry.modify fd (fun client => client.receive bytes)).note (.read client.serial bytes) := by
    rw [Registry.receive, found]
  rw [same]
  have still : tell Deed.arrivals (.read client.serial bytes :: registry.journal) = arrived :=
    history ▸ (tell_cons _ _ _).trans (List.append_nil _)
  refine ⟨bound, still, coherent.alter found rfl rfl (.read idle registered) rfl rfl ?_, idle,
    coherent.quietBut_modify found rfl (quiet.but fd)⟩
  obtain ⟨inbound, subscriptions⟩ := coherent.agrees client.standing there
  refine ⟨?_, ?_⟩
  · have heard : tell (Deed.bytesOf client.serial) (.read client.serial bytes :: registry.journal) =
        tell (Deed.bytesOf client.serial) registry.journal ++ bytes := by
      rw [tell_cons, Deed.bytesOf, if_pos rfl]
    have handled : tell (Deed.requestsOf client.serial)
        (.read client.serial bytes :: registry.journal) =
          tell (Deed.requestsOf client.serial) registry.journal := by
      simp [Deed.requestsOf]
    change Wire.decodeAll _ (tell (Deed.bytesOf client.serial) _) =
      (Wire.decodeAll _ (client.receive bytes).inbound.bytes).behind
        (tell (Deed.requestsOf client.serial) _)
    rw [heard, handled, Client.receive, Wire.ByteQueue.bytes_push]
    exact Wire.decodeAll_append_behind bytes inbound
  · intro name
    have unchanged : follows client.serial name (.read client.serial bytes :: registry.journal) =
        follows client.serial name registry.journal := by
      simp [follows, Deed.namesOf]
    exact (subscriptions name).trans unchanged.symm

theorem Coherent.request (coherent : registry.Coherent) (idle : phase registry.journal = .idle)
    {client : Client} {message : Wire.Message} {rest : Wire.ByteQueue}
    (found : registry.find? fd = some client)
    (taken : Wire.takeFrame registry.maxMessage client.inbound = .message message rest) :
    ((registry.modify fd (fun client => client.keep rest)).note
      (.request client.serial message)).Coherent := by
  obtain ⟨_, there, _⟩ := find?_standing found
  have registered := coherent.live_of_find? found
  obtain ⟨inbound, subscriptions⟩ := coherent.agrees client.standing there
  have decoded : Wire.decode registry.maxMessage client.inbound.bytes =
      .message message rest.bytes := by
    rw [← Wire.map_takeFrame, taken]
    rfl
  have whole : Wire.decodeAll registry.maxMessage
      (tell (Deed.bytesOf client.serial) registry.journal) =
        (Wire.decodeAll registry.maxMessage rest.bytes).behind
          (tell (Deed.requestsOf client.serial) registry.journal ++ [message]) := by
    rw [← Wire.Frames.behind_behind, ← Wire.decodeAll_of_message decoded]
    exact inbound
  have next : tell (Deed.requestsOf client.serial) registry.journal ++ [message] <+:
      (Wire.decodeAll registry.maxMessage
        (tell (Deed.bytesOf client.serial) registry.journal)).messages := by
    rw [whole]
    exact List.prefix_append _ _
  refine coherent.alter found rfl rfl (.request idle registered next) rfl rfl ⟨?_, ?_⟩
  · change Wire.decodeAll _ (tell (Deed.bytesOf client.serial) _) =
      (Wire.decodeAll _ rest.bytes).behind (tell (Deed.requestsOf client.serial) _)
    simpa [Deed.bytesOf, Deed.requestsOf] using whole
  · intro name
    have unchanged : follows client.serial name (.request client.serial message :: registry.journal) =
        follows client.serial name registry.journal := by
      simp [follows, Deed.namesOf]
    exact (subscriptions name).trans unchanged.symm

end Registry

theorem Text.sameFolded_trans {first second : String} (same : Text.sameFolded first second = true)
    (third : String) : Text.sameFolded first third = Text.sameFolded second third := by
  rw [Text.sameFolded, beq_iff_eq] at same
  rw [Text.sameFolded, same, Text.sameFolded]

theorem Client.isSubscribed_subscribe (client : Client) (events : List String) (name : String) :
    (client.subscribe events).isSubscribed name =
      (client.isSubscribed name || events.any (fun wanted => Text.sameFolded wanted name)) := by
  induction events generalizing client with
  | nil => simp [subscribe]
  | cons event events ih =>
    rw [subscribe, List.foldl_cons]
    by_cases known : client.isSubscribed event
    · rw [if_pos known]
      refine (ih client).trans ?_
      by_cases same : Text.sameFolded event name
      · have already : client.isSubscribed name = true := by
          obtain ⟨wanted, member, equal⟩ := List.any_eq_true.1 known
          refine List.any_eq_true.2 ⟨wanted, member, ?_⟩
          rw [Text.sameFolded_trans equal]
          exact same
        rw [already, Bool.true_or, Bool.true_or]
      · rw [List.any_cons, Bool.not_eq_true _ |>.mp same, Bool.false_or]
    · rw [if_neg known]
      refine (ih _).trans ?_
      simp [isSubscribed, Bool.or_assoc]

theorem Client.standing_subscribe (client : Client) (events : List String) :
    (client.subscribe events).serial = client.serial ∧ (client.subscribe events).fd = client.fd ∧
      (client.subscribe events).inbound = client.inbound := by
  rw [client.subscribe_eq]
  exact ⟨rfl, rfl, rfl⟩

theorem Registry.subscribe_of_found {registry : Registry} {fd : Nat} {client : Client}
    (found : registry.find? fd = some client) (events : List String) :
    registry.subscribe fd events =
      (registry.modify fd (fun client => client.subscribe events)).note
        (.subscribed client.serial events) := by
  rw [subscribe, found]

theorem Registry.Coherent.subscribe {registry : Registry} (coherent : registry.Coherent)
    {fd : Nat} {client : Client} {message : Wire.Message} {events : List String}
    (found : registry.find? fd = some client)
    (handled : phase registry.journal = .handling client.serial message)
    (subscription : message.IsSubscription)
    (wanted : Server.subscription? message.payload = some events) :
    registry.Leads (.handling client.serial message) (registry.subscribe fd events) := by
  obtain ⟨_, there, own⟩ := find?_standing found
  obtain ⟨serial, same, unread⟩ := client.standing_subscribe events
  have registered := coherent.live_of_find? found
  obtain ⟨inbound, subscriptions⟩ := coherent.agrees client.standing there
  rw [subscribe_of_found found]
  refine ⟨coherent.alter found serial same (.subscribed handled registered subscription wanted)
    rfl rfl ⟨?_, ?_⟩, handled, rfl, rfl, (tell_cons _ _ _).trans (List.append_nil _), ?_⟩
  · change Wire.decodeAll _ (tell (Deed.bytesOf (client.subscribe events).serial) _) =
      (Wire.decodeAll _ (client.subscribe events).inbound.bytes).behind
        (tell (Deed.requestsOf (client.subscribe events).serial) _)
    rw [serial, unread, tell_cons, tell_cons]
    simp only [Deed.bytesOf, Deed.requestsOf, List.append_nil]
    exact inbound
  · intro name
    change (client.subscribe events).isSubscribed name =
      follows (client.subscribe events).serial name _
    have before : client.isSubscribed name = follows client.serial name registry.journal :=
      subscriptions name
    rw [client.isSubscribed_subscribe, serial, before]
    simp [follows, Deed.namesOf]
  · intro standing member
    change standing ∈ (registry.modify fd _).standings at member
    rw [coherent.standings_modify found] at member
    obtain ⟨earlier, before, rfl⟩ := List.mem_map.1 member
    refine ⟨earlier, before, ?_⟩
    by_cases place : earlier.fd = fd
    · rw [if_pos place, coherent.eq_of_fd before there (place.trans own.symm)]
      exact ⟨serial, same, congrArg Wire.ByteQueue.bytes unread⟩
    · rw [if_neg place]
      exact ⟨rfl, rfl, rfl⟩

end TileServer

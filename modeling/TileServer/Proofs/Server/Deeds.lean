import TileServer.Proofs.Server.Standing

namespace TileServer.Registry

variable {registry : Registry}

theorem standings_modify (registry : Registry) (fd : Nat) {change : Client → Client}
    (alter : Standing → Standing)
    (changes : ∀ client ∈ registry.clients, client.fd = fd →
      (change client).standing = alter client.standing) :
    (registry.modify fd change).standings =
      registry.standings.map (fun standing => if standing.fd = fd then alter standing else standing) := by
  simp only [modify, standings, List.map_map]
  apply List.map_congr_left
  intro client member
  rw [Function.comp_apply, Function.comp_apply]
  by_cases same : client.fd = fd
  · rw [if_pos same, if_pos (show client.standing.fd = fd from same)]
    exact changes client member same
  · rw [if_neg same, if_neg (show ¬ client.standing.fd = fd from same)]

theorem standings_modify_of_same {fd : Nat} {change : Client → Client}
    (changes : ∀ client ∈ registry.clients, client.fd = fd →
      (change client).standing = client.standing) :
    (registry.modify fd change).standings = registry.standings := by
  rw [standings_modify registry fd id changes]
  simp

theorem find?_modify {fd : Nat} {client : Client} {change : Client → Client}
    (found : registry.find? fd = some client)
    (same : ∀ client, client.fd = fd → (change client).fd = fd) :
    (registry.modify fd change).find? fd = some (change client) := by
  have place := (find?_standing found).2.2
  have alike : (fun client : Client => client.fd == fd) ∘
      (fun client => if client.fd = fd then change client else client) =
        fun client => client.fd == fd := by
    funext other
    rw [Function.comp_apply]
    split
    · rename_i own
      rw [same other own, own]
    · rfl
  unfold find? at found ⊢
  rw [modify, List.find?_map, alike, found, Option.map_some, if_pos place]

theorem Coherent.standings_modify (coherent : registry.Coherent) {fd : Nat} {client : Client}
    (found : registry.find? fd = some client) (change : Client → Client) :
    (registry.modify fd change).standings = registry.standings.map (fun standing =>
      if standing.fd = fd then (change client).standing else standing) := by
  apply Registry.standings_modify registry fd (fun _ => (change client).standing)
  intro other member same
  rw [coherent.distinct.eq_of_find? found member same]

theorem Coherent.map_modify (coherent : registry.Coherent) {fd : Nat} {client : Client}
    {change : Client → Client} (found : registry.find? fd = some client) (key : Standing → α)
    (same : key (change client).standing = key client.standing) :
    (registry.modify fd change).standings.map key = registry.standings.map key := by
  obtain ⟨_, there, own⟩ := find?_standing found
  rw [coherent.standings_modify found, List.map_map]
  apply List.map_congr_left
  intro standing member
  rw [Function.comp_apply]
  by_cases equal : standing.fd = fd
  · rw [if_pos equal, coherent.eq_of_fd member there (equal.trans own.symm)]
    exact same
  · rw [if_neg equal]

theorem Coherent.standings_replace (coherent : registry.Coherent) {fd : Nat} {client sent : Client}
    (found : registry.find? fd = some client) (same : sent.standing = client.standing) :
    (registry.modify fd (fun _ => sent)).standings = registry.standings :=
  standings_modify_of_same (fun _ member own =>
    same.trans (congrArg Client.standing (coherent.distinct.eq_of_find? found member own).symm))

theorem Coherent.note (coherent : registry.Coherent) {deed : Deed} (outward : deed.IsOutward)
    (known : ∀ serial, deed.serial? = some serial → serial < registry.accepted)
    (allowed : Allowed registry.maxMessage registry.journal deed) :
    (registry.note deed).Coherent := by
  refine ⟨coherent.lawful.step allowed, ?_, coherent.fds, ?_, ?_⟩
  · exact coherent.serials.trans (live_cons_of_outward registry.journal outward).symm
  · intro other member serial concerns
    rcases List.mem_cons.1 member with rfl | member
    · exact known serial concerns
    · exact coherent.fresh other member serial concerns
  · intro standing member
    exact (coherent.agrees standing member).cons (Deed.isSilent_of_outward outward _)

theorem Coherent.leads_note (coherent : registry.Coherent) {deed : Deed}
    (outward : deed.IsOutward) (inner : deed.arrivals = [])
    (known : ∀ serial, deed.serial? = some serial → serial < registry.accepted)
    (allowed : Allowed registry.maxMessage registry.journal deed) :
    registry.Leads ((phase registry.journal).after deed) (registry.note deed) := by
  refine ⟨coherent.note outward known allowed, rfl, .of_same rfl rfl rfl ?_⟩
  rw [Registry.note, tell_cons, inner, List.append_nil]

theorem standings_drop (cause : Cause) {fd : Nat} {client : Client}
    (found : registry.find? fd = some client) :
    ∃ front back, registry.standings = front ++ client.standing :: back ∧
      (registry.drop cause fd).standings = front ++ back ∧
      (registry.drop cause fd).journal = .dropped client.serial cause :: registry.journal ∧
      (registry.drop cause fd).maxMessage = registry.maxMessage ∧
      (registry.drop cause fd).accepted = registry.accepted := by
  obtain ⟨front, back, split, dropped⟩ := drop_of_found cause found
  rw [dropped]
  refine ⟨front.map Client.standing, back.map Client.standing, ?_, ?_, rfl, rfl, rfl⟩
  · rw [standings, split, List.map_append, List.map_cons]
  · exact List.map_append

theorem erase_map_middle [DecidableEq β] {key : α → β} {front back : List α} {item : α}
    (nodup : ((front ++ item :: back).map key).Nodup) :
    ((front ++ item :: back).map key).erase (key item) = (front ++ back).map key := by
  have elsewhere := not_mem_map_middle nodup
  rw [List.map_append] at elsewhere
  rw [List.map_append, List.map_cons, List.erase_append_right, List.erase_cons_head, List.map_append]
  exact fun member => elsewhere (List.mem_append_left _ member)

theorem Coherent.drop (coherent : registry.Coherent) (cause : Cause) {fd : Nat} {client : Client}
    (found : registry.find? fd = some client) (free : (phase registry.journal).IsFree)
    (settled : ¬ cause.IsSudden → phase registry.journal = .idle ∧
      Settled registry.maxMessage client.serial registry.journal) :
    registry.Leads (phase registry.journal) (registry.drop cause fd) ∧
      (∀ standing ∈ (registry.drop cause fd).standings, standing.fd ≠ fd) ∧
      client.serial ∉ live (registry.drop cause fd).journal := by
  obtain ⟨_, there, own⟩ := find?_standing found
  obtain ⟨front, back, before, after, journal, max, accepted⟩ := standings_drop cause found
  have registered := coherent.live_of_find? found
  have lawful := coherent.lawful.step (Allowed.dropped free registered settled)
  have nodup := coherent.serials_nodup
  have fds := coherent.fds
  rw [before] at nodup fds
  have erased := erase_map_middle nodup
  rw [← before, coherent.serials] at erased
  -- Who is left was there before, so that only the new end of the journal has to be looked at.
  have sub : (front ++ back).Sublist registry.standings := by
    rw [before]
    exact List.Sublist.append_left (List.sublist_cons_self _ _) _
  have kept : ∀ standing ∈ (registry.drop cause fd).standings, standing ∈ registry.standings := by
    rw [after]
    exact fun _ member => sub.subset member
  refine ⟨⟨⟨?_, ?_, ?_, ?_, ?_⟩, ?_, max, accepted, ?_, ?_⟩, ?_, ?_⟩
  · rw [max, journal]
    exact lawful
  · rw [after, journal]
    exact erased.symm
  · rw [after]
    exact coherent.fds.sublist (sub.map _)
  · rw [journal, accepted]
    intro deed member serial concerns
    rcases List.mem_cons.1 member with rfl | member
    · cases concerns
      exact coherent.live_lt registered
    · exact coherent.fresh deed member serial concerns
  · intro standing member
    rw [max, journal]
    exact (coherent.agrees standing (kept standing member)).cons
      (Deed.isSilent_dropped _ _ cause)
  · rw [journal]
    rfl
  · rw [journal, tell_cons]
    exact List.append_nil _
  · exact fun standing member => ⟨standing, kept standing member, rfl, rfl, rfl⟩
  · rintro standing member rfl
    rw [after] at member
    have others := not_mem_map_middle fds
    rw [show client.standing.fd = standing.fd from own] at others
    exact others (List.mem_map_of_mem member)
  · rw [journal]
    exact lawful.once.2 client.serial cause List.mem_cons_self

def Quiet (registry : Registry) : Prop :=
  ∀ standing ∈ registry.standings,
    Wire.decode registry.maxMessage standing.inbound = .incomplete

theorem Quiet.of_narrowed {other : Registry} (quiet : registry.Quiet)
    (narrowed : registry.Narrowed other) : other.Quiet := by
  intro standing member
  obtain ⟨earlier, before, _, _, inbound⟩ := narrowed.standings standing member
  rw [narrowed.max, inbound]
  exact quiet earlier before

theorem Coherent.settled (coherent : registry.Coherent) {standing : Standing}
    (member : standing ∈ registry.standings)
    (unread : (Wire.decodeAll registry.maxMessage standing.inbound).messages = []) :
    Settled registry.maxMessage standing.serial registry.journal := by
  rw [Settled, (coherent.agrees standing member).inbound, Wire.Frames.behind, unread, List.append_nil]

theorem Coherent.settled_of_quiet (coherent : registry.Coherent) (quiet : registry.Quiet)
    {standing : Standing} (member : standing ∈ registry.standings) :
    Settled registry.maxMessage standing.serial registry.journal :=
  coherent.settled member (by rw [Wire.decodeAll_of_incomplete (quiet standing member)])

theorem Coherent.dropAll (coherent : registry.Coherent) (cause : Cause)
    (free : (phase registry.journal).IsFree)
    (settled : ¬ cause.IsSudden → phase registry.journal = .idle ∧ registry.Quiet)
    (fds : List Nat) :
    registry.Leads (phase registry.journal) (fds.foldl (Registry.drop cause) registry) := by
  induction fds generalizing registry with
  | nil => exact coherent.leads_refl
  | cons fd fds ih =>
    rw [List.foldl_cons]
    cases found : registry.find? fd with
    | none =>
      rw [drop_of_missing found]
      exact ih coherent free settled
    | some client =>
      obtain ⟨_, there, _⟩ := find?_standing found
      obtain ⟨here, _⟩ := coherent.drop cause found free (fun calm =>
        ⟨(settled calm).1, coherent.settled_of_quiet (settled calm).2 there⟩)
      have rest := ih here.coherent (by rw [here.phase]; exact free)
        (fun calm => ⟨here.phase.trans (settled calm).1, (settled calm).2.of_narrowed here.narrowed⟩)
      rw [here.phase] at rest
      exact here.trans rest

theorem Coherent.notices (coherent : registry.Coherent) (limit : Nat) (event : Event) :
    ((registry.clients.map (deliver limit event)).filter (fun result => result.2.isQueued)).map
        (fun result => Deed.notified result.1.serial event.message) =
      (audience event registry.journal).map
        (fun serial => Deed.notified serial event.message) := by
  have serials : live registry.journal = registry.clients.map Client.serial := by
    rw [← coherent.serials, standings, List.map_map]
    rfl
  have followed : ∀ client ∈ registry.clients,
      client.isSubscribed event.name = follows client.serial event.name registry.journal :=
    fun client member =>
      (coherent.agrees client.standing (List.mem_map_of_mem member)).subscriptions event.name
  have told : ∀ client ∈ registry.clients,
      ((fun result : Client × Delivery => result.2.isQueued) ∘ deliver limit event) client =
        (follows client.serial event.name registry.journal &&
          decide (event.payload.length ≤ Wire.maxLength)) := by
    intro client member
    rw [Function.comp_apply, isQueued_deliver, followed client member]
  have names : (fun result : Client × Delivery =>
      Deed.notified result.1.serial event.message) ∘ deliver limit event =
        (fun serial => Deed.notified serial event.message) ∘ Client.serial := by
    funext client
    have same := congrArg Standing.serial (standing_deliver limit event client)
    exact congrArg (fun serial => Deed.notified serial event.message) same
  rw [List.filter_map, List.map_map, names, List.filter_congr told, audience, followers, serials]
  by_cases fits : event.payload.length ≤ Wire.maxLength
  · simp only [fits, decide_true, Bool.and_true, if_true, List.filter_map, List.map_map]
    rfl
  · simp [fits]

def told (registry : Registry) (event : Event) : Registry :=
  { registry with
    clients := (registry.clients.map (deliver registry.maxBacklog event)).map Prod.fst
    journal := publication event registry.journal ++ registry.journal }

def overflowed (registry : Registry) (event : Event) : List Nat :=
  ((registry.clients.map (deliver registry.maxBacklog event)).filter
    (fun result => result.2 == .overflowed)).map (fun result => result.1.fd)

theorem Coherent.publish_eq (coherent : registry.Coherent) (event : Event) :
    registry.publish event =
      (registry.overflowed event).foldl (Registry.drop .overflowed) (registry.told event) := by
  simp only [Registry.publish, broadcast, told, overflowed, publication,
    coherent.notices registry.maxBacklog event, List.append_assoc, List.cons_append,
    List.nil_append]

theorem standings_told (registry : Registry) (event : Event) :
    (registry.told event).standings = registry.standings := by
  simp only [told, standings, List.map_map]
  apply List.map_congr_left
  intro client member
  exact standing_deliver registry.maxBacklog event client

theorem Coherent.told (coherent : registry.Coherent) (event : Event)
    (awaited : ∀ other, phase registry.journal = .heralding other → other = event)
    (plain : ∀ serial message, phase registry.journal = .handling serial message →
      ¬ message.IsSubscription) :
    registry.Leads ((phase registry.journal).after (.published event)) (registry.told event) := by
  refine ⟨⟨coherent.lawful.published awaited plain, ?_, ?_, ?_, ?_⟩,
    phase_publication event registry.journal, .of_same (standings_told registry event) rfl rfl
      (tell_of_silent _ (fun _ new => arrivals_of_publication new))⟩
  · rw [standings_told]
    exact coherent.serials.trans (live_publication event registry.journal).symm
  · rw [standings_told]
    exact coherent.fds
  · intro deed member serial concerns
    rcases List.mem_append.1 member with new | old
    · rcases mem_publication.1 new with ⟨other, heard, rfl⟩ | rfl
      · cases concerns
        exact coherent.live_lt (mem_audience.1 heard).1
      · cases concerns
    · exact coherent.fresh deed old serial concerns
  · intro standing member
    rw [standings_told] at member
    exact (coherent.agrees standing member).append (fun _ new =>
      Deed.isSilent_of_outward (outward_of_publication new) _)

theorem isFree_after_published (now : Phase) (event : Event) :
    (now.after (.published event)).IsFree := by
  intro other heralds
  cases now <;> cases heralds

theorem Coherent.publish (coherent : registry.Coherent) (event : Event)
    (awaited : ∀ other, phase registry.journal = .heralding other → other = event)
    (plain : ∀ serial message, phase registry.journal = .handling serial message →
      ¬ message.IsSubscription) :
    registry.Leads ((phase registry.journal).after (.published event))
      (registry.publish event) := by
  have here := coherent.told event awaited plain
  have free : (phase (registry.told event).journal).IsFree := by
    rw [here.phase]
    exact isFree_after_published _ event
  have rest := here.coherent.dropAll .overflowed free (fun calm => absurd True.intro calm)
    (registry.overflowed event)
  rw [here.phase] at rest
  rw [coherent.publish_eq]
  exact here.trans rest

end TileServer.Registry

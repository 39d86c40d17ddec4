import TileServer.Proofs.Server.Identity
import TileServer.Session.Exchange

namespace TileServer

def Wake.newcomers : Wake → List Nat
  | .accepted connections => connections.map Prod.fst
  | _ => []

namespace Registry

variable {registry after : Registry} {turn : Turn}

def fds (registry : Registry) : List Nat :=
  registry.clients.map Client.fd

theorem contains_eq_false_iff {fd : Nat} : registry.contains fd = false ↔ fd ∉ registry.fds := by
  simp [contains, find?, fds]

theorem fds_perform {operation : Operation} (distinct : registry.Distinct)
    (inner : ¬ operation.IsRegistration) : (registry.perform operation).fds.Sublist registry.fds := by
  obtain ⟨change, alters⟩ := Distinct.alters distinct inner
  have fewer := alters.identities.map Prod.snd
  rw [map_fd_identities, map_fd_identities] at fewer
  exact fewer

theorem Reaches.fds (reaches : registry.Reaches turn.Does after) (distinct : registry.Distinct) :
    after.Distinct ∧ ∀ fd ∈ after.fds, fd ∈ registry.fds ∨ fd ∈ turn.wake.newcomers := by
  induction reaches with
  | refl => exact ⟨distinct, fun _ => Or.inl⟩
  | @step middle _ operation does ih =>
    obtain ⟨distinct, known⟩ := ih
    by_cases inner : operation.IsRegistration
    · cases operation with
      | register fd socket =>
        obtain ⟨unused, connections, wake, member⟩ := does
        refine ⟨Distinct.register distinct socket unused, ?_⟩
        intro other there
        have grown : other ∈ middle.fds ++ [fd] := by
          rw [Registry.fds, perform, register, List.map_append] at there
          exact there
        rcases List.mem_append.1 grown with old | new
        · exact known other old
        · rw [List.mem_singleton.1 new, wake]
          exact Or.inr (List.mem_map_of_mem member)
      | _ => cases inner
    · exact ⟨Distinct.perform distinct inner,
        fun fd member => known fd ((fds_perform distinct inner).subset member)⟩

theorem admits_of_unused {connections : List (Nat × Socket)}
    (distinct : (connections.map Prod.fst).Nodup)
    (unused : ∀ connection ∈ connections, connection.1 ∉ registry.fds) : registry.Admits connections := by
  induction connections generalizing registry with
  | nil => exact True.intro
  | cons connection connections ih =>
    rw [List.map_cons, List.nodup_cons] at distinct
    obtain ⟨first, others⟩ := List.forall_mem_cons.1 unused
    refine ⟨contains_eq_false_iff.2 first, ih distinct.2 (fun other member there => ?_)⟩
    rw [fds, register, List.map_append] at there
    rcases List.mem_append.1 there with old | new
    · exact others other member old
    · have same : other.1 = connection.1 := List.mem_singleton.1 new
      exact distinct.1 (same ▸ List.mem_map_of_mem member)

end Registry

namespace Server

variable {server : Server} {turn : Turn}

theorem fds_turn (distinct : server.registry.Distinct) (admitted : server.Admits turn) :
    (server.turn turn).prepare.registry.Distinct ∧
      ∀ fd ∈ (server.turn turn).prepare.registry.fds,
        fd ∈ server.registry.fds ∨ fd ∈ turn.wake.newcomers := by
  obtain ⟨turned, known⟩ := (turn_reaches admitted).fds distinct
  have inner : ¬ Registry.Operation.flushAll.IsRegistration := id
  exact ⟨Registry.Distinct.perform turned inner,
    fun fd member => known fd ((Registry.fds_perform turned inner).subset member)⟩

theorem admits_accepted (distinct : server.registry.Distinct) (devices : List DeviceEvent)
    {connections : List (Nat × Socket)} (apart : (connections.map Prod.fst).Nodup)
    (unused : ∀ connection ∈ connections, connection.1 ∉ server.registry.fds) :
    server.Admits ⟨devices, .accepted connections⟩ := by
  obtain ⟨_, known⟩ := (server.drain_reaches ⟨devices, .device⟩).fds distinct
  apply Registry.admits_of_unused apart
  intro connection member there
  rcases known _ there with old | new
  · exact unused connection member old
  · cases new

end Server

def Peer.entry (peer : Peer) : Nat × Bool :=
  (peer.fd, peer.accepted)

namespace Session

def running (session : Session) : Running :=
  ⟨session.server, session.published⟩

def brings (session : Session) : List DeviceEvent :=
  session.display.events ++ session.keyboard.events

/-- A session whose connections have the descriptors from 0 on, and whose server has none registered but
those that it accepted. -/
structure Sound (session : Session) : Prop where
  distinct : session.server.registry.Distinct
  counted : session.peers.map Peer.fd = List.range session.peers.length
  known : ∀ fd ∈ session.server.registry.fds, (fd, true) ∈ session.peers.map Peer.entry

variable {session rest after : Session} {wake : Wake}

theorem map_fd_entry (session : Session) :
    (session.peers.map Peer.entry).map Prod.fst = session.peers.map Peer.fd := by
  rw [List.map_map]
  rfl

theorem Sound.of_same (sound : session.Sound)
    (peers : after.peers.map Peer.entry = session.peers.map Peer.entry)
    (fds : after.server.registry.fds.Sublist session.server.registry.fds) : after.Sound := by
  have length : after.peers.length = session.peers.length := by
    simpa using congrArg List.length peers
  refine ⟨sound.distinct.sublist fds, ?_, ?_⟩
  · rw [← map_fd_entry, peers, map_fd_entry, sound.counted, length]
  · intro fd member
    rw [peers]
    exact sound.known fd (fds.subset member)

theorem Sound.unused (sound : session.Sound) {peer : Peer} (member : peer ∈ session.peers)
    (waits : peer.accepted = false) : peer.fd ∉ session.server.registry.fds := by
  intro there
  obtain ⟨other, among, same⟩ := List.mem_map.1 (sound.known _ there)
  have distinct : (session.peers.map Peer.fd).Nodup := sound.counted ▸ List.nodup_range
  have equal := List.inj_on_of_nodup_map distinct among member (congrArg Prod.fst same)
  rw [equal, Peer.entry, waits] at same
  cases same

theorem caller?_cases (called : session.caller? = some (wake, rest)) :
    (∃ listener, (wake, rest) = session.acceptAll listener) ∨
      ∃ (peer : Peer) (limit : Nat),
        wake = .client peer.fd (.ready false (some (peer.readAnswer limit))) ∧
        rest = session.modifyPeer peer.fd (fun peer => peer.wasRead limit) := by
  unfold caller? at called
  split at called
  · rename_i listener _
    exact .inl ⟨listener, (Option.some.inj called).symm⟩
  · split at called
    · rename_i client peer _
      cases called
      exact .inr ⟨peer, client.readLimit, rfl, rfl⟩
    · cases called

theorem map_entry_modifyPeer (session : Session) (fd : Nat) {change : Peer → Peer}
    (same : ∀ peer, (change peer).entry = peer.entry) :
    (session.modifyPeer fd change).peers.map Peer.entry = session.peers.map Peer.entry := by
  rw [modifyPeer, List.map_map]
  apply List.map_congr_left
  intro peer _
  show (if peer.fd = fd then change peer else peer).entry = peer.entry
  split
  · exact same peer
  · rfl

/-- What a wait ends with, where the session has left what it brought. -/
structure Brought (session rest : Session) (wake : Wake) : Prop where
  waited : ∃ signalled caller,
    session.running.wait session.brings signalled caller = some (⟨session.brings, wake⟩, rest.published)
  server : rest.server = session.server
  devices : rest.brings = session.brings
  counted : rest.peers.map Peer.fd = session.peers.map Peer.fd
  kept : ∀ fd, (fd, true) ∈ session.peers.map Peer.entry → (fd, true) ∈ rest.peers.map Peer.entry
  accepted : ∀ connections, wake = .accepted connections →
    (connections.map Prod.fst).Sublist (session.peers.map Peer.fd) ∧
      ∀ connection ∈ connections, (connection.1, true) ∈ rest.peers.map Peer.entry ∧
        ∃ peer ∈ session.peers, peer.fd = connection.1 ∧ peer.accepted = false

theorem brought_acceptAll (session : Session) (listener : Nat)
    (empty : session.published.take? = none) :
    session.Brought (session.acceptAll listener).2 (session.acceptAll listener).1 := by
  let connections := (session.peers.filter (fun peer =>
    !peer.accepted && peer.listener == listener)).map (fun peer => (peer.fd, acceptedSocket peer))
  refine ⟨⟨false, some (.newcomers connections), ?_⟩, rfl, rfl, ?_, ?_, ?_⟩
  · rw [Running.wait, running, EventQueue.select, empty]
    rfl
  · rw [acceptAll, List.map_map]
    apply List.map_congr_left
    intro peer _
    show (if _ then _ else peer).fd = peer.fd
    split <;> rfl
  · intro fd member
    obtain ⟨peer, there, same⟩ := List.mem_map.1 member
    refine List.mem_map.2 ⟨peer, List.mem_map.2 ⟨peer, there, if_neg ?_⟩, same⟩
    have accepted : peer.accepted = true := congrArg Prod.snd same
    simp [accepted]
  · intro connections same
    cases same
    rw [List.map_map]
    refine ⟨List.filter_sublist.map _, fun connection member => ?_⟩
    obtain ⟨peer, new, rfl⟩ := List.mem_map.1 member
    obtain ⟨there, waits⟩ := List.mem_filter.1 new
    have accepted : peer.accepted = false := by
      rw [Bool.and_eq_true, Bool.not_eq_true'] at waits
      exact waits.1
    refine ⟨?_, peer, there, rfl, accepted⟩
    exact List.mem_map.2 ⟨{ peer with accepted := true }, List.mem_map.2 ⟨peer, there, if_pos waits⟩, rfl⟩

theorem brought_read (session : Session) (peer : Peer) (limit : Nat)
    (empty : session.published.take? = none) :
    session.Brought (session.modifyPeer peer.fd (fun peer => peer.wasRead limit))
      (.client peer.fd (.ready false (some (peer.readAnswer limit)))) := by
  have entry : (session.modifyPeer peer.fd (fun peer => peer.wasRead limit)).peers.map Peer.entry =
      session.peers.map Peer.entry := session.map_entry_modifyPeer peer.fd (fun _ => rfl)
  refine ⟨⟨false, some (.client peer.fd (.ready false (some (peer.readAnswer limit)))), ?_⟩, rfl, rfl, ?_, ?_,
    nofun⟩
  · rw [Running.wait, running, EventQueue.select, empty]
    rfl
  · rw [← map_fd_entry, entry, map_fd_entry]
  · intro fd member
    rw [entry]
    exact member

theorem brought_of_wake? (woken : session.wake? = some (wake, rest)) : session.Brought rest wake := by
  unfold wake? EventQueue.select at woken
  simp only at woken
  cases calm : session.display.wakes || session.keyboard.wakes with
  | true =>
    rw [if_pos calm] at woken
    cases woken
    exact ⟨⟨true, none, rfl⟩, rfl, rfl, rfl, fun _ => id, nofun⟩
  | false =>
    have silent : ¬ (session.display.wakes || session.keyboard.wakes) = true := Bool.eq_false_iff.1 calm
    rw [if_neg silent] at woken
    cases taken : session.published.take? with
    | some first =>
      obtain ⟨event, published⟩ := first
      rw [taken] at woken
      cases woken
      refine ⟨⟨false, none, ?_⟩, rfl, rfl, rfl, fun _ => id, nofun⟩
      rw [Running.wait, running, EventQueue.select, taken]
      rfl
    | none =>
      rw [taken] at woken
      cases called : session.caller? with
      | none =>
        rw [called] at woken
        cases woken
      | some caller =>
        obtain ⟨wake, rest⟩ := caller
        rw [called] at woken
        cases woken
        rcases caller?_cases called with ⟨listener, same⟩ | ⟨peer, limit, rfl, rfl⟩
        · cases same
          exact session.brought_acceptAll listener taken
        · exact session.brought_read peer limit taken

theorem Sound.admits (sound : session.Sound) (brought : session.Brought rest wake)
    (devices : List DeviceEvent) : session.server.Admits ⟨devices, wake⟩ := by
  cases wake with
  | accepted connections =>
    obtain ⟨among, waiting⟩ := brought.accepted connections rfl
    have distinct : (session.peers.map Peer.fd).Nodup := sound.counted ▸ List.nodup_range
    refine Server.admits_accepted sound.distinct devices (distinct.sublist among) ?_
    intro connection member
    obtain ⟨_, peer, there, same, waits⟩ := waiting connection member
    exact same ▸ sound.unused there waits
  | _ => exact True.intro

theorem Sound.turn (sound : session.Sound) (brought : session.Brought rest wake) :
    (∃ happening, session.running.Admits happening ∧
      (rest.turn wake).running = session.running.step happening) ∧ (rest.turn wake).Sound := by
  have admitted := sound.admits brought session.brings
  have turned : (rest.turn wake).running =
      ⟨(session.server.turn ⟨session.brings, wake⟩).prepare, rest.published⟩ := by
    rw [← brought.devices, ← brought.server]
    rfl
  constructor
  · obtain ⟨signalled, caller, waited⟩ := brought.waited
    refine ⟨.waited session.brings signalled caller, ?_, ?_⟩
    · intro turn events turns
      rw [waited] at turns
      cases turns
      exact admitted
    · rw [turned, Running.step, waited]
      rfl
  · obtain ⟨distinct, known⟩ := Server.fds_turn sound.distinct admitted
    have server : (rest.turn wake).server = (session.server.turn ⟨session.brings, wake⟩).prepare :=
      congrArg Running.server turned
    have length : rest.peers.length = session.peers.length := by
      simpa using congrArg List.length brought.counted
    refine ⟨server ▸ distinct, ?_, ?_⟩
    · show rest.peers.map Peer.fd = List.range rest.peers.length
      rw [brought.counted, sound.counted, length]
    · intro fd member
      rw [server] at member
      rcases known fd member with old | new
      · exact brought.kept fd (sound.known fd old)
      · cases wake with
        | accepted connections =>
          obtain ⟨connection, there, rfl⟩ := List.mem_map.1 new
          exact ((brought.accepted connections rfl).2 connection there).1
        | _ => cases new

/-- A session that another one becomes by a run of its server's loop, which accepts no connection with a
descriptor that is in use. -/
def RunsTo (session last : Session) : Prop :=
  last.Sound ∧ ∃ happenings, session.running.AdmitsAll happenings ∧
    last.running = session.running.run happenings

theorem Sound.runsTo (sound : session.Sound) : session.RunsTo session :=
  ⟨sound, [], True.intro, rfl⟩

theorem Sound.runsTo_of_wake? (sound : session.Sound) (woken : session.wake? = some (wake, rest))
    {last : Session} (later : (rest.turn wake).Sound → (rest.turn wake).RunsTo last) :
    session.RunsTo last := by
  obtain ⟨⟨happening, admitted, step⟩, turned⟩ := sound.turn (brought_of_wake? woken)
  obtain ⟨ended, happenings, others, run⟩ := later turned
  rw [step] at others run
  exact ⟨ended, happening :: happenings, ⟨admitted, others⟩, run⟩

/-- What a session does in turns its server could do in a run of the loop. -/
theorem turns_run (sound : session.Sound) (fuel credit : Nat) :
    session.RunsTo (turns fuel credit session) := by
  fun_induction turns fuel credit session with
  | case1 credit session => exact sound.runsTo
  | case2 fuel credit session waits => exact sound.runsTo
  | case3 fuel session event rest woken => exact sound.runsTo
  | case4 fuel credit session event rest woken more ih => exact sound.runsTo_of_wake? woken ih
  | case5 fuel credit session wake rest other woken ih => exact sound.runsTo_of_wake? woken ih

theorem sound_start (layout : Layout) (maxMessage maxBacklog : Nat) (socketPath : Option String) :
    ({ server := Server.start layout maxMessage maxBacklog socketPath } : Session).Sound where
  distinct := List.nodup_nil
  counted := rfl
  known := nofun

theorem Sound.connect (sound : session.Sound) (name : String) (listener : Nat) :
    (session.connect name listener).Sound := by
  refine ⟨sound.distinct, ?_, fun fd member => ?_⟩
  · rw [Session.connect, List.map_append, sound.counted, List.length_append, List.length_singleton,
      List.range_succ]
    rfl
  · rw [Session.connect, List.map_append]
    exact List.mem_append_left _ (sound.known fd member)

theorem Sound.modifyPeer (sound : session.Sound) (fd : Nat) {change : Peer → Peer}
    (same : ∀ peer, (change peer).entry = peer.entry) : (session.modifyPeer fd change).Sound :=
  sound.of_same (session.map_entry_modifyPeer fd same) (List.Sublist.refl _)

theorem Sound.modifySocket (sound : session.Sound) (fd : Nat) (change : Socket → Socket) :
    (session.modifySocket fd change).Sound := by
  have fds : (session.modifySocket fd change).server.registry.fds = session.server.registry.fds := by
    rw [Session.modifySocket, Registry.fds, Registry.modify, List.map_map]
    apply List.map_congr_left
    intro client _
    show (if client.fd = fd then _ else client).fd = client.fd
    split <;> rfl
  exact sound.of_same rfl (fds ▸ List.Sublist.refl _)

theorem Sound.prepare (sound : session.Sound) :
    ({ session with server := session.server.prepare } : Session).Sound :=
  have inner : ¬ Registry.Operation.flushAll.IsRegistration := id
  sound.of_same rfl (Registry.fds_perform sound.distinct inner)

theorem Sound.write (sound : session.Sound) (name : String) (bytes : Bytes) :
    (session.write name bytes).Sound := by
  unfold Session.write
  split
  · split
    · exact sound
    · refine sound.modifyPeer _ (fun peer => ?_)
      unfold Peer.write
      split <;> rfl
  · exact sound

theorem Sound.close (sound : session.Sound) (name : String) : (session.close name).Sound := by
  unfold Session.close
  split
  · refine Sound.modifySocket (sound.modifyPeer _ ?_) _ _
    exact fun _ => rfl
  · exact sound

theorem Sound.receive (sound : session.Sound) (peer : Peer) : (session.receive peer).Sound := by
  unfold Session.receive
  split
  · split
    · exact sound
    · refine Sound.modifySocket (sound.modifyPeer _ ?_) _ _
      exact fun _ => rfl
  · exact sound

theorem Sound.receiveAll (sound : session.Sound) : session.receiveAll.Sound := by
  unfold Session.receiveAll
  generalize session.peers = peers
  induction peers generalizing session with
  | nil => exact sound
  | cons peer peers ih =>
    refine ih ?_
    show (if _ then session else session.receive peer).Sound
    split
    · exact sound
    · exact sound.receive peer

theorem Sound.rounds (sound : session.Sound) (fuel : Nat) : (Session.rounds fuel session).Sound := by
  fun_induction Session.rounds fuel session with
  | case1 => exact sound
  | case2 fuel session busy received ih =>
    exact ih (turns_run sound session.workload publishedPerRound).1.receiveAll.prepare
  | case3 => exact sound

theorem Sound.settle (sound : session.Sound) : session.settle.Sound := by
  have ready := sound.prepare
  unfold Session.settle
  simp only
  generalize ({ session with server := session.server.prepare } : Session) = start at ready ⊢
  generalize start.workload + 1 = fuel
  fun_induction settleWithin fuel start with
  | case1 => exact ready
  | case2 fuel start busy ih => exact ih (ready.rounds (start.backlog + 1))
  | case3 => exact ready

theorem Sound.clearNews (sound : session.Sound) : session.clearNews.Sound := by
  refine sound.of_same ?_ (List.Sublist.refl _)
  rw [Session.clearNews, List.map_map]
  rfl

theorem Sound.exchange (sound : session.Sound) (name : String) (bytes : Bytes) :
    (session.exchange name bytes).1.Sound :=
  ((((sound.connect name 0).write name bytes).settle.close name).settle).clearNews

end Session

end TileServer

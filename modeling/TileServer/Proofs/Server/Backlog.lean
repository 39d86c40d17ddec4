import TileServer.Proofs.Server.Flushing
import TileServer.Proofs.Server.Identity
import TileServer.Proofs.Server.Turns

namespace TileServer

/-- A socket that nothing was written to yet, and that fails for good once it fails. -/
structure Socket.IsFresh (socket : Socket) : Prop where
  good : socket.FailsForGood
  untried : socket.latest = none

namespace Client

/-- A client whose socket fails for good, and has not failed unless there is output left. -/
structure Honest (client : Client) : Prop where
  good : client.socket.FailsForGood
  left : client.socket.HasFailed → client.outbound.size ≠ 0

/-- A client that has too much output only if its socket has failed. -/
structure Sound (limit : Nat) (client : Client) : Prop extends client.Honest where
  bounded : client.pendingOutput ≤ limit ∨ client.socket.HasFailed

variable {client after : Client} {limit : Nat}

theorem Sound.of_same (sound : client.Sound limit) (socket : after.socket = client.socket)
    (outbound : after.outbound = client.outbound) : after.Sound limit := by
  obtain ⟨⟨good, left⟩, bounded⟩ := sound
  rw [pendingOutput, ← outbound] at bounded
  rw [← socket] at good left bounded
  rw [← outbound] at left
  exact ⟨⟨good, left⟩, bounded⟩

theorem Honest.fails (honest : client.Honest) (failed : client.socket.HasFailed) :
    client.flush.2 ≠ none :=
  honest.good.fails failed (honest.left failed)

theorem Honest.flush (honest : client.Honest) : client.flush.1.Honest := by
  have ends := client.socket.ends_flush client.outbound
  refine ⟨honest.good.flush client.outbound, fun failed => ?_⟩
  by_cases fine : client.flush.2 = none
  · exact absurd fine (honest.fails (ends.sound fine failed))
  · exact (ends.failed fine).2

theorem hasFailed_flush (error : client.flush.2 ≠ none) : client.flush.1.socket.HasFailed :=
  ((client.socket.ends_flush client.outbound).failed error).1

theorem Sound.flush (sound : client.Sound limit) : client.flush.1.Sound limit := by
  refine ⟨sound.toHonest.flush, ?_⟩
  rcases sound.bounded with few | failed
  · exact Or.inl ((client.socket.size_flushWith client.outbound client.socket.answers).trans few)
  · exact Or.inr (hasFailed_flush (sound.fails failed))

theorem Sound.settled (sound : client.Sound limit) (fine : client.flush.2 = none) :
    client.flush.1.pendingOutput ≤ limit ∧ ¬ client.flush.1.socket.HasFailed := by
  have calm : ¬ client.socket.HasFailed := fun failed => sound.fails failed fine
  refine ⟨?_, fun failed => ?_⟩
  · have few := sound.bounded.resolve_right calm
    exact (client.socket.size_flushWith client.outbound client.socket.answers).trans few
  · exact calm ((client.socket.ends_flush client.outbound).sound fine failed)

theorem Honest.append (honest : client.Honest) (message : Wire.Message) :
    (client.append message).Honest := by
  refine ⟨honest.good, fun failed => ?_⟩
  have left := honest.left failed
  have more : (client.append message).outbound.size =
      client.outbound.size + (Wire.frame message).length := rfl
  omega

theorem Sound.queue (sound : client.Sound limit) {message : Wire.Message}
    (fits : ¬ client.Overflows limit message) : (client.queue message limit).1.Sound limit := by
  have honest := (sound.toHonest.append message).flush
  unfold Overflows at fits
  unfold Client.queue at fits ⊢
  split
  · exact sound
  · rename_i framed
    simp only [framed] at fits
    split
    · rename_i flushed
      obtain rfl := congrArg Prod.fst flushed
      have error := congrArg Prod.snd flushed
      exact ⟨honest, Or.inr (hasFailed_flush (error ▸ Option.some_ne_none _))⟩
    · rename_i after flushed
      obtain rfl := congrArg Prod.fst flushed
      rw [flushed] at fits
      split
      · rename_i much
        refine absurd ⟨(client.append message).flush.1.pendingOutput, limit, ?_⟩ fits
        simp only [if_pos much]
      · rename_i few
        exact ⟨honest, Or.inl (Nat.le_of_not_lt few)⟩

theorem Writes.sound (writes : client.Writes limit False after) (sound : client.Sound limit) :
    after.Sound limit := by
  cases writes with
  | idle socket outbound => exact sound.of_same socket outbound
  | flush socket outbound => exact sound.flush.of_same socket outbound
  | queue message fits socket outbound => exact (sound.queue fits).of_same socket outbound

theorem queue_of_takesAll (all : client.socket.TakesAll) {message : Wire.Message}
    (framed : message.payload.length ≤ Wire.maxLength) : (client.queue message limit).2 = none := by
  obtain ⟨_, empty, fine⟩ := all.flush (client.append message).outbound
  have few : ¬ limit < (client.append message).flush.1.pendingOutput :=
    (empty.trans_le (Nat.zero_le limit)).not_gt
  have flushed : (client.append message).flush = ((client.append message).flush.1, none) :=
    Prod.ext rfl fine
  unfold Client.queue Wire.encode
  rw [if_neg (Nat.not_lt.2 framed), flushed]
  simp only [if_neg few]

theorem not_overflows_of_takesAll (all : client.socket.TakesAll) (message : Wire.Message) :
    ¬ client.Overflows limit message :=
  fun overflows => not_chokes_of_takesAll all overflows.chokes

end Client

namespace Registry

variable {registry : Registry} {operation : Operation} {limit serial fd : Nat}

structure Bounded (limit : Nat) (registry : Registry) : Prop where
  distinct : registry.Distinct
  bound : registry.maxBacklog = limit
  sound : ∀ client ∈ registry.clients, client.Sound limit

theorem send_snd {client : Client} (found : registry.find? fd = some client)
    (message : Wire.Message) :
    (registry.send fd message).2 = (client.queue message registry.maxBacklog).2 := by
  unfold send
  rw [found]
  simp only
  split <;> rfl

theorem Bounded.of_writes {after : Registry} (bounded : registry.Bounded limit)
    (writes : registry.Writes False after) (distinct : after.Distinct)
    (alike : registry.Alike after) : after.Bounded limit := by
  refine ⟨distinct, alike.maxBacklog.trans bounded.bound, fun client member => ?_⟩
  obtain ⟨earlier, before, _, writes⟩ := writes client member
  rw [bounded.bound] at writes
  exact writes.sound (bounded.sound earlier before)

theorem Bounded.perform (bounded : registry.Bounded limit) (plain : operation.IsPlain) :
    (registry.perform operation).Bounded limit := by
  have inner : ¬ operation.IsRegistration := by
    cases operation with
    | register => exact plain.elim
    | _ => exact id
  have unsent : operation.IsSend = False := by
    cases operation with
    | send => exact plain.elim
    | _ => rfl
  have writes := bounded.distinct.writes inner
  rw [unsent] at writes
  obtain ⟨change, alters⟩ := bounded.distinct.alters inner
  exact bounded.of_writes writes (bounded.distinct.perform inner) alters.alike

theorem Bounded.register (bounded : registry.Bounded limit) {socket : Socket}
    (unused : registry.contains fd = false) (fresh : socket.IsFresh) :
    (registry.register fd socket).Bounded limit := by
  refine ⟨bounded.distinct.register socket unused, bounded.bound, fun client member => ?_⟩
  rcases List.mem_append.1 member with before | new
  · exact bounded.sound client before
  · rw [List.mem_singleton.1 new]
    have calm : ¬ socket.HasFailed := by
      rintro ⟨answer, given, _⟩
      rw [fresh.untried] at given
      cases given
    exact ⟨⟨fresh.good, fun failed => absurd failed calm⟩, Or.inl (Nat.zero_le limit)⟩

theorem Bounded.reply {server : Server} (bounded : server.registry.Bounded limit) (fd : Nat)
    (reply : Wire.Message) : (server.sendReply fd reply).registry.Bounded limit := by
  have inner : ¬ (Operation.send fd reply).IsRegistration := id
  have distinct := bounded.distinct.perform inner
  obtain ⟨change, alters⟩ := bounded.distinct.alters inner
  have fine (calm : ∀ queued bound, (server.registry.send fd reply).2 ≠ some (.backlog queued bound)) :
      (server.registry.send fd reply).1.Bounded limit := by
    refine bounded.of_writes (bounded.distinct.writes_send fd reply ?_) distinct alters.alike
    rintro client found ⟨queued, bound, error⟩
    exact calm queued bound ((send_snd found reply).trans error)
  unfold Server.sendReply
  split <;> rename_i result <;> rw [result] at fine
  · exact fine (by simp)
  · exact fine (by simp)
  · rename_i registry error _
    rw [Registry.perform, result] at distinct alters
    have deals : (Operation.send fd reply).fd? = some fd := rfl
    have others := bounded.distinct.others_perform deals
    rw [Registry.perform, result] at others
    refine ⟨distinct.drop .unanswerable fd, ?_, fun client member => ?_⟩
    · exact (registry.alike_drop .unanswerable fd).maxBacklog.trans
        (alters.alike.maxBacklog.trans bounded.bound)
    · rw [distinct.clients_drop] at member
      have kept : client ∈ server.registry.others fd := others ▸ member
      exact bounded.sound client (List.mem_filter.1 kept).1

theorem lasts_bounded (limit : Nat) : Lasts Socket.IsFresh (Bounded limit) where
  perform := fun _ _ bounded plain => bounded.perform plain
  register := fun _ _ _ bounded unused fresh => bounded.register unused fresh
  reply := fun _ fd reply bounded => bounded.reply fd reply

theorem Bounded.flushAll (bounded : registry.Bounded limit) :
    ∀ client ∈ registry.flushAll.clients,
      client.pendingOutput ≤ limit ∧ ¬ client.socket.HasFailed := by
  intro client member
  rw [bounded.distinct.clients_flushAll] at member
  obtain ⟨earlier, before, flushed⟩ := List.mem_filterMap.1 member
  unfold Client.flushed? at flushed
  split at flushed
  · cases flushed
  · rename_i fine
    cases flushed
    exact (bounded.sound earlier before).settled (by simpa using fine)

/-- Whether an operation reports that the client with a serial number has too much output. -/
def Reports (registry : Registry) (serial : Nat) : Operation → Prop
  | .send fd message => ∃ client queued bound, registry.find? fd = some client ∧
    client.serial = serial ∧ (registry.send fd message).2 = some (.backlog queued bound)
  | .broadcast event => ∃ client ∈ registry.clients, client.serial = serial ∧
    (deliver registry.maxBacklog event client).2 = .overflowed
  | _ => False

theorem Reports.overflows (reports : registry.Reports serial operation) :
    ∃ client ∈ registry.clients, client.serial = serial ∧
      ∃ message ∈ operation.offers client, client.Overflows registry.maxBacklog message := by
  cases operation with
  | send fd message =>
    obtain ⟨client, queued, bound, found, same, error⟩ := reports
    obtain ⟨member, _, own⟩ := find?_standing found
    refine ⟨client, member, same, message, ?_, queued, bound, ?_⟩
    · rw [Operation.offers, if_pos own]
      exact List.mem_singleton_self message
    · rw [← error, send_snd found]
  | broadcast event =>
    obtain ⟨client, member, same, overflowed⟩ := reports
    obtain ⟨subscribed, overflows⟩ := Client.overflowed_iff.1 overflowed
    refine ⟨client, member, same, event.message, ?_, overflows⟩
    rw [Operation.offers, if_pos subscribed]
    exact List.mem_singleton_self event.message
  | _ => exact reports.elim

structure Yields (serial : Nat) (registry : Registry) : Prop where
  orderly : registry.Orderly
  known : serial < registry.accepted
  takes : ∀ client ∈ registry.clients, client.serial = serial → client.socket.TakesAll

theorem Yields.not_reports (yields : registry.Yields serial) (operation : Operation) :
    ¬ registry.Reports serial operation := by
  intro reports
  obtain ⟨client, member, same, message, _, overflows⟩ := reports.overflows
  exact Client.not_overflows_of_takesAll (yields.takes client member same) message overflows

theorem Yields.perform (yields : registry.Yields serial) (inner : ¬ operation.IsRegistration) :
    (registry.perform operation).Yields serial := by
  have distinct : registry.Distinct := yields.orderly.distinct
  obtain ⟨change, alters⟩ := distinct.alters inner
  refine ⟨yields.orderly.perform inner, ?_, fun client member same => ?_⟩
  · rw [alters.alike.accepted]
    exact yields.known
  · obtain ⟨earlier, before, identity, writes⟩ := distinct.writes inner client member
    have known := congrArg Prod.fst identity
    exact writes.takesAll (yields.takes earlier before (known.symm.trans same))

theorem Yields.register (yields : registry.Yields serial) (socket : Socket)
    (unused : registry.contains fd = false) : (registry.register fd socket).Yields serial := by
  refine ⟨yields.orderly.register socket unused, Nat.lt_succ_of_lt yields.known, ?_⟩
  intro client member same
  rcases List.mem_append.1 member with before | new
  · exact yields.takes client before same
  · rw [List.mem_singleton.1 new] at same
    exact absurd same yields.known.ne'

theorem Orderly.yields {client : Client} (orderly : registry.Orderly)
    (member : client ∈ registry.clients) (all : client.socket.TakesAll) :
    registry.Yields client.serial := by
  have serials : (registry.clients.map Client.serial).Nodup := orderly.ascending.imp Nat.ne_of_lt
  refine ⟨orderly, orderly.known client member, fun other there same => ?_⟩
  rw [List.inj_on_of_nodup_map serials there member same]
  exact all

/-- The operations of some turns and the writing between them, none of which reports too much output of
the client with a serial number. -/
def Calm (turns : List Turn) (serial : Nat) (registry : Registry) (operation : Operation) : Prop :=
  (operation = .flushAll ∨ ∃ turn ∈ turns, turn.Does registry operation) ∧
    ¬ registry.Reports serial operation

theorem Yields.reaches {after : Registry} {turns : List Turn} {turn : Turn}
    (yields : registry.Yields serial) (among : turn ∈ turns)
    (reaches : registry.Reaches turn.Does after) :
    after.Yields serial ∧ registry.Reaches (Calm turns serial) after := by
  induction reaches with
  | refl => exact ⟨yields, .refl⟩
  | @step middle _ operation does ih =>
    obtain ⟨still, calm⟩ := ih
    refine ⟨?_, calm.step ⟨Or.inr ⟨turn, among, does⟩, still.not_reports operation⟩⟩
    cases operation with
    | register fd socket => exact still.register socket does.1
    | _ => exact still.perform id

end Registry

namespace Server

open Registry

variable {server : Server} {client : Client} {serial : Nat}

theorem turns_calm {turns coming : List Turn} (yields : server.registry.Yields serial)
    (among : ∀ turn ∈ coming, turn ∈ turns) (admitted : server.AdmitsAll coming) :
    server.registry.Reaches (Calm turns serial)
      (coming.foldl (fun server turn => (server.turn turn).prepare) server).registry := by
  induction coming generalizing server with
  | nil => exact .refl
  | cons turn coming ih =>
    obtain ⟨first, others⟩ := List.forall_mem_cons.1 among
    obtain ⟨admitted, later⟩ := admitted
    obtain ⟨turned, calm⟩ := yields.reaches first (turn_reaches admitted)
    have flushed : (server.turn turn).registry.Reaches (Calm turns serial)
        (server.turn turn).prepare.registry :=
      reaches_perform .flushAll ⟨Or.inl rfl, turned.not_reports .flushAll⟩
    have inner : ¬ Operation.flushAll.IsRegistration := id
    exact (calm.trans flushed).trans (ih (turned.perform inner) others later)

theorem admitsAll_append {front back : List Turn} : server.AdmitsAll (front ++ back) ↔
    server.AdmitsAll front ∧
      (front.foldl (fun server turn => (server.turn turn).prepare) server).AdmitsAll back := by
  induction front generalizing server with
  | nil => simp [AdmitsAll]
  | cons turn front ih => simp only [List.cons_append, AdmitsAll, ih, List.foldl_cons, and_assoc]

/-- A client that no event makes the server drop, and no reply that can be framed. -/
structure Spares (server : Server) (client : Client) : Prop where
  events : ∀ event, client.identity ∈ (server.registry.broadcast event).1.identities
  replies : ∀ reply : Wire.Message, reply.payload.length ≤ Wire.maxLength →
    client.identity ∈ (server.sendReply client.fd reply).registry.identities

theorem spares_of_takesAll (distinct : server.registry.Distinct)
    (member : client ∈ server.registry.clients) (all : client.socket.TakesAll) :
    server.Spares client where
  events := by
    intro event
    have calm : ¬ (deliver server.registry.maxBacklog event client).2 = .overflowed :=
      fun overflowed => Client.not_overflows_of_takesAll all _ (Client.overflowed_iff.1 overflowed).2
    have hears : client.hear server.registry.maxBacklog event =
        some (deliver server.registry.maxBacklog event client).1 := if_neg calm
    rw [identities, distinct.clients_broadcast, ← Client.identity_of_unsent (Client.unsent_hear hears)]
    exact List.mem_map_of_mem (List.mem_filterMap.2 ⟨client, member, hears⟩)
  replies := by
    intro reply framed
    have found : server.registry.find? client.fd = some client := by
      cases found : server.registry.find? client.fd with
      | none => exact absurd (beq_iff_eq.2 rfl) (List.find?_eq_none.1 found client member)
      | some other => rw [distinct.eq_of_find? found member rfl]
    have fine := (send_snd found reply).trans (Client.queue_of_takesAll all framed)
    have kept := congrArg Client.identity (client.queue_eq reply server.registry.maxBacklog)
    have sent : (client.queue reply server.registry.maxBacklog).1 ∈
        (server.registry.send client.fd reply).1.clients := by
      unfold Registry.send
      rw [found]
      simp only
      split <;> exact List.mem_map.2 ⟨client, member, if_pos rfl⟩
    unfold sendReply
    split <;> rename_i result <;> rw [result] at fine sent
    · exact List.mem_map.2 ⟨_, sent, kept⟩
    · cases fine
    · cases fine

/-- Whenever the loop waits, each client's unwritten output is within the limit, and no client is
registered whose socket has failed, if sockets that fail do so for good. Too much output is reported of
a client only if all of it was offered to the client's socket until that would block; so a client whose
socket takes all is never dropped for it. -/
theorem backlog_bounded (layout : Layout) (maxMessage maxBacklog : Nat) (socketPath : Option String)
    (turns : List Turn)
    (admitted : (start layout maxMessage maxBacklog socketPath).prepare.AdmitsAll turns) :
    ((∀ turn ∈ turns, turn.wake.Brings Socket.IsFresh) →
      ∀ client ∈ ((start layout maxMessage maxBacklog socketPath).run turns).registry.clients,
        client.pendingOutput ≤ maxBacklog ∧ ¬ client.socket.HasFailed) ∧
    (∀ (registry : Registry) (serial : Nat) (operation : Operation),
      registry.Reports serial operation →
        ∃ client ∈ registry.clients, client.serial = serial ∧
          ∃ message ∈ operation.offers client, client.Chokes registry.maxBacklog message) ∧
    ∀ front back, turns = front ++ back →
      ∀ client ∈ ((start layout maxMessage maxBacklog socketPath).run front).registry.clients,
        client.socket.TakesAll →
          ((start layout maxMessage maxBacklog socketPath).run front).Spares client ∧
          ((start layout maxMessage maxBacklog socketPath).run front).registry.Reaches
            (Calm back client.serial)
            ((start layout maxMessage maxBacklog socketPath).run turns).registry := by
  refine ⟨fun brings => ?_, fun registry serial operation reports => ?_, ?_⟩
  · have empty : (start layout maxMessage maxBacklog socketPath).registry.Bounded maxBacklog :=
      ⟨List.nodup_nil, rfl, by simp [start, Registry.new]⟩
    obtain ⟨before, bounded, same⟩ := (lasts_bounded maxBacklog).run empty admitted brings
    rw [same]
    exact bounded.flushAll
  · obtain ⟨client, member, same, message, offered, overflows⟩ := reports.overflows
    exact ⟨client, member, same, message, offered, overflows.chokes⟩
  · rintro front back rfl client member all
    obtain ⟨first, later⟩ := admitsAll_append.1 admitted
    have fresh : (start layout maxMessage maxBacklog socketPath).registry.Orderly :=
      orderly_new maxMessage maxBacklog
    have orderly := orderly_run (orderly_prepare fresh) first
    have yields := orderly.yields member all
    refine ⟨spares_of_takesAll orderly.distinct member all, ?_⟩
    unfold run
    rw [List.foldl_append]
    exact turns_calm yields (fun _ => id) later

def crowd : List Turn :=
  [⟨[], .accepted [(7, {}), (8, { answers := [.takes 99], outlet := .broken .brokenPipe })]⟩,
    ⟨[], .client 8 (.ready false (some (.bytes (Wire.frame ⟨2, (stringsJson ["mode"]).bytes⟩))))⟩,
    ⟨[.publish ⟨"mode", 0x80000002, [1, 2, 3]⟩], .device⟩]

theorem backlog_bounded_of_crowd :
    (start bare 64 16 none).prepare.AdmitsAll crowd ∧
      (∀ turn ∈ crowd, turn.wake.Brings Socket.IsFresh) ∧
      (∀ client ∈ ((start bare 64 16 none).run crowd).registry.clients,
        client.pendingOutput ≤ 16 ∧ ¬ client.socket.HasFailed) ∧
      ∀ client ∈ ((start bare 64 16 none).run (crowd.take 1)).registry.clients,
        client.socket.TakesAll → ((start bare 64 16 none).run (crowd.take 1)).Spares client :=
  have admitted : (start bare 64 16 none).prepare.AdmitsAll crowd :=
    ⟨⟨rfl, rfl, True.intro⟩, True.intro, True.intro, True.intro⟩
  have brings : ∀ turn ∈ crowd, turn.wake.Brings Socket.IsFresh := by
    have first : Socket.IsFresh {} := ⟨⟨.nil, by simp [Socket.course]⟩, rfl⟩
    have second : Socket.IsFresh { answers := [.takes 99], outlet := .broken .brokenPipe } :=
      ⟨⟨List.pairwise_singleton _ _, fun _ _ _ => ⟨_, rfl⟩⟩, rfl⟩
    refine List.forall_mem_cons.2 ⟨?_, by simp [Wake.Brings]⟩
    exact List.forall_mem_cons.2 ⟨first, List.forall_mem_cons.2 ⟨second, by simp⟩⟩
  have bounded := backlog_bounded bare 64 16 none crowd admitted
  ⟨admitted, brings, bounded.1 brings, fun client member all =>
    (bounded.2.2 (crowd.take 1) (crowd.drop 1) (List.take_append_drop 1 crowd).symm client member
      all).1⟩

example : ((start bare 64 16 none).run crowd).registry.journal.head? = some (.dropped 1 .writeFailed) := by
  decide +kernel

end Server

end TileServer

import TileServer.Proofs.Server.Entries

namespace TileServer

def WriteAnswer.IsFailure : WriteAnswer → Prop
  | .takesNothing | .fails _ => True
  | _ => False

theorem WriteAnswer.isFailure_takesNothing : IsFailure .takesNothing :=
  True.intro

theorem WriteAnswer.isFailure_fails (error : OsError) : IsFailure (.fails error) :=
  True.intro

@[simp] theorem Wire.ByteQueue.size_drop (queue : ByteQueue) (count : Nat) :
    (queue.drop count).size = queue.size - count := by
  rw [← length_bytes, bytes_drop, List.length_drop, length_bytes]

theorem Wire.ByteQueue.isEmpty_iff {queue : ByteQueue} : queue.isEmpty = true ↔ queue.size = 0 :=
  beq_iff_eq

namespace Socket

def course (socket : Socket) : List WriteAnswer :=
  socket.latest.toList ++ socket.answers

def HasFailed (socket : Socket) : Prop :=
  ∃ answer ∈ socket.latest, answer.IsFailure

/-- A socket at which every attempt to write fails after one that failed. -/
structure FailsForGood (socket : Socket) : Prop where
  answers : socket.course.Pairwise (fun earlier later => earlier.IsFailure → later.IsFailure)
  outlet : ∀ answer ∈ socket.course, answer.IsFailure → ∃ error, socket.outlet = .broken error

/-- A socket that takes whatever it is offered, if not at once. -/
structure TakesAll (socket : Socket) : Prop where
  answers : ∀ answer ∈ socket.answers, answer = .interrupted ∨ ∃ more, answer = .takes more
  outlet : socket.outlet = .unlimited

variable {socket before after : Socket} {outbound : Wire.ByteQueue} {answers : List WriteAnswer}

@[simp] theorem hasFailed_say (socket : Socket) (answer : WriteAnswer) :
    (socket.say answer).HasFailed ↔ answer.IsFailure := by
  simp [HasFailed, say]

theorem not_hasFailed_take (socket : Socket) (outbound : Wire.ByteQueue) (count : Nat) :
    ¬ (socket.take outbound count).HasFailed := by
  simp [take, WriteAnswer.IsFailure]

structure Ends (before : Socket) (done : Flush) : Prop where
  failed : done.error ≠ none → done.socket.HasFailed ∧ done.outbound.size ≠ 0
  written : done.error = none → done.outbound.size = 0 ∨ done.socket.latest = some .wouldBlock
  sound : done.error = none → done.socket.HasFailed → before.HasFailed

theorem Ends.of_calm {done : Flush} (ends : before.Ends done) (calm : ¬ before.HasFailed) :
    after.Ends done :=
  ⟨ends.failed, ends.written, fun fine failed => absurd (ends.sound fine failed) calm⟩

theorem ends_blocked (before socket : Socket) (outbound : Wire.ByteQueue) :
    before.Ends ⟨socket.say .wouldBlock, outbound, none⟩ where
  failed := fun error => absurd rfl error
  written := fun _ => Or.inr rfl
  sound := fun _ failed => ((hasFailed_say socket .wouldBlock).1 failed).elim

theorem ends_failed (before socket : Socket) {answer : WriteAnswer} (failure : answer.IsFailure)
    (error : OsError) (more : outbound.size ≠ 0) :
    before.Ends ⟨socket.say answer, outbound, some error⟩ where
  failed := fun _ => ⟨(hasFailed_say socket answer).2 failure, more⟩
  written := fun fine => by cases fine
  sound := fun fine => by cases fine

theorem ends_empty (sound : socket.HasFailed → before.HasFailed) (empty : outbound.size = 0) :
    before.Ends ⟨socket, outbound, .none⟩ where
  failed := fun error => absurd rfl error
  written := fun _ => Or.inl empty
  sound := fun _ => sound

theorem ends_flushOutlet (socket : Socket) (outbound : Wire.ByteQueue) :
    socket.Ends (socket.flushOutlet outbound) := by
  unfold flushOutlet
  split
  · rename_i none
    exact ends_empty id (Wire.ByteQueue.isEmpty_iff.1 none)
  · rename_i more
    rw [Wire.ByteQueue.isEmpty_iff] at more
    split
    · exact ends_empty (fun failed => absurd failed (not_hasFailed_take _ _ _)) rfl
    · exact ends_blocked _ _ _
    · exact ends_failed _ _ (WriteAnswer.isFailure_fails _) _ more
    · simp only
      split
      · exact ends_blocked _ _ _
      · split
        · exact ends_blocked _ _ _
        · rename_i all
          refine ends_empty (fun failed => absurd failed (not_hasFailed_take socket outbound _)) ?_
          rw [Wire.ByteQueue.size_drop]
          omega

theorem ends_flushWith (socket : Socket) (outbound : Wire.ByteQueue) (answers : List WriteAnswer) :
    socket.Ends (socket.flushWith outbound answers) := by
  induction answers generalizing socket outbound with
  | nil =>
    have ends := ends_flushOutlet { socket with answers := [] } outbound
    exact ⟨ends.failed, ends.written, ends.sound⟩
  | cons answer answers ih =>
    unfold flushWith
    split
    · rename_i none
      exact ends_empty id (Wire.ByteQueue.isEmpty_iff.1 none)
    · rename_i more
      rw [Wire.ByteQueue.isEmpty_iff] at more
      cases answer with
      | takes count => exact (ih _ _).of_calm (not_hasFailed_take _ _ _)
      | interrupted => exact (ih _ _).of_calm (fun failed => (hasFailed_say socket _).1 failed)
      | wouldBlock => exact ends_blocked _ _ _
      | takesNothing => exact ends_failed _ _ WriteAnswer.isFailure_takesNothing _ more
      | fails error => exact ends_failed _ _ (WriteAnswer.isFailure_fails error) _ more

theorem ends_flush (socket : Socket) (outbound : Wire.ByteQueue) :
    socket.Ends (socket.flush outbound) :=
  socket.ends_flushWith outbound socket.answers

theorem size_flushOutlet (socket : Socket) (outbound : Wire.ByteQueue) :
    (socket.flushOutlet outbound).outbound.size ≤ outbound.size := by
  unfold flushOutlet
  split
  · exact Nat.le_refl _
  · split
    · exact Nat.zero_le _
    · exact Nat.le_refl _
    · exact Nat.le_refl _
    · simp only
      split
      · exact Nat.le_refl _
      · exact (Wire.ByteQueue.size_drop outbound _).trans_le (Nat.sub_le _ _)

theorem size_flushWith (socket : Socket) (outbound : Wire.ByteQueue) (answers : List WriteAnswer) :
    (socket.flushWith outbound answers).outbound.size ≤ outbound.size := by
  induction answers generalizing socket outbound with
  | nil => exact size_flushOutlet _ outbound
  | cons answer answers ih =>
    unfold flushWith
    split
    · exact Nat.le_refl _
    · cases answer with
      | takes more =>
        have fewer := ih (socket.take outbound (more + 1)) (outbound.drop (more + 1))
        rw [Wire.ByteQueue.size_drop] at fewer
        exact fewer.trans (Nat.sub_le _ _)
      | interrupted => exact ih _ outbound
      | wouldBlock | takesNothing | fails => exact Nat.le_refl _

theorem FailsForGood.of_sublist (good : before.FailsForGood)
    (less : after.course.Sublist before.course) (outlet : after.outlet = before.outlet) :
    after.FailsForGood := by
  refine ⟨good.answers.sublist less, fun answer member failure => ?_⟩
  rw [outlet]
  exact good.outlet answer (less.subset member) failure

theorem failsForGood_of_last (unscripted : socket.answers = [])
    (broken : socket.HasFailed → ∃ error, socket.outlet = .broken error) : socket.FailsForGood := by
  have course : socket.course = socket.latest.toList := by rw [Socket.course, unscripted, List.append_nil]
  refine ⟨?_, fun answer member failure => broken ⟨answer, ?_, failure⟩⟩
  · rw [course]
    cases socket.latest with
    | none => exact List.Pairwise.nil
    | some answer => exact List.pairwise_singleton _ answer
  · rw [course] at member
    exact Option.mem_toList.1 member

theorem FailsForGood.flushOutlet (good : socket.FailsForGood) (unscripted : socket.answers = [])
    (outbound : Wire.ByteQueue) : (socket.flushOutlet outbound).socket.FailsForGood := by
  unfold Socket.flushOutlet
  split
  · exact good
  · split
    · exact failsForGood_of_last unscripted (fun failed => absurd failed (not_hasFailed_take _ _ _))
    · exact failsForGood_of_last unscripted (fun failed => ((hasFailed_say _ _).1 failed).elim)
    · rename_i error broken
      exact failsForGood_of_last unscripted (fun _ => ⟨error, broken⟩)
    · simp only
      split
      · exact failsForGood_of_last unscripted (fun failed => ((hasFailed_say _ _).1 failed).elim)
      · split
        · exact failsForGood_of_last unscripted (fun failed => ((hasFailed_say _ _).1 failed).elim)
        · exact failsForGood_of_last unscripted
            (fun failed => absurd failed (not_hasFailed_take socket outbound _))

theorem FailsForGood.flushWith (good : FailsForGood { socket with answers })
    (outbound : Wire.ByteQueue) : (socket.flushWith outbound answers).socket.FailsForGood := by
  induction answers generalizing socket outbound with
  | nil => exact good.flushOutlet rfl outbound
  | cons answer answers ih =>
    -- Once an answer is given, it is the latest, and nothing else comes before those that are left.
    have less (latest : Option WriteAnswer) :
        (answer :: answers).Sublist (latest.toList ++ answer :: answers) :=
      List.sublist_append_right _ _
    unfold Socket.flushWith
    split
    · exact good
    · cases answer with
      | takes more =>
        have after : FailsForGood { socket.take outbound (more + 1) with answers } :=
          good.of_sublist (less socket.latest) rfl
        exact ih after _
      | interrupted =>
        have after : FailsForGood { socket.say .interrupted with answers } :=
          good.of_sublist (less socket.latest) rfl
        exact ih after outbound
      | wouldBlock | takesNothing | fails => exact good.of_sublist (less socket.latest) rfl

theorem FailsForGood.flush (good : socket.FailsForGood) (outbound : Wire.ByteQueue) :
    (socket.flush outbound).socket.FailsForGood :=
  FailsForGood.flushWith good outbound

theorem FailsForGood.fails (good : socket.FailsForGood) (failed : socket.HasFailed)
    (more : outbound.size ≠ 0) : (socket.flush outbound).error ≠ none := by
  obtain ⟨latest, member, failure⟩ := failed
  have course : socket.course = latest :: socket.answers := by rw [Socket.course, member]; rfl
  have filled : ¬ outbound.isEmpty = true := fun empty => more (Wire.ByteQueue.isEmpty_iff.1 empty)
  obtain ⟨error, broken⟩ := good.outlet latest (by simp [course]) failure
  have later := good.answers
  rw [course, List.pairwise_cons] at later
  unfold Socket.flush
  cases answers : socket.answers with
  | nil => simp [Socket.flushWith, Socket.flushOutlet, filled, broken]
  | cons answer rest =>
    have next := later.1 answer (by simp [answers]) failure
    unfold Socket.flushWith
    rw [if_neg filled]
    cases answer with
    | takes | interrupted | wouldBlock => exact next.elim
    | takesNothing | fails => simp

theorem TakesAll.flushWith (all : TakesAll { socket with answers }) (outbound : Wire.ByteQueue) :
    (socket.flushWith outbound answers).socket.TakesAll ∧
      (socket.flushWith outbound answers).outbound.size = 0 ∧
      (socket.flushWith outbound answers).error = none := by
  induction answers generalizing socket outbound with
  | nil =>
    obtain ⟨_, outlet, _, _⟩ := socket
    obtain rfl : outlet = .unlimited := all.outlet
    unfold Socket.flushWith flushOutlet
    split
    · rename_i none
      exact ⟨all, Wire.ByteQueue.isEmpty_iff.1 none, rfl⟩
    · exact ⟨⟨all.answers, rfl⟩, rfl, rfl⟩
  | cons answer answers ih =>
    obtain ⟨first, others⟩ := List.forall_mem_cons.1 all.answers
    unfold Socket.flushWith
    split
    · rename_i none
      exact ⟨all, Wire.ByteQueue.isEmpty_iff.1 none, rfl⟩
    · rcases first with rfl | ⟨more, rfl⟩
      · have after : TakesAll { socket.say .interrupted with answers } := ⟨others, all.outlet⟩
        exact ih after outbound
      · have after : TakesAll { socket.take outbound (more + 1) with answers } :=
          ⟨others, all.outlet⟩
        exact ih after _

theorem TakesAll.flush (all : socket.TakesAll) (outbound : Wire.ByteQueue) :
    (socket.flush outbound).socket.TakesAll ∧ (socket.flush outbound).outbound.size = 0 ∧
      (socket.flush outbound).error = none :=
  TakesAll.flushWith all outbound

end Socket

namespace Client

variable {client after : Client} {message : Wire.Message} {limit : Nat} {sent : Prop}

/-- A client that is left with too much output by a message: all that is queued for it, the message
behind the rest, was offered to its socket until that would block. -/
structure Chokes (limit : Nat) (message : Wire.Message) (client : Client) : Prop where
  offered : (client.append message).flush.1.stream = client.stream ++ Wire.frame message
  blocked : (client.append message).flush.1.socket.latest = some .wouldBlock
  fine : (client.append message).flush.2 = none
  left : limit < (client.append message).flush.1.pendingOutput

/-- Whether queueing a message finds that a client is left with too much output. -/
def Overflows (limit : Nat) (message : Wire.Message) (client : Client) : Prop :=
  ∃ queued bound, (client.queue message limit).2 = some (.backlog queued bound)

theorem Overflows.chokes (overflows : client.Overflows limit message) :
    client.Chokes limit message := by
  obtain ⟨queued, bound, error⟩ := overflows
  have offered := (client.append message).stream_flush
  rw [stream_append] at offered
  have ends := (client.append message).socket.ends_flush (client.append message).outbound
  unfold queue at error
  split at error
  · cases error
  · split at error
    · cases error
    · rename_i after flushed
      obtain rfl := congrArg Prod.fst flushed
      have fine := congrArg Prod.snd flushed
      split at error
      · rename_i left
        refine ⟨offered, ?_, fine, left⟩
        exact (ends.written fine).resolve_left (Nat.ne_zero_of_lt left)
      · cases error

theorem not_chokes_of_takesAll (all : client.socket.TakesAll) : ¬ client.Chokes limit message := by
  intro chokes
  have written := (all.flush (client.append message).outbound).2.1
  exact absurd chokes.left (written.trans_le (Nat.zero_le _)).not_gt

inductive Writes (limit : Nat) (sent : Prop) (before after : Client) : Prop
  | idle (socket : after.socket = before.socket) (outbound : after.outbound = before.outbound)
  | flush (socket : after.socket = before.flush.1.socket)
      (outbound : after.outbound = before.flush.1.outbound)
  | queue (message : Wire.Message) (fits : before.Overflows limit message → sent)
      (socket : after.socket = (before.queue message limit).1.socket)
      (outbound : after.outbound = (before.queue message limit).1.outbound)

theorem writes_queue (client : Client) (fits : client.Overflows limit message → sent) :
    client.Writes limit sent (client.queue message limit).1 :=
  .queue message fits rfl rfl

theorem overflowed_iff {event : Event} : (Registry.deliver limit event client).2 = .overflowed ↔
    client.isSubscribed event.name = true ∧ client.Overflows limit event.message := by
  unfold Registry.deliver Overflows
  by_cases subscribed : client.isSubscribed event.name
  · simp only [subscribed, if_true, true_and]
    split <;> rename_i result <;> simp [result]
    rename_i other _ notBacklog _
    rintro queued bound rfl
    exact notBacklog queued bound rfl
  · simp [subscribed]

theorem writes_hear {event : Event} (hears : client.hear limit event = some after) :
    client.Writes limit sent after := by
  unfold hear at hears
  split at hears
  · cases hears
  · rename_i calm
    cases hears
    rw [overflowed_iff] at calm
    unfold Registry.deliver
    split
    · rename_i subscribed
      have fits : client.Overflows limit event.message → sent :=
        fun overflows => absurd ⟨subscribed, overflows⟩ calm
      have queued := client.writes_queue fits
      split <;> rename_i result <;> rw [result] at queued <;> exact queued
    · exact .idle rfl rfl

theorem writes_flushed? (flushed : client.flushed? = some after) : client.Writes limit sent after := by
  unfold flushed? at flushed
  split at flushed
  · cases flushed
  · cases flushed
    exact .flush rfl rfl

theorem Writes.takesAll (writes : client.Writes limit sent after) (all : client.socket.TakesAll) :
    after.socket.TakesAll := by
  cases writes with
  | idle socket => exact socket ▸ all
  | flush socket =>
    rw [socket]
    exact (all.flush client.outbound).1
  | queue message _ socket =>
    rw [socket]
    have flushed := (all.flush (client.append message).outbound).1
    unfold Client.queue
    split
    · exact all
    · split
      · rename_i flush
        obtain rfl := congrArg Prod.fst flush
        exact flushed
      · rename_i flush
        obtain rfl := congrArg Prod.fst flush
        split <;> exact flushed

end Client

namespace Registry

def Operation.IsSend : Operation → Prop
  | send _ _ => True
  | _ => False

variable {registry before after : Registry} {operation : Operation} {fd : Nat} {sent : Prop}

def Writes (sent : Prop) (before after : Registry) : Prop :=
  ∀ client ∈ after.clients, ∃ earlier ∈ before.clients, client.identity = earlier.identity ∧
    earlier.Writes before.maxBacklog sent client

theorem writes_of_subset (subset : after.clients ⊆ before.clients) : before.Writes sent after :=
  fun client member => ⟨client, subset member, rfl, .idle rfl rfl⟩

theorem writes_filterMap {change : Client → Option Client}
    (clients : after.clients = before.clients.filterMap change)
    (kept : ∀ client ∈ before.clients, ∀ changed ∈ change client,
      changed.identity = client.identity ∧ client.Writes before.maxBacklog sent changed) :
    before.Writes sent after := by
  intro client member
  rw [clients] at member
  obtain ⟨earlier, there, changed⟩ := List.mem_filterMap.1 member
  exact ⟨earlier, there, kept earlier there client changed⟩

theorem writes_modify {change : Client → Client}
    (clients : after.clients = (before.modify fd change).clients)
    (kept : ∀ client ∈ before.clients, client.fd = fd →
      (change client).identity = client.identity ∧
        client.Writes before.maxBacklog sent (change client)) :
    before.Writes sent after := by
  intro client member
  rw [clients] at member
  obtain ⟨earlier, there, rfl⟩ := List.mem_map.1 member
  refine ⟨earlier, there, ?_⟩
  split
  · exact kept earlier there ‹_›
  · exact ⟨rfl, .idle rfl rfl⟩

theorem Distinct.writes_modify_found {client changed : Client} (distinct : before.Distinct)
    (found : before.find? fd = some client)
    (clients : after.clients = (before.modify fd (fun _ => changed)).clients)
    (identity : changed.identity = client.identity)
    (writes : client.Writes before.maxBacklog sent changed) : before.Writes sent after := by
  refine writes_modify clients (fun other member same => ?_)
  rw [distinct.eq_of_find? found member same]
  exact ⟨identity, writes⟩

theorem Distinct.writes_send (distinct : registry.Distinct) (fd : Nat) (message : Wire.Message)
    (fits : ∀ client, registry.find? fd = some client →
      client.Overflows registry.maxBacklog message → sent) :
    registry.Writes sent (registry.send fd message).1 := by
  unfold send
  split
  · exact writes_of_subset (List.Subset.refl _)
  · rename_i client found
    have identity := congrArg Client.identity (client.queue_eq message registry.maxBacklog)
    have writes := client.writes_queue (fits client found)
    simp only
    split
    · exact distinct.writes_modify_found found rfl identity writes
    · exact distinct.writes_modify_found found rfl identity writes

theorem writes_next (registry : Registry) (fd : Nat) : registry.Writes sent (registry.next fd).1 := by
  unfold next
  split
  · exact writes_of_subset (List.Subset.refl _)
  · split
    · exact writes_modify rfl (fun _ _ _ => ⟨rfl, .idle rfl rfl⟩)
    · exact writes_of_subset (List.Subset.refl _)
    · exact writes_modify rfl (fun _ _ _ => ⟨rfl, .idle rfl rfl⟩)

theorem Distinct.writes (distinct : registry.Distinct) (inner : ¬ operation.IsRegistration) :
    registry.Writes operation.IsSend (registry.perform operation) := by
  cases operation with
  | register => exact absurd True.intro inner
  | drop cause fd =>
    refine writes_of_subset ?_
    rw [Registry.perform, distinct.clients_drop]
    exact List.filter_subset_self _
  | subscribe fd events =>
    unfold Registry.perform subscribe
    simp only
    split
    · exact writes_of_subset (List.Subset.refl _)
    · refine writes_modify rfl (fun client _ _ => ?_)
      rw [client.subscribe_eq]
      exact ⟨rfl, .idle rfl rfl⟩
  | makeRoom fd => exact writes_modify rfl (fun _ _ _ => ⟨rfl, .idle rfl rfl⟩)
  | receive fd bytes =>
    unfold Registry.perform receive
    simp only
    split
    · exact writes_of_subset (List.Subset.refl _)
    · exact writes_modify rfl (fun _ _ _ => ⟨rfl, .idle rfl rfl⟩)
  | next fd => exact registry.writes_next fd
  | send fd message => exact distinct.writes_send fd message (fun _ _ _ => True.intro)
  | broadcast event =>
    exact writes_filterMap (distinct.clients_broadcast event) (fun client _ changed hears =>
      ⟨Client.identity_of_unsent (Client.unsent_hear hears), Client.writes_hear hears⟩)
  | flush fd =>
    unfold Registry.perform flushClient
    simp only
    split
    · exact writes_of_subset (List.Subset.refl _)
    · rename_i client found
      exact distinct.writes_modify_found found rfl rfl (.flush rfl rfl)
  | flushAll =>
    exact writes_filterMap distinct.clients_flushAll (fun client _ changed flushed =>
      ⟨Client.identity_of_unsent (Client.unsent_flushed? flushed), Client.writes_flushed? flushed⟩)
  | shutdown =>
    refine writes_of_subset ?_
    have left := distinct.clients_dropAll .closed (registry.clients.map Client.fd)
    exact left ▸ List.filter_subset_self _
  | note deed => exact writes_of_subset (List.Subset.refl _)

end Registry

end TileServer

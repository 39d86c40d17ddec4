import TileServer.Proofs.Server.Runs
import TileServer.Proofs.Server.Serving

namespace TileServer

namespace Wire

theorem Agrees.take_eq {buffer : Bytes} (agrees : Agrees buffer) :
    buffer.take magic.length = magic.take buffer.length := by
  rcases agrees with ⟨rest, rfl⟩ | ⟨rest, split⟩
  · rw [List.take_left, List.take_of_length_le (by simp)]
  · rw [← split, List.take_left, List.take_of_length_le (by simp)]

theorem readHeader_of_agrees {maxPayload : Nat} {buffer : Bytes} {header : Header}
    (read : readHeader maxPayload buffer = header) (fine : ∀ error, header ≠ .failed error) :
    Agrees buffer := by
  by_contra differs
  rw [readHeader_of_not_agrees maxPayload differs] at read
  exact fine _ read.symm

theorem length_lt_of_incomplete {maxPayload : Nat} {buffer : Bytes}
    (read : readHeader maxPayload buffer = .incomplete) : buffer.length < headerLength := by
  have agrees := readHeader_of_agrees read (by simp)
  rw [← agrees_iff] at agrees
  by_contra complete
  have long : 8 ≤ (buffer.drop magic.length).length := by
    simp only [headerLength] at complete
    simp only [magic, List.length_drop, List.length_cons, List.length_nil]
    omega
  obtain ⟨_ | ⟨l0, _ | ⟨l1, _ | ⟨l2, _ | ⟨l3, _ | ⟨k0, _ | ⟨k1, _ | ⟨k2, _ | ⟨k3, rest⟩⟩⟩⟩⟩⟩⟩⟩, split⟩ :
      ∃ bytes, buffer.drop magic.length = bytes := ⟨_, rfl⟩
  all_goals rw [split] at long
  all_goals simp at long
  simp only [readHeader, agrees, split, Bool.not_true, Bool.false_eq_true, if_false] at read
  split at read <;> cases read

theorem length_le_of_opens {maxPayload length : Nat} {buffer : Bytes} {kind : UInt32}
    (read : readHeader maxPayload buffer = .opens kind length) : length ≤ maxPayload := by
  unfold readHeader at read
  split at read
  · cases read
  · split at read
    · simp only at read
      split at read
      · cases read
      · rename_i fits
        cases read
        exact Nat.le_of_not_lt fits
    · cases read

theorem begins_of_incomplete {maxPayload : Nat} {buffer : Bytes}
    (incomplete : decode maxPayload buffer = .incomplete) :
    Agrees buffer ∧ buffer.length < headerLength + maxPayload := by
  unfold decode at incomplete
  cases read : readHeader maxPayload buffer with
  | incomplete =>
    have short := length_lt_of_incomplete read
    exact ⟨readHeader_of_agrees read (by simp), by omega⟩
  | failed error =>
    rw [read] at incomplete
    cases incomplete
  | opens kind length =>
    have header := headerLength_le read
    have fits := length_le_of_opens read
    refine ⟨readHeader_of_agrees read (by simp), ?_⟩
    by_contra long
    have enough : length ≤ (buffer.drop headerLength).length := by
      rw [List.length_drop]
      omega
    rw [read] at incomplete
    simp only [splitExactly?_of_le enough] at incomplete
    cases incomplete

end Wire

namespace Registry

variable {registry before after : Registry} {fd : Nat} {commands : Prop} {operation : Operation}

def Unread (before after : Registry) : Prop :=
  ∀ client ∈ after.clients, ∃ earlier ∈ before.clients,
    client.fd = earlier.fd ∧ client.inbound = earlier.inbound

theorem unread_of_subset (subset : after.clients ⊆ before.clients) : before.Unread after :=
  fun client member => ⟨client, subset member, rfl, rfl⟩

theorem Unread.trans {middle : Registry} (one : before.Unread middle) (other : middle.Unread after) :
    before.Unread after := by
  intro client member
  obtain ⟨earlier, there, fd, inbound⟩ := other client member
  obtain ⟨first, start, fd', inbound'⟩ := one earlier there
  exact ⟨first, start, fd.trans fd', inbound.trans inbound'⟩

theorem unread_map {change : Client → Client} (clients : after.clients = before.clients.map change)
    (kept : ∀ client ∈ before.clients, ∃ earlier ∈ before.clients,
      (change client).fd = earlier.fd ∧ (change client).inbound = earlier.inbound) :
    before.Unread after := by
  intro client member
  rw [clients] at member
  obtain ⟨earlier, there, rfl⟩ := List.mem_map.1 member
  exact kept earlier there

theorem unread_modify {change : Client → Client} (clients : after.clients = (before.modify fd change).clients)
    (kept : ∀ client ∈ before.clients, ∃ earlier ∈ before.clients,
      (change client).fd = earlier.fd ∧ (change client).inbound = earlier.inbound) :
    before.Unread after := by
  refine unread_map clients (fun client member => ?_)
  split
  · exact kept client member
  · exact ⟨client, member, rfl, rfl⟩

theorem unread_drop (registry : Registry) (cause : Cause) (fd : Nat) :
    registry.Unread (registry.drop cause fd) := by
  refine unread_of_subset ?_
  unfold drop
  split
  · exact List.Subset.refl _
  · exact List.eraseP_subset

theorem unread_dropAll (registry : Registry) (cause : Cause) (fds : List Nat) :
    registry.Unread (fds.foldl (Registry.drop cause) registry) := by
  induction fds generalizing registry with
  | nil => exact unread_of_subset (List.Subset.refl _)
  | cons fd fds ih => exact (registry.unread_drop cause fd).trans (ih _)

theorem unread_send (registry : Registry) (fd : Nat) (message : Wire.Message) :
    registry.Unread (registry.send fd message).1 := by
  unfold send
  split
  · exact unread_of_subset (List.Subset.refl _)
  · rename_i client found
    have kept := client.queue_eq message registry.maxBacklog
    have place := congrArg Client.fd kept
    have inbound := congrArg Client.inbound kept
    have there := (find?_standing found).1
    simp only
    split <;> exact unread_modify rfl (fun _ _ => ⟨client, there, place, inbound⟩)

theorem unread_broadcast (registry : Registry) (event : Event) :
    registry.Unread (registry.broadcast event).1 := by
  unfold broadcast
  refine Unread.trans (unread_map (List.map_map ..) (fun client member => ?_))
    (unread_dropAll _ .overflowed _)
  have kept := deliver_eq registry.maxBacklog event client
  have place := congrArg Client.fd kept
  have inbound := congrArg Client.inbound kept
  exact ⟨client, member, place, inbound⟩

theorem Operation.Answers.unread (answers : operation.Answers fd commands) (registry : Registry) :
    registry.Unread (registry.perform operation) := by
  obtain ⟨⟨_, serves⟩, quiet⟩ := answers
  cases operation with
  | register | flushAll | shutdown => cases serves
  | receive | next => exact absurd True.intro quiet
  | drop cause fd => exact registry.unread_drop cause fd
  | send fd message => exact registry.unread_send fd message
  | broadcast event => exact registry.unread_broadcast event
  | note deed => exact unread_of_subset (List.Subset.refl _)
  | makeRoom fd => exact unread_modify rfl (fun client member => ⟨client, member, rfl, rfl⟩)
  | subscribe fd events =>
    unfold perform Registry.subscribe
    simp only
    split
    · exact unread_of_subset (List.Subset.refl _)
    · refine unread_modify rfl (fun client member => ⟨client, member, ?_⟩)
      exact (client.standing_subscribe events).2
  | flush fd =>
    unfold perform flushClient
    simp only
    split
    · exact unread_of_subset (List.Subset.refl _)
    · rename_i client found
      exact unread_modify rfl (fun _ _ => ⟨client, (find?_standing found).1, rfl, rfl⟩)

theorem Reaches.unread (reaches : before.Reaches (fun _ => Operation.Answers fd commands) after) :
    before.Unread after := by
  induction reaches with
  | refl => exact unread_of_subset (List.Subset.refl _)
  | step _ answers ih => exact ih.trans (answers.unread _)

theorem inbound_of_next {message : Wire.Message}
    (taken : registry.next fd = (after, .ok (some message))) :
    ∃ client rest, registry.find? fd = some client ∧
      Wire.takeFrame registry.maxMessage client.inbound = .message message rest ∧
      ∀ other ∈ after.clients, other.fd = fd → other.inbound = rest := by
  unfold next at taken
  cases found : registry.find? fd with
  | none => simp [found] at taken
  | some client =>
    cases frame : Wire.takeFrame registry.maxMessage client.inbound with
    | incomplete => simp [found, frame] at taken
    | failed error => simp [found, frame] at taken
    | message first rest =>
      simp only [found, frame, Prod.mk.injEq, Except.ok.injEq, Option.some.injEq] at taken
      obtain ⟨rfl, rfl⟩ := taken
      refine ⟨client, rest, rfl, frame, fun other member own => ?_⟩
      obtain ⟨earlier, _, rfl⟩ := List.mem_map.1 member
      by_cases same : earlier.fd = fd
      · rw [if_pos same]
        rfl
      · rw [if_neg same] at own
        exact absurd own same

end Registry

namespace Server

open Registry

/-- The handling of frame after frame that was read from a client, with the number of attempts to take
one. It ends when none is complete, at what is no frame, and when the client is gone. -/
inductive Drains (fd serial : Nat) : Nat → Server → Server → Prop
  | dry {server : Server} {registry : Registry}
      (taken : server.registry.next fd = (registry, .ok none)) :
      Drains fd serial 1 server { server with registry }
  | malformed {server : Server} {registry : Registry} {error : Wire.FrameError}
      (taken : server.registry.next fd = (registry, .error error)) :
      Drains fd serial 1 server ({ server with registry }.drop .malformed fd)
  | gone {server handled : Server} {registry : Registry} {message : Wire.Message}
      (taken : server.registry.next fd = (registry, .ok (some message)))
      (handles : { server with registry }.handleMessage fd serial message = handled)
      (missing : handled.registry.contains fd = false) : Drains fd serial 1 server handled
  | more {server handled after : Server} {registry : Registry} {message : Wire.Message}
      {attempts : Nat} (taken : server.registry.next fd = (registry, .ok (some message)))
      (handles : { server with registry }.handleMessage fd serial message = handled)
      (registered : handled.registry.contains fd = true)
      (rest : Drains fd serial attempts handled after) :
      Drains fd serial (attempts + 1) server after

theorem drains_handleFrames (server : Server) {fd serial attempts : Nat} (any : 0 < attempts)
    (enough : ∀ client, server.registry.find? fd = some client →
      client.inbound.size / Wire.headerLength < attempts) :
    ∃ used ≤ attempts, Drains fd serial used server (server.handleFrames fd serial attempts) := by
  -- Each attempt takes at least a header off what was read, and handling what it takes adds nothing.
  induction attempts generalizing server with
  | zero => exact absurd any (Nat.lt_irrefl _)
  | succ attempts ih =>
    unfold handleFrames
    split <;> rename_i taken
    · exact ⟨1, Nat.le_add_left _ _, .dry taken⟩
    · exact ⟨1, Nat.le_add_left _ _, .malformed taken⟩
    · rename_i registry message
      obtain ⟨client, rest, found, frame, left⟩ := inbound_of_next taken
      have handled : Becomes (Operation.Answers fd True) True { server with registry }
          ({ server with registry }.handleMessage fd serial message) :=
        handleMessage_becomes _ fd serial (fun _ => True.intro)
      have unread := handled.registry.unread
      have decoded := Wire.map_takeFrame server.registry.maxMessage client.inbound
      rw [frame] at decoded
      have before := enough client found
      rw [← Wire.ByteQueue.length_bytes] at before
      have fewer := Wire.attempts_rest_lt decoded.symm before
      simp only
      split
      · rename_i registered
        obtain ⟨used, few, drains⟩ := ih ({ server with registry }.handleMessage fd serial message)
          (Nat.zero_lt_of_lt fewer) (fun other again => by
            obtain ⟨there, _, own⟩ := find?_standing again
            obtain ⟨earlier, kept, place, inbound⟩ := unread other there
            rw [inbound, left earlier kept (place.symm.trans own), ← Wire.ByteQueue.length_bytes]
            exact fewer)
        exact ⟨used + 1, Nat.succ_le_succ few, .more taken rfl registered drains⟩
      · rename_i missing
        rw [Bool.not_eq_true] at missing
        exact ⟨1, Nat.le_add_left _ _, .gone taken rfl missing⟩

theorem drains_handleInbound (server : Server) {fd : Nat} {client : Client}
    (found : server.registry.find? fd = some client) :
    ∃ used ≤ client.inbound.bytes.length / Wire.headerLength + 1,
      Drains fd client.serial used server (server.handleInbound fd) := by
  rw [handleInbound, found, Wire.ByteQueue.length_bytes]
  refine server.drains_handleFrames (Nat.succ_pos _) ?_
  rintro other again
  obtain rfl : client = other := Option.some.inj (found.symm.trans again)
  exact Nat.lt_succ_self _

/-- Whenever the loop waits, what was read from a client and not handled is the beginning of one frame
at most, which the magic and the bound on payloads allow. And whatever was read, handling it ends after
as many attempts to take a frame as headers fit what was read, and one. -/
theorem inbound_drained (layout : Layout) (maxMessage maxBacklog : Nat)
    (socketPath : Option String) (turns : List Turn)
    (admitted : (start layout maxMessage maxBacklog socketPath).prepare.AdmitsAll turns) :
    (∀ client ∈ ((start layout maxMessage maxBacklog socketPath).run turns).registry.clients,
      Wire.decode maxMessage client.inbound.bytes = .incomplete ∧
        client.inbound.bytes.take Wire.magic.length =
          Wire.magic.take client.inbound.bytes.length ∧
        client.inbound.bytes.length < Wire.headerLength + maxMessage) ∧
    ∀ (server : Server) (fd : Nat) (client : Client), server.registry.find? fd = some client →
      ∃ used ≤ client.inbound.bytes.length / Wire.headerLength + 1,
        Drains fd client.serial used server (server.handleInbound fd) := by
  refine ⟨fun client member => ?_, fun server fd client found => server.drains_handleInbound found⟩
  have resting : ((start layout maxMessage maxBacklog socketPath).run turns).registry.Resting
      maxMessage _ :=
    run_resting (Registry.resting_new maxMessage maxBacklog) admitted
  have incomplete := resting.quiet client.standing (List.mem_map_of_mem member)
  rw [resting.bound] at incomplete
  obtain ⟨agrees, short⟩ := Wire.begins_of_incomplete incomplete
  exact ⟨incomplete, agrees.take_eq, short⟩

def stammer : List Turn :=
  [⟨[], .accepted [(7, {})]⟩,
    ⟨[], .client 7 (.ready false (some (.bytes (Wire.frame ⟨7, []⟩ ++ [0x69, 0x33]))))⟩]

def eager : Client :=
  { serial := 0, fd := 7, socket := {}, inbound := .ofBytes (Wire.frame ⟨7, []⟩) }

def attended : Server := ⟨bare, ⟨[eager], [], 1, [], 64, 4096⟩, none⟩

theorem inbound_drained_of_stammer :
    (start bare 64 4096 none).prepare.AdmitsAll stammer ∧
      (∀ client ∈ ((start bare 64 4096 none).run stammer).registry.clients,
        client.inbound.bytes.length < 78) ∧
      attended.registry.find? 7 = some eager ∧
      ∃ used ≤ 2, Drains 7 0 used attended (attended.handleInbound 7) :=
  have admitted : (start bare 64 4096 none).prepare.AdmitsAll stammer :=
    ⟨⟨rfl, True.intro⟩, True.intro, True.intro⟩
  have drained := inbound_drained bare 64 4096 none stammer admitted
  ⟨admitted, fun client member => (drained.1 client member).2.2, rfl, drained.2 attended 7 eager rfl⟩

example : ((start bare 64 4096 none).run stammer).registry.clients.map
    (fun client => client.inbound.bytes) = [[0x69, 0x33]] := by
  decide

end Server

end TileServer

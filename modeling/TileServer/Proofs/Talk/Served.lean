import TileServer.Connection.Talk
import TileServer.Proofs.Connection.Silence
import TileServer.Proofs.Server.Replies

namespace TileServer

def Happening.IsProper : Happening → Prop
  | .sent event => event.IsNamed
  | .waited devices _ caller =>
    (∀ event ∈ devices, event.IsNamed) ∧ ∀ other ∈ caller, other.wake.IsProper

namespace Running

variable {running : Running}

theorem wait_proper {devices : List DeviceEvent} {signalled : Bool} {caller : Option Caller}
    {turn : Turn} {events : EventQueue}
    (woken : running.wait devices signalled caller = some (turn, events))
    (proper : (Happening.waited devices signalled caller).IsProper)
    (named : ∀ event ∈ running.events.waiting, event.IsNamed) :
    turn.IsProper ∧ ∀ event ∈ events.waiting, event.IsNamed := by
  obtain ⟨device, wakes⟩ := proper
  unfold wait EventQueue.select EventQueue.take? at woken
  cases signalled with
  | true =>
    cases woken
    exact ⟨⟨device, True.intro⟩, named⟩
  | false =>
    cases queued : running.events.waiting with
    | nil =>
      cases caller with
      | none => simp [queued] at woken
      | some caller =>
        simp only [queued, Bool.false_eq_true, if_false, Option.map_some, Option.some.injEq,
          Prod.mk.injEq] at woken
        obtain ⟨rfl, rfl⟩ := woken
        exact ⟨⟨device, wakes caller rfl⟩, named⟩
    | cons event rest =>
      simp only [queued, Bool.false_eq_true, if_false, Option.some.injEq, Prod.mk.injEq] at woken
      obtain ⟨rfl, rfl⟩ := woken
      rw [queued] at named
      obtain ⟨first, others⟩ := List.forall_mem_cons.1 named
      exact ⟨⟨device, first⟩, others⟩

theorem step_reaches {happening : Happening} (admitted : running.Admits happening)
    (proper : happening.IsProper) (named : ∀ event ∈ running.events.waiting, event.IsNamed) :
    running.server.registry.Reaches Registry.Allows (running.step happening).server.registry ∧
      ∀ event ∈ (running.step happening).events.waiting, event.IsNamed := by
  cases happening with
  | sent event =>
    refine ⟨.refl, fun other member => ?_⟩
    unfold Running.step EventQueue.send at member
    simp only at member
    split at member
    · rcases List.mem_append.1 member with before | last
      · exact named other before
      · exact List.mem_singleton.1 last ▸ proper
    · exact named other member
  | waited devices signalled caller =>
    rw [Running.step]
    cases woken : running.wait devices signalled caller with
    | none => exact ⟨.refl, named⟩
    | some taken =>
      obtain ⟨turn, events⟩ := taken
      obtain ⟨turnProper, rest⟩ := wait_proper woken proper named
      have reaches := (Server.turn_reaches (admitted turn events woken)).mono
        (fun _ _ does => does.allows turnProper)
      exact ⟨reaches.trans (Registry.reaches_perform .flushAll ⟨True.intro, True.intro⟩), rest⟩

end Running

theorem Call.isRequest_message? {call : Call} {message : Wire.Message}
    (sends : call.message? = some message) :
    message.IsRequest ∧ message.payload.length ≤ Wire.maxLength := by
  unfold Call.message? at sends
  split at sends
  · rename_i kind payload _
    split at sends
    · rename_i fits
      cases sends
      exact ⟨kind.code_le, fits⟩
    · cases sends
  · cases sends

namespace Talk

def journal (talk : Talk) : List Deed :=
  talk.running.server.registry.journal

def Closed (serial : Nat) (talk : Talk) : Prop :=
  ∃ cause, Deed.dropped serial cause ∈ talk.journal

/-- What can happen when the client is the one that the server gives a serial number. -/
inductive Permits (serial : Nat) (talk : Talk) : Step → Prop
  | served {happening : Happening} (admitted : talk.running.Admits happening)
      (proper : happening.IsProper)
      (read : tell (Deed.bytesOf serial) (talk.running.step happening).server.registry.journal <+:
        talk.asked.flatMap Wire.frame) : Permits serial talk (.served happening)
  | stopped : Permits serial talk .stopped
  | begins {call : Call} (free : talk.calling = none) : Permits serial talk (.begins call)
  | hears {answer : ReadAnswer} {client : Client} (brought : answer.content ≠ [])
      (going : talk.ended = false)
      (member : client ∈ talk.running.server.registry.clients ++ talk.running.server.registry.departed)
      (own : client.serial = serial)
      (written : talk.heard ++ answer.content <+: client.socket.accepted) :
      Permits serial talk (.hears answer)
  | ends {answer : ReadAnswer} (nothing : answer.content = []) (closed : talk.Closed serial) :
      Permits serial talk (.hears answer)
  /-- A call returns with an end of the stream only when a read met it, and a write fails only because the
  server closed the connection before it had read everything. -/
  | returns {call : Call} {fault : Option OsError} (calling : talk.calling = some call)
      (closing : (talk.outcome call fault).2 = .error .connectionClosed → talk.ended = true)
      (unwritten : fault ≠ none → talk.Closed serial ∧
        tell (Deed.bytesOf serial) talk.journal ≠ talk.asked.flatMap Wire.frame) :
      Permits serial talk (.returns fault)

def PermitsAll (serial : Nat) : Talk → List Step → Prop
  | _, [] => True
  | talk, step :: rest => talk.Permits serial step ∧ (talk.step step).PermitsAll serial rest

/-- The message that the client waits for an answer to. -/
def awaited (talk : Talk) : List Wire.Message :=
  (talk.calling.bind Call.message?).toList

structure Served (serial : Nat) (talk : Talk) : Prop where
  resting : ∃ limit arrived, talk.running.server.registry.Resting limit arrived
  opened : talk.running.events.isOpen = true
  records : talk.running.server.registry.Records
  named : ∀ event ∈ talk.running.events.waiting, event.IsNamed
  known : ∀ message ∈ talk.asked, message.IsRequest ∧ message.payload.length ≤ Wire.maxLength
  latest : ∃ older, talk.asked = older ++ talk.awaited
  read : tell (Deed.bytesOf serial) talk.journal <+: talk.asked.flatMap Wire.frame
  written : talk.heard <+: (tell (Deed.outputOf serial) talk.journal).flatMap Wire.frame

variable {serial : Nat} {talk : Talk}

theorem Permits.called {fault : Option OsError} (permitted : talk.Permits serial (.returns fault)) :
    ∃ call, talk.calling = some call := by
  cases permitted with
  | returns calling => exact ⟨_, calling⟩

theorem Permits.calling {fault : Option OsError} {call : Call}
    (permitted : talk.Permits serial (.returns fault)) (calling : talk.calling = some call) :
    ((talk.outcome call fault).2 = .error .connectionClosed → talk.ended = true) ∧
      (fault ≠ none → talk.Closed serial ∧
        tell (Deed.bytesOf serial) talk.journal ≠ talk.asked.flatMap Wire.frame) := by
  cases permitted with
  | @returns other _ same closing unwritten =>
    obtain rfl := Option.some.inj (same.symm.trans calling)
    exact ⟨closing, unwritten⟩

theorem Permits.free {call : Call} (permitted : talk.Permits serial (.begins call)) :
    talk.calling = none := by
  cases permitted with
  | begins free => exact free

theorem Permits.falls {answer : ReadAnswer} (permitted : talk.Permits serial (.hears answer))
    (brought : answer.content ≠ []) : talk.ended = false := by
  cases permitted with
  | hears _ going => exact going
  | ends nothing => exact absurd nothing brought

theorem served_start (layout : Layout) (maxMessage maxBacklog : Nat) (socketPath : Option String)
    (serial : Nat) : (start layout maxMessage maxBacklog socketPath).Served serial where
  resting := ⟨maxMessage, [], (Registry.resting_new maxMessage maxBacklog).flushAll⟩
  opened := rfl
  records := Registry.records_new maxMessage maxBacklog
  named := by simp [start, Running.start]
  known := by simp [start]
  latest := ⟨[], rfl⟩
  read := List.prefix_rfl
  written := List.nil_prefix

theorem Served.outputs_prefix (served : talk.Served serial) (client : Client)
    (member : client ∈
      talk.running.server.registry.clients ++ talk.running.server.registry.departed)
    (own : client.serial = serial) :
    client.socket.accepted <+: (tell (Deed.outputOf serial) talk.journal).flatMap Wire.frame := by
  subst own
  exact ⟨client.outbound.bytes, served.records.stream_eq member⟩

theorem Served.carried (served : talk.Served serial) {running : Running} {limit : Nat}
    {arrived : List Event} (resting : running.server.registry.Resting limit arrived)
    (opened : running.events.isOpen = true)
    (reaches : talk.running.server.registry.Reaches Registry.Allows running.server.registry)
    (named : ∀ event ∈ running.events.waiting, event.IsNamed)
    (read : tell (Deed.bytesOf serial) running.server.registry.journal <+:
      talk.asked.flatMap Wire.frame) :
    Served serial { talk with running } ∧ talk.journal <:+ journal { talk with running } := by
  obtain ⟨records, later, grown⟩ := reaches.records served.records
  refine ⟨⟨⟨limit, arrived, resting⟩, opened, records, named, served.known, served.latest, read, ?_⟩,
    later, grown⟩
  refine served.written.trans ?_
  rw [journal, journal, ← grown, tell_append, List.flatMap_append]
  exact List.prefix_append _ _

theorem Served.serves (served : talk.Served serial) {happening : Happening}
    (permitted : talk.Permits serial (.served happening)) :
    (talk.step (.served happening)).Served serial ∧
      talk.journal <:+ (talk.step (.served happening)).journal := by
  obtain ⟨limit, arrived, resting⟩ := served.resting
  have steady : talk.running.Steady limit arrived (arrived ++ talk.running.events.waiting) :=
    ⟨served.opened, resting, rfl⟩
  cases permitted with
  | served admitted proper read =>
    obtain ⟨later, next⟩ := steady.step admitted
    obtain ⟨reaches, named⟩ := Running.step_reaches admitted proper served.named
    exact served.carried next.resting next.opened reaches named read

theorem Served.stops (served : talk.Served serial) :
    (talk.step .stopped).Served serial ∧ talk.journal <:+ (talk.step .stopped).journal := by
  obtain ⟨limit, arrived, resting⟩ := served.resting
  have reaches : talk.running.server.registry.Reaches Registry.Allows
      talk.running.server.shutdown.registry :=
    Registry.reaches_perform .shutdown ⟨True.intro, True.intro⟩
  refine served.carried (Server.shutdown_resting resting) served.opened reaches served.named ?_
  have same : tell (Deed.bytesOf serial) talk.running.server.shutdown.registry.journal =
      tell (Deed.bytesOf serial) talk.journal :=
    Registry.bytes_dropAll _ .closed _ serial
  rw [same]
  exact served.read

theorem Served.step (served : talk.Served serial) {step : Step}
    (permitted : talk.Permits serial step) : (talk.step step).Served serial := by
  cases step with
  | served happening => exact (served.serves permitted).1
  | stopped => exact served.stops.1
  | begins call =>
    refine ⟨served.resting, served.opened, served.records, served.named, ?_, ⟨talk.asked, rfl⟩, ?_,
      served.written⟩
    · intro message member
      rcases List.mem_append.1 member with before | sent
      · exact served.known message before
      · exact Call.isRequest_message? (Option.mem_toList.1 sent)
    · refine served.read.trans ?_
      rw [Talk.step, List.flatMap_append]
      exact List.prefix_append _ _
  | hears answer =>
    refine ⟨served.resting, served.opened, served.records, served.named, served.known, served.latest,
      served.read, ?_⟩
    cases permitted with
    | @hears _ client brought going member own written =>
      exact written.trans (served.outputs_prefix client member own)
    | ends nothing closed =>
      rw [Talk.step, nothing, List.append_nil]
      exact served.written
  | returns fault =>
    obtain ⟨call, calling⟩ := permitted.called
    rw [Talk.step, calling]
    exact ⟨served.resting, served.opened, served.records, served.named, served.known,
      ⟨talk.asked, (List.append_nil _).symm⟩, served.read, served.written⟩

/-- A talk whose client has taken messages off the bytes that it heard, and reads no more when it has
once read nothing. -/
structure Hearing (talk : Talk) : Prop where
  heard : talk.heard = talk.connection.arrived.reverse.flatMap Wire.frame ++
    (talk.connection.buffer.bytes ++ talk.connection.reads.flatMap ReadAnswer.content)
  fits : ∀ message ∈ talk.connection.arrived, message.payload.length ≤ Wire.maxLength
  falls : Connection.Falls talk.connection.reads
  ended : ∀ answer ∈ talk.connection.reads, answer.content = [] → talk.ended = true

theorem hearing_start (layout : Layout) (maxMessage maxBacklog : Nat) (socketPath : Option String) :
    (start layout maxMessage maxBacklog socketPath).Hearing where
  heard := rfl
  fits := by simp [start]
  falls := List.Pairwise.nil
  ended := by simp [start]

theorem Hearing.hears (hearing : talk.Hearing) {answer : ReadAnswer}
    (falls : answer.content ≠ [] → talk.ended = false) : (talk.step (.hears answer)).Hearing := by
  obtain ⟨heard, fits, before, ended⟩ := hearing
  refine ⟨?_, fits, ?_, ?_⟩
  · simp [Talk.step, heard]
  · refine List.pairwise_append.2 ⟨before, List.pairwise_singleton _ _, ?_⟩
    intro earlier member later last nothing
    rw [List.mem_singleton.1 last]
    by_contra more
    rw [falls more] at ended
    exact absurd (ended earlier member nothing) Bool.false_ne_true
  · intro other member nothing
    rcases List.mem_append.1 member with earlier | last
    · simp [Talk.step, ended other earlier nothing]
    · rw [List.mem_singleton.1 last] at nothing
      simp [Talk.step, nothing]

theorem Hearing.draws (hearing : talk.Hearing) {messages : List Wire.Message}
    {after : Connection} (draws : talk.connection.Draws messages after) (calling : Option Call) :
    Hearing { talk with connection := after, calling } := by
  -- What was heard stays the same: the reads used up and the old buffer are frames and the new buffer.
  obtain ⟨heard, fits, falls, ended⟩ := hearing
  obtain ⟨used, reads, bytes⟩ := draws.bytes
  refine ⟨?_, ?_, ?_, ?_⟩
  · simp only
    rw [heard, reads, draws.arrived, List.flatMap_append, ← List.append_assoc _ (used.flatMap _),
      bytes]
    simp
  · rw [draws.arrived]
    intro message member
    rcases List.mem_append.1 member with taken | before
    · exact draws.fits message (List.mem_reverse.1 taken)
    · exact fits message before
  · rw [reads] at falls
    exact (List.pairwise_append.1 falls).2.1
  · intro answer member
    exact ended answer (reads ▸ List.mem_append_right _ member)

/-- The replies that the client took off its stream. -/
def taken (talk : Talk) : List Wire.Message :=
  Wire.repliesIn talk.connection.arrived.reverse

theorem Served.starts_taken (served : talk.Served serial) (hearing : talk.Hearing) :
    talk.taken <+: tell (Deed.repliesOf serial) talk.journal := by
  have fits : ∀ message ∈ talk.connection.arrived.reverse,
      message.payload.length ≤ Wire.maxLength :=
    fun message member => hearing.fits message (List.mem_reverse.1 member)
  have arrived := Wire.prefix_of_frames fits (served.records.fits serial)
    (hearing.heard ▸ served.written)
  have told : Wire.repliesIn (tell (Deed.outputOf serial) talk.journal) =
      tell (Deed.repliesOf serial) talk.journal :=
    repliesIn_output served.records.proper serial
  rw [← told]
  exact arrived.filter _

theorem Served.requests_prefix (served : talk.Served serial) :
    tell (Deed.requestsOf serial) talk.journal <+: talk.asked := by
  obtain ⟨limit, arrived, resting⟩ := served.resting
  exact (resting.serves serial).inOrder.trans (Wire.messages_prefix_of_frames limit
    (fun message member => (served.known message member).2) served.read)

theorem Served.replies_le (served : talk.Served serial) :
    (tell (Deed.repliesOf serial) talk.journal).length ≤ talk.asked.length := by
  obtain ⟨limit, arrived, resting⟩ := served.resting
  exact (resting.replies_le serial).trans served.requests_prefix.length_le

end Talk

end TileServer

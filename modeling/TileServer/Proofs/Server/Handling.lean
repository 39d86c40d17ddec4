import TileServer.Proofs.Server.Intake
import TileServer.Proofs.Wire.Kinds

namespace TileServer

namespace Registry

variable {registry : Registry} {limit fd serial : Nat} {arrived : List Event}

/-- Whether a descriptor and a serial number are those of one client, if any has either. -/
def Owns (registry : Registry) (fd serial : Nat) : Prop :=
  ∀ standing ∈ registry.standings, standing.fd = fd ↔ standing.serial = serial

theorem Owns.of_narrowed {other : Registry} (owns : registry.Owns fd serial)
    (narrowed : registry.Narrowed other) : other.Owns fd serial := by
  intro standing member
  obtain ⟨earlier, before, serials, fds, _⟩ := narrowed.standings standing member
  rw [fds, serials]
  exact owns earlier before

theorem Coherent.owns (coherent : registry.Coherent) {client : Client}
    (found : registry.find? fd = some client) : registry.Owns fd client.serial := by
  obtain ⟨_, there, own⟩ := find?_standing found
  intro standing member
  constructor
  · intro same
    rw [coherent.eq_of_fd member there (same.trans own.symm)]
    rfl
  · intro same
    rw [coherent.eq_of_serial member there same]
    exact own

theorem Owns.serial_eq (owns : registry.Owns fd serial) {client : Client}
    (found : registry.find? fd = some client) : client.serial = serial := by
  obtain ⟨_, there, own⟩ := find?_standing found
  exact (owns client.standing there).1 own

theorem Coherent.live_of_contains (coherent : registry.Coherent) (owns : registry.Owns fd serial)
    (registered : registry.contains fd = true) : serial ∈ live registry.journal := by
  obtain ⟨client, found⟩ := Option.isSome_iff_exists.1 registered
  rw [← owns.serial_eq found]
  exact coherent.live_of_find? found

theorem Coherent.not_live_of_missing (coherent : registry.Coherent)
    (owns : registry.Owns fd serial) (missing : registry.find? fd = none) :
    serial ∉ live registry.journal := by
  intro registered
  obtain ⟨standing, member, same⟩ := (coherent.live_iff serial).1 registered
  exact find?_none missing standing member ((owns standing member).2 same)

theorem isFree_idle : Phase.idle.IsFree := by
  intro event heralds
  cases heralds

theorem isFree_handling (serial : Nat) (message : Wire.Message) :
    (Phase.handling serial message).IsFree := by
  intro event heralds
  cases heralds

theorem isFree_answered (serial : Nat) (message : Wire.Message) :
    (Phase.answered serial message).IsFree := by
  intro event heralds
  cases heralds

theorem Coherent.flushClient (coherent : registry.Coherent) (fd : Nat) :
    registry.Leads (phase registry.journal) (registry.flushClient fd).1 := by
  unfold Registry.flushClient
  cases found : registry.find? fd with
  | none => exact coherent.leads_refl
  | some client =>
    have kept : client.flush.1.standing = client.standing := rfl
    exact coherent.leads_of_same (coherent.standings_replace found kept) rfl rfl rfl

theorem Coherent.makeRoom (coherent : registry.Coherent) (fd : Nat) :
    registry.Leads (phase registry.journal) (registry.makeRoom fd) := by
  have same : (registry.makeRoom fd).standings = registry.standings :=
    standings_modify_of_same (fun _ _ _ => rfl)
  exact coherent.leads_of_same same rfl rfl rfl

theorem Resting.dropAll (resting : registry.Resting limit arrived) (cause : Cause) (fds : List Nat) :
    (fds.foldl (Registry.drop cause) registry).Resting limit arrived := by
  have free : (phase registry.journal).IsFree := by
    rw [resting.idle]
    exact isFree_idle
  exact resting.of_leads (resting.coherent.dropAll cause free
    (fun _ => ⟨resting.idle, resting.quiet⟩) fds)

theorem Resting.drop (resting : registry.Resting limit arrived) (cause : Cause) (fd : Nat) :
    (registry.drop cause fd).Resting limit arrived :=
  resting.dropAll cause [fd]

theorem Resting.flushAll (resting : registry.Resting limit arrived) :
    registry.flushAll.Resting limit arrived := by
  have same : Registry.standings { registry with
      clients := (registry.clients.map Client.flush).map Prod.fst } = registry.standings := by
    simp only [standings, List.map_map]
    apply List.map_congr_left
    intro client member
    rfl
  have flushed := resting.of_leads (resting.coherent.leads_of_same same rfl rfl rfl)
  exact flushed.dropAll .writeFailed _

structure Publishes (now : Phase) : Prop where
  free : now.IsFree
  plain : ∀ serial message, now = .handling serial message → ¬ message.IsSubscription

theorem Publishes.after {now : Phase} (publishes : Publishes now) (event : Event) :
    now.after (.published event) = now := by
  cases now with
  | heralding other => exact absurd rfl (publishes.free other)
  | _ => rfl

theorem Coherent.publishOne (coherent : registry.Coherent)
    (publishes : Publishes (phase registry.journal)) (event : Event) :
    registry.Leads (phase registry.journal) (registry.publish event) := by
  have leads := coherent.publish event
    (fun other heralds => absurd heralds (publishes.free other)) publishes.plain
  rw [publishes.after] at leads
  exact leads

theorem Coherent.publishChanges (coherent : registry.Coherent)
    (publishes : Publishes (phase registry.journal)) (changes : List Change) :
    registry.Leads (phase registry.journal) (registry.publishChanges changes) := by
  induction changes generalizing registry with
  | nil => exact coherent.leads_refl
  | cons change changes ih =>
    have first := coherent.publishOne publishes change.toEvent
    have rest := ih first.coherent (by rw [first.phase]; exact publishes)
    rw [first.phase] at rest
    exact first.trans rest

end Registry

namespace Server

variable {server : Server} {limit fd serial : Nat} {arrived : List Event}
  {message : Wire.Message}

open Registry

theorem not_isSubscription {kind : Wire.RequestKind}
    (known : Wire.RequestKind.ofCode? message.kind = some kind) (other : kind ≠ .subscribe) :
    ¬ message.IsSubscription := by
  intro same
  have asks : Wire.RequestKind.ofCode? message.kind = some .subscribe := by
    rw [show message.kind = Wire.RequestKind.subscribe.code from same]
    rfl
  rw [known] at asks
  exact other (Option.some.inj asks)

/-- The server while it handles a message of a client that is registered. -/
structure Handles (server : Server) (fd serial : Nat) (message : Wire.Message) : Prop where
  coherent : server.registry.Coherent
  handled : phase server.registry.journal = .handling serial message
  owns : server.registry.Owns fd serial

theorem Handles.runCommand (handles : server.Handles fd serial message)
    (plain : ¬ message.IsSubscription) (text : List Char) :
    server.registry.Leads (.handling serial message) (server.runCommand text).1.registry := by
  obtain ⟨coherent, handled, _⟩ := handles
  have publishes : Publishes (phase server.registry.journal) := by
    rw [handled]
    refine ⟨isFree_handling serial message, ?_⟩
    rintro _ _ ⟨⟩
    exact plain
  have leads := coherent.publishChanges publishes (server.layout.run text).changes
  rw [handled] at leads
  exact leads

theorem Handles.subscribe (handles : server.Handles fd serial message)
    (registered : server.registry.contains fd = true) (subscription : message.IsSubscription) :
    server.registry.Leads (.handling serial message)
        (server.subscribe fd message.payload).1.registry ∧
      (server.subscribe fd message.payload).2 =
        ⟨(Server.subscription? message.payload).isSome⟩ := by
  obtain ⟨coherent, handled, owns⟩ := handles
  unfold Server.subscribe
  cases wanted : Server.subscription? message.payload with
  | none => exact ⟨⟨coherent, handled, .refl _⟩, rfl⟩
  | some events =>
    obtain ⟨client, found⟩ := Option.isSome_iff_exists.1 registered
    have own := owns.serial_eq found
    subst own
    simp only [registered, if_true]
    exact ⟨coherent.subscribe found handled subscription wanted, rfl⟩

theorem Handles.dispatch (handles : server.Handles fd serial message)
    (registered : server.registry.contains fd = true) :
    server.registry.Leads (.handling serial message)
        (server.dispatch fd message).server.registry ∧
      ((server.dispatch fd message).payload = none → ¬ message.IsRequest) ∧
      ∀ payload, (server.dispatch fd message).payload = some payload →
        Answers message ⟨message.kind, payload⟩ := by
  have still : server.registry.Leads (.handling serial message) server.registry :=
    ⟨handles.coherent, handles.handled, .refl _⟩
  unfold Server.dispatch
  cases known : Wire.RequestKind.ofCode? message.kind with
  | none =>
    refine ⟨still, fun _ request => ?_, fun payload answered => by cases answered⟩
    obtain ⟨kind, same⟩ := Wire.RequestKind.exists_ofCode? request
    rw [known] at same
    cases same
  | some kind =>
    have code := Wire.RequestKind.code_of_ofCode? known
    have request : message.IsRequest := by
      rw [Wire.Message.IsRequest, ← code]
      exact kind.code_le
    by_cases subscription : kind = .subscribe
    · subst subscription
      obtain ⟨leads, reply⟩ := handles.subscribe registered code.symm
      refine ⟨leads, fun unanswered => (by cases unanswered), ?_⟩
      rintro payload ⟨⟩
      refine ⟨request, rfl, fun _ => ?_⟩
      exact congrArg (fun reply : SuccessReply => reply.toJson.bytes) reply
    · have plain := not_isSubscription known subscription
      have answers : ∀ payload, Answers message ⟨message.kind, payload⟩ :=
        fun payload => ⟨request, rfl, fun wanted => absurd wanted plain⟩
      cases kind with
      | runCommand =>
        exact ⟨handles.runCommand plain _, fun unanswered => (by cases unanswered),
          fun payload _ => answers payload⟩
      | subscribe => exact absurd rfl subscription
      | getBarConfig =>
        simp only [Server.answer]
        split
        · exact ⟨still, fun unanswered => (by cases unanswered), fun payload _ => answers payload⟩
        · exact ⟨still, fun unanswered => (by cases unanswered), fun payload _ => answers payload⟩
      | _ =>
        exact ⟨still, fun unanswered => (by cases unanswered), fun payload _ => answers payload⟩

theorem renderIf_leads (wanted : Bool) (coherent : server.registry.Coherent)
    (free : (phase server.registry.journal).IsFree) :
    server.registry.Leads (phase server.registry.journal) (server.renderIf wanted).registry := by
  cases wanted with
  | false => exact coherent.leads_refl
  | true =>
    have outward : Deed.rendered.IsOutward := True.intro
    exact coherent.leads_note outward rfl (by simp [Deed.serial?]) (.rendered free)

theorem drop_unanswerable {registry : Registry} (coherent : registry.Coherent)
    (owns : registry.Owns fd serial) (free : (phase registry.journal).IsFree) :
    registry.Leads (phase registry.journal) (registry.drop .unanswerable fd) ∧
      serial ∉ live (registry.drop .unanswerable fd).journal := by
  cases found : registry.find? fd with
  | none =>
    rw [drop_of_missing found]
    exact ⟨coherent.leads_refl, coherent.not_live_of_missing owns found⟩
  | some client =>
    obtain ⟨leads, _, gone⟩ := coherent.drop .unanswerable found free
      (fun calm => absurd True.intro calm)
    exact ⟨leads, owns.serial_eq found ▸ gone⟩

theorem Handles.sendReply (handles : server.Handles fd serial message) {reply : Wire.Message}
    (answers : Answers message reply) :
    server.registry.Leads (.answered serial message) (server.sendReply fd reply).registry ∨
      server.registry.Leads (.handling serial message) (server.sendReply fd reply).registry ∧
        serial ∉ live (server.sendReply fd reply).registry.journal := by
  obtain ⟨coherent, handled, owns⟩ := handles
  unfold Server.sendReply Registry.send
  cases found : server.registry.find? fd with
  | none =>
    right
    exact ⟨⟨coherent, handled, .refl _⟩, coherent.not_live_of_missing owns found⟩
  | some client =>
    have own := owns.serial_eq found
    subst own
    have kept := client.standing_queue reply server.registry.maxBacklog
    simp only
    generalize client.queue reply server.registry.maxBacklog = result at kept ⊢
    obtain ⟨sent, error⟩ := result
    have unsent : server.registry.Leads (phase server.registry.journal)
        (server.registry.modify fd (fun _ => sent)) :=
      coherent.leads_of_same (coherent.standings_replace found kept) rfl rfl rfl
    rw [handled] at unsent
    have registered := coherent.live_of_find? found
    have outward : (Deed.reply client.serial reply).IsOutward := True.intro
    have noted := unsent.coherent.leads_note outward rfl
      (by rintro _ ⟨⟩; exact coherent.live_lt registered) (.reply handled registered answers)
    rw [unsent.phase] at noted
    have answered : server.registry.Leads (.answered client.serial message)
        ((server.registry.modify fd (fun _ => sent)).note (.reply client.serial reply)) :=
      unsent.trans noted
    have dropUnsent := drop_unanswerable unsent.coherent (owns.of_narrowed unsent.narrowed)
      (by rw [unsent.phase]; exact isFree_handling _ _)
    rw [unsent.phase] at dropUnsent
    have dropAnswered := drop_unanswerable answered.coherent (owns.of_narrowed answered.narrowed)
      (by rw [answered.phase]; exact isFree_answered _ _)
    rw [answered.phase] at dropAnswered
    -- A reply that could not be framed was not queued; every other error came after it was.
    rcases error with _ | _ | _ | _ | _
    · exact Or.inl answered
    · exact Or.inl answered
    · exact Or.inl (answered.trans dropAnswered.1)
    · exact Or.inr ⟨unsent.trans dropUnsent.1, dropUnsent.2⟩
    · exact Or.inl (answered.trans dropAnswered.1)

theorem finish {now : Phase} {before : Registry} {after : Server}
    (leads : before.Leads now after.registry) (known : serial < before.accepted)
    (done : now = .answered serial message ∨
      now = .handling serial message ∧
        (message.IsRequest → serial ∉ live after.registry.journal)) :
    before.Leads .idle (after.note (.finished serial)).registry := by
  have outward : (Deed.finished serial).IsOutward := True.intro
  rw [← leads.phase] at done
  have noted := leads.coherent.leads_note outward rfl
    (by rintro _ ⟨⟩; rw [leads.narrowed.accepted]; exact known) (.finished done)
  exact leads.trans noted

theorem handleMessage_leads
    (handles : (server.note (.request serial message)).Handles fd serial message)
    (registered : server.registry.contains fd = true) :
    (server.note (.request serial message)).registry.Leads .idle
      (server.handleMessage fd serial message).registry := by
  unfold handleMessage
  simp only
  have known : serial < (server.note (.request serial message)).registry.accepted :=
    handles.coherent.live_lt (handles.coherent.live_of_contains handles.owns registered)
  obtain ⟨dispatched, silent, answers⟩ := handles.dispatch registered
  generalize (server.note (.request serial message)).dispatch fd message = answer
    at dispatched silent answers ⊢
  have rendered := renderIf_leads answer.render dispatched.coherent
    (by rw [dispatched.phase]; exact isFree_handling _ _)
  rw [dispatched.phase] at rendered
  have ready := dispatched.trans rendered
  generalize answer.server.renderIf answer.render = shown at ready ⊢
  cases paid : answer.payload with
  | none =>
    have unknown := silent paid
    exact finish ready known (Or.inr ⟨rfl, fun request => absurd request unknown⟩)
  | some payload =>
    have showing : shown.Handles fd serial message :=
      ⟨ready.coherent, ready.phase, handles.owns.of_narrowed ready.narrowed⟩
    rcases showing.sendReply (answers payload paid) with sent | ⟨unsent, gone⟩
    · exact finish (ready.trans sent) known (Or.inl rfl)
    · exact finish (ready.trans unsent) known (Or.inr ⟨rfl, fun _ => gone⟩)

def took (server : Server) (fd : Nat) (rest : Wire.ByteQueue) : Server :=
  { server with registry := server.registry.modify fd (fun client => client.keep rest) }

theorem handleTaken {client : Client} {rest : Wire.ByteQueue}
    (attending : server.registry.Attending limit arrived fd)
    (found : server.registry.find? fd = some client)
    (taken : Wire.takeFrame server.registry.maxMessage client.inbound = .message message rest) :
    let handled := (server.took fd rest).handleMessage fd client.serial message
    handled.registry.Attending limit arrived fd ∧
      ∀ standing ∈ handled.registry.standings, standing.fd = fd →
        standing.serial = client.serial ∧ standing.inbound = rest.bytes := by
  intro handled
  obtain ⟨bound, history, coherent, idle, others⟩ := attending
  have again : (server.took fd rest).registry.find? fd = some (client.keep rest) :=
    find?_modify found (fun _ own => own)
  have requested : ((server.took fd rest).note (.request client.serial message)).registry.Coherent :=
    coherent.request idle found taken
  have there : ((server.took fd rest).note (.request client.serial message)).registry.find? fd =
      some (client.keep rest) :=
    again
  have owns := requested.owns there
  have handles : ((server.took fd rest).note (.request client.serial message)).Handles fd
      client.serial message :=
    ⟨requested, rfl, owns⟩
  have leads := handleMessage_leads handles (by rw [contains, again]; rfl)
  have quiet : ((server.took fd rest).note
      (.request client.serial message)).registry.QuietBut fd :=
    coherent.quietBut_modify found rfl others
  have heard : tell Deed.arrivals
      ((server.took fd rest).note (.request client.serial message)).registry.journal = arrived := by
    rw [← history]
    exact (tell_cons _ _ _).trans (List.append_nil _)
  refine ⟨⟨leads.narrowed.max.trans bound, leads.narrowed.arrivals.trans heard, leads.coherent,
    leads.phase, quiet.of_narrowed leads.narrowed⟩, ?_⟩
  intro standing member same
  obtain ⟨earlier, before, serial, fds, inbound⟩ := leads.narrowed.standings standing member
  obtain ⟨_, there, place⟩ := find?_standing again
  have first : earlier = (client.keep rest).standing :=
    requested.eq_of_fd before there ((fds.symm.trans same).trans place.symm)
  rw [serial, inbound, first]
  exact ⟨rfl, rfl⟩

theorem resting_of_incomplete {registry : Registry} {client : Client}
    (attending : registry.Attending limit arrived fd) (found : registry.find? fd = some client)
    (incomplete : Wire.takeFrame registry.maxMessage client.inbound = .incomplete) :
    (registry.modify fd (fun client => client.awaitFrame registry.maxMessage)).Resting limit
      arrived := by
  obtain ⟨_, there, place⟩ := find?_standing found
  have decoded := Wire.map_takeFrame registry.maxMessage client.inbound
  rw [incomplete] at decoded
  have resting : registry.Resting limit arrived := by
    refine attending.resting ?_
    intro standing member equal
    rw [attending.coherent.eq_of_fd member there (equal.trans place.symm)]
    exact decoded.symm
  have same : (registry.modify fd (fun client =>
      client.awaitFrame registry.maxMessage)).standings = registry.standings :=
    standings_modify_of_same (fun _ _ _ => rfl)
  exact resting.of_leads (attending.coherent.leads_of_same same rfl rfl rfl)

theorem resting_of_failed {registry : Registry} {client : Client} {error : Wire.FrameError}
    (attending : registry.Attending limit arrived fd) (found : registry.find? fd = some client)
    (failed : Wire.takeFrame registry.maxMessage client.inbound = .failed error) :
    (registry.drop .malformed fd).Resting limit arrived := by
  obtain ⟨_, there, _⟩ := find?_standing found
  have decoded : _ = Wire.decode registry.maxMessage client.standing.inbound :=
    Wire.map_takeFrame registry.maxMessage client.inbound
  rw [failed] at decoded
  have settled := attending.coherent.settled there
    (by rw [Wire.decodeAll_of_failed decoded.symm])
  obtain ⟨leads, gone, _⟩ := attending.coherent.drop .malformed found
    (by rw [attending.idle]; exact isFree_idle) (fun _ => ⟨attending.idle, settled⟩)
  exact (attending.of_leads leads).resting_of_gone gone

theorem handleFrames_resting {attempts : Nat}
    (attending : server.registry.Attending limit arrived fd)
    (own : ∀ standing ∈ server.registry.standings, standing.fd = fd →
      standing.serial = serial ∧ standing.inbound.length / Wire.headerLength < attempts) :
    (server.handleFrames fd serial attempts).registry.Resting limit arrived := by
  -- Each attempt takes at least a header off what was read, so that none is missing at last.
  induction attempts generalizing server with
  | zero =>
    refine attending.resting ?_
    intro standing member same
    exact absurd (own standing member same).2 (Nat.not_lt_zero _)
  | succ attempts ih =>
    unfold handleFrames Registry.next
    cases found : server.registry.find? fd with
    | none => exact attending.resting_of_gone (find?_none found)
    | some client =>
      cases taken : Wire.takeFrame server.registry.maxMessage client.inbound with
      | incomplete =>
        simp only [taken]
        exact resting_of_incomplete attending found taken
      | failed error =>
        simp only [taken]
        exact resting_of_failed attending found taken
      | message message rest =>
        obtain ⟨_, there, place⟩ := find?_standing found
        obtain ⟨number, enough⟩ := own client.standing there place
        have decoded := Wire.map_takeFrame server.registry.maxMessage client.inbound
        rw [taken] at decoded
        obtain ⟨still, left⟩ := handleTaken attending found taken
        rw [show client.serial = serial from number] at still left
        simp only [taken]
        change (if ((server.took fd rest).handleMessage fd serial message).registry.contains fd then _
          else (server.took fd rest).handleMessage fd serial message).registry.Resting limit arrived
        split
        · refine ih still ?_
          intro standing member same
          obtain ⟨serials, inbound⟩ := left standing member same
          rw [inbound]
          exact ⟨serials, Wire.attempts_rest_lt decoded.symm enough⟩
        · rename_i gone
          rw [Bool.not_eq_true] at gone
          exact still.resting_of_gone (find?_none (find?_of_unused gone))

end Server

end TileServer

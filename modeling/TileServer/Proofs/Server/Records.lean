import TileServer.Proofs.Server.History
import TileServer.Proofs.Server.Output
import TileServer.Proofs.Wire.Kinds

namespace TileServer

def Event.IsNamed (event : Event) : Prop :=
  event.code = Wire.eventCode event.name

theorem Event.IsNamed.isEvent {event : Event} (named : event.IsNamed) : event.message.IsEvent := by
  rw [Wire.Message.IsEvent, Event.message, named]
  exact Wire.isEvent_eventCode event.name

def Wire.sendable (messages : List Wire.Message) : List Wire.Message :=
  messages.filter (fun message => message.payload.length ≤ Wire.maxLength)

theorem Wire.sendable_append (first second : List Wire.Message) :
    Wire.sendable (first ++ second) = Wire.sendable first ++ Wire.sendable second :=
  List.filter_append ..

theorem Wire.encoding_of_le {message : Wire.Message}
    (fits : message.payload.length ≤ Wire.maxLength) :
    Wire.encoding message = Wire.frame message := by
  rw [Wire.encoding, Wire.encode_of_le fits]

theorem Wire.encoding_of_lt {message : Wire.Message}
    (long : Wire.maxLength < message.payload.length) : Wire.encoding message = [] := by
  simp [Wire.encoding, Wire.encode, long]

theorem Wire.encoding_sendable (messages : List Wire.Message) :
    (Wire.sendable messages).flatMap Wire.encoding = messages.flatMap Wire.encoding := by
  induction messages with
  | nil => rfl
  | cons message messages ih =>
    rw [Wire.sendable] at ih
    by_cases fits : message.payload.length ≤ Wire.maxLength
    · simp [Wire.sendable, fits, ih]
    · have nothing := Wire.encoding_of_lt (Nat.lt_of_not_le fits)
      simp [Wire.sendable, fits, ih, nothing]

namespace Deed

/-- The messages that were queued for a client, replies and events. -/
def outputOf (serial : Nat) : Deed → List Wire.Message
  | reply other message => if other = serial then [message] else []
  | notified other message => if other = serial then [message] else []
  | _ => []

def IsMute : Deed → Prop
  | reply _ _ | notified _ _ => False
  | _ => True

def IsProper : Deed → Prop
  | reply _ message => ¬ message.IsEvent
  | notified _ message => message.IsEvent
  | _ => True

theorem IsMute.output {deed : Deed} (mute : deed.IsMute) (serial : Nat) :
    deed.outputOf serial = [] := by
  cases deed with
  | reply | notified => exact mute.elim
  | _ => rfl

theorem IsMute.isProper {deed : Deed} (mute : deed.IsMute) : deed.IsProper := by
  cases deed with
  | reply | notified => exact mute.elim
  | _ => exact True.intro

end Deed

namespace Registry

variable {registry before after : Registry} {ledger outputs : Nat → List Wire.Message}
  {operation : Operation} {met : Deed → Prop} {fd : Nat}

def Continues (met : Deed → Prop) (before after : Registry) : Prop :=
  ∃ later, after.journal = later ++ before.journal ∧ ∀ deed ∈ later, met deed

theorem Continues.trans {middle : Registry} (one : before.Continues met middle)
    (other : middle.Continues met after) : before.Continues met after := by
  obtain ⟨first, journal, here⟩ := one
  obtain ⟨second, journal', there⟩ := other
  refine ⟨second ++ first, by rw [journal', journal, List.append_assoc], ?_⟩
  exact fun deed member => (List.mem_append.1 member).elim (there deed) (here deed)

theorem continues_of_same (journal : after.journal = before.journal) : before.Continues met after :=
  ⟨[], journal, by simp⟩

theorem continues_cons {deed : Deed} (here : met deed)
    (journal : after.journal = deed :: before.journal) : before.Continues met after :=
  ⟨[deed], journal, by simpa using here⟩

def Operation.deed? (operation : Operation) (client : Client) : Option Deed :=
  match operation with
  | drop cause _ => some (.dropped client.serial cause)
  | subscribe _ events => some (.subscribed client.serial events)
  | receive _ bytes => some (.read client.serial bytes)
  | send _ message => some (.reply client.serial message)
  | _ => none

theorem continues_perform (deals : operation.fd? = some fd)
    (here : ∀ client, registry.find? fd = some client → ∀ deed ∈ operation.deed? client, met deed) :
    registry.Continues met (registry.perform operation) := by
  cases operation with
  | register | broadcast | flushAll | shutdown | note => cases deals
  | drop cause =>
    cases deals
    simp only [perform, drop]
    split
    · exact continues_of_same rfl
    · exact continues_cons (here _ ‹_› _ rfl) rfl
  | subscribe other events =>
    cases deals
    simp only [perform, subscribe]
    split
    · exact continues_of_same rfl
    · exact continues_cons (here _ ‹_› _ rfl) rfl
  | receive other bytes =>
    cases deals
    simp only [perform, receive]
    split
    · exact continues_of_same rfl
    · exact continues_cons (here _ ‹_› _ rfl) rfl
  | next =>
    cases deals
    simp only [perform, next]
    split
    · exact continues_of_same rfl
    · split <;> exact continues_of_same rfl
  | send other message =>
    cases deals
    simp only [perform, send]
    split
    · exact continues_of_same rfl
    · split
      · exact continues_of_same rfl
      · exact continues_cons (here _ ‹_› _ rfl) rfl
  | makeRoom => exact continues_of_same rfl
  | flush =>
    cases deals
    simp only [perform, flushClient]
    split <;> exact continues_of_same rfl

theorem continues_dropAll (cause : Cause) (here : ∀ serial, met (.dropped serial cause))
    (registry : Registry) (fds : List Nat) :
    registry.Continues met (fds.foldl (Registry.drop cause) registry) := by
  induction fds generalizing registry with
  | nil => exact continues_of_same rfl
  | cons fd fds ih =>
    have deals : (Operation.drop cause fd).fd? = some fd := rfl
    refine (continues_perform deals ?_).trans (ih _)
    rintro client _ _ ⟨⟩
    exact here client.serial

theorem journal_broadcast (registry : Registry) (event : Event) :
    ∃ dropped notices, (registry.broadcast event).1.journal =
        dropped ++ (notices ++ .published event :: registry.journal) ∧
      (∀ deed ∈ dropped, ∃ serial, deed = .dropped serial .overflowed) ∧
      ∀ deed ∈ notices, ∃ serial, deed = .notified serial event.message := by
  let notices := ((registry.clients.map (deliver registry.maxBacklog event)).filter
    (fun result => result.2.isQueued)).map (fun result =>
      Deed.notified result.1.serial event.message)
  have dropping : Continues (fun deed => ∃ serial, deed = .dropped serial .overflowed)
      { registry with
        clients := (registry.clients.map (deliver registry.maxBacklog event)).map Prod.fst
        journal := notices.reverse ++ .published event :: registry.journal }
      (registry.broadcast event).1 := continues_dropAll .overflowed (fun serial => ⟨serial, rfl⟩) _ _
  obtain ⟨dropped, journal, overflows⟩ := dropping
  refine ⟨dropped, notices.reverse, journal, overflows, fun deed member => ?_⟩
  obtain ⟨result, _, rfl⟩ := List.mem_map.1 (List.mem_reverse.1 member)
  exact ⟨result.1.serial, rfl⟩

theorem continues_broadcast (registry : Registry) (event : Event)
    (published : met (.published event)) (notified : ∀ serial, met (.notified serial event.message))
    (dropped : ∀ serial, met (.dropped serial .overflowed)) :
    registry.Continues met (registry.broadcast event).1 := by
  obtain ⟨gone, notices, journal, overflows, told⟩ := registry.journal_broadcast event
  refine ⟨gone ++ (notices ++ [.published event]), ?_, ?_⟩
  · rw [journal, List.append_assoc, List.append_assoc, List.singleton_append]
  · rw [List.forall_mem_append, List.forall_mem_append, List.forall_mem_singleton]
    refine ⟨fun deed member => ?_, fun deed member => ?_, published⟩
    · obtain ⟨serial, rfl⟩ := overflows deed member
      exact dropped serial
    · obtain ⟨serial, rfl⟩ := told deed member
      exact notified serial

def Adds (outputs : Nat → List Wire.Message) (before after : Registry) : Prop :=
  ∃ later, after.journal = later ++ before.journal ∧ (∀ deed ∈ later, deed.IsProper) ∧
    ∀ serial, tell (Deed.outputOf serial) later = outputs serial

theorem Continues.adds (continues : before.Continues Deed.IsMute after) :
    before.Adds (fun _ => []) after := by
  obtain ⟨later, journal, mute⟩ := continues
  exact ⟨later, journal, fun deed member => (mute deed member).isProper,
    fun serial => tell_eq_nil (fun deed member => (mute deed member).output serial)⟩

theorem Adds.trans {middle : Registry} (adds : before.Adds outputs middle)
    (nothing : middle.Adds (fun _ => []) after) : before.Adds outputs after := by
  obtain ⟨later, journal, proper, told⟩ := adds
  obtain ⟨last, journal', proper', told'⟩ := nothing
  refine ⟨last ++ later, by rw [journal', journal, List.append_assoc], ?_, ?_⟩
  · exact fun deed member => (List.mem_append.1 member).elim (proper' deed) (proper deed)
  · intro serial
    rw [tell_append, told, told', List.append_nil]

theorem Streams.offered_of_find? (streams : registry.Streams ledger) {fd : Nat} {client : Client}
    (found : registry.find? fd = some client) (message : Wire.Message) (serial : Nat) :
    registry.offered serial (fun client => if client.fd = fd then [message] else []) =
      if client.serial = serial then [message] else [] := by
  obtain ⟨there, _, own⟩ := find?_standing found
  by_cases same : client.serial = serial
  · subst same
    rw [streams.offered_of_mem there, if_pos own, if_pos rfl]
  · rw [if_neg same]
    refine List.flatMap_eq_nil_iff.2 (fun other member => if_neg (fun place => same ?_))
    obtain ⟨clients, equal⟩ := List.mem_filter.1 member
    rw [← Distinct.eq_of_find? streams.fds found clients place]
    exact beq_iff_eq.1 equal

theorem Streams.adds_send (streams : registry.Streams ledger) (fd : Nat) {message : Wire.Message}
    (plain : ¬ message.IsEvent) :
    registry.Adds (fun serial => Wire.sendable (registry.offered serial
        (fun client => if client.fd = fd then [message] else [])))
      (registry.send fd message).1 := by
  unfold Registry.send
  split
  · rename_i missing
    simp only [offered_send_of_missing missing]
    exact (continues_of_same rfl).adds
  · rename_i client found
    have unframed := client.queue_unframed_iff message registry.maxBacklog
    simp only [streams.offered_of_find? found]
    split
    · rename_i error failed
      have long := unframed.1 ⟨error, failed⟩
      refine ⟨[], rfl, by simp, fun serial => ?_⟩
      have unsendable : Wire.sendable [message] = [] := by simpa [Wire.sendable] using long
      simp only [tell_nil]
      split
      · exact unsendable.symm
      · rfl
    · rename_i other
      have fits : message.payload.length ≤ Wire.maxLength := by
        refine Nat.le_of_not_lt (fun long => ?_)
        obtain ⟨error, failed⟩ := unframed.2 long
        exact other error failed
      refine ⟨[.reply client.serial message], rfl, by simpa [Deed.IsProper] using plain,
        fun serial => ?_⟩
      have all : Wire.sendable [message] = [message] := by simpa [Wire.sendable] using fits
      simp only [tell_cons, tell_nil, List.nil_append, Deed.outputOf]
      split
      · exact all.symm
      · rfl

theorem tell_notified (limit : Nat) (event : Event) (serial : Nat) (clients : List Client) :
    (((clients.map (deliver limit event)).filter (fun result => result.2.isQueued)).map
        (fun result => Deed.notified result.1.serial event.message)).flatMap
          (Deed.outputOf serial) =
      Wire.sendable ((clients.filter (fun client => client.serial == serial)).flatMap
        (fun client => if client.isSubscribed event.name then [event.message] else [])) := by
  induction clients with
  | nil => rfl
  | cons client clients ih =>
    have queued := isQueued_deliver limit event client
    have own : (deliver limit event client).1.serial = client.serial :=
      congrArg Standing.serial (standing_deliver limit event client)
    have fits : Wire.sendable [event.message] =
        if event.payload.length ≤ Wire.maxLength then [event.message] else [] := by
      simp [Wire.sendable, Event.message, List.filter_cons]
    rw [List.map_cons, List.filter_cons, List.filter_cons, queued]
    -- A client is told of if it is the one asked for, wants the event, and the event can be framed.
    by_cases same : client.serial = serial
    · rw [if_pos (beq_iff_eq.2 same), List.flatMap_cons, Wire.sendable_append, ← ih]
      by_cases subscribed : client.isSubscribed event.name
      · by_cases short : event.payload.length ≤ Wire.maxLength
        · simp [subscribed, short, fits, Deed.outputOf, own, same]
        · simp [subscribed, short, fits]
      · simp [subscribed, Wire.sendable]
    · rw [if_neg (fun equal => same (beq_iff_eq.1 equal)), ← ih]
      split
      · simp [Deed.outputOf, own, same]
      · rfl

theorem adds_broadcast (registry : Registry) {event : Event} (named : event.IsNamed) :
    registry.Adds (fun serial => Wire.sendable (registry.offered serial
        (fun client => if client.isSubscribed event.name then [event.message] else [])))
      (registry.broadcast event).1 := by
  let notified := ((registry.clients.map (deliver registry.maxBacklog event)).filter
    (fun result => result.2.isQueued)).map (fun result =>
      Deed.notified result.1.serial event.message)
  have told : registry.Adds (fun serial => Wire.sendable (registry.offered serial
        (fun client => if client.isSubscribed event.name then [event.message] else [])))
      { registry with
        clients := (registry.clients.map (deliver registry.maxBacklog event)).map Prod.fst
        journal := notified.reverse ++ .published event :: registry.journal } := by
    refine ⟨notified.reverse ++ [.published event], by simp, ?_, fun serial => ?_⟩
    · intro deed member
      rcases List.mem_append.1 member with new | last
      · obtain ⟨result, _, rfl⟩ := List.mem_map.1 (List.mem_reverse.1 new)
        exact named.isEvent
      · obtain rfl := List.mem_singleton.1 last
        exact True.intro
    · refine Eq.trans ?_ (tell_notified registry.maxBacklog event serial registry.clients)
      simp [tell, Deed.outputOf, notified]
  exact told.trans (continues_dropAll .overflowed (fun _ => True.intro) _ _).adds

def Operation.IsProper : Operation → Prop
  | send _ message => ¬ message.IsEvent
  | broadcast event => event.IsNamed
  | note deed => deed.IsMute
  | _ => True

theorem Streams.adds (streams : registry.Streams ledger) (proper : operation.IsProper) :
    registry.Adds (fun serial => Wire.sendable (registry.offered serial operation.offers))
      (registry.perform operation) := by
  have nothing {after : Registry} (continues : registry.Continues Deed.IsMute after) :
      registry.Adds (fun serial => Wire.sendable (registry.offered serial (fun _ => []))) after := by
    simp only [offered_nil]
    exact continues.adds
  cases operation with
  | send fd message => exact streams.adds_send fd proper
  | broadcast event => exact registry.adds_broadcast proper
  | register fd socket =>
    have mute : (Deed.accepted registry.accepted).IsMute := True.intro
    exact nothing (continues_cons mute rfl)
  | flushAll => exact nothing (continues_dropAll .writeFailed (fun _ => True.intro) _ _)
  | shutdown => exact nothing (continues_dropAll .closed (fun _ => True.intro) registry _)
  | note deed => exact nothing (continues_cons proper rfl)
  | drop | subscribe | receive =>
    refine nothing (continues_perform rfl (fun client _ deed noted => ?_))
    cases noted
    exact True.intro
  | makeRoom | next | flush =>
    exact nothing (continues_perform rfl (fun client _ deed noted => nomatch noted))

/-- A registry whose journal tells what was queued for each client, and what as. -/
structure Records (registry : Registry) : Prop where
  streams : registry.Streams (fun serial => tell (Deed.outputOf serial) registry.journal)
  fits : ∀ serial, ∀ message ∈ tell (Deed.outputOf serial) registry.journal,
    message.payload.length ≤ Wire.maxLength
  proper : ∀ deed ∈ registry.journal, deed.IsProper

theorem records_new (maxMessage maxBacklog : Nat) : (new maxMessage maxBacklog).Records where
  streams := streams_new maxMessage maxBacklog
  fits := by simp [new]
  proper := by simp [new]

theorem Streams.of_sendable {told : Nat → List Wire.Message} (streams : registry.Streams ledger)
    (same : ∀ serial, (told serial).flatMap Wire.encoding = (ledger serial).flatMap Wire.encoding)
    (blank : ∀ serial, ledger serial = [] → told serial = []) : registry.Streams told := by
  refine ⟨streams.fds, streams.serials, streams.known, ?_, ?_⟩
  · exact fun serial unknown => blank serial (streams.blank serial unknown)
  · intro client member
    rw [same]
    exact streams.streams client member

theorem Records.perform (records : registry.Records) (permitted : registry.Permits operation)
    (proper : operation.IsProper) : (registry.perform operation).Records := by
  obtain ⟨later, journal, propers, told⟩ := records.streams.adds proper
  have whole : ∀ serial, tell (Deed.outputOf serial) (registry.perform operation).journal =
      tell (Deed.outputOf serial) registry.journal ++
        Wire.sendable (registry.offered serial operation.offers) := by
    intro serial
    rw [journal, tell_append, told]
  -- The journal leaves out what cannot be framed, which adds nothing to a stream.
  refine ⟨(records.streams.perform permitted).of_sendable ?_ ?_, ?_, ?_⟩
  · intro serial
    rw [whole, List.flatMap_append, List.flatMap_append, Wire.encoding_sendable]
  · intro serial silent
    obtain ⟨before, offered⟩ := List.append_eq_nil_iff.1 silent
    rw [whole, before, offered]
    rfl
  · intro serial message member
    rw [whole] at member
    rcases List.mem_append.1 member with before | offered
    · exact records.fits serial message before
    · exact of_decide_eq_true (List.mem_filter.1 offered).2
  · intro deed member
    rw [journal] at member
    exact (List.mem_append.1 member).elim (propers deed) (records.proper deed)

/-- An operation that a registry with records permits, and after which it has its records. -/
def Allows (registry : Registry) (operation : Operation) : Prop :=
  registry.Permits operation ∧ operation.IsProper

theorem Reaches.records (reaches : before.Reaches Allows after) (records : before.Records) :
    after.Records ∧ before.journal <:+ after.journal := by
  induction reaches with
  | refl => exact ⟨records, List.suffix_rfl⟩
  | step _ allowed ih =>
    obtain ⟨permitted, proper⟩ := allowed
    obtain ⟨kept, older⟩ := ih
    obtain ⟨later, journal, _⟩ := kept.streams.adds proper
    exact ⟨kept.perform permitted proper, older.trans ⟨later, journal.symm⟩⟩

theorem Records.stream_eq (records : registry.Records) {client : Client}
    (member : client ∈ registry.clients ++ registry.departed) :
    client.stream = (tell (Deed.outputOf client.serial) registry.journal).flatMap Wire.frame := by
  rw [records.streams.streams client member]
  exact List.flatMap_congr
    (fun message there => Wire.encoding_of_le (records.fits client.serial message there))

end Registry

end TileServer

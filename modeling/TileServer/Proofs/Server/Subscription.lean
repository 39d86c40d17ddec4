import TileServer.Proofs.Connection.Events
import TileServer.Proofs.Reply.RoundTrip
import TileServer.Proofs.Server.Runs
import TileServer.Proofs.Server.Renders
import TileServer.Proofs.Server.Turns

namespace TileServer

theorem stringsOfJson?_eq_some_iff {json : Json} {names : List String} :
    stringsOfJson? json = some names ↔ json = stringsJson names := by
  have text (item : Json) (value : String) (read : Json.asString? item = some value) :
      item = .str value := by
    cases item with
    | str => exact congrArg Json.str (Option.some.inj read)
    | _ => cases read
  constructor
  · intro read
    cases json with
    | arr items => exact congrArg Json.arr (Json.eq_map_of_mapM text read)
    | _ => cases read
  · rintro rfl
    exact faithful_strings.back names

theorem Server.subscription?_eq_some_iff {payload : Bytes} {names : List String} :
    Server.subscription? payload = some names ↔ Json.read? payload = some (stringsJson names) := by
  simp only [Server.subscription?, Option.bind_eq_some_iff, stringsOfJson?_eq_some_iff, exists_eq_right]

namespace Client

/-- The names among some that are not like a known one, each in its first spelling. -/
def newNames (known events : List String) : List String :=
  (events.zipIdx.filter (fun entry => !(known ++ events.take entry.2).any
    (fun name => Text.sameFolded name entry.1))).map Prod.fst

def IsTidy (client : Client) : Prop :=
  client.subscriptions.Pairwise (fun name other => Text.sameFolded name other = false)

/-- What a client follows after it asked for some names. -/
structure Subscribes (before : Client) (events : List String) (after : Client) : Prop where
  list : after.subscriptions = before.subscriptions ++ newNames before.subscriptions events
  rest : after = { before with subscriptions := after.subscriptions }
  names : ∀ name, after.isSubscribed name = true ↔
    ∃ wanted ∈ before.subscriptions ++ events, Text.sameFolded wanted name = true
  tidy : before.IsTidy → after.IsTidy

variable {client : Client}

theorem IsTidy.of_same {other : Client} (tidy : client.IsTidy)
    (same : other.subscriptions = client.subscriptions) : other.IsTidy := by
  rw [IsTidy, same]
  exact tidy

theorem newNames_concat (known events : List String) (event : String) :
    newNames known (events ++ [event]) = newNames known events ++
      if (known ++ events).any (fun name => Text.sameFolded name event) then [] else [event] := by
  have before : ∀ entry ∈ events.zipIdx, (events ++ [event]).take entry.2 = events.take entry.2 := by
    intro entry member
    exact List.take_append_of_le_length (List.snd_lt_of_mem_zipIdx member).le
  have first : events.zipIdx.filter (fun entry => !(known ++ (events ++ [event]).take entry.2).any
      (fun name => Text.sameFolded name entry.1)) = events.zipIdx.filter (fun entry =>
        !(known ++ events.take entry.2).any (fun name => Text.sameFolded name entry.1)) :=
    List.filter_congr (fun entry member => by rw [before entry member])
  rw [newNames, List.zipIdx_append, List.filter_append, first, List.map_append, ← newNames]
  congr 1
  have whole : (events ++ [event]).take (0 + events.length) = events := by simp
  rw [List.zipIdx_singleton, List.filter_singleton, whole]
  cases (known ++ events).any (fun name => Text.sameFolded name event) <;> rfl

theorem subscribe_concat (client : Client) (events : List String) (event : String) :
    (client.subscribe (events ++ [event])).subscriptions = (client.subscribe events).subscriptions ++
      if (client.subscribe events).isSubscribed event then [] else [event] := by
  have step : client.subscribe (events ++ [event]) = (client.subscribe events).subscribe [event] :=
    List.foldl_append
  rw [step, subscribe, List.foldl_cons, List.foldl_nil]
  split
  · exact (List.append_nil _).symm
  · rfl

theorem subscriptions_subscribe (client : Client) (events : List String) :
    (client.subscribe events).subscriptions =
      client.subscriptions ++ newNames client.subscriptions events := by
  induction events using List.reverseRecOn with
  | nil => exact (List.append_nil _).symm
  | append_singleton events event ih =>
    rw [subscribe_concat, ih, newNames_concat, isSubscribed_subscribe, isSubscribed, ← List.any_append,
      List.append_assoc]

theorem IsTidy.subscribe (tidy : client.IsTidy) (events : List String) :
    (client.subscribe events).IsTidy := by
  induction events using List.reverseRecOn with
  | nil => exact tidy
  | append_singleton events event ih =>
    rw [IsTidy, subscribe_concat]
    split
    · rw [List.append_nil]
      exact ih
    · rename_i new
      refine List.pairwise_append.2 ⟨ih, List.pairwise_singleton .., fun name member other last => ?_⟩
      rw [List.mem_singleton.1 last]
      rw [isSubscribed, List.any_eq_true] at new
      rw [← Bool.not_eq_true]
      exact fun alike => new ⟨name, member, alike⟩

theorem subscribes (client : Client) (events : List String) :
    client.Subscribes events (client.subscribe events) where
  list := client.subscriptions_subscribe events
  rest := client.subscribe_eq events
  names := by
    intro name
    rw [isSubscribed_subscribe, isSubscribed, ← List.any_append, List.any_eq_true]
  tidy := fun tidy => tidy.subscribe events

end Client

namespace Server

open Registry

variable {server : Server} {fd serial : Nat} {client : Client} {message reply : Wire.Message}

def verdict (payload : Bytes) : Bytes :=
  (SuccessReply.mk (subscription? payload).isSome).toJson.bytes

theorem length_verdict_le (payload : Bytes) : (verdict payload).length ≤ Wire.maxLength := by
  unfold verdict
  cases (subscription? payload).isSome <;> decide

/-- How a client's request to subscribe is answered. -/
structure Takes (server : Server) (client : Client) (payload : Bytes) (answer : Answer) : Prop where
  calm : answer.render = false
  reply : answer.payload = some (verdict payload)
  success : (answer.payload.bind Json.read?).bind SuccessReply.ofJson? =
    some ⟨(subscription? payload).isSome⟩
  granted : ∀ events, subscription? payload = some events → answer.server = { server with
    registry := (server.registry.modify client.fd (fun client => client.subscribe events)).note
      (.subscribed client.serial events) }
  found : ∀ events, subscription? payload = some events →
    answer.server.registry.find? client.fd = some (client.subscribe events)
  refused : subscription? payload = none → answer.server = server

theorem dispatch_subscription (server : Server) (fd : Nat) (subscription : message.IsSubscription) :
    server.dispatch fd message = ⟨(server.subscribe fd message.payload).1,
      some (server.subscribe fd message.payload).2.toJson.bytes, false⟩ := by
  have known : Wire.RequestKind.ofCode? message.kind = some .subscribe := by
    rw [show message.kind = Wire.RequestKind.subscribe.code from subscription]
    decide
  unfold dispatch
  rw [known]
  rfl

theorem subscribe_refused {payload : Bytes} (refused : subscription? payload = none) (server : Server)
    (fd : Nat) : server.subscribe fd payload = (server, ⟨false⟩) := by
  unfold subscribe
  rw [refused]

theorem subscribe_granted (found : server.registry.find? fd = some client) {payload : Bytes}
    {events : List String} (wanted : subscription? payload = some events) :
    server.subscribe fd payload = ({ server with
      registry := (server.registry.modify fd (fun client => client.subscribe events)).note
        (.subscribed client.serial events) }, ⟨true⟩) := by
  have registered : server.registry.contains fd = true := by
    rw [contains, found]
    rfl
  unfold subscribe
  rw [wanted]
  simp only [registered, if_true, subscribe_of_found found]

theorem success_subscribe (found : server.registry.find? fd = some client) (payload : Bytes) :
    (server.subscribe fd payload).2 = ⟨(subscription? payload).isSome⟩ := by
  cases wanted : subscription? payload with
  | none => rw [subscribe_refused wanted]; rfl
  | some events => rw [subscribe_granted found wanted]; rfl

theorem dispatch_takes (found : server.registry.find? fd = some client)
    (subscription : message.IsSubscription) :
    server.Takes client message.payload (server.dispatch fd message) := by
  obtain ⟨_, _, own⟩ := find?_standing found
  have own : client.fd = fd := own
  subst own
  have same (events : List String) (other : Client) (there : other.fd = client.fd) :
      (other.subscribe events).fd = client.fd := (other.standing_subscribe events).2.1.trans there
  rw [server.dispatch_subscription client.fd subscription]
  refine ⟨rfl, ?_, ?_, fun events wanted => ?_, fun events wanted => ?_, fun refused => ?_⟩
  · rw [success_subscribe found]
    rfl
  · rw [success_subscribe found]
    exact SuccessReply.faithful.read?_bytes _
  · rw [subscribe_granted found wanted]
  · rw [subscribe_granted found wanted]
    exact find?_modify found (same events)
  · rw [subscribe_refused refused]

theorem Takes.journal {answer : Answer} {payload : Bytes}
    (takes : server.Takes client payload answer) : answer.server.registry.journal =
      (subscription? payload).toList.map (Deed.subscribed client.serial) ++ server.registry.journal := by
  cases wanted : subscription? payload with
  | none => rw [takes.refused wanted]; rfl
  | some events => rw [takes.granted events wanted]; rfl

theorem Takes.registered {answer : Answer} {payload : Bytes}
    (takes : server.Takes client payload answer)
    (found : server.registry.find? client.fd = some client) :
    ∃ taker, answer.server.registry.find? client.fd = some taker ∧ taker.serial = client.serial := by
  cases wanted : subscription? payload with
  | none => exact ⟨client, by rw [takes.refused wanted, found], rfl⟩
  | some events => exact ⟨_, takes.found events wanted, (client.standing_subscribe events).1⟩

theorem journal_sendReply (found : server.registry.find? fd = some client)
    (fits : reply.payload.length ≤ Wire.maxLength) :
    ∃ dropped, (server.sendReply fd reply).registry.journal =
        dropped ++ .reply client.serial reply :: server.registry.journal ∧
      ∀ deed ∈ dropped, deed = .dropped client.serial .unanswerable := by
  obtain ⟨_, _, own⟩ := find?_standing found
  have framed : ¬ ∃ error, (client.queue reply server.registry.maxBacklog).2 = some (.unframed error) :=
    fun unframed => Nat.not_lt.2 fits ((client.queue_unframed_iff reply _).1 unframed)
  have kept := client.standing_queue reply server.registry.maxBacklog
  unfold sendReply Registry.send
  rw [found]
  simp only
  generalize client.queue reply server.registry.maxBacklog = result at framed kept ⊢
  obtain ⟨sent, error⟩ := result
  have there : ((server.registry.modify fd (fun _ => sent)).note (.reply client.serial reply)).find? fd =
      some sent := find?_modify found (fun _ _ => (congrArg Standing.fd kept).trans own)
  obtain ⟨_, _, _, dropped⟩ := drop_of_found .unanswerable there
  have same : sent.serial = client.serial := congrArg Standing.serial kept
  have gone : (((server.registry.modify fd (fun _ => sent)).note
      (.reply client.serial reply)).drop .unanswerable fd).journal =
        [Deed.dropped client.serial .unanswerable] ++
          .reply client.serial reply :: server.registry.journal := by
    rw [dropped, same]
    rfl
  -- Where there is an error the reply was queued before it, unless it could not be framed.
  rcases error with _ | _ | _ | error | _
  · exact ⟨[], rfl, List.forall_mem_nil _⟩
  · exact ⟨[], rfl, List.forall_mem_nil _⟩
  · exact ⟨_, gone, List.forall_mem_singleton.2 rfl⟩
  · exact absurd ⟨error, rfl⟩ framed
  · exact ⟨_, gone, List.forall_mem_singleton.2 rfl⟩

end Server

/-- A request to subscribe that was handled in full for the client with a serial number: the names were
added if there were any, and then the reply was queued. -/
def Handling.Grants (serial : Nat) (handling : Handling) : Prop :=
  ∃ dropped, handling.deeds = .finished handling.serial :: (dropped ++
      .reply serial ⟨handling.message.kind, Server.verdict handling.message.payload⟩ ::
        (Server.subscription? handling.message.payload).toList.map (Deed.subscribed serial)) ∧
    ∀ deed ∈ dropped, deed = .dropped serial .unanswerable

namespace Server

open Registry Relation

variable {server : Server} {fd serial : Nat} {client : Client} {message : Wire.Message}

theorem handleMessage_grants (found : server.registry.find? fd = some client) (serial : Nat)
    (subscription : message.IsSubscription) :
    ∃ deeds, Handling.Grants client.serial ⟨serial, message, deeds⟩ ∧
      handlings (server.handleMessage fd serial message).registry.journal =
        ⟨serial, message, deeds⟩ :: handlings server.registry.journal := by
  obtain ⟨_, _, own⟩ := find?_standing found
  have own : client.fd = fd := own
  subst own
  have there : (server.note (.request serial message)).registry.find? client.fd = some client := found
  have takes := dispatch_takes there subscription
  obtain ⟨taker, registered, same⟩ := takes.registered there
  have fits : (Wire.Message.mk message.kind (verdict message.payload)).payload.length ≤
      Wire.maxLength := length_verdict_le message.payload
  obtain ⟨dropped, journal, gone⟩ := journal_sendReply registered fits
  rw [same, takes.journal] at journal
  rw [same] at gone
  have handled : server.handleMessage client.fd serial message =
      (((server.note (.request serial message)).dispatch client.fd message).server.sendReply client.fd
        ⟨message.kind, verdict message.payload⟩).note (.finished serial) := by
    unfold handleMessage
    simp only [takes.calm, takes.reply, renderIf, Server.reply]
    rfl
  have whole : (server.handleMessage client.fd serial message).registry.journal =
      .finished serial :: ((dropped ++ .reply client.serial ⟨message.kind, verdict message.payload⟩ ::
        (subscription? message.payload).toList.map (Deed.subscribed client.serial)) ++
          .request serial message :: server.registry.journal) := by
    rw [handled, List.append_assoc]
    exact congrArg (Deed.finished serial :: ·) journal
  have grants : Handling.Grants client.serial ⟨serial, message, .finished serial ::
      (dropped ++ .reply client.serial ⟨message.kind, verdict message.payload⟩ ::
        (subscription? message.payload).toList.map (Deed.subscribed client.serial))⟩ :=
    ⟨dropped, rfl, gone⟩
  refine ⟨_, grants, ?_⟩
  rw [whole]
  refine handlings_of_finished (fun deed member => ?_)
  rcases List.mem_append.1 member with first | rest
  · rw [gone deed first]
    exact True.intro
  · rcases List.mem_cons.1 rest with rfl | last
    · exact True.intro
    · obtain ⟨events, _, rfl⟩ := List.mem_map.1 last
      exact True.intro

structure Granting (server : Server) : Prop where
  free : (phase server.registry.journal).isBusy = false
  grants : ∀ handling ∈ handlings server.registry.journal, handling.message.IsSubscription →
    ∃ serial, handling.Grants serial

theorem Granting.of_idle {after : Server} (granting : server.Granting)
    (idle : server.registry.Continues Deed.IsIdle after.registry) : after.Granting := by
  obtain ⟨same, free⟩ := idle.handlings_eq granting.free
  exact ⟨free, same ▸ granting.grants⟩

theorem Granting.handleMessage (granting : server.Granting)
    (registered : server.registry.contains fd = true) (serial : Nat) (message : Wire.Message) :
    (server.handleMessage fd serial message).Granting := by
  obtain ⟨client, found⟩ := Option.isSome_iff_exists.1 registered
  obtain ⟨_, deeds, _, handled, _⟩ := server.handleMessage_renders fd serial message
  refine ⟨rfl, fun handling member subscription => ?_⟩
  rw [handled] at member
  rcases List.mem_cons.1 member with rfl | before
  · obtain ⟨others, grants, handled'⟩ := handleMessage_grants found serial subscription
    rw [handled] at handled'
    have same := (List.cons.inj handled').1
    exact ⟨client.serial, same ▸ grants⟩
  · exact granting.grants handling before subscription

theorem Granting.steps {devices : Prop} {after : Server} (granting : server.Granting)
    (steps : ReflTransGen (Step devices) server after) : after.Granting := by
  induction steps with
  | refl => exact granting
  | tail _ step granting =>
    cases step with
    | between apart => exact granting.of_idle apart.idle
    | device _ idle => exact granting.of_idle idle
    | handle registered => exact granting.handleMessage registered _ _

theorem Granting.own {limit : Nat} (granting : server.Granting)
    (lawful : Lawful limit server.registry.journal) {handling : Handling}
    (handled : handling ∈ handlings server.registry.journal)
    (subscription : handling.message.IsSubscription) : handling.Grants handling.serial := by
  obtain ⟨serial, dropped, deeds, gone⟩ := granting.grants handling handled subscription
  have replied : Deed.reply serial ⟨handling.message.kind, verdict handling.message.payload⟩ ∈
      handling.deeds := by
    rw [deeds]
    exact List.mem_cons_of_mem _ (List.mem_append_right _ List.mem_cons_self)
  obtain ⟨later, past, split, about⟩ := about?_of_mem_deeds handled replied
  rw [split] at lawful
  cases (lawful.allowed nofun nofun).2 with
  | reply answering =>
    rw [answering] at about
    cases about
    exact ⟨dropped, deeds, gone⟩

end Server

namespace Registry

variable {registry after : Registry} {operation : Operation} {fd : Nat}

def Tidy (registry : Registry) : Prop :=
  ∀ client ∈ registry.clients, client.IsTidy

theorem Tidy.of_subset (tidy : registry.Tidy) (subset : after.clients ⊆ registry.clients) :
    after.Tidy :=
  fun client member => tidy client (subset member)

theorem Tidy.map (tidy : registry.Tidy) {change : Client → Client}
    (clients : after.clients = registry.clients.map change)
    (kept : ∀ client ∈ registry.clients, client.IsTidy → (change client).IsTidy) : after.Tidy := by
  intro client member
  rw [clients] at member
  obtain ⟨earlier, there, rfl⟩ := List.mem_map.1 member
  exact kept earlier there (tidy earlier there)

theorem Tidy.modify (tidy : registry.Tidy) {change : Client → Client}
    (kept : ∀ client ∈ registry.clients, client.IsTidy → (change client).IsTidy) :
    (registry.modify fd change).Tidy := by
  refine tidy.map rfl (fun client member own => ?_)
  split
  · exact kept client member own
  · exact own

theorem Tidy.drop (tidy : registry.Tidy) (cause : Cause) (fd : Nat) :
    (registry.drop cause fd).Tidy := by
  unfold Registry.drop
  split
  · exact tidy
  · exact tidy.of_subset List.eraseP_subset

theorem Tidy.dropAll (tidy : registry.Tidy) (cause : Cause) (fds : List Nat) :
    (fds.foldl (Registry.drop cause) registry).Tidy := by
  induction fds generalizing registry with
  | nil => exact tidy
  | cons fd fds ih => exact ih (tidy.drop cause fd)

theorem Tidy.send (tidy : registry.Tidy) (fd : Nat) (message : Wire.Message) :
    (registry.send fd message).1.Tidy := by
  unfold Registry.send
  split
  · exact tidy
  · rename_i client found
    obtain ⟨there, _⟩ := find?_standing found
    have kept := congrArg Standing.subscriptions (client.standing_queue message registry.maxBacklog)
    have sent : (registry.modify fd (fun _ => (client.queue message registry.maxBacklog).1)).Tidy :=
      tidy.modify (fun _ _ _ => (tidy client there).of_same kept)
    simp only
    split <;> exact sent

theorem Tidy.perform (tidy : registry.Tidy) : (registry.perform operation).Tidy := by
  cases operation with
  | register fd socket =>
    intro client member
    rcases List.mem_append.1 member with before | new
    · exact tidy client before
    · rw [List.mem_singleton.1 new]
      exact List.Pairwise.nil
  | drop cause fd => exact tidy.drop cause fd
  | subscribe fd events =>
    simp only [Registry.perform, Registry.subscribe]
    split
    · exact tidy
    · exact tidy.modify (fun client _ own => own.subscribe events)
  | makeRoom fd => exact tidy.modify (fun _ _ own => own)
  | receive fd bytes =>
    simp only [Registry.perform, Registry.receive]
    split
    · exact tidy
    · exact tidy.modify (fun _ _ own => own)
  | next fd =>
    simp only [Registry.perform, Registry.next]
    split
    · exact tidy
    · split
      · exact tidy.modify (fun _ _ own => own)
      · exact tidy
      · exact tidy.modify (fun _ _ own => own)
  | send fd message => exact tidy.send fd message
  | broadcast event =>
    refine Tidy.dropAll (tidy.map (List.map_map) (fun client _ own => own.of_same ?_)) .overflowed _
    exact congrArg Standing.subscriptions (standing_deliver registry.maxBacklog event client)
  | flush fd =>
    simp only [Registry.perform, Registry.flushClient]
    split
    · exact tidy
    · rename_i client found
      obtain ⟨there, _⟩ := find?_standing found
      exact tidy.modify (fun _ _ _ => tidy client there)
  | flushAll =>
    refine Tidy.dropAll (tidy.map List.map_map (fun client _ own => own.of_same ?_)) .writeFailed _
    rfl
  | shutdown => exact tidy.dropAll .closed _
  | note deed => exact tidy

theorem lasts_tidy : Lasts (fun _ => True) Tidy where
  perform := fun _ _ tidy _ => tidy.perform
  register := fun registry fd socket tidy _ _ => by
    have registered : (registry.perform (.register fd socket)).Tidy := tidy.perform
    exact registered
  reply := fun server fd reply tidy => by
    have sent := tidy.send fd reply
    unfold Server.sendReply
    split <;> rename_i result <;> rw [result] at sent
    · exact sent
    · exact sent
    · exact sent.drop .unanswerable fd

end Registry

namespace Server

open Registry Relation

theorem tidy_run (layout : Layout) (maxMessage maxBacklog : Nat) (socketPath : Option String)
    {turns : List Turn}
    (admitted : (start layout maxMessage maxBacklog socketPath).prepare.AdmitsAll turns) :
    ((start layout maxMessage maxBacklog socketPath).run turns).registry.Tidy := by
  have first : (start layout maxMessage maxBacklog socketPath).registry.Tidy := List.forall_mem_nil _
  have brings : ∀ turn ∈ turns, turn.wake.Brings (fun _ => True) := by
    intro turn _
    cases turn.wake with
    | accepted connections => exact fun _ _ => True.intro
    | _ => exact True.intro
  obtain ⟨before, tidy, last⟩ := lasts_tidy.run first admitted brings
  rw [last]
  have flushed : (before.registry.perform .flushAll).Tidy := tidy.perform
  exact flushed

/-- From the call of a client to the list that the server keeps: the names are sent as they are and read
as they were sent; a payload that is no JSON array of strings is refused and changes nothing; the list
grows by the first spellings of new names. In every run each request to subscribe is handled so, which
takes a client that is there, and no list has a name twice. -/
theorem subscriptions_exact :
    (∀ (connection : Connection) (events : List String),
      subscription? (stringsJson events).bytes = some events ∧
        (connection.subscribe events).1.sent =
          if (stringsJson events).bytes.length ≤ Wire.maxLength ∧ connection.writeFault = none then
            ⟨Wire.RequestKind.subscribe.code, (stringsJson events).bytes⟩ :: connection.sent
          else connection.sent) ∧
    (∀ (payload : Bytes) (events : List String),
      subscription? payload = some events ↔ Json.read? payload = some (stringsJson events)) ∧
    (∀ (server : Server) (fd : Nat) (client : Client) (message : Wire.Message),
      server.registry.find? fd = some client → message.IsSubscription →
        server.Takes client message.payload (server.dispatch fd message)) ∧
    (∀ (client : Client) (events : List String), client.Subscribes events (client.subscribe events)) ∧
    ∀ (layout : Layout) (maxMessage maxBacklog : Nat) (socketPath : Option String) (turns : List Turn),
      (start layout maxMessage maxBacklog socketPath).prepare.AdmitsAll turns →
        let served := (start layout maxMessage maxBacklog socketPath).run turns
        served.registry.Tidy ∧
          ∀ handling ∈ handlings served.registry.journal, handling.message.IsSubscription →
            handling.Grants handling.serial := by
  refine ⟨fun connection events => ⟨faithful_strings.read?_bytes events, ?_⟩,
    fun _ _ => subscription?_eq_some_iff, fun _ _ _ _ found subscription =>
      dispatch_takes found subscription, Client.subscribes, ?_⟩
  · rw [Connection.subscribe, Connection.requestJson_fst]
    exact connection.sent_request .subscribe _
  · intro layout maxMessage maxBacklog socketPath turns admitted served
    refine ⟨tidy_run layout maxMessage maxBacklog socketPath admitted, fun handling handled => ?_⟩
    have steps : ReflTransGen (Step True) _ served := run_steps _ (fun _ _ _ => True.intro)
    have granting : served.Granting := Granting.steps ⟨rfl, List.forall_mem_nil _⟩ steps
    have resting : served.registry.Resting maxMessage _ :=
      run_resting (resting_new maxMessage maxBacklog) admitted
    have lawful := resting.coherent.lawful
    exact granting.own lawful handled

def pleas : List Turn :=
  [⟨[], .accepted [(7, {})]⟩, asks (stringsJson ["Mode", "window", "mode"]).bytes,
    asks (Utf8.encodeString "[\"output\", 1]"), asks (stringsJson ["WINDOW", "größe"]).bytes]
where
  asks (payload : Bytes) : Turn :=
    ⟨[], .client 7 (.ready false (some (.bytes
      (Wire.frame ⟨Wire.RequestKind.subscribe.code, payload⟩))))⟩

theorem subscriptions_exact_of_pleas :
    (start bare 64 4096 none).prepare.AdmitsAll pleas ∧
      ((start bare 64 4096 none).run pleas).registry.Tidy ∧
      ∃ handling ∈ handlings ((start bare 64 4096 none).run pleas).registry.journal,
        handling.message.IsSubscription ∧ handling.Grants handling.serial ∧
        ∃ client, ((start bare 64 4096 none).run pleas).registry.find? 7 = some client ∧
          ((start bare 64 4096 none).run pleas).Takes client handling.message.payload
            (((start bare 64 4096 none).run pleas).dispatch 7 handling.message) := by
  obtain ⟨_, _, takes, _, runs⟩ := subscriptions_exact
  have admitted : (start bare 64 4096 none).prepare.AdmitsAll pleas :=
    ⟨⟨rfl, True.intro⟩, True.intro, True.intro, True.intro, True.intro⟩
  obtain ⟨tidy, grants⟩ := runs bare 64 4096 none pleas admitted
  have pleaded : (handlings ((start bare 64 4096 none).run pleas).registry.journal).any
      (fun handling => handling.message.kind == Wire.RequestKind.subscribe.code) = true := by
    decide +kernel
  have registered : ((start bare 64 4096 none).run pleas).registry.contains 7 = true := by
    decide +kernel
  obtain ⟨handling, handled, asked⟩ := List.any_eq_true.1 pleaded
  obtain ⟨client, found⟩ := Option.isSome_iff_exists.1 registered
  have subscription : handling.message.IsSubscription := beq_iff_eq.1 asked
  exact ⟨admitted, tidy, handling, handled, subscription, grants handling handled subscription,
    client, found, takes _ 7 client handling.message found subscription⟩

example : ((start bare 64 4096 none).run pleas).registry.clients.map Client.subscriptions =
    [["Mode", "window", "größe"]] := by
  decide +kernel

example : (handlings ((start bare 64 4096 none).run pleas).registry.journal).map (fun handling =>
    handling.deeds.contains (.reply 0 ⟨2, (SuccessReply.mk true).toJson.bytes⟩)) =
      [true, false, true] := by
  decide +kernel

end Server

end TileServer
